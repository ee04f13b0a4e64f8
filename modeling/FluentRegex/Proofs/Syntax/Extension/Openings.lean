import FluentRegex.Proofs.Syntax.Extension.Places
import FluentRegex.Proofs.Syntax.Group
import FluentRegex.Text.Fragment

/-!
# Reading openings where more text follows

A parenthesis opens a group in one of three ways (`Groups.Reads`), with nothing after it, with the
mark of a name and the name, or with `?:`; or it sets flags. Each of them can be told from the first
characters, so it is read in the same way where more text follows. Every name that is entered stands
in the pattern behind the mark of a name.
-/

namespace FluentRegex.Syntax

open Cursor

variable {c c' : Cursor} {g g' : Groups} {kind : GroupKind}

/-! ## Names -/

theorem groupNameChars_append {first : Bool} {pos : Nat} {cs name : List Char}
    (h : groupNameChars first pos cs = .ok name) (more : List Char) :
    groupNameChars first pos (cs ++ more) = .ok name := by
  induction cs generalizing first pos name with
  | nil => exact absurd h (by simp [groupNameChars])
  | cons d ds ih =>
    rw [groupNameChars] at h
    rw [List.cons_append, groupNameChars]
    split at h
    · next hend =>
      rw [if_pos hend]
      exact h
    · next hend =>
      rw [if_neg hend]
      split at h
      · next hchar =>
        rw [if_pos hchar]
        split at h
        · next hrest =>
          rw [ih hrest]
          exact h
        · exact absurd h (by simp)
      · exact absurd h (by simp)

/-- A name that was entered stands in the pattern. -/
theorem prefix_of_groupName {kind : GroupKind} (h : groupName g c = .ok ((kind, g'), c')) :
    ∃ name span, name.toList ++ ['>'] <+: c.rest ∧ g' = g.enter (some name) span := by
  obtain ⟨name, hname, -, -, -, rfl, -⟩ := groupName_eq_ok_iff.1 h
  refine ⟨String.ofList name, _, ?_, rfl⟩
  rw [String.toList_ofList]
  exact prefix_of_groupNameChars hname

theorem extends_groupName {kind : GroupKind} (h : groupName g c = .ok ((kind, g'), c')) :
    Extends (groupName g) c (kind, g') c' := by
  obtain ⟨name, hname, hne, hfree, hkind, hgroups, rfl⟩ := groupName_eq_ok_iff.1 h
  have hlen : name.length + 1 ≤ c.rest.length := by
    have := (prefix_of_groupNameChars hname).length_le
    rwa [List.length_append] at this
  exact ⟨later_advanceBy c _, .of_extend fun more _ => groupName_eq_ok_iff.2 ⟨name,
    groupNameChars_append hname more, hne, hfree, hkind, hgroups, (advanceBy_extend hlen).symm⟩⟩

/-! ## Flags -/

/-- Nowhere in a text does a flag, or the sign that switches flags off, follow `(?`. -/
def FreeOfFlags (text : List Char) : Prop :=
  ∀ d, (Flag.ofLetter? d).isSome = true ∨ d = '-' → ¬ ['(', '?', d] <:+: text

theorem freeOfFlags_iff {text : List Char} : FreeOfFlags text ↔
    (['-', 'i', 'm', 's', 'U', 'u', 'R', 'x'].all fun d => !Text.occursIn ['(', '?', d] text) =
      true := by
  simp only [List.all_eq_true, Bool.not_eq_true', ← Bool.not_eq_true, Text.occursIn_iff]
  refine forall_congr' fun d => imp_congr_left ?_
  unfold Flag.ofLetter?
  split <;> simp_all

instance (text : List Char) : Decidable (FreeOfFlags text) := decidable_of_iff' _ freeOfFlags_iff

theorem FreeOfFlags.suffix {text rest : List Char} (h : FreeOfFlags text) (hrest : rest <:+ text) :
    FreeOfFlags rest :=
  fun d hd hin => h d hd (hin.trans hrest.isInfix)

/-- The flags that were read come before what ends them. -/
theorem flagItems_append {pos : Nat} {cs : List Char} {read items : List (FlagItem × Span)}
    (h : flagItems pos cs read = .ok items) (more : List Char) :
    flagItems pos (cs ++ more) read = .ok items ∧
      ∃ n, items.length = read.length + n ∧ n < cs.length := by
  induction cs generalizing pos read with
  | nil => exact absurd h (by simp [flagItems])
  | cons d ds ih =>
    have hmore : ∀ {item : FlagItem × Span},
        flagItems (pos + 1) ds (item :: read) = .ok items →
        flagItems (pos + 1) (ds ++ more) (item :: read) = .ok items ∧
          ∃ n, items.length = read.length + n ∧ n < (d :: ds).length := by
      intro item h
      obtain ⟨hagain, n, hn, hlt⟩ := ih h
      refine ⟨hagain, n + 1, ?_, Nat.succ_lt_succ hlt⟩
      rw [hn, List.length_cons]
      omega
    have hnone : ∀ {r : List (FlagItem × Span)}, r.length = read.length →
        ∃ n, r.length = read.length + n ∧ n < (d :: ds).length :=
      fun hr => ⟨0, hr, Nat.succ_pos _⟩
    rw [List.cons_append]
    unfold flagItems at h ⊢
    dsimp only at h ⊢
    split at h
    · next hend =>
      rw [if_pos hend]
      split at h
      · exact absurd h (by simp)
      · obtain rfl := Except.ok.inj h
        exact ⟨rfl, hnone List.length_reverse⟩
    · next hend =>
      rw [if_neg hend]
      split at h
      · next hminus =>
        rw [if_pos hminus]
        split at h
        · exact absurd h (by simp)
        · exact hmore h
      · next hminus =>
        rw [if_neg hminus]
        split at h
        · exact absurd h (by simp)
        · split at h
          · exact absurd h (by simp)
          · exact hmore h

theorem extends_flagOpening {openAt : Nat} {o : Opening}
    (h : flagOpening openAt g c = .ok ((o, g'), c')) :
    Extends (flagOpening openAt g) c (o, g') c' := by
  rw [flagOpening] at h
  split at h
  · exact absurd h (by simp)
  · next hend =>
    have hend : c.atEnd = false := Bool.eq_false_iff.2 hend
    split at h
    · exact absurd h (by simp)
    · next items hitems =>
      obtain ⟨-, n, hn, hlt⟩ := flagItems_append hitems []
      rw [List.length_nil, Nat.zero_add] at hn
      have hstop : (c.advanceBy items.length).atEnd = false := by
        rw [atEnd, advanceBy, hn, List.isEmpty_eq_false_iff]
        exact List.ne_nil_of_length_pos (by rw [List.length_drop]; omega)
      have hlater := (later_advanceBy c items.length).trans (later_advanceBy _ 1)
      have hagain : ∀ more, flagItems c.pos (c.extend more).rest [] = .ok items :=
        fun more => (flagItems_append hitems more).1
      have hadvance : ∀ more, (c.extend more).advanceBy items.length =
          (c.advanceBy items.length).extend more := fun more => advanceBy_extend (by omega)
      rw [extends_iff]
      simp only [flagOpening, atEnd_extend hend, if_neg Bool.false_ne_true, hagain, hadvance,
        peek?_extend_of_atEnd hstop, advance_extend hstop, pos_extend]
      dsimp only at h
      split at h
      · next hclose =>
        simp only [if_pos hclose]
        split at h
        · exact absurd h (by simp)
        · next hne =>
          obtain ⟨hboth, rfl⟩ := Prod.mk.inj (Except.ok.inj h)
          obtain ⟨rfl, rfl⟩ := Prod.mk.inj hboth
          simp only [if_neg hne]
          exact ⟨hlater, .of_extend fun more _ => rfl⟩
      · next hclose =>
        obtain ⟨hboth, rfl⟩ := Prod.mk.inj (Except.ok.inj h)
        obtain ⟨rfl, rfl⟩ := Prod.mk.inj hboth
        simp only [if_neg hclose]
        exact ⟨hlater, .of_extend fun more _ => rfl⟩

/-- What sets flags goes on with a flag, the sign that switches flags off, or a colon. -/
theorem peek?_of_flagOpening {openAt : Nat} {r : (Opening × Groups) × Cursor}
    (h : flagOpening openAt g c = .ok r) :
    ∃ d, c.peek? = some d ∧ (d = ':' ∨ d = '-' ∨ (Flag.ofLetter? d).isSome = true) := by
  have hstop : c.advanceBy ([] : List (FlagItem × Span)).length = c := rfl
  rw [flagOpening] at h
  split at h
  · exact absurd h (by simp)
  · next hend =>
    obtain ⟨d, hd⟩ := exists_peek? (Bool.eq_false_iff.2 hend)
    refine ⟨d, hd, ?_⟩
    by_cases hclose : d = ')'
    · rw [hclose] at hd
      rw [flagItems_of_peek? (.inr rfl) hd] at h
      dsimp only at h
      rw [hstop, hd, if_pos rfl] at h
      exact absurd h (by simp)
    · refine or_iff_not_imp_left.2 fun hcolon => or_iff_not_imp_left.2 fun hminus => ?_
      refine Option.isSome_iff_ne_none.2 fun hletter => ?_
      rw [peek?, List.head?_eq_some_iff] at hd
      obtain ⟨ds, hrest⟩ := hd
      rw [hrest] at h
      simp [flagItems, hcolon, hclose, hminus, hletter] at h

/-! ## Openings -/

/-- A parenthesis sets no flags, or it does. -/
theorem groupOpening_cases {o : Opening} (h : groupOpening g c = .ok ((o, g'), c')) :
    (∃ kind, o = .group kind ∧ g.Reads c kind g' c') ∨
      ∃ body, c.next.accept? ['?'] = some body ∧
        flagOpening c.pos g body = .ok ((o, g'), c') := by
  have hnamed : ∀ {mark : List Char} {body c' : Cursor} {kind : GroupKind} {g' : Groups},
      mark = ['?', 'P', '<'] ∨ mark = ['?', '<'] → c.next.accept? mark = some body →
      groupName g body = .ok ((kind, g'), c') → g.Reads c kind g' c' := by
    intro mark body c' kind g' hmark hbody hname
    obtain ⟨name, -, -, -, rfl, -, -⟩ := groupName_eq_ok_iff.1 hname
    exact .named hmark hbody hname
  rw [groupOpening] at h
  dsimp only at h
  split at h
  · exact absurd h (by simp)
  · split at h
    · next body hbody =>
      split at h
      · next hname =>
        obtain ⟨hboth, rfl⟩ := Prod.mk.inj (Except.ok.inj h)
        obtain ⟨rfl, rfl⟩ := Prod.mk.inj hboth
        exact .inl ⟨_, rfl, hnamed (.inl rfl) hbody hname⟩
      · exact absurd h (by simp)
    · next body _ hbody =>
      split at h
      · next hname =>
        obtain ⟨hboth, rfl⟩ := Prod.mk.inj (Except.ok.inj h)
        obtain ⟨rfl, rfl⟩ := Prod.mk.inj hboth
        exact .inl ⟨_, rfl, hnamed (.inr rfl) hbody hname⟩
      · exact absurd h (by simp)
    · next body _ _ hbody => exact .inr ⟨body, hbody, h⟩
    · next _ _ hnone =>
      obtain ⟨hboth, rfl⟩ := Prod.mk.inj (Except.ok.inj h)
      obtain ⟨rfl, rfl⟩ := Prod.mk.inj hboth
      refine .inl ⟨_, rfl, .capture fun hq => ?_⟩
      rw [accept?_singleton hq] at hnone
      exact absurd hnone (by simp)

/-- What sets flags is neither the mark of a name nor a look-around. -/
theorem groupOpening_of_flagOpening {body : Cursor} {r : (Opening × Groups) × Cursor}
    (hbody : c.next.accept? ['?'] = some body) (h : flagOpening c.pos g body = .ok r) :
    groupOpening g c = .ok r := by
  obtain ⟨d, hd, hflag⟩ := peek?_of_flagOpening h
  have hq : c.next.peek? = some '?' := peek?_of_accept? hbody
  obtain rfl : c.next.advance = body := by
    rw [accept?_singleton hq] at hbody
    exact Option.some.inj hbody
  have hrefuse : ∀ {x : Char} {t : List Char}, x = '=' ∨ x = '!' ∨ x = '<' ∨ x = 'P' →
      c.next.accept? ('?' :: x :: t) = none := by
    intro x t hx
    rw [accept?_cons hq]
    refine accept?_eq_none fun hpeek => ?_
    obtain rfl : d = x := Option.some.inj (hd.symm.trans hpeek)
    rcases hx with rfl | rfl | rfl | rfl <;> exact absurd hflag (by decide)
  rw [groupOpening]
  simp only [List.findSome?_cons, List.findSome?_nil, hrefuse, hbody, true_or, or_true]
  exact h

/-- An opening is read in the same way where more text follows. -/
theorem advances_groupOpening {o : Opening} (hend : c.atEnd = false)
    (h : groupOpening g c = .ok ((o, g'), c')) :
    Advances (groupOpening g) c (o, g') c' := by
  have hfirst : c.advance.Later c.next := later_skipBlanks c.advance
  have hsecond : ∀ {text : List Char} {body : Cursor}, c.next.accept? ('?' :: text) = some body →
      ∀ more, (c.extend more).next = c.next.extend more := fun hbody more =>
    next_extend hend (atEnd_of_peek? (peek?_of_accept? hbody))
  rcases groupOpening_cases h with ⟨kind, rfl, hreads⟩ | ⟨body, hbody, hflags⟩
  · cases hreads with
    | capture hpeek =>
      obtain ⟨swallowed, hswallowed, hbecomes⟩ := becomes_next hend
      refine ⟨hfirst, swallowed, hswallowed, fun more hmore => ?_⟩
      have hnext : (c.extend more).next = c.next.onto swallowed more := hbecomes more hmore
      have hpeek' := peek?_onto_ne hswallowed ((later_next c).mode.symm ▸ hmore) hpeek
      show groupOpening g (c.extend more) = _
      rw [← hnext] at hpeek' ⊢
      exact groupOpening_of_reads (.capture hpeek')
    | named hmark hbody hname =>
      have hlater := later_accept hbody
      have hread := extends_groupName hname
      refine ⟨hfirst.trans (hlater.trans hread.later),
        (hread.becomes ((later_next c).trans hlater)).imp fun more x _ hx => ?_⟩
      refine groupOpening_of_reads (.named hmark ?_ hx)
      have hnext : (c.extend more).next = c.next.extend more := by
        rcases hmark with rfl | rfl
        · exact hsecond hbody more
        · exact hsecond hbody more
      rw [hnext]
      exact accept?_extend more hbody
    | plain hbody =>
      refine ⟨hfirst.trans (later_accept hbody), .of_extend fun more _ => ?_⟩
      refine groupOpening_of_reads (.plain ?_)
      rw [hsecond hbody]
      exact accept?_extend more hbody
  · have hlater := later_accept hbody
    have hread := extends_flagOpening hflags
    refine ⟨hfirst.trans (hlater.trans hread.later),
      (hread.becomes ((later_next c).trans hlater)).imp fun more x _ hx => ?_⟩
    refine groupOpening_of_flagOpening ?_ hx
    rw [hsecond hbody]
    exact accept?_extend more hbody

/-! ## Openings without flags -/

/-- Without flags there is no other way. -/
theorem reads_of_groupOpening {o : Opening} (hpeek : c.peek? = some '(')
    (hc : c.verbose = false) (hfree : FreeOfFlags c.rest)
    (h : groupOpening g c = .ok ((o, g'), c')) :
    ∃ kind, o = .group kind ∧ g.Reads c kind g' c' := by
  rcases groupOpening_cases h with hreads | ⟨body, hbody, hflags⟩
  · exact hreads
  · obtain ⟨d, hd, hflag⟩ := peek?_of_flagOpening hflags
    have hopening : c.accept? ['(', '?', d] = some body.advance := by
      rw [accept?_cons hpeek, ← next_eq hc, show ['?', d] = ['?'] ++ [d] from rfl,
        accept?_append, hbody, Option.bind_some, accept?_singleton hd]
    have hin := (accept?_eq_some_iff.1 hopening).1.isInfix
    obtain rfl : d = ':' := by
      rcases hflag with hcolon | hminus | hletter
      · exact hcolon
      · exact absurd hin (hfree d (.inr hminus))
      · exact absurd hin (hfree d (.inl hletter))
    rw [flagOpening_of_colon hd] at hflags
    obtain ⟨hboth, rfl⟩ := Prod.mk.inj (Except.ok.inj hflags)
    obtain ⟨rfl, rfl⟩ := Prod.mk.inj hboth
    refine ⟨_, rfl, .plain ?_⟩
    have happend := accept?_append c.next ['?'] [':']
    rw [hbody, Option.bind_some, accept?_singleton hd] at happend
    exact happend

/-- A name that was entered stands behind its mark at the parenthesis. -/
theorem Groups.Reads.names (hpeek : c.peek? = some '(') (hc : c.verbose = false)
    (h : g.Reads c kind g' c') {n : String} (hn : n ∈ g'.names.map Prod.fst) :
    n ∈ g.names.map Prod.fst ∨ '(' :: '?' :: 'P' :: '<' :: (n.toList ++ ['>']) <+: c.rest ∨
      '(' :: '?' :: '<' :: (n.toList ++ ['>']) <+: c.rest := by
  cases h with
  | capture h => exact .inl hn
  | @named mark _ _ _ body _ hmark hbody hname =>
    obtain ⟨name, span, hpre, rfl⟩ := prefix_of_groupName hname
    rcases Groups.mem_enter.1 hn with hn | hn
    · exact .inl hn
    · obtain rfl := Option.some.inj hn
      have hall : c.accept? (['('] ++ (mark ++ (n.toList ++ ['>']))) =
          some (body.advanceBy (n.toList ++ ['>']).length) := by
        rw [accept?_append, accept?_singleton hpeek, Option.bind_some, ← next_eq hc,
          accept?_append, hbody, Option.bind_some, accept?_eq_some_iff.2 ⟨hpre, rfl⟩]
      have hpre := (accept?_eq_some_iff.1 hall).1
      rcases hmark with rfl | rfl
      · exact .inr (.inl hpre)
      · exact .inr (.inr hpre)
  | plain h => exact .inl hn

/-- Without flags a parenthesis opens a group. -/
theorem Progress.reads_of_openGroup {p q : Progress} (hpeek : p.cursor.peek? = some '(')
    (hp : p.cursor.verbose = false) (hfree : FreeOfFlags p.cursor.rest) (h : p.openGroup = .ok q) :
    ∃ kind g c, p.groups.Reads p.cursor kind g c ∧ q = p.within kind g c := by
  have hwhole := h
  rw [openGroup] at h
  split at h
  · exact absurd h (by simp)
  · next items groups c hopening =>
    obtain ⟨kind, hkind, -⟩ := reads_of_groupOpening hpeek hp hfree hopening
    exact absurd hkind (by simp)
  · next kind groups c hopening =>
    obtain ⟨kind', -, hreads⟩ := reads_of_groupOpening hpeek hp hfree hopening
    rw [openGroup_of_reads hreads] at hwhole
    exact ⟨kind', groups, c, hreads, (Except.ok.inj hwhole).symm⟩

end FluentRegex.Syntax
