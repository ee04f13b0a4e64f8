import FluentRegex.Proofs.Expr.KeptGroups
import FluentRegex.Proofs.Syntax.Class
import FluentRegex.Proofs.Syntax.Extension.Steps
import FluentRegex.Proofs.Syntax.Numbering
import FluentRegex.Proofs.Syntax.Repetition

/-!
# Escaped text in parentheses

Between its parentheses a capturing call writes text that is `Enclosed`: parentheses, bars, question
marks and number signs have a backslash before them. Whatever the mode, such text is read up to the
closing parenthesis without a group being opened or closed (`run_enclosed`), though in verbose mode
the blanks in it are lost. An escape, a class and a count each end with a character that is no
backslash, so what comes next does not begin with an escaped character.

> `run_captured`: what is read from the opening parenthesis on leaves one more group behind, with
> the number that comes next and the name that is asked for.
-/

namespace FluentRegex.Syntax

open Cursor

/-! ## The text -/

/-- What opens, closes or divides groups, what goes on with an opening or a repetition, what begins
a comment, and the backslash itself. -/
def groupSigns : List Char := ['\\', '(', ')', '|', '?', '#']

/-- Escaped text up to a closing parenthesis, behind which there is a given text. -/
inductive Enclosed (tail : List Char) : List Char → Prop
  | close : Enclosed tail (')' :: tail)
  | pair {d : Char} {ds : List Char} (hd : isEscapable d = true ∨ d = 'w' ∨ d = 'd')
    (h : Enclosed tail ds) : Enclosed tail ('\\' :: d :: ds)
  | bare {d : Char} {ds : List Char} (hd : d ∉ groupSigns)
    (h : Enclosed tail ds) : Enclosed tail (d :: ds)

/-- What may follow the parenthesis: nothing that ends a class, a count or a comment. -/
def Ends (tail : List Char) : Prop := tail = [] ∨ tail = ['?']

theorem Ends.not_mem {tail : List Char} (h : Ends tail) {d : Char} (hd : d ≠ '?') : d ∉ tail := by
  rcases h with rfl | rfl
  · exact List.not_mem_nil
  · rwa [List.mem_singleton]

namespace Enclosed

variable {tail cs ds : List Char} {d : Char}

theorem escapeChars (h : Enclosed tail cs) (delimiter : Char) (text : List Char) :
    Enclosed tail (FluentRegex.escapeChars delimiter text ++ cs) := by
  induction text with
  | nil => exact h
  | cons e es ih =>
    rw [FluentRegex.escapeChars]
    split
    · next hescaped => exact .pair (.inl (isEscapable_of_needsEscape hescaped)) ih
    · next hescaped =>
      refine .bare (fun hmem => hescaped ?_) ih
      have hmeta := List.all_eq_true.1 (show groupSigns.all isMeta = true by decide)
      rw [needsEscape, hmeta e hmem, Bool.true_or]

theorem head?_ne (h : Enclosed tail cs) : cs.head? ≠ some '?' := by
  cases h with
  | close => simp
  | pair hd h => simp
  | @bare d ds hd h =>
    intro hhead
    obtain rfl := Option.some.inj hhead
    exact hd (by decide)

theorem eq_close (h : Enclosed tail cs) (hhead : cs.head? = some ')') : cs = ')' :: tail := by
  cases h with
  | close => rfl
  | pair hd h => exact absurd hhead (by simp)
  | @bare d ds hd h =>
    obtain rfl := Option.some.inj hhead
    exact absurd (by decide) hd

/-- Behind what ends a class, a count or a comment another piece begins. -/
theorem suffix (h : Enclosed tail cs) (htail : Ends tail) (hsuffix : d :: ds <:+ cs)
    (hd : d = ']' ∨ d = '\x7d' ∨ d = '\n') : Enclosed tail ds := by
  obtain ⟨hslash, hclose, hquestion⟩ : d ≠ '\\' ∧ d ≠ ')' ∧ d ≠ '?' := by
    rcases hd with rfl | rfl | rfl <;> decide
  have htail := htail.not_mem hquestion
  induction h with
  | close =>
    rcases List.suffix_cons_iff.1 hsuffix with heq | hsuffix
    · exact absurd (List.cons.inj heq).1 hclose
    · exact absurd (hsuffix.subset List.mem_cons_self) htail
  | @pair e es he h ih =>
    rcases List.suffix_cons_iff.1 hsuffix with heq | hsuffix
    · exact absurd (List.cons.inj heq).1 hslash
    · rcases List.suffix_cons_iff.1 hsuffix with heq | hsuffix
      · exact (List.cons.inj heq).2 ▸ h
      · exact ih hsuffix
  | @bare e es he h ih =>
    rcases List.suffix_cons_iff.1 hsuffix with heq | hsuffix
    · exact (List.cons.inj heq).2 ▸ h
    · exact ih hsuffix

theorem skipFrom (h : Enclosed tail cs) (pos : Nat) :
    Enclosed tail (Cursor.skipFrom false pos cs).2 := by
  have hstays : ∀ {d : Char} (ds : List Char) (pos : Nat), isBlank d = false → d ≠ '#' →
      Cursor.skipFrom false pos (d :: ds) = (pos, d :: ds) := by
    intro d ds pos hblank hsign
    rw [Cursor.skipFrom, hblank, if_neg Bool.false_ne_true, if_neg hsign]
  induction h generalizing pos with
  | close =>
    rw [hstays _ _ (isBlank_eq_false (by decide) (by decide)) (by decide)]
    exact .close
  | pair hd h ih =>
    rw [hstays _ _ (isBlank_eq_false (by decide) (by decide)) (by decide)]
    exact .pair hd h
  | @bare d ds hd h ih =>
    cases hblank : isBlank d with
    | true =>
      rw [Cursor.skipFrom, if_pos hblank]
      exact ih _
    | false =>
      rw [hstays _ _ hblank (fun hsign => hd (by rw [hsign]; decide))]
      exact .bare hd h

theorem skipBlanks {c : Cursor} (h : Enclosed tail c.rest) : Enclosed tail c.skipBlanks.rest := by
  rw [Cursor.skipBlanks]
  split
  · exact h.skipFrom _
  · exact h

/-- If a comment ends in escaped text, it is followed by escaped text. -/
theorem behind (h : Enclosed tail cs) (htail : Ends tail) :
    Syntax.behind cs = [] ∨ Enclosed tail (Syntax.behind cs) := by
  rcases behind_cases cs with hnil | ⟨ds, hsuffix, hbehind⟩
  · exact .inl hnil
  · rw [hbehind]
    exact .inr ((h.suffix htail hsuffix (.inr (.inr rfl))).skipFrom 0)

end Enclosed

/-! ## Steps -/

section

variable {tail ds : List Char} {d : Char} {c c' : Cursor}

/-- A parenthesis or a question mark at the beginning of a text is not skipped. -/
theorem solid_cons (hd : d = '(' ∨ d = ')' ∨ d = '?') (ds : List Char) :
    ∀ e ∈ (d :: ds).head?, isBlank e = false ∧ e ≠ '#' := by
  intro e he
  obtain rfl : d = e := Option.some.inj he
  obtain ⟨hlow, hhigh, hsign⟩ : 0x20 < d.toNat ∧ d.toNat < 0x80 ∧ d ≠ '#' := by
    rcases hd with rfl | rfl | rfl <;> decide
  exact ⟨isBlank_eq_false hlow hhigh, hsign⟩

theorem exists_openingText (asked : Option String) : ∃ ds, openingText asked = '(' :: ds := by
  cases asked with
  | none => exact ⟨_, rfl⟩
  | some n => exact ⟨_, rfl⟩

theorem advance_rest (h : c.rest = d :: ds) : c.advance.rest = ds := by
  rw [advance, advanceBy, h]
  rfl

theorem Enclosed.peek?_ne (h : Enclosed tail c.rest) : c.peek? ≠ some '?' := h.head?_ne

theorem enclosed_simpleQuantifier {min : Nat} {max : Option Nat} {q : Quantifier}
    (hc : Enclosed tail c.advance.rest) (h : simpleQuantifier c min max = (q, c')) :
    Enclosed tail c'.rest := by
  rw [simpleQuantifier] at h
  rw [if_neg hc.peek?_ne] at h
  exact (Prod.mk.inj h).2 ▸ hc

theorem enclosed_countedQuantifier {q : Quantifier} (htail : Ends tail) (hc : Enclosed tail c.rest)
    (h : countedQuantifier c = .ok (q, c')) : Enclosed tail c'.rest := by
  obtain ⟨place, hlater, hclose, rfl⟩ := exists_close_of_countedQuantifier h
  have hafter : Enclosed tail place.advance.rest := by
    refine hc.suffix htail ?_ (.inr (.inl rfl))
    rw [cons_advance hclose]
    exact hlater.suffix
  have hnext : Enclosed tail place.next.rest := hafter.skipBlanks
  rwa [if_neg hnext.peek?_ne]

theorem enclosed_bracketClass {t : Tree} (hend : c.atEnd = false) (htail : Ends tail)
    (hc : Enclosed tail c.rest) (h : bracketClass c = .ok (t, c')) : Enclosed tail c'.rest :=
  hc.suffix htail (suffix_of_bracketClass hend h) (.inl rfl)

theorem enclosed_escapeSequence {a : Atom} (hd : isEscapable d = true ∨ d = 'w' ∨ d = 'd')
    (hc : c.rest = '\\' :: d :: ds) (h : escapeSequence c = .ok (a, c')) : c'.rest = ds := by
  have hpeek : c.advance.peek? = some d := by
    rw [peek?, advance_rest hc]
    rfl
  have hplace : ∃ a, escapeSequence c = .ok (a, c.advance.advance) := by
    rcases hd with hd | rfl | rfl
    · exact ⟨_, escapeSequence_of_isEscapable hpeek hd⟩
    · exact ⟨_, escapeSequence_shorthand rfl hpeek⟩
    · exact ⟨_, escapeSequence_shorthand rfl hpeek⟩
  obtain ⟨a', ha'⟩ := hplace
  obtain rfl := (Prod.mk.inj (Except.ok.inj (h.symm.trans ha'))).2
  exact advance_rest (advance_rest hc)

end

namespace Progress

variable {p q : Progress} {tail : List Char}

/-- A step that opens and closes no group, up to a place in escaped text. -/
structure Passes (tail : List Char) (p q : Progress) : Prop where
  enclosed : Enclosed tail q.cursor.rest
  opened : q.opened = p.opened
  groups : q.groups = p.groups

theorem passes_quantify {r : Reading Quantifier}
    (hr : ∀ x c, r = .ok (x, c) → Enclosed tail c.rest) (h : p.quantify r = .ok q) :
    p.Passes tail q := by
  rw [quantify] at h
  split at h
  · exact absurd h (by simp)
  · exact absurd h (by simp)
  · exact absurd h (by simp)
  · split at h
    · exact absurd h (by simp)
    · obtain rfl := Except.ok.inj h
      exact ⟨hr _ _ rfl, rfl, rfl⟩

/-- Nothing but the closing parenthesis opens or closes a group. -/
theorem passes_of_step {d : Char} (htail : Ends tail) (hp : Enclosed tail p.cursor.rest)
    (hpeek : p.cursor.peek? = some d) (hd : d ≠ ')') (h : p.step d = .ok q) : p.Passes tail q := by
  have hend := atEnd_of_peek? hpeek
  generalize hrest : p.cursor.rest = cs at hp
  rw [peek?, hrest] at hpeek
  cases hp with
  | close => exact absurd (Option.some.inj hpeek).symm hd
  | pair he hds =>
    obtain rfl := Option.some.inj hpeek
    rw [step] at h
    split at h
    · exact absurd h (by simp)
    · next hescape =>
      obtain rfl := Except.ok.inj h
      exact ⟨(enclosed_escapeSequence he hrest hescape).symm ▸ hds, rfl, rfl⟩
  | @bare e ds he hds =>
    obtain rfl : e = d := Option.some.inj hpeek
    have hafter : Enclosed tail p.cursor.advance.rest := (advance_rest hrest).symm ▸ hds
    have hsimple : ∀ min max x c, (Except.ok (simpleQuantifier p.cursor min max) :
        Reading Quantifier) = .ok (x, c) → Enclosed tail c.rest :=
      fun min max x c hx => enclosed_simpleQuantifier hafter (Except.ok.inj hx)
    have hp : Enclosed tail p.cursor.rest := hrest.symm ▸ .bare he hds
    unfold step at h
    dsimp only at h
    split at h
    · exact absurd (by decide) he
    · exact absurd (by decide) he
    · exact absurd (by decide) he
    · split at h
      · exact absurd h (by simp)
      · next hclass =>
        obtain rfl := Except.ok.inj h
        exact ⟨enclosed_bracketClass hend htail hp hclass, rfl, rfl⟩
    · exact absurd (by decide) he
    · exact passes_quantify (hsimple 0 none) h
    · exact passes_quantify (hsimple 1 none) h
    · exact passes_quantify (fun x c hcount => enclosed_countedQuantifier htail hp hcount) h
    · exact absurd (by decide) he
    all_goals
      obtain rfl := Except.ok.inj h
      exact ⟨hafter, rfl, rfl⟩

/-! ## Whole groups -/

/-- Escaped text is read up to the closing parenthesis. -/
theorem run_enclosed {fuel : Nat} (htail : Ends tail) (hp : Enclosed tail p.cursor.rest)
    (hfuel : p.cursor.rest.length < fuel) (h : run fuel p = .ok q) :
    ∃ left r, tail.length < left ∧ run (left + 1) r = .ok q ∧ r.cursor.rest = ')' :: tail ∧
      r.opened = p.opened ∧ r.groups = p.groups := by
  induction fuel generalizing p with
  | zero => exact absurd hfuel (Nat.not_lt_zero _)
  | succ fuel ih =>
    have hskip := hp.skipBlanks
    have hlen := (later_skipBlanks p.cursor).suffix.length_le
    have hwhole := h
    rw [run_skipBlanks] at hwhole
    rw [run] at h
    dsimp only at h
    split at h
    · next hpeek =>
      rw [peek?, List.head?_eq_none_iff] at hpeek
      rw [hpeek] at hskip
      cases hskip
    · next d hpeek =>
      by_cases hd : d = ')'
      · have hrest : p.cursor.skipBlanks.rest = ')' :: tail := hskip.eq_close (hd ▸ hpeek)
        rw [hrest, List.length_cons] at hlen
        exact ⟨fuel, { p with cursor := p.cursor.skipBlanks }, by omega, hwhole, hrest, rfl, rfl⟩
      · split at h
        · exact absurd h (by simp)
        · next p' hstep =>
          obtain ⟨henclosed, hopened, hgroups⟩ := passes_of_step htail hskip hpeek hd hstep
          have hlt := length_lt_of_step hpeek hstep
          obtain ⟨left, r, hleft, hrun, hrest, hropened, hrgroups⟩ := ih henclosed (by omega) h
          exact ⟨left, r, hleft, hrun, hrest, hropened.trans hopened, hrgroups.trans hgroups⟩

/-- A group of a kind, or one that may be left out. -/
inductive IsGroup (kind : GroupKind) : Tree → Prop
  | group (span : Span) (body : Tree) : IsGroup kind (.group span kind body)
  | optional (outer span : Span) (lazily : Bool) (body : Tree) :
    IsGroup kind (.repetition outer 0 (some 1) lazily (.group span kind body))

/-- A closed group is the latest item of what was read before it. -/
structure Closes (g : OpenGroup) (opened : List OpenGroup) (p q : Progress) : Prop where
  opened : q.opened = opened
  groups : q.groups = p.groups
  branches : q.level.branches = g.before.branches
  items : ∃ t, q.level.items = t :: g.before.items ∧ IsGroup g.kind t

/-- A run begins with a step at the first character, if that is not skipped. -/
theorem step_of_run {fuel : Nat} {d : Char} {ds : List Char} (hrest : p.cursor.rest = d :: ds)
    (hd : d = '(' ∨ d = ')' ∨ d = '?') (h : run (fuel + 1) p = .ok q) :
    ∃ r, p.step d = .ok r ∧ run fuel r = .ok q ∧ r.cursor.rest.length < p.cursor.rest.length := by
  have hskip : p.cursor.skipBlanks = p.cursor := by
    refine skipBlanks_of_head ?_
    rw [hrest]
    exact solid_cons hd ds
  have hpeek : p.cursor.skipBlanks.peek? = some d := by
    rw [hskip, peek?, hrest]
    rfl
  rw [run] at h
  dsimp only at h
  rw [hpeek] at h
  dsimp only at h
  split at h
  · exact absurd h (by simp)
  · next r hstep =>
    have hlt := length_lt_of_step hpeek hstep
    rw [hskip] at hstep
    exact ⟨r, hstep, h, hlt⟩

theorem eq_of_run {fuel : Nat} (h : run fuel p = .ok q) (hrest : p.cursor.rest = []) :
    q = { p with cursor := q.cursor } := by
  obtain ⟨c, hc, -⟩ := run_of_rest_nil hrest fuel
  obtain rfl := Except.ok.inj (h.symm.trans hc)
  rfl

theorem closeGroup_of_opened {g : OpenGroup} {opened : List OpenGroup}
    (h : p.opened = g :: opened) : ∃ place span body, place.rest = p.cursor.advance.rest ∧
      p.closeGroup = .ok { p with
        cursor := place, level := g.before.push (.group span g.kind body), opened := opened } := by
  rw [closeGroup, h]
  exact ⟨{ p.cursor.advance with verbose := g.verbose }, _, _, rfl, rfl⟩

/-- From the closing parenthesis on nothing is read but the end of the group. -/
theorem run_close {left : Nat} {g : OpenGroup} {opened : List OpenGroup} (htail : Ends tail)
    (hleft : tail.length < left) (hrest : p.cursor.rest = ')' :: tail)
    (hopened : p.opened = g :: opened) (h : run (left + 1) p = .ok q) : Closes g opened p q := by
  obtain ⟨r, hstep, hrun, -⟩ := step_of_run hrest (.inr (.inl rfl)) h
  obtain ⟨place, span, body, hplace, hclosed⟩ := closeGroup_of_opened hopened
  obtain rfl := Except.ok.inj (hstep.symm.trans hclosed)
  have hafter : place.rest = tail := hplace.trans (advance_rest hrest)
  rcases htail with rfl | rfl
  · rw [eq_of_run hrun hafter]
    exact ⟨rfl, rfl, rfl, _, rfl, .group _ _⟩
  · obtain ⟨left, rfl⟩ : ∃ k, left = k + 1 := ⟨left - 1, by omega⟩
    obtain ⟨r, hstep, hrun, -⟩ := step_of_run hafter (.inr (.inr rfl)) hrun
    have hsimple : simpleQuantifier place 0 (some 1) = (⟨0, some 1, false⟩, place.advance) := by
      rw [simpleQuantifier, peek?, advance_rest hafter]
      rfl
    rw [step, quantify_of_solid rfl rfl, hsimple] at hstep
    obtain rfl := Except.ok.inj hstep
    rw [eq_of_run hrun (advance_rest hafter)]
    exact ⟨rfl, rfl, rfl, _, rfl, .optional _ _ _ _⟩

/-! ## Openings -/

theorem reads_captured {g g' : Groups} {c c' : Cursor} {o : Opening} {asked : Option String}
    {cs : List Char} (hrest : c.rest = openingText asked ++ cs) (hcs : Enclosed tail cs)
    (hname : ∀ n ∈ asked, isName n.toList = true) (h : groupOpening g c = .ok ((o, g'), c')) :
    ∃ kind, o = .group kind ∧ g.Reads c kind g' c' ∧ kind.captures = [(g.count + 1, asked)] ∧
      g'.count = g.count + 1 ∧ Enclosed tail c'.rest := by
  cases asked with
  | none =>
    have hnext : Enclosed tail c.next.rest := by
      refine Enclosed.skipBlanks ?_
      rw [advance_rest hrest]
      exact hcs
    have hnone : ∀ {text : List Char} {body : Cursor}, c.next.accept? ('?' :: text) ≠ some body :=
      fun hbody => hnext.peek?_ne (peek?_of_accept? hbody)
    rcases groupOpening_cases h with ⟨kind, rfl, hreads⟩ | ⟨body, hbody, -⟩
    · cases hreads with
      | capture hpeek => exact ⟨_, rfl, .capture hpeek, rfl, rfl, hnext⟩
      | named hmark hbody _ =>
        rcases hmark with rfl | rfl
        · exact absurd hbody hnone
        · exact absurd hbody hnone
      | plain hbody => exact absurd hbody hnone
    · exact absurd hbody hnone
  | some n =>
    have hadvance : c.advance.rest = '?' :: 'P' :: '<' :: (n.toList ++ '>' :: cs) := by
      refine advance_rest (d := '(') (hrest.trans ?_)
      simp [openingText]
    have hnext : c.next = c.advance := by
      refine skipBlanks_of_head ?_
      rw [hadvance]
      exact solid_cons (.inr (.inr rfl)) _
    have hbodies : ∀ {text : List Char} {body : Cursor}, c.next.accept? text = some body →
        text <+: '?' :: 'P' :: '<' :: (n.toList ++ '>' :: cs) ∧
          body.rest = ('?' :: 'P' :: '<' :: (n.toList ++ '>' :: cs)).drop text.length := by
      intro text body hbody
      rw [hnext] at hbody
      obtain ⟨hpre, rfl⟩ := accept?_eq_some_iff.1 hbody
      exact ⟨hadvance ▸ hpre, by rw [advanceBy, hadvance]⟩
    rcases groupOpening_cases h with ⟨kind, rfl, hreads⟩ | ⟨body, hbody, hflags⟩
    · cases hreads with
      | capture hpeek =>
        rw [hnext, peek?, hadvance] at hpeek
        exact absurd rfl hpeek
      | named hmark hbody hread =>
        obtain ⟨hpre, hrest⟩ := hbodies hbody
        rcases hmark with rfl | rfl
        · obtain ⟨name, hchars, -, -, hkind, rfl, rfl⟩ := groupName_eq_ok_iff.1 hread
          rw [hrest] at hchars
          obtain rfl : n.toList = name := Except.ok.inj
            ((groupNameChars_of_isName (hname n rfl) _ _).symm.trans hchars)
          rw [String.ofList_toList] at hkind
          refine ⟨_, rfl, .named (.inl rfl) hbody hread, ?_, rfl, ?_⟩
          · rw [hkind]
            rfl
          · rw [advanceBy, hrest]
            show Enclosed tail ((n.toList ++ '>' :: cs).drop (n.toList.length + 1))
            rw [List.drop_append, List.drop_of_length_le (Nat.le_succ _), Nat.add_sub_cancel_left]
            exact hcs
        · exact absurd hpre (by simp)
      | plain hbody => exact absurd (hbodies hbody).1 (by simp)
    · obtain ⟨-, hrest⟩ := hbodies hbody
      obtain ⟨d, hd, hflag⟩ := peek?_of_flagOpening hflags
      rw [peek?, hrest] at hd
      obtain rfl : 'P' = d := Option.some.inj hd
      exact absurd hflag (by decide)

/-! ## Whole groups -/

theorem IsGroup.captures {kind : GroupKind} {t : Tree} (ht : IsGroup kind t) {m m' : Modes}
    {e : Expr} (h : t.expr m = .ok (e, m')) : kind.captures ⊆ e.captures := by
  have hgroup : ∀ {span body m m' e}, (Tree.group span kind body).expr m = .ok (e, m') →
      kind.captures ⊆ e.captures := by
    intro span body m m' e h
    cases kind with
    | plain items => exact List.nil_subset _
    | capture index | named index name =>
      rw [Tree.expr] at h
      split at h
      · obtain ⟨rfl, -⟩ := Prod.mk.inj (Except.ok.inj h)
        exact List.cons_subset_cons _ (List.nil_subset _)
      · exact absurd h (by simp)
  cases ht with
  | group span body => exact hgroup h
  | optional outer span lazily body =>
    rw [Tree.expr] at h
    split at h
    · exact absurd h (by simp)
    · next hbody =>
      obtain ⟨rfl, -⟩ := Prod.mk.inj (Except.ok.inj h)
      rw [Expr.captures_repeated_eq (by simp)]
      exact hgroup hbody

/-- Where a group of a call is read, it is the latest item that is left behind, and has the number
that comes next and the name that was asked for. -/
structure Captures (asked : Option String) (p q : Progress) : Prop where
  opened : q.opened = p.opened
  count : q.groups.count = p.groups.count + 1
  branches : q.level.branches = p.level.branches
  items : ∃ t, q.level.items = t :: p.level.items ∧
    ∀ {m m' e}, t.expr m = .ok (e, m') → (p.groups.count + 1, asked) ∈ e.captures

theorem run_captured {fuel : Nat} {asked : Option String} {cs : List Char} (htail : Ends tail)
    (hrest : p.cursor.rest = openingText asked ++ cs) (hcs : Enclosed tail cs)
    (hname : ∀ n ∈ asked, isName n.toList = true) (hfuel : p.cursor.rest.length < fuel)
    (h : run fuel p = .ok q) : p.Captures asked q := by
  obtain ⟨fuel, rfl⟩ : ∃ k, fuel = k + 1 := ⟨fuel - 1, by omega⟩
  obtain ⟨ds, hopening⟩ := exists_openingText asked
  obtain ⟨r, hstep, hrun, hlt⟩ :=
    step_of_run (hrest.trans (congrArg (· ++ cs) hopening)) (.inl rfl) h
  rw [step] at hstep
  have hopened := hstep
  rw [openGroup] at hopened
  split at hopened
  · exact absurd hopened (by simp)
  · next hreads =>
    obtain ⟨kind, hkind, -⟩ := reads_captured hrest hcs hname hreads
    exact absurd hkind (by simp)
  · next hreads =>
    obtain ⟨kind, -, hreads, hkind, hcount, hafter⟩ := reads_captured hrest hcs hname hreads
    rw [openGroup_of_reads hreads] at hstep
    obtain rfl := Except.ok.inj hstep
    obtain ⟨left, r, hleft, hrun', hclose, hropened, hrgroups⟩ :=
      run_enclosed htail hafter (by omega) hrun
    obtain ⟨hqopened, hqgroups, hbranches, t, hitems, ht⟩ :=
      run_close htail hleft hclose hropened hrun'
    refine ⟨hqopened, ?_, hbranches, t, hitems, fun hexpr => ?_⟩
    · rw [hqgroups, hrgroups]
      exact hcount
    · exact ht.captures hexpr (hkind ▸ List.mem_singleton_self _)

/-- Where no group is open, the closing parenthesis is a fault. -/
theorem run_unopened {fuel : Nat} (htail : Ends tail) (hp : Enclosed tail p.cursor.rest)
    (hopened : p.opened = []) (hfuel : p.cursor.rest.length < fuel) : run fuel p ≠ .ok q := by
  intro h
  obtain ⟨left, r, -, hrun, hclose, hropened, -⟩ := run_enclosed htail hp hfuel h
  obtain ⟨r', hstep, -⟩ := step_of_run hclose (.inr (.inl rfl)) hrun
  rw [step, closeGroup, hropened, hopened] at hstep
  exact absurd hstep (by simp)

end Progress

end FluentRegex.Syntax
