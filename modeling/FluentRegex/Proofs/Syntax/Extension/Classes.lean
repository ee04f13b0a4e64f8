import FluentRegex.Proofs.Syntax.Extension.Escapes
import FluentRegex.Proofs.Syntax.Repetition
import FluentRegex.Syntax.Bracket

/-!
# Reading classes where more text follows

A class in brackets is read in the same way where more text follows, since it ends with a bracket.
A part of it could only go on if it was the last of the pattern, and then the class had no end. This
also holds of the ASCII classes, whose names have no bracket in them.
-/

namespace FluentRegex.Syntax

open Cursor

variable {c c' : Cursor}

/-! ## ASCII classes -/

/-- A text that names an ASCII class, or its complement. -/
inductive AsciiClass.Written (kind : AsciiClass) : Bool → List Char → Prop
  | plain {name : List Char} (h : AsciiClass.ofName? name = some kind) :
    Written kind false (['[', ':'] ++ (name ++ [':', ']']))
  | negated {name : List Char} (h : AsciiClass.ofName? name = some kind) :
    Written kind true (['[', ':'] ++ (['^'] ++ (name ++ [':', ']'])))

theorem isLower_of_ofName {name : List Char} {kind : AsciiClass}
    (h : AsciiClass.ofName? name = some kind) : ∀ c ∈ name, c.isLower = true := by
  have hname : ∀ text : String, String.ofList name = text → name = text.toList := by
    intro text htext
    rw [← htext, String.toList_ofList]
  rw [← List.all_eq_true]
  unfold AsciiClass.ofName? at h
  split at h
  case h_15 => exact absurd h (by simp)
  all_goals
    next heq =>
    rw [hname _ heq]
    rfl

/-- What is read as an ASCII class is written as one. -/
theorem written_of_asciiClass {item : ClassTree} (h : asciiClass? c = some (item, c')) :
    ∃ kind negated text, AsciiClass.Written kind negated text ∧ c.accept? text = some c' ∧
      item = .ascii (c'.since c.pos) negated kind := by
  have hname : ∀ start : Cursor, start.accept? (start.rest.takeWhile (· != ':')) =
      some (start.advanceBy (start.rest.takeWhile (· != ':')).length) :=
    fun start => accept?_eq_some_iff.2 ⟨List.takeWhile_prefix _, rfl⟩
  rw [asciiClass?] at h
  split at h
  · exact absurd h (by simp)
  · next body hbody =>
    dsimp only at h
    split at h
    · next after kind hafter hkind =>
      obtain ⟨rfl, rfl⟩ := Prod.mk.inj (Option.some.inj h)
      by_cases hsign : body.peek? = some '^'
      · rw [if_pos hsign] at hafter hkind
        refine ⟨kind, true, _, .negated hkind, ?_, by rw [decide_eq_true hsign]⟩
        rw [accept?_append, hbody, Option.bind_some, accept?_append, accept?_singleton hsign,
          Option.bind_some, accept?_append, hname, Option.bind_some]
        exact hafter
      · rw [if_neg hsign] at hafter hkind
        refine ⟨kind, false, _, .plain hkind, ?_, by rw [decide_eq_false hsign]⟩
        rw [accept?_append, hbody, Option.bind_some, accept?_append, hname, Option.bind_some]
        exact hafter
    · exact absurd h (by simp)

/-- Where the name of a class stands before a colon, no caret stands, and the name is all that comes
before the colon. -/
theorem name_of_accept {name : List Char} {kind : AsciiClass} {start : Cursor}
    (hkind : AsciiClass.ofName? name = some kind)
    (h : start.accept? (name ++ [':', ']']) = some c') :
    start.peek? ≠ some '^' ∧ start.rest.takeWhile (· != ':') = name ∧
      (start.advanceBy name.length).accept? [':', ']'] = some c' := by
  obtain ⟨⟨r, hr⟩, -⟩ := accept?_eq_some_iff.1 h
  have hlower := isLower_of_ofName hkind
  refine ⟨?_, ?_, ?_⟩
  · rw [peek?, ← hr]
    cases name with
    | nil => simp
    | cons d ds =>
      intro hhead
      obtain rfl : d = '^' := Option.some.inj hhead
      exact absurd (hlower '^' List.mem_cons_self) (by decide)
  · rw [← hr, List.append_assoc, List.takeWhile_append_of_pos fun d hd => ?_]
    · simp
    · exact bne_iff_ne.2 fun heq => absurd (heq ▸ hlower d hd) (by decide)
  · rw [accept?_append] at h
    obtain ⟨stop, hstop, hafter⟩ := Option.bind_eq_some_iff.1 h
    obtain ⟨-, rfl⟩ := accept?_eq_some_iff.1 hstop
    exact hafter

/-- What is written as an ASCII class is read as one. -/
theorem asciiClass_of_written {kind : AsciiClass} {negated : Bool} {text : List Char}
    (h : AsciiClass.Written kind negated text) (hc' : c.accept? text = some c') :
    asciiClass? c = some (.ascii (c'.since c.pos) negated kind, c') := by
  rw [asciiClass?]
  cases h with
  | plain hkind =>
    rw [accept?_append] at hc'
    obtain ⟨body, hbody, hnamed⟩ := Option.bind_eq_some_iff.1 hc'
    obtain ⟨hsign, htake, hafter⟩ := name_of_accept hkind hnamed
    rw [hbody]
    dsimp only
    rw [if_neg hsign, htake, hafter, hkind, decide_eq_false hsign]
  | negated hkind =>
    rw [accept?_append] at hc'
    obtain ⟨body, hbody, hsigned⟩ := Option.bind_eq_some_iff.1 hc'
    rw [accept?_append] at hsigned
    obtain ⟨start, hstart, hnamed⟩ := Option.bind_eq_some_iff.1 hsigned
    obtain ⟨⟨r, hr⟩, rfl⟩ := accept?_eq_some_iff.1 hstart
    have hsign : body.peek? = some '^' := by
      rw [peek?, ← hr]
      rfl
    obtain ⟨-, htake, hafter⟩ := name_of_accept hkind hnamed
    rw [hbody]
    dsimp only
    rw [if_pos hsign, show body.advance.rest.takeWhile (· != ':') = _ from htake,
      show (body.advance.advanceBy _).accept? [':', ']'] = _ from hafter, hkind,
      decide_eq_true hsign]

/-- Only the last character of an ASCII class is a closing bracket. -/
theorem AsciiClass.Written.not_mem_dropLast {kind : AsciiClass} {negated : Bool}
    {text : List Char} (h : AsciiClass.Written kind negated text) : ']' ∉ text.dropLast := by
  have hname : ∀ {name : List Char}, AsciiClass.ofName? name = some kind → ']' ∉ name :=
    fun hkind hmem => absurd (isLower_of_ofName hkind _ hmem) (by decide)
  cases h with
  | @plain name hkind =>
    have htext : ['[', ':'] ++ (name ++ [':', ']']) = '[' :: ':' :: (name ++ [':']) ++ [']'] := by
      simp
    rw [htext, List.dropLast_concat]
    simp [hname hkind]
  | @negated name hkind =>
    have htext : ['[', ':'] ++ (['^'] ++ (name ++ [':', ']'])) =
        '[' :: ':' :: '^' :: (name ++ [':']) ++ [']'] := by simp
    rw [htext, List.dropLast_concat]
    simp [hname hkind]

theorem later_asciiClass {item : ClassTree} (h : asciiClass? c = some (item, c')) :
    c.Later c' := by
  obtain ⟨kind, negated, text, -, hc', -⟩ := written_of_asciiClass h
  exact later_accept hc'

variable {more : List Char}

theorem asciiClass?_extend {item : ClassTree} (h : asciiClass? c = some (item, c')) :
    asciiClass? (c.extend more) = some (item, c'.extend more) := by
  obtain ⟨kind, negated, text, hwritten, hc', rfl⟩ := written_of_asciiClass h
  exact asciiClass_of_written hwritten (accept?_extend more hc')

/-- What follows makes no ASCII class of a bracket, if the pattern still closes one. -/
theorem asciiClass?_extend_eq_none (h : asciiClass? c = none) (hclose : ']' ∈ c.rest) :
    asciiClass? (c.extend more) = none := by
  cases h' : asciiClass? (c.extend more) with
  | none => rfl
  | some r =>
    obtain ⟨kind, negated, text, hwritten, hc', -⟩ := written_of_asciiClass h'
    cases hc : c.accept? text with
    | none =>
      exact absurd ((rest_of_accept?_extend hc hc').subset hclose) hwritten.not_mem_dropLast
    | some after =>
      rw [asciiClass_of_written hwritten hc] at h
      exact absurd h (by simp)

/-! ## Openings -/

theorem extend_hyphens (more : List Char) {start fuel fuel' : Nat} {items items' : List ClassTree}
    (hend : c.atEnd = false) (hfuel : c.rest.length ≤ fuel)
    (hfuel' : (c.extend more).rest.length ≤ fuel')
    (h : Bracket.hyphens start fuel c items = .ok (items', c')) :
    c.Later c' ∧ c'.atEnd = false ∧
      Bracket.hyphens start fuel' (c.extend more) items = .ok (items', c'.extend more) := by
  induction fuel generalizing c items fuel' with
  | zero =>
    rw [atEnd, List.length_eq_zero_iff.1 (Nat.le_zero.1 hfuel)] at hend
    exact absurd hend (by simp)
  | succ fuel ih =>
    cases fuel' with
    | zero =>
      have hpos := length_pos_of_atEnd (atEnd_extend hend : (c.extend more).atEnd = false)
      omega
    | succ fuel' =>
      rw [Bracket.hyphens] at h ⊢
      split at h
      · next hhyphen =>
        split at h
        · exact absurd h (by simp)
        · next hnext =>
          have hnext : c.next.atEnd = false := Bool.eq_false_iff.2 hnext
          have hlen := length_next_lt hend
          have hlen' := length_next_lt (atEnd_extend hend : (c.extend more).atEnd = false)
          rw [next_extend hend hnext] at hlen'
          obtain ⟨hlater, hend', hagain⟩ := ih hnext (by omega)
            (by omega : (c.next.extend more).rest.length ≤ fuel') h
          rw [if_pos (peek?_extend hhyphen), next_extend hend hnext, atEnd_extend hnext,
            if_neg Bool.false_ne_true]
          exact ⟨(later_next c).trans hlater, hend', hagain⟩
      · next hhyphen =>
        obtain ⟨rfl, rfl⟩ := Prod.mk.inj (Except.ok.inj h)
        rw [peek?_extend_of_atEnd hend, if_neg hhyphen]
        exact ⟨.refl c, hend, rfl⟩

/-- The opening of a class is followed by something. -/
theorem extend_start (more : List Char) {b : Bracket} (hend : c.atEnd = false)
    (h : Bracket.start c = .ok (b, c')) :
    c.advance.Later c' ∧ Bracket.start (c.extend more) = .ok (b, c'.extend more) := by
  have hstart : c.advance.Later c.next := later_skipBlanks c.advance
  rw [Bracket.start] at h
  dsimp only at h
  split at h
  · exact absurd h (by simp)
  · next hnext =>
    have hnext : c.next.atEnd = false := Bool.eq_false_iff.2 hnext
    rw [Bracket.start, next_extend hend hnext]
    dsimp only
    rw [atEnd_extend hnext, if_neg Bool.false_ne_true, peek?_extend_of_atEnd hnext]
    have hbody : c.next.Later (if c.next.peek? = some '^' then c.next.next else c.next) := by
      split
      · exact later_next c.next
      · exact .refl c.next
    have hextend : (if c.next.peek? = some '^' then c.next.next else c.next).atEnd = false →
        (if c.next.peek? = some '^' then (c.next.extend more).next else c.next.extend more) =
          (if c.next.peek? = some '^' then c.next.next else c.next).extend more := by
      split
      · exact next_extend hnext
      · exact fun _ => rfl
    generalize (if c.next.peek? = some '^' then c.next.next else c.next) = body at h hbody hextend
    split at h
    · exact absurd h (by simp)
    · next hbodyEnd =>
      have hbodyEnd : body.atEnd = false := Bool.eq_false_iff.2 hbodyEnd
      rw [hextend hbodyEnd, atEnd_extend hbodyEnd, if_neg Bool.false_ne_true]
      split at h
      · exact absurd h (by simp)
      · next items after hhyphens =>
        obtain ⟨hlater, hafter, hagain⟩ := extend_hyphens more hbodyEnd
          (Nat.le_refl _) (Nat.le_refl _) hhyphens
        rw [show Bracket.hyphens (c.extend more).pos _ _ _ = _ from hagain]
        dsimp only
        rw [peek?_extend_of_atEnd hafter]
        split at h
        · next hliteral =>
          rw [if_pos hliteral]
          split at h
          · exact absurd h (by simp)
          · next hstop =>
            have hstop : after.next.atEnd = false := Bool.eq_false_iff.2 hstop
            obtain ⟨rfl, rfl⟩ := Prod.mk.inj (Except.ok.inj h)
            rw [next_extend hafter hstop, atEnd_extend hstop, if_neg Bool.false_ne_true]
            exact ⟨hstart.trans (hbody.trans (hlater.trans (later_next after))), rfl⟩
        · next hliteral =>
          obtain ⟨rfl, rfl⟩ := Prod.mk.inj (Except.ok.inj h)
          rw [if_neg hliteral]
          exact ⟨hstart.trans (hbody.trans hlater), rfl⟩

/-! ## Items -/

theorem extends_bracketAtom {a : Atom} (h : bracketAtom c = .ok (a, c')) :
    Extends bracketAtom c a c' := by
  rw [bracketAtom] at h
  split at h
  · next hslash =>
    obtain ⟨hlater, hagain⟩ := (advances_escapeSequence (atEnd_of_peek? hslash) h).extends
    refine ⟨hlater, hagain.imp fun more x _ hx => ?_⟩
    rw [bracketAtom, peek?_extend hslash]
    exact hx
  · next d hslash hd =>
    obtain ⟨rfl, rfl⟩ := Prod.mk.inj (Except.ok.inj h)
    refine ⟨later_advanceBy c 1, .of_extend fun more _ => ?_⟩
    rw [bracketAtom, peek?_extend hd, advance_extend (atEnd_of_peek? hd)]
    split
    · next hsome => exact absurd (Option.some.inj hsome) hslash
    · next hsome =>
      obtain rfl := Option.some.inj hsome
      rfl
    · next hnone => exact absurd hnone (by simp)
  · exact absurd h (by simp)

/-- An item that is not the last thing in the pattern. -/
theorem extend_bracketItem (more : List Char) {unclosed : Fault} {item : ClassTree}
    (h : bracketItem unclosed c = .ok (item, c')) :
    c.Later c' ∧ (c'.atEnd = false → Apart c.verbose more →
      bracketItem unclosed (c.extend more) = .ok (item, c'.extend more)) := by
  rw [bracketItem] at h
  split at h
  · exact absurd h (by simp)
  · next lo sep hlo =>
    dsimp only at h
    split at h
    · exact absurd h (by simp)
    · next hend =>
      have hend : sep.skipBlanks.atEnd = false := Bool.eq_false_iff.2 hend
      have hskip := later_skipBlanks sep
      have hatom := extends_bracketAtom hlo
      have hlater := hatom.later.trans hskip
      have hfirst : Apart c.verbose more →
          bracketAtom (c.extend more) = .ok (lo, sep.extend more) :=
        fun hmore => hatom.again.extend (fun _ => hskip.atEnd hend) hmore
      split at h
      · next hsingle =>
        split at h
        · next hitem =>
          obtain ⟨rfl, rfl⟩ := Prod.mk.inj (Except.ok.inj h)
          refine ⟨hlater, fun _ hmore => ?_⟩
          have hpast : ∀ {d}, d = ']' ∨ d = '-' → sep.skipBlanks.peekPast? = some d →
              (sep.skipBlanks.extend more).peekPast? = some d := by
            rintro d (rfl | rfl)
            · exact peekPast?_extend_some (isBlank_eq_false (by decide) (by decide)) (by decide)
            · exact peekPast?_extend_some (isBlank_eq_false (by decide) (by decide)) (by decide)
          have hsingle' : (sep.skipBlanks.extend more).peek? ≠ some '-' ∨
              (sep.skipBlanks.extend more).peekPast? = some ']' ∨
              (sep.skipBlanks.extend more).peekPast? = some '-' := by
            rw [peek?_extend_of_atEnd hend]
            exact hsingle.imp_right (Or.imp (hpast (.inl rfl)) (hpast (.inr rfl)))
          rw [bracketItem, hfirst hmore]
          dsimp only
          rw [skipBlanks_extend hend, atEnd_extend hend, if_neg Bool.false_ne_true,
            if_pos hsingle', since_extend, pos_extend, hitem]
        · exact absurd h (by simp)
      · next hrange =>
        split at h
        · exact absurd h (by simp)
        · next hnext =>
          have hnext : sep.skipBlanks.next.atEnd = false := Bool.eq_false_iff.2 hnext
          split at h
          · exact absurd h (by simp)
          · next hi stop hhi =>
            have hsecond := extends_bracketAtom hhi
            have hall := hlater.trans (later_next sep.skipBlanks)
            split at h
            · next low high hlow hhigh =>
              split at h
              · next hle =>
                obtain ⟨rfl, rfl⟩ := Prod.mk.inj (Except.ok.inj h)
                refine ⟨hall.trans hsecond.later, fun hstop hmore => ?_⟩
                have hagain := (hsecond.becomes hall).extend (fun _ => hstop) hmore
                rw [bracketItem, hfirst hmore]
                dsimp only
                rw [skipBlanks_extend hend, atEnd_extend hend, if_neg Bool.false_ne_true,
                  peek?_extend_of_atEnd hend, peekPast?_extend hnext, if_neg hrange,
                  next_extend hend hnext, atEnd_extend hnext, if_neg Bool.false_ne_true, hagain]
                dsimp only
                rw [since_extend, since_extend, since_extend, pos_extend, pos_extend, hlow, hhigh]
                dsimp only
                rw [if_pos hle]
              · exact absurd h (by simp)
            · exact absurd h (by simp)
            · exact absurd h (by simp)

/-! ## Classes -/

/-- The operator at a place is made of two characters. -/
theorem setOp?_extend (hend : c.advance.atEnd = false) : setOp? (c.extend more) = setOp? c := by
  obtain ⟨x, y, r, hrest⟩ : ∃ x y r, c.rest = x :: y :: r := by
    match c.rest, two_le_length hend with
    | x :: y :: r, _ => exact ⟨x, y, r, rfl⟩
  rw [setOp?, setOp?, extend, hrest, List.cons_append, List.cons_append]
  generalize r ++ more = r'
  split <;> split <;> simp_all

/-- A character that stands somewhere, but not here, leaves more to be read. -/
theorem atEnd_advance_of_mem {d e : Char} (hd : c.peek? = some d) (hne : d ≠ e)
    (hmem : e ∈ c.rest) : c.advance.atEnd = false := by
  rw [peek?, List.head?_eq_some_iff] at hd
  obtain ⟨ds, hrest⟩ := hd
  rw [hrest, List.mem_cons, or_iff_right fun heq => hne heq.symm] at hmem
  rw [atEnd, advance, advanceBy, hrest]
  exact List.isEmpty_eq_false_iff.2 (List.ne_nil_of_mem hmem)

theorem extend_bracketItems {fuel fuel' : Nat} {b : Bracket} {outer : List Bracket} {t : Tree}
    (hmore : Apart c.verbose more) (hfuel : fuel ≤ fuel')
    (h : bracketItems fuel b outer c = .ok (t, c')) :
    ']' :: c'.rest <:+ c.rest ∧ c.Later c' ∧
      bracketItems fuel' b outer (c.extend more) = .ok (t, c'.extend more) := by
  induction fuel generalizing b outer c fuel' with
  | zero => exact absurd h (by simp [bracketItems])
  | succ fuel ih =>
    obtain ⟨fuel', rfl⟩ : ∃ k, fuel' = k + 1 := ⟨fuel' - 1, by omega⟩
    have hfuel : fuel ≤ fuel' := Nat.le_of_succ_le_succ hfuel
    have hhere := later_skipBlanks c
    have hstep : ∀ {b : Bracket} {outer : List Bracket} {after : Cursor},
        c.skipBlanks.Later after → bracketItems fuel b outer after = .ok (t, c') →
        after.atEnd = false ∧ ']' :: c'.rest <:+ c.skipBlanks.rest ∧ c.Later c' ∧
          bracketItems fuel' b outer (after.extend more) = .ok (t, c'.extend more) := by
      intro b outer after hlater h
      have hall := hhere.trans hlater
      obtain ⟨hclose, hlater', hagain⟩ := ih (hall.mode ▸ hmore) hfuel h
      exact ⟨List.isEmpty_eq_false_iff.2 (List.ne_nil_of_mem (hclose.subset List.mem_cons_self)),
        hclose.trans hlater.suffix, hall.trans hlater', hagain⟩
    rw [bracketItems] at h ⊢
    dsimp only at h ⊢
    split at h
    · exact absurd h (by simp)
    · next hopen =>
      have hend := atEnd_of_peek? hopen
      rw [skipBlanks_extend hend, peek?_extend hopen]
      split at h
      · next item after hascii =>
        rw [asciiClass?_extend hascii]
        obtain ⟨-, hclosed, hread⟩ := hstep (later_asciiClass hascii) h
        exact ⟨hclosed.trans hhere.suffix, hread⟩
      · next hascii =>
        split at h
        · exact absurd h (by simp)
        · next nested after hnested =>
          obtain ⟨hlater, hagain⟩ := extend_start more hend hnested
          obtain ⟨-, hclosed, hread⟩ := hstep ((later_advanceBy c.skipBlanks 1).trans hlater) h
          rw [asciiClass?_extend_eq_none hascii (hclosed.subset List.mem_cons_self), hagain]
          exact ⟨hclosed.trans hhere.suffix, hread⟩
    · next hclose =>
      have hend := atEnd_of_peek? hclose
      have hafter : c.skipBlanks.Later c.skipBlanks.advance := later_advanceBy c.skipBlanks 1
      have hrest : ']' :: c.skipBlanks.advance.rest = c.skipBlanks.rest := cons_advance hclose
      rw [skipBlanks_extend hend, peek?_extend hclose, advance_extend hend, since_extend]
      split at h
      · obtain ⟨rfl, rfl⟩ := Prod.mk.inj (Except.ok.inj h)
        exact ⟨hrest ▸ hhere.suffix, hhere.trans hafter, rfl⟩
      · obtain ⟨-, hclosed, hread⟩ := hstep hafter h
        exact ⟨hclosed.trans hhere.suffix, hread⟩
    · next d hopen hclose hd =>
      -- the class is closed behind this character
      have hend := atEnd_of_peek? hd
      have hrest : ']' :: c'.rest <:+ c.skipBlanks.rest → c.skipBlanks.advance.atEnd = false :=
        fun hclosed => atEnd_advance_of_mem hd hclose (hclosed.subset List.mem_cons_self)
      rw [skipBlanks_extend hend, peek?_extend hd]
      split
      · next hnone => exact absurd hnone (by simp)
      · next hsome => exact absurd (Option.some.inj hsome) hopen
      · next hsome => exact absurd (Option.some.inj hsome) hclose
      · split at h
        · next op hop =>
          obtain ⟨-, hclosed, hread⟩ := hstep (later_advanceBy c.skipBlanks 2) h
          rw [setOp?_extend (hrest hclosed), hop, pos_extend,
            advanceBy_extend (two_le_length (hrest hclosed))]
          exact ⟨hclosed.trans hhere.suffix, hread⟩
        · next hop =>
          split at h
          · exact absurd h (by simp)
          · next item after hitem =>
            obtain ⟨hlater, hagain⟩ := extend_bracketItem more hitem
            obtain ⟨hafter, hclosed, hread⟩ := hstep hlater h
            rw [setOp?_extend (hrest hclosed), hop, hagain hafter (hhere.mode ▸ hmore)]
            exact ⟨hclosed.trans hhere.suffix, hread⟩

/-- A class ends with a bracket. -/
theorem suffix_of_bracketClass {t : Tree} (hend : c.atEnd = false)
    (h : bracketClass c = .ok (t, c')) : ']' :: c'.rest <:+ c.rest := by
  rw [bracketClass] at h
  split at h
  · exact absurd h (by simp)
  · next b after hstart =>
    obtain ⟨hclosed, -⟩ := extend_bracketItems (.nil _) (Nat.le_refl _) h
    exact hclosed.trans ((later_advanceBy c 1).trans (extend_start [] hend hstart).1).suffix

theorem advances_bracketClass {t : Tree} (hend : c.atEnd = false)
    (h : bracketClass c = .ok (t, c')) : Advances bracketClass c t c' := by
  rw [bracketClass] at h
  split at h
  · exact absurd h (by simp)
  · next b after hstart =>
    have hlater : c.Later after :=
      (later_advanceBy c 1).trans (extend_start [] hend hstart).1
    have hread : ∀ more, Apart c.verbose more → after.Later c' ∧
        bracketClass (c.extend more) = .ok (t, c'.extend more) := by
      intro more hmore
      have hfuel : after.rest.length + 1 ≤ (after.extend more).rest.length + 1 := by
        rw [extend, List.length_append]
        omega
      obtain ⟨-, hlater', hagain⟩ := extend_bracketItems (hlater.mode ▸ hmore) hfuel h
      refine ⟨hlater', ?_⟩
      rw [bracketClass, (extend_start more hend hstart).2]
      exact hagain
    exact ⟨(extend_start [] hend hstart).1.trans (hread [] (.nil _)).1,
      .of_extend fun more hmore => (hread more hmore).2⟩

end FluentRegex.Syntax
