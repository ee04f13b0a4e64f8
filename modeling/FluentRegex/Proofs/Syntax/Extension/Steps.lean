import FluentRegex.Proofs.Syntax.Extension.Classes
import FluentRegex.Proofs.Syntax.Extension.Openings
import FluentRegex.Proofs.Syntax.Similar

/-!
# Reading on where more text follows

A pattern is read up to its end in the same way where more text follows that is `Apart`: each step
is the same (`resumes_of_step`), so what it leaves behind is the same, and the text comes next
(`run_extend`). If the pattern ends with a comment, the comment goes on in the text. Then what is
behind it comes next, and what the pattern leaves behind differs in places only.
-/

namespace FluentRegex.Syntax

open Cursor

/-- The mode for blanks in a group, which its own flags may change. -/
def GroupKind.verboseWithin (verbose : Bool) : GroupKind → Bool
  | .plain items => (verboseFlag? items).getD verbose
  | _ => verbose

namespace Progress

variable {p q : Progress} {d : Char}

/-- The same progress where more text follows the pattern. -/
def extend (p : Progress) (more : List Char) : Progress :=
  { p with cursor := p.cursor.extend more }

/-- Two progresses that differ in places only. -/
structure Similar (p q : Progress) : Prop where
  opened : p.opened = q.opened
  level : p.level.Similar q.level

theorem Similar.symm (h : p.Similar q) : q.Similar p := ⟨h.opened.symm, h.level.symm⟩

theorem Similar.trans {r : Progress} (h : p.Similar q) (h' : q.Similar r) : p.Similar r :=
  ⟨h.opened.trans h'.opened, h.level.trans h'.level⟩

theorem Similar.push {t t' : Tree} (h : t.Similar t') (p : Progress) (c c' : Cursor) :
    (p.push t c).Similar (p.push t' c') :=
  ⟨rfl, .latest h _ _ _ _ _ _⟩

/-! ## Steps -/

/-- A step is the same where more text follows the pattern, or the pattern ends behind it with a
comment that goes on in the text. -/
inductive Persists (p : Progress) (d : Char) (q : Progress) : Prop
  | same (h : ∀ more, Apart p.cursor.verbose more →
      (p.extend more).step d = .ok (q.extend more))
  | commented (verbose : p.cursor.verbose = true) (atEnd : q.cursor.rest = [])
      (h : ∀ more, Apart p.cursor.verbose more →
        ∃ q', (p.extend more).step d = .ok q' ∧ q'.cursor.rest = behind more ∧ q'.Similar q)

/-- The same of a step that takes up a character. -/
structure Resumes (p : Progress) (d : Char) (q : Progress) : Prop where
  suffix : q.cursor.rest <:+ p.cursor.advance.rest
  persists : p.Persists d q

/-- A step whose result depends on nothing but the place up to which it read. -/
theorem resumes_of_becomes {f : Cursor → Progress} {c : Cursor}
    (hlater : p.cursor.advance.Later c) (hrest : ∀ x, (f x).cursor.rest = x.rest)
    (hextend : ∀ more, f (c.extend more) = (f c).extend more)
    (hsimilar : ∀ pos rest, (f { c with pos := pos, rest := rest }).Similar (f c))
    (h : c.Becomes p.cursor.verbose fun more x => (p.extend more).step d = .ok (f x)) :
    p.Resumes d (f c) := by
  refine ⟨by rw [hrest]; exact hlater.suffix, ?_⟩
  obtain ⟨swallowed, hswallowed, hstep⟩ := h
  cases swallowed with
  | false =>
    refine .same fun more hmore => ?_
    rw [← hextend]
    exact hstep more hmore
  | true =>
    obtain ⟨hv, hend⟩ := hswallowed rfl
    have hnil : c.rest = [] := List.isEmpty_iff.1 hend
    refine .commented (hlater.mode.symm.trans hv) (by rw [hrest, hnil]) fun more hmore => ?_
    exact ⟨_, hstep more hmore, by rw [hrest]; rfl, hsimilar _ _⟩

theorem resumes_of_same (hend : p.cursor.atEnd = false)
    (hrest : q.cursor.rest = p.cursor.advance.rest)
    (h : ∀ more, (p.cursor.extend more).advance = p.cursor.advance.extend more →
      (p.extend more).step d = .ok (q.extend more)) : p.Resumes d q :=
  ⟨hrest ▸ List.suffix_refl _, .same fun more _ => h more (advance_extend hend)⟩

theorem openGroup_group {kind : GroupKind} {groups : Groups} {c : Cursor}
    (h : groupOpening p.groups p.cursor = .ok ((.group kind, groups), c)) :
    p.openGroup = .ok {
      cursor := { c with verbose := kind.verboseWithin c.verbose }
      level := Level.fresh c.pos
      opened := ⟨p.cursor.pos, kind, c.verbose, p.level⟩ :: p.opened
      groups := groups } := by
  rw [openGroup, h]
  cases kind <;> rfl

theorem resumes_openGroup (hend : p.cursor.atEnd = false) (h : p.openGroup = .ok q) :
    p.Resumes '(' q := by
  have hgroup := h
  rw [openGroup] at h
  split at h
  · exact absurd h (by simp)
  · next items groups c hopening =>
    obtain ⟨hlater, hagain⟩ := advances_groupOpening hend hopening
    obtain rfl := Except.ok.inj h
    refine resumes_of_becomes (f := fun x => { p with
      cursor := { x with verbose := (verboseFlag? items).getD x.verbose }
      level := p.level.push (.flags (x.since p.cursor.pos) items)
      groups := groups }) hlater (fun x => rfl) (fun more => rfl) (fun pos rest => ?_)
      (hagain.imp fun more x _ hx => ?_)
    · exact ⟨rfl, .latest (.flags _ _ _) _ _ _ _ _ _⟩
    · show (p.extend more).openGroup = _
      rw [openGroup, show groupOpening (p.extend more).groups (p.extend more).cursor = _ from hx]
      rfl
  · next kind groups c hopening =>
    obtain ⟨hlater, hagain⟩ := advances_groupOpening hend hopening
    rw [openGroup_group hopening] at hgroup
    obtain rfl := Except.ok.inj hgroup
    refine resumes_of_becomes (f := fun x => {
      cursor := { x with verbose := kind.verboseWithin x.verbose }
      level := Level.fresh x.pos
      opened := ⟨p.cursor.pos, kind, x.verbose, p.level⟩ :: p.opened
      groups := groups }) hlater (fun x => rfl) (fun more => rfl) (fun pos rest => ?_)
      (hagain.imp fun more x _ hx => ?_)
    · exact ⟨rfl, .nil, .nil⟩
    · exact openGroup_group (p := p.extend more) hx

theorem resumes_closeGroup (hend : p.cursor.atEnd = false) (h : p.closeGroup = .ok q) :
    p.Resumes ')' q := by
  rw [closeGroup] at h
  split at h
  · exact absurd h (by simp)
  · next g opened hopened =>
    obtain rfl := Except.ok.inj h
    refine resumes_of_same hend rfl fun more hadvance => ?_
    show (p.extend more).closeGroup = _
    rw [closeGroup, show (p.extend more).opened = _ from hopened]
    dsimp only
    rw [show (p.extend more).cursor.advance = _ from hadvance]
    rfl

theorem resumes_quantify {r : Reading Quantifier} {r' : List Char → Reading Quantifier}
    (hr : ∀ x c, r = .ok (x, c) → p.cursor.advance.Later c ∧
      c.Becomes p.cursor.verbose fun more y => r' more = .ok (x, y))
    (hstep : ∀ more, (p.extend more).step d = (p.extend more).quantify (r' more))
    (h : p.quantify r = .ok q) : p.Resumes d q := by
  rw [quantify] at h
  split at h
  · exact absurd h (by simp)
  · exact absurd h (by simp)
  · exact absurd h (by simp)
  · next t ts hempty hflags hitems =>
    split at h
    · exact absurd h (by simp)
    · next x c =>
      obtain ⟨hlater, hagain⟩ := hr x c rfl
      obtain rfl := Except.ok.inj h
      refine resumes_of_becomes (f := fun y => { p with
        cursor := y
        level := { p.level with
          items := .repetition (y.since t.start) x.min x.max x.lazily t :: ts } })
        hlater (fun y => rfl) (fun more => rfl) (fun pos rest => ?_)
        (hagain.imp fun more y _ hy => ?_)
      · exact ⟨rfl, .latest ((Tree.Similar.refl t).repetition _ _ _ _ _) _ _ _ _ _ _⟩
      · rw [hstep, hy, quantify, show (p.extend more).level.items = _ from hitems]
        cases t with
        | empty span => exact absurd rfl (hempty span)
        | flags span items => exact absurd rfl (hflags span items)
        | _ => rfl

/-- Whatever character a step begins with, it is the same where more text follows. -/
theorem resumes_of_step (hpeek : p.cursor.peek? = some d) (h : p.step d = .ok q) :
    p.Resumes d q := by
  have hend := atEnd_of_peek? hpeek
  have hsimple : ∀ min max x c, (Except.ok (simpleQuantifier p.cursor min max) :
      Reading Quantifier) = .ok (x, c) → p.cursor.advance.Later c ∧
        c.Becomes p.cursor.verbose fun more y =>
          (Except.ok (simpleQuantifier (p.cursor.extend more) min max) : Reading Quantifier) =
            .ok (x, y) := by
    intro min max x c hx
    have hagain := fun more (hmore : Apart p.cursor.verbose more) =>
      advances_simpleQuantifier hmore hend (Except.ok.inj hx)
    exact ⟨(hagain [] (.nil _)).1, .of_extend fun more hmore =>
      congrArg Except.ok (hagain more hmore).2⟩
  unfold step at h
  dsimp only at h
  split at h
  · exact resumes_openGroup hend h
  · exact resumes_closeGroup hend h
  · obtain rfl := Except.ok.inj h
    refine resumes_of_same hend rfl fun more hadvance => ?_
    show Except.ok { p.extend more with
      cursor := (p.cursor.extend more).advance, level := p.level.bar p.cursor.pos } = _
    rw [hadvance]
    rfl
  · split at h
    · exact absurd h (by simp)
    · next t c hclass =>
      obtain ⟨hlater, hagain⟩ := advances_bracketClass hend hclass
      obtain rfl := Except.ok.inj h
      refine resumes_of_becomes (f := fun x => p.push t x) hlater (fun x => rfl) (fun more => rfl)
        (fun pos rest => .push (.refl t) p _ _) (hagain.imp fun more x _ hx => ?_)
      rw [step, show bracketClass (p.extend more).cursor = _ from hx]
      rfl
  · exact resumes_quantify (hsimple 0 (some 1)) (fun more => rfl) h
  · exact resumes_quantify (hsimple 0 none) (fun more => rfl) h
  · exact resumes_quantify (hsimple 1 none) (fun more => rfl) h
  · refine resumes_quantify (fun x c hcount => ?_) (fun more => (rfl : (p.extend more).step '\x7b' =
      (p.extend more).quantify (countedQuantifier (p.cursor.extend more)))) h
    obtain ⟨hlater, hagain⟩ := advances_countedQuantifier hend hcount
    exact ⟨hlater, hagain⟩
  · split at h
    · exact absurd h (by simp)
    · next a c hescape =>
      obtain ⟨hlater, hagain⟩ := advances_escapeSequence hend hescape
      obtain rfl := Except.ok.inj h
      refine resumes_of_becomes (f := fun x => p.push (.atom (x.since p.cursor.pos) a) x) hlater
        (fun x => rfl) (fun more => rfl) (fun pos rest => .push (.atom _ _ a) p _ _)
        (hagain.imp fun more x _ hx => ?_)
      rw [step, show escapeSequence (p.extend more).cursor = _ from hx]
      rfl
  · obtain rfl := Except.ok.inj h
    refine resumes_of_same hend rfl fun more hadvance => ?_
    rw [step, show (p.extend more).cursor.advance = _ from hadvance]
    rfl
  · obtain rfl := Except.ok.inj h
    refine resumes_of_same hend rfl fun more hadvance => ?_
    rw [step, show (p.extend more).cursor.advance = _ from hadvance]
    rfl
  · obtain rfl := Except.ok.inj h
    refine resumes_of_same hend rfl fun more hadvance => ?_
    rw [step, show (p.extend more).cursor.advance = _ from hadvance]
    rfl
  · obtain rfl := Except.ok.inj h
    refine resumes_of_same hend rfl fun more hadvance => ?_
    unfold step
    dsimp only
    rw [show (p.extend more).cursor.advance = _ from hadvance]
    split
    all_goals first
      | rfl
      | contradiction

/-! ## Whole patterns -/

theorem run_of_step (hpeek : p.cursor.skipBlanks.peek? = some d)
    (h : { p with cursor := p.cursor.skipBlanks }.step d = .ok q) (fuel : Nat) :
    run (fuel + 1) p = run fuel q := by
  rw [run]
  dsimp only
  rw [hpeek]
  dsimp only
  rw [h]

/-- After a step less is left. -/
theorem length_lt_of_step (hpeek : p.cursor.skipBlanks.peek? = some d)
    (h : { p with cursor := p.cursor.skipBlanks }.step d = .ok q) :
    q.cursor.rest.length < p.cursor.rest.length := by
  have hresumes := resumes_of_step (p := { p with cursor := p.cursor.skipBlanks }) hpeek h
  have hadvance : p.cursor.skipBlanks.advance.rest.length =
      p.cursor.skipBlanks.rest.length - 1 := List.length_drop
  have hpos := length_pos_of_atEnd (atEnd_of_peek? hpeek)
  have hskip := (later_skipBlanks p.cursor).suffix.length_le
  have hle := hresumes.suffix.length_le
  rw [hadvance] at hle
  omega

theorem run_of_rest_nil (h : p.cursor.rest = []) (fuel : Nat) :
    ∃ c, run fuel p = .ok { p with cursor := c } ∧ c.rest = [] := by
  cases fuel with
  | zero => exact ⟨p.cursor, rfl, h⟩
  | succ fuel =>
    have hskip : p.cursor.skipBlanks.rest = [] :=
      List.suffix_nil.1 (h ▸ (later_skipBlanks p.cursor).suffix)
    refine ⟨p.cursor.skipBlanks, ?_, hskip⟩
    rw [run]
    dsimp only
    rw [peek?, hskip]
    rfl

theorem run_skipBlanks (p : Progress) (fuel : Nat) :
    run (fuel + 1) p = run (fuel + 1) { p with cursor := p.cursor.skipBlanks } := by
  rw [run, run]
  dsimp only
  rw [skipBlanks_skipBlanks]

/-- What a pattern leaves behind where more text follows that is apart in every mode: the same, and
the text is to be read next, or a comment goes on in the text, and what is behind it comes next. -/
inductive Continues (p q : Progress) : Prop
  | same (h : ∀ more, (∀ v, Apart v more) → ∀ fuel, (p.extend more).cursor.rest.length < fuel →
      ∃ left, more.length < left ∧ run fuel (p.extend more) = run left (q.extend more))
  | commented (h : ∀ more, (∀ v, Apart v more) → ∀ fuel,
      (p.extend more).cursor.rest.length < fuel →
      ∃ left q', more.length < left ∧ run fuel (p.extend more) = run left q' ∧
        q'.cursor.rest = behind more ∧ q'.Similar q)

theorem continues_skipBlanks (p : Progress) :
    p.Continues { p with cursor := p.cursor.skipBlanks } := by
  obtain ⟨swallowed, -, hskip⟩ := becomes_skipBlanks p.cursor
  cases swallowed with
  | false =>
    refine .same fun more hmore fuel hfuel => ?_
    obtain ⟨fuel, rfl⟩ : ∃ k, fuel = k + 1 := ⟨fuel - 1, by omega⟩
    refine ⟨fuel + 1, ?_, ?_⟩
    · rw [extend, Cursor.extend, List.length_append] at hfuel
      omega
    · rw [run_skipBlanks, show (p.extend more).cursor.skipBlanks = _ from hskip more (hmore _)]
      rfl
  | true =>
    refine .commented fun more hmore fuel hfuel => ?_
    obtain ⟨fuel, rfl⟩ : ∃ k, fuel = k + 1 := ⟨fuel - 1, by omega⟩
    refine ⟨fuel + 1, { p.extend more with cursor := p.cursor.skipBlanks.onto true more }, ?_, ?_,
      rfl, rfl, .refl _⟩
    · rw [extend, Cursor.extend, List.length_append] at hfuel
      omega
    · rw [run_skipBlanks, show (p.extend more).cursor.skipBlanks = _ from hskip more (hmore _)]

theorem run_extend {fuel : Nat} (hfuel : p.cursor.rest.length < fuel) (h : run fuel p = .ok q) :
    q.cursor.rest = [] ∧ p.Continues q := by
  induction fuel generalizing p with
  | zero => exact absurd hfuel (Nat.not_lt_zero _)
  | succ fuel ih =>
    rw [run] at h
    dsimp only at h
    split at h
    · next hpeek =>
      rw [peek?, List.head?_eq_none_iff] at hpeek
      obtain rfl := Except.ok.inj h
      exact ⟨hpeek, continues_skipBlanks p⟩
    · next d hpeek =>
      split at h
      · exact absurd h (by simp)
      · next p' hstep =>
        have hend := atEnd_of_peek? hpeek
        have hresumes := resumes_of_step (p := { p with cursor := p.cursor.skipBlanks }) hpeek hstep
        have hlt := length_lt_of_step hpeek hstep
        have hrun : ∀ {more fuel p'},
            ({ p with cursor := p.cursor.skipBlanks }.extend more).step d = .ok p' →
            run (fuel + 1) (p.extend more) = run fuel p' := by
          intro more fuel p' h
          have hskip : (p.extend more).cursor.skipBlanks = p.cursor.skipBlanks.extend more :=
            skipBlanks_extend hend
          exact run_of_step (by rw [hskip, peek?_extend hpeek]) (by rw [hskip]; exact h) fuel
        obtain ⟨hnil, hcontinues⟩ := ih (by omega) h
        have hless : ∀ {more : List Char} {fuel : Nat},
            (p.extend more).cursor.rest.length < fuel + 1 →
            (p'.extend more).cursor.rest.length < fuel := by
          intro more fuel hfuel
          rw [extend, Cursor.extend, List.length_append] at hfuel ⊢
          omega
        refine ⟨hnil, ?_⟩
        cases hresumes.persists with
        | same hsame =>
          have hgoes : ∀ more, (∀ v, Apart v more) → ∀ fuel,
              run (fuel + 1) (p.extend more) = run fuel (p'.extend more) := by
            intro more hmore fuel
            exact hrun (hsame more (hmore _))
          cases hcontinues with
          | same hnext =>
            refine .same fun more hmore fuel hfuel => ?_
            obtain ⟨fuel, rfl⟩ : ∃ k, fuel = k + 1 := ⟨fuel - 1, by omega⟩
            rw [hgoes more hmore]
            exact hnext more hmore fuel (hless hfuel)
          | commented hnext =>
            refine .commented fun more hmore fuel hfuel => ?_
            obtain ⟨fuel, rfl⟩ : ∃ k, fuel = k + 1 := ⟨fuel - 1, by omega⟩
            rw [hgoes more hmore]
            exact hnext more hmore fuel (hless hfuel)
        | commented hv hrest hcommented =>
          -- the pattern ends behind the step
          obtain ⟨c, hc, -⟩ := run_of_rest_nil hrest fuel
          obtain rfl := Except.ok.inj (h.symm.trans hc)
          refine .commented fun more hmore fuel hfuel => ?_
          obtain ⟨fuel, rfl⟩ : ∃ k, fuel = k + 1 := ⟨fuel - 1, by omega⟩
          obtain ⟨q', hstep', hrest', hsimilar⟩ := hcommented more (hmore _)
          refine ⟨fuel, q', ?_, hrun hstep', hrest', hsimilar.opened, hsimilar.level⟩
          rw [extend, Cursor.extend, List.length_append] at hfuel
          omega

end Progress

end FluentRegex.Syntax
