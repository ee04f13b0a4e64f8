import FluentRegex.Proofs.Syntax.Cursor
import FluentRegex.Syntax.Escape
import Mathlib.Data.List.Basic
import Mathlib.Tactic.MkIffOfInductiveProp

/-!
# Places where more text follows

What has been read to its end is read in the same way where more text follows, since a reading that
needs what is not there is a fault. Only a question mark can change a repetition before it, and only
an opening brace a word boundary, unless a count follows the brace; text that begins with neither is
`Apart`. In verbose mode it must not begin with anything that is skipped, either.

`Cursor.extend` is the same place with more text behind the pattern. A pattern in verbose mode may
end with a comment, and then the line that the text begins with belongs to the comment, and what
comes next is `behind` it: whether it does depends on the pattern alone (`Cursor.Becomes`).
`Extends` says of what was read at a place that it is read there as well, and `Advances` that it
also takes up a character.
-/

namespace FluentRegex.Syntax

/-- What is read next of a text whose first line belongs to a comment. -/
def behind (text : List Char) : List Char := (Cursor.skipFrom true 0 text).2

/-- Text that cannot change what is read before it, in verbose mode or outside of it. -/
structure Apart (verbose : Bool) (more : List Char) : Prop where
  no_question : more.head? ≠ some '?'
  brace : ∀ ds, more = '\x7b' :: ds →
    ∃ d, ds.head? = some d ∧ d.isDigit = true ∧ isBlank d = false
  solid : verbose = true → ∀ d ∈ more.head?, isBlank d = false ∧ d ≠ '#'
  behind : verbose = true → (behind more).head? ≠ some '?'

/-- Where blanks count, text with another beginning will do. -/
theorem Apart.plain {more : List Char} (hquestion : more.head? ≠ some '?')
    (hbrace : more.head? ≠ some '\x7b') : Apart false more where
  no_question := hquestion
  brace _ hds := absurd (congrArg List.head? hds) hbrace
  solid h := absurd h Bool.false_ne_true
  behind h := absurd h Bool.false_ne_true

theorem Apart.nil (verbose : Bool) : Apart verbose [] where
  no_question := by simp
  brace _ h := absurd h (List.cons_ne_nil _ _).symm
  solid _ _ hd := absurd hd (by simp)
  behind _ := by simp [Syntax.behind, Cursor.skipFrom]

namespace Cursor

/-- The same place where more text follows the pattern. -/
def extend (c : Cursor) (more : List Char) : Cursor := { c with rest := c.rest ++ more }

@[simp] theorem pos_extend (c : Cursor) (more : List Char) : (c.extend more).pos = c.pos := rfl

@[simp] theorem since_extend (c : Cursor) (more : List Char) (start : Nat) :
    (c.extend more).since start = c.since start := rfl

/-- Where a place is once more text follows the pattern: the same, or behind the comment that goes
on in the text. -/
def onto (swallowed : Bool) (c : Cursor) (more : List Char) : Cursor :=
  if swallowed then { c with pos := (skipFrom true c.pos more).1, rest := behind more }
  else c.extend more

/-- The second place is not before the first, in the same mode. -/
structure Later (c c' : Cursor) : Prop where
  mode : c'.verbose = c.verbose
  suffix : c'.rest <:+ c.rest

variable {c c' : Cursor} {more : List Char}

theorem Later.refl (c : Cursor) : c.Later c := ⟨rfl, List.suffix_refl _⟩

theorem Later.trans {c'' : Cursor} (h : c.Later c') (h' : c'.Later c'') : c.Later c'' :=
  ⟨h'.mode.trans h.mode, h'.suffix.trans h.suffix⟩

theorem later_advanceBy (c : Cursor) (n : Nat) : c.Later (c.advanceBy n) :=
  ⟨rfl, List.drop_suffix n c.rest⟩

/-! ### Blanks and comments -/

theorem isBlank_newline : isBlank '\n' = true := by
  rw [isBlank, ← CharSet.mem_iff, CharSet.blanks, CharSet.mem_pinned_ascii (by decide)]
  exact ⟨_, List.mem_cons_self, by decide, by decide⟩

theorem skipFrom_suffix (inComment : Bool) (pos : Nat) (cs : List Char) :
    (skipFrom inComment pos cs).2 <:+ cs := by
  induction cs generalizing inComment pos with
  | nil => simp [skipFrom]
  | cons d ds ih =>
    have hrest := fun inComment => (ih inComment (pos + 1)).trans (List.suffix_cons d ds)
    cases inComment with
    | true => exact hrest (d != '\n')
    | false =>
      rw [skipFrom]
      split
      · exact hrest false
      · split
        · exact hrest true
        · exact List.suffix_refl _

theorem skipFrom_eq {cs : List Char} (h : ∀ d ∈ cs.head?, isBlank d = false ∧ d ≠ '#')
    (pos : Nat) : skipFrom false pos cs = (pos, cs) := by
  cases cs with
  | nil => rfl
  | cons d ds =>
    obtain ⟨hblank, hsign⟩ := h d rfl
    rw [skipFrom, hblank, if_neg Bool.false_ne_true, if_neg hsign]

/-- What is not skipped ends the skipping, whatever follows. -/
theorem skipFrom_append {inComment : Bool} {pos : Nat} {cs : List Char}
    (h : (skipFrom inComment pos cs).2 ≠ []) (more : List Char) :
    skipFrom inComment pos (cs ++ more) =
      ((skipFrom inComment pos cs).1, (skipFrom inComment pos cs).2 ++ more) := by
  induction cs generalizing inComment pos with
  | nil =>
    rw [skipFrom] at h
    exact absurd rfl h
  | cons d ds ih =>
    cases inComment with
    | true =>
      rw [skipFrom] at h
      rw [List.cons_append, skipFrom, skipFrom, ih h]
    | false =>
      rw [skipFrom] at h
      rw [List.cons_append, skipFrom, skipFrom]
      split at h
      · next hblank => rw [if_pos hblank, if_pos hblank, ih h]
      · next hblank =>
        rw [if_neg hblank, if_neg hblank]
        split at h
        · next hsign => rw [if_pos hsign, if_pos hsign, ih h]
        · next hsign =>
          rw [if_neg hsign, if_neg hsign]
          rfl

/-- What is left after the skipping does not depend on where the text stands. -/
theorem snd_skipFrom (inComment : Bool) (pos pos' : Nat) (cs : List Char) :
    (skipFrom inComment pos cs).2 = (skipFrom inComment pos' cs).2 := by
  induction cs generalizing inComment pos pos' with
  | nil => simp [skipFrom]
  | cons d ds ih =>
    cases inComment with
    | true => exact ih _ _ _
    | false =>
      rw [skipFrom, skipFrom]
      split
      · exact ih _ _ _
      · split
        · exact ih _ _ _
        · rfl

theorem skipFrom_comment (pos : Nat) (more : List Char) :
    skipFrom true pos more = ((skipFrom true pos more).1, behind more) :=
  Prod.ext rfl (snd_skipFrom true pos 0 more)

/-- A comment goes on to the end of the text, or to the end of a line in it. -/
theorem behind_cases (text : List Char) : behind text = [] ∨
    ∃ rest, '\n' :: rest <:+ text ∧ behind text = (skipFrom false 0 rest).2 := by
  rw [behind]
  generalize 0 = pos
  induction text generalizing pos with
  | nil => exact .inl rfl
  | cons d ds ih =>
    rw [skipFrom]
    by_cases hline : d = '\n'
    · rw [hline, bne_self_eq_false]
      exact .inr ⟨ds, List.suffix_refl _, snd_skipFrom false _ _ ds⟩
    · rw [bne_iff_ne.2 hline]
      refine (ih (pos + 1)).imp id ?_
      rintro ⟨rest, hsuffix, hrest⟩
      exact ⟨rest, hsuffix.trans (List.suffix_cons d ds), hrest.trans (snd_skipFrom false _ _ rest)⟩

theorem behind_append {text : List Char} (htext : '\n' ∉ text) (more : List Char) :
    behind (text ++ more) = behind more := by
  rw [behind, behind]
  generalize 0 = pos
  induction text generalizing pos with
  | nil => rfl
  | cons d ds ih =>
    rw [List.mem_cons, not_or] at htext
    rw [List.cons_append, skipFrom, bne_iff_ne.2 (Ne.symm htext.1), ih htext.2]
    exact snd_skipFrom true _ _ more

/-- Where all is skipped, what follows goes on with a comment or is not skipped. -/
theorem exists_skipFrom_append {inComment : Bool} {pos : Nat} {cs : List Char}
    (h : (skipFrom inComment pos cs).2 = []) : ∃ swallowed : Bool, ∀ more, Apart true more →
      skipFrom inComment pos (cs ++ more) = if swallowed then
        ((skipFrom true (skipFrom inComment pos cs).1 more).1, behind more)
      else ((skipFrom inComment pos cs).1, more) := by
  induction cs generalizing inComment pos with
  | nil =>
    refine ⟨inComment, fun more hmore => ?_⟩
    cases inComment with
    | true => exact skipFrom_comment pos more
    | false => exact skipFrom_eq (hmore.solid rfl) pos
  | cons d ds ih =>
    cases inComment with
    | true =>
      rw [skipFrom] at h ⊢
      exact ih h
    | false =>
      simp only [List.cons_append]
      rw [skipFrom] at h ⊢
      simp only [skipFrom]
      split at h
      · next hblank =>
        rw [if_pos hblank]
        simp only [if_pos hblank]
        exact ih h
      · next hblank =>
        rw [if_neg hblank]
        simp only [if_neg hblank]
        split at h
        · next hsign =>
          rw [if_pos hsign]
          simp only [if_pos hsign]
          exact ih h
        · exact absurd h (List.cons_ne_nil _ _)

theorem later_skipBlanks (c : Cursor) : c.Later c.skipBlanks := by
  rw [skipBlanks]
  split
  · exact ⟨rfl, skipFrom_suffix false c.pos c.rest⟩
  · exact .refl c

theorem skipBlanks_of_head (h : ∀ d ∈ c.rest.head?, isBlank d = false ∧ d ≠ '#') :
    c.skipBlanks = c := by
  rw [skipBlanks]
  split
  · rw [skipFrom_eq h]
  · rfl

theorem later_next (c : Cursor) : c.Later c.next :=
  (later_advanceBy c 1).trans (later_skipBlanks _)

theorem head?_skipFrom {d : Char} {inComment : Bool} {pos : Nat} {cs : List Char}
    (h : d ∈ (skipFrom inComment pos cs).2.head?) : isBlank d = false ∧ d ≠ '#' := by
  induction cs generalizing inComment pos with
  | nil => exact absurd h (by simp [skipFrom])
  | cons e es ih =>
    cases inComment with
    | true => exact ih h
    | false =>
      rw [skipFrom] at h
      split at h
      · exact ih h
      · next hblank =>
        split at h
        · exact ih h
        · next hsign =>
          obtain rfl : e = d := Option.some.inj h
          exact ⟨Bool.eq_false_iff.2 hblank, hsign⟩

@[simp] theorem skipBlanks_skipBlanks (c : Cursor) : c.skipBlanks.skipBlanks = c.skipBlanks := by
  by_cases hv : c.verbose = true
  · have hskip : c.skipBlanks = ⟨(skipFrom false c.pos c.rest).1, (skipFrom false c.pos c.rest).2,
      c.verbose⟩ := if_pos hv
    rw [hskip, skipBlanks]
    dsimp only
    rw [if_pos hv, skipFrom_eq fun d hd => head?_skipFrom hd]
  · have hskip : c.skipBlanks = c := if_neg hv
    rw [hskip, hskip]

/-! ### Places that are not at the end -/

theorem Later.atEnd (h : c.Later c') (hend : c'.atEnd = false) : c.atEnd = false := by
  rw [Cursor.atEnd] at hend ⊢
  cases hrest : c.rest with
  | nil =>
    have hnil := h.suffix
    rw [hrest, List.suffix_nil] at hnil
    rw [hnil] at hend
    exact hend
  | cons d ds => rfl

theorem peek?_extend {d : Char} (h : c.peek? = some d) : (c.extend more).peek? = some d := by
  rw [peek?, List.head?_eq_some_iff] at h
  obtain ⟨ds, hds⟩ := h
  rw [peek?, extend, hds]
  rfl

theorem peek?_extend_of_atEnd (h : c.atEnd = false) : (c.extend more).peek? = c.peek? := by
  obtain ⟨d, hd⟩ := exists_peek? h
  rw [peek?_extend hd, hd]

theorem atEnd_extend (h : c.atEnd = false) : (c.extend more).atEnd = false := by
  obtain ⟨d, hd⟩ := exists_peek? h
  exact atEnd_of_peek? (peek?_extend hd)

theorem advanceBy_extend {n : Nat} (hn : n ≤ c.rest.length) :
    (c.extend more).advanceBy n = (c.advanceBy n).extend more := by
  rw [advanceBy, advanceBy, extend, extend]
  dsimp only
  rw [List.take_append_of_le_length hn, List.drop_append_of_le_length hn]

theorem cons_advance {d : Char} (h : c.peek? = some d) : d :: c.advance.rest = c.rest := by
  rw [peek?, List.head?_eq_some_iff] at h
  obtain ⟨ds, hrest⟩ := h
  rw [advance, advanceBy, hrest]
  rfl

theorem length_pos_of_atEnd (h : c.atEnd = false) : 1 ≤ c.rest.length :=
  List.length_pos_iff.2 (List.isEmpty_eq_false_iff.1 h)

theorem advance_extend (h : c.atEnd = false) :
    (c.extend more).advance = c.advance.extend more :=
  advanceBy_extend (length_pos_of_atEnd h)

theorem length_next_lt (h : c.atEnd = false) : c.next.rest.length < c.rest.length := by
  have hpos := length_pos_of_atEnd h
  have hle := (later_skipBlanks c.advance).suffix.length_le
  have hadvance : c.advance.rest.length = c.rest.length - 1 := List.length_drop
  rw [hadvance] at hle
  exact Nat.lt_of_le_of_lt hle (by omega)

theorem skipBlanks_extend (h : c.skipBlanks.atEnd = false) :
    (c.extend more).skipBlanks = c.skipBlanks.extend more := by
  rw [skipBlanks] at h ⊢
  rw [skipBlanks]
  by_cases hv : c.verbose = true
  · have hskip := skipFrom_append (List.isEmpty_eq_false_iff.1 (by rwa [if_pos hv] at h)) more
    rw [if_pos hv, if_pos (show (c.extend more).verbose = true from hv)]
    show Cursor.mk (skipFrom false c.pos (c.rest ++ more)).1
      (skipFrom false c.pos (c.rest ++ more)).2 c.verbose = _
    rw [hskip]
    rfl
  · rw [if_neg hv, if_neg (show ¬ (c.extend more).verbose = true from hv)]

theorem next_extend (h : c.atEnd = false) (hnext : c.next.atEnd = false) :
    (c.extend more).next = c.next.extend more := by
  rw [next, advance_extend h]
  exact skipBlanks_extend hnext

/-- What ends the skipping of blanks is the first character past them. -/
theorem skipFrom_of_firstPast {inComment inComment' : Bool} {cs : List Char}
    (hmode : inComment' = true → inComment = true) (h : firstPast inComment cs = none) (pos : Nat) :
    (skipFrom inComment' pos cs).2 = [] := by
  induction cs generalizing inComment inComment' pos with
  | nil => rfl
  | cons d ds ih =>
    rw [firstPast] at h
    split at h
    · next hblank =>
      cases inComment' with
      | true => exact ih (fun _ => hmode rfl) h (pos + 1)
      | false =>
        rw [skipFrom, if_pos hblank]
        exact ih hmode h (pos + 1)
    · next hblank =>
      split at h
      · next hsign =>
        rw [Bool.and_eq_true, Bool.not_eq_true', beq_iff_eq] at hsign
        cases inComment' with
        | true => exact absurd (hmode rfl) (by rw [hsign.1]; exact Bool.false_ne_true)
        | false =>
          rw [skipFrom, if_neg hblank, if_pos hsign.2]
          exact ih (fun _ => rfl) h (pos + 1)
      · exact absurd h (by simp)

theorem firstPast_append {inComment : Bool} {d : Char} {cs : List Char}
    (h : firstPast inComment cs = some d) (more : List Char) :
    firstPast inComment (cs ++ more) = some d := by
  induction cs generalizing inComment with
  | nil => exact absurd h (by simp [firstPast])
  | cons e es ih =>
    rw [firstPast] at h
    rw [List.cons_append, firstPast]
    split at h
    · next hblank =>
      rw [if_pos hblank]
      exact ih h
    · next hblank =>
      rw [if_neg hblank]
      split at h
      · next hsign =>
        rw [if_pos hsign]
        exact ih h
      · next hsign =>
        rw [if_neg hsign]
        exact h

theorem drop_rest_extend (h : c.rest.drop 1 ≠ []) :
    (c.extend more).rest.drop 1 = c.rest.drop 1 ++ more := by
  cases hrest : c.rest with
  | nil => exact absurd (by rw [hrest]; rfl) h
  | cons d ds =>
    rw [extend, hrest]
    rfl

theorem peekPast?_extend (h : c.next.atEnd = false) :
    (c.extend more).peekPast? = c.peekPast? := by
  have hne : c.rest.drop 1 ≠ [] :=
    List.isEmpty_eq_false_iff.1 ((later_skipBlanks c.advance).atEnd h)
  have hhead : (c.rest.drop 1 ++ more).head? = (c.rest.drop 1).head? :=
    List.head?_append_of_ne_nil _ hne
  rw [peekPast?, peekPast?, drop_rest_extend hne, hhead]
  by_cases hv : c.verbose = true
  · rw [if_pos hv, if_pos (show (c.extend more).verbose = true from hv)]
    cases hfirst : firstPast false (c.rest.drop 1) with
    | some d => rw [firstPast_append hfirst more]
    | none =>
      have hskip : c.next = ⟨(skipFrom false c.advance.pos (c.rest.drop 1)).1,
          (skipFrom false c.advance.pos (c.rest.drop 1)).2, c.verbose⟩ := if_pos hv
      rw [hskip, atEnd, skipFrom_of_firstPast (fun h => h) hfirst] at h
      exact absurd h (by simp)
  · rw [if_neg hv, if_neg (show ¬ (c.extend more).verbose = true from hv)]

theorem peekPast?_extend_some {d : Char} (hblank : isBlank d = false) (hsign : d ≠ '#')
    (h : c.peekPast? = some d) : (c.extend more).peekPast? = some d := by
  rw [peekPast?] at h ⊢
  by_cases hv : c.verbose = true
  · have hfirst : firstPast false (c.rest.drop 1) = some d := by
      rw [if_pos hv] at h
      split at h
      · next e he => rw [he, h]
      · next hnone =>
        obtain ⟨ds, hds⟩ := List.head?_eq_some_iff.1 h
        rw [hds, firstPast, hblank, if_neg Bool.false_ne_true, Bool.not_false, Bool.true_and,
          beq_false_of_ne hsign, if_neg Bool.false_ne_true] at hnone
        exact absurd hnone (by simp)
    have hne : c.rest.drop 1 ≠ [] := fun hnil => by
      rw [hnil] at hfirst
      exact absurd hfirst (by simp [firstPast])
    rw [if_pos (show (c.extend more).verbose = true from hv), drop_rest_extend hne,
      firstPast_append hfirst more]
  · rw [if_neg hv] at h
    have hne : c.rest.drop 1 ≠ [] := fun hnil => by
      rw [hnil] at h
      exact absurd h (by simp)
    rw [if_neg (show ¬ (c.extend more).verbose = true from hv), drop_rest_extend hne,
      List.head?_append_of_ne_nil _ hne]
    exact h

/-- A sign that does not follow does not follow where more text comes that does not begin with
it. -/
theorem peek?_extend_iff {d : Char} (hmore : more.head? ≠ some d) :
    (c.extend more).peek? = some d ↔ c.peek? = some d := by
  cases h : c.atEnd with
  | false => rw [peek?_extend_of_atEnd h]
  | true =>
    have hnil : c.rest = [] := List.isEmpty_iff.1 h
    rw [peek?, peek?, extend, hnil]
    simpa using hmore

/-! ### Places that may be behind a comment -/

/-- What holds of the place that this one becomes where more text follows: of the same place, or of
the place behind the comment, if the pattern ends in verbose mode with a comment. -/
def Becomes (c : Cursor) (verbose : Bool) (P : List Char → Cursor → Prop) : Prop :=
  ∃ swallowed : Bool, (swallowed = true → c.verbose = true ∧ c.atEnd = true) ∧
    ∀ more, Apart verbose more → P more (c.onto swallowed more)

namespace Becomes

variable {verbose : Bool} {P Q : List Char → Cursor → Prop}

theorem of_extend (h : ∀ more, Apart verbose more → P more (c.extend more)) :
    c.Becomes verbose P :=
  ⟨false, fun h => absurd h Bool.false_ne_true, h⟩

theorem imp (h : c.Becomes verbose P)
    (hPQ : ∀ more x, Apart verbose more → P more x → Q more x) : c.Becomes verbose Q := by
  obtain ⟨swallowed, hswallowed, hP⟩ := h
  exact ⟨swallowed, hswallowed, fun more hmore => hPQ more _ hmore (hP more hmore)⟩

/-- A place that is not at the end stays the same. -/
theorem extend (h : c.Becomes verbose P) (hend : c.verbose = true → c.atEnd = false)
    {more : List Char} (hmore : Apart verbose more) : P more (c.extend more) := by
  obtain ⟨swallowed, hswallowed, hP⟩ := h
  cases swallowed with
  | false => exact hP more hmore
  | true =>
    obtain ⟨hv, hatEnd⟩ := hswallowed rfl
    rw [hend hv] at hatEnd
    exact absurd hatEnd Bool.false_ne_true

end Becomes

theorem becomes_skipBlanks (c : Cursor) :
    c.skipBlanks.Becomes c.verbose fun more x => (c.extend more).skipBlanks = x := by
  cases hend : c.skipBlanks.atEnd with
  | false => exact .of_extend fun more _ => skipBlanks_extend hend
  | true =>
    by_cases hv : c.verbose = true
    · have hskip : c.skipBlanks = ⟨(skipFrom false c.pos c.rest).1,
          (skipFrom false c.pos c.rest).2, c.verbose⟩ := if_pos hv
      have hnil : (skipFrom false c.pos c.rest).2 = [] := by
        rw [hskip] at hend
        exact List.isEmpty_iff.1 hend
      obtain ⟨swallowed, hswallowed⟩ := exists_skipFrom_append hnil
      refine ⟨swallowed, fun _ => ⟨?_, hend⟩, fun more hmore => ?_⟩
      · rw [hskip]
        exact hv
      · have hextend : (c.extend more).skipBlanks = ⟨(skipFrom false c.pos (c.rest ++ more)).1,
            (skipFrom false c.pos (c.rest ++ more)).2, c.verbose⟩ := if_pos hv
        rw [hv] at hmore
        show (c.extend more).skipBlanks = _
        rw [hextend, hswallowed more hmore, hskip, hnil]
        cases swallowed with
        | true => rfl
        | false => rfl
    · have hplain : c.verbose = false := Bool.eq_false_iff.2 hv
      refine .of_extend fun more _ => ?_
      rw [skipBlanks_eq hplain, skipBlanks_eq (show (c.extend more).verbose = false from hplain)]

theorem becomes_next (h : c.atEnd = false) :
    c.next.Becomes c.verbose fun more x => (c.extend more).next = x := by
  refine (becomes_skipBlanks c.advance).imp fun more x _ hx => ?_
  rw [next, advance_extend h, hx]

theorem Later.becomes_next (h : c.Later c') (hend : c'.atEnd = false) :
    c'.next.Becomes c.verbose fun more x => (c'.extend more).next = x :=
  h.mode ▸ Cursor.becomes_next hend

/-- A question mark that does not follow does not follow in text that is apart, either. -/
theorem peek?_onto_ne {swallowed : Bool}
    (hswallowed : swallowed = true → c.verbose = true ∧ c.atEnd = true)
    (hmore : Apart c.verbose more) (h : c.peek? ≠ some '?') :
    (c.onto swallowed more).peek? ≠ some '?' := by
  cases swallowed with
  | false => exact mt (peek?_extend_iff hmore.no_question).1 h
  | true => exact hmore.behind (hswallowed rfl).1

/-! ### Characters that pass a test -/

theorem later_takeWhile_fuel (p : Char → Bool) (fuel : Nat) (c : Cursor) :
    c.Later (takeWhile p fuel c).2 := by
  induction fuel generalizing c with
  | zero => exact .refl c
  | succ fuel ih =>
    rw [takeWhile]
    split
    · split
      · exact (later_next c).trans (ih c.next)
      · exact .refl c
    · exact .refl c

theorem later_takeWhile (h : c.Later c') {p : Char → Bool} {fuel : Nat} {cs : List Char}
    {c'' : Cursor} (htake : takeWhile p fuel c' = (cs, c'')) : c.Later c'' := by
  have hlater := later_takeWhile_fuel p fuel c'
  rw [htake] at hlater
  exact h.trans hlater

theorem takeWhile_append_of_drop {p : Char → Bool} {cs : List Char}
    (h : cs.drop (cs.takeWhile p).length ≠ []) (more : List Char) :
    (cs ++ more).takeWhile p = cs.takeWhile p := by
  rw [List.takeWhile_append, if_neg]
  intro hlen
  exact h (List.drop_eq_nil_of_le (Nat.le_of_eq hlen.symm))

theorem takeWhile_extend_fuel {p : Char → Bool} {fuel fuel' : Nat} {cs : List Char}
    (htake : takeWhile p fuel c = (cs, c')) (hend : c'.atEnd = false)
    (hfuel : c.rest.length ≤ fuel) (hfuel' : (c.extend more).rest.length ≤ fuel') :
    takeWhile p fuel' (c.extend more) = (cs, c'.extend more) := by
  induction fuel generalizing c cs fuel' with
  | zero =>
    obtain ⟨-, rfl⟩ := Prod.mk.inj htake
    have hpos := length_pos_of_atEnd hend
    omega
  | succ fuel ih =>
    have hatEnd := (later_takeWhile (.refl c) htake).atEnd hend
    have hatEnd' : (c.extend more).atEnd = false := atEnd_extend hatEnd
    have hpos' := length_pos_of_atEnd hatEnd'
    obtain ⟨fuel', rfl⟩ : ∃ k, fuel' = k + 1 := ⟨fuel' - 1, by omega⟩
    obtain ⟨d, hd⟩ := exists_peek? hatEnd
    rw [takeWhile, hd] at htake
    rw [takeWhile, peek?_extend hd]
    dsimp only at htake ⊢
    split at htake
    · next hp =>
      generalize hrest : takeWhile p fuel c.next = r at htake
      obtain ⟨ds, after⟩ := r
      obtain ⟨rfl, rfl⟩ := Prod.mk.inj htake
      have hnext := (later_takeWhile (.refl c.next) hrest).atEnd hend
      have hlt := length_next_lt hatEnd
      have hlt' := length_next_lt hatEnd'
      rw [next_extend hatEnd hnext] at hlt'
      rw [if_pos hp, next_extend hatEnd hnext, ih hrest (by omega) (by omega)]
    · next hp =>
      obtain ⟨rfl, rfl⟩ := Prod.mk.inj htake
      rw [if_neg hp]

/-- Characters that pass a test and are followed by one that does not are all that there are. -/
theorem takeWhile_extend (h : c.Later c') {p : Char → Bool} {cs : List Char}
    {c'' : Cursor} (htake : takeWhile p c.rest.length c' = (cs, c'')) (hend : c''.atEnd = false)
    (more : List Char) :
    takeWhile p (c.extend more).rest.length (c'.extend more) = (cs, c''.extend more) := by
  refine takeWhile_extend_fuel htake hend h.suffix.length_le ?_
  rw [extend, extend, List.length_append, List.length_append]
  exact Nat.add_le_add_right h.suffix.length_le _

/-! ### Given texts -/

theorem later_accept {text : List Char} (h : c.accept? text = some c') : c.Later c' := by
  obtain ⟨-, rfl⟩ := accept?_eq_some_iff.1 h
  exact later_advanceBy c _

theorem accept?_extend {text : List Char} (more : List Char) (h : c.accept? text = some c') :
    (c.extend more).accept? text = some (c'.extend more) := by
  obtain ⟨hpre, rfl⟩ := accept?_eq_some_iff.1 h
  exact accept?_eq_some_iff.2 ⟨hpre.trans (List.prefix_append _ _),
    (advanceBy_extend hpre.length_le).symm⟩

/-- A text that would be there only with what follows the pattern has a beginning that is all that
is left of the pattern. -/
theorem rest_of_accept?_extend {text more : List Char} (h : c.accept? text = none)
    (h' : (c.extend more).accept? text = some c') : c.rest <+: text.dropLast := by
  obtain ⟨hpre, -⟩ := accept?_eq_some_iff.1 h'
  have hnot : ¬ text <+: c.rest := fun hpre => by
    rw [accept?_eq_some_iff.2 ⟨hpre, rfl⟩] at h
    exact absurd h (by simp)
  rcases List.prefix_or_prefix_of_prefix hpre (List.prefix_append c.rest more) with hp | hp
  · exact absurd hp hnot
  · obtain ⟨r, rfl⟩ := hp
    rcases List.eq_nil_or_concat r with rfl | ⟨r, d, rfl⟩
    · exact absurd ⟨[], by simp⟩ hnot
    · rw [List.concat_eq_append, ← List.append_assoc, List.dropLast_concat]
      exact List.prefix_append _ _

end Cursor

/-! ## Readings -/

open Cursor

variable {α : Type} {c c' : Cursor}

/-- What was read at a place is read there as well where more text follows. -/
@[mk_iff]
structure Extends (read : Cursor → Reading α) (c : Cursor) (a : α) (c' : Cursor) : Prop where
  later : c.Later c'
  again : c'.Becomes c.verbose fun more x => read (c.extend more) = .ok (a, x)

/-- The same of what takes up a character. -/
@[mk_iff]
structure Advances (read : Cursor → Reading α) (c : Cursor) (a : α) (c' : Cursor) : Prop where
  later : c.advance.Later c'
  again : c'.Becomes c.verbose fun more x => read (c.extend more) = .ok (a, x)

theorem Advances.extends {read : Cursor → Reading α} {a : α} (h : Advances read c a c') :
    Extends read c a c' :=
  ⟨(later_advanceBy c 1).trans h.later, h.again⟩

theorem Extends.becomes {read : Cursor → Reading α} {a : α} {first : Cursor}
    (h : Extends read c a c') (hlater : first.Later c) :
    c'.Becomes first.verbose fun more x => read (c.extend more) = .ok (a, x) :=
  hlater.mode ▸ h.again

end FluentRegex.Syntax
