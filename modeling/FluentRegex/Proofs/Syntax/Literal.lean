import FluentRegex.Proofs.Syntax.Reading
import FluentRegex.Text.Escape

/-!
# Reading escaped text

Escaped text is read as the characters that it was before: a character without a meaning of its
own stands for itself, and so does one behind a backslash if the dialect knows that escape. Both
hold in a pattern (`adds_text`) and, since only the first character of an item decides, between
brackets as well. The dot and the signs for the ends of a line are read as what they are.
-/

namespace FluentRegex

/-! ## Characters that are escaped and those that are not -/

theorem isAlphanum_of_isMeta {c : Char} (h : isMeta c = true) : c.isAlphanum = false := by
  rw [isMeta, List.contains_iff_mem] at h
  simp only [List.mem_cons, List.not_mem_nil, or_false] at h
  rcases h with h | h | h | h | h | h | h | h | h | h | h | h | h | h | h | h | h | h
  all_goals
    rw [h]
    rfl

theorem isAlphanum_of_isEscapable {c : Char} (h : isEscapable c = true) :
    c.isAlphanum = false := by
  rw [isEscapable, Bool.or_eq_true] at h
  rcases h with h | h
  · exact isAlphanum_of_isMeta h
  · simp only [Bool.and_eq_true, Bool.not_eq_true'] at h
    exact h.1.1.2

theorem isEscapable_of_needsEscape {delimiter c : Char} (h : needsEscape delimiter c = true) :
    isEscapable c = true := by
  rw [needsEscape, Bool.or_eq_true] at h
  rcases h with h | h
  · rw [isEscapable, h, Bool.true_or]
  · rw [Bool.and_eq_true, beq_iff_eq] at h
    rw [h.2]
    exact h.1

theorem isMeta_eq_false_of_needsEscape {delimiter c : Char} (h : needsEscape delimiter c = false) :
    isMeta c = false := by
  rw [needsEscape, Bool.or_eq_false_iff] at h
  exact h.1

theorem ne_of_isMeta {c d : Char} (hc : isMeta c = false) (hd : isMeta d = true) : c ≠ d := by
  intro heq
  subst heq
  rw [hc] at hd
  exact Bool.false_ne_true hd

/-- Escaped text begins with a backslash or with a character without a meaning of its own. -/
theorem head_escapeChars (delimiter c : Char) (cs : List Char) :
    ∃ d ds, escapeChars delimiter (c :: cs) = d :: ds ∧ (d = '\\' ∨ isMeta d = false) := by
  rw [escapeChars]
  cases h : needsEscape delimiter c with
  | true => exact ⟨'\\', _, rfl, .inl rfl⟩
  | false => exact ⟨c, _, rfl, .inr (isMeta_eq_false_of_needsEscape h)⟩

theorem length_le_escapeChars (delimiter : Char) (text : List Char) :
    text.length ≤ (escapeChars delimiter text).length := by
  induction text with
  | nil => exact Nat.le_refl 0
  | cons c cs ih =>
    rw [escapeChars]
    split
    · simp only [List.length_cons]
      omega
    · simp only [List.length_cons]
      omega

namespace Syntax

/-! ## Escapes -/

theorem shorthand?_of_isAlphanum {c : Char} (h : c.isAlphanum = false) : shorthand? c = none := by
  unfold shorthand?
  split
  all_goals first
    | rfl
    | exact absurd h (by decide)

/-- A backslash before an escapable character leaves the character itself. -/
theorem escapeSequence_of_isEscapable {c : Cursor} {d : Char} (hc : c.advance.peek? = some d)
    (hd : isEscapable d = true) :
    escapeSequence c = .ok (.literal d false, c.advance.advance) := by
  have halnum := isAlphanum_of_isEscapable hd
  have hdigit : d.isDigit = false := by
    rw [Char.isAlphanum, Bool.or_eq_false_iff] at halnum
    exact halnum.2
  have hne : ∀ l : Char, l.isAlphanum = true → d ≠ l := by
    intro l hl heq
    subst heq
    rw [halnum] at hl
    exact Bool.false_ne_true hl
  rw [escapeSequence, hc]
  simp only [hdigit, Bool.false_eq_true, if_false,
    hne 'x' rfl, hne 'u' rfl, hne 'U' rfl, hne 'p' rfl, hne 'P' rfl, or_self,
    shorthand?_of_isAlphanum halnum, hd, if_true]

/-- A character without a meaning of its own is an item by itself. -/
theorem step_literal {p : Progress} {d : Char} (hd : isMeta d = false) :
    p.step d = .ok (p.push (.atom p.cursor.hereChar (.literal d false)) p.cursor.advance) := by
  unfold Progress.step
  split
  all_goals first
    | rfl
    | exact absurd hd (by decide)

theorem isItem_literal (m : Modes) (hm : m.unicode = true) (span : Span) (c : Char) :
    (Tree.atom span (.literal c false)).IsItem m (Part.literal m c) where
  expr := by
    rw [Tree.expr, Atom.expr, hm]
    rfl
  depth := fun room => by simp [Tree.tooDeep?, Part.literal]
  solid := rfl

/-- Escaped text is read as its characters. -/
theorem adds_text {m : Modes} (hm : m.unicode = true) (delimiter : Char) (text : List Char)
    {p : Progress} {rest : List Char} (hp : p.cursor.At (escapeChars delimiter text ++ rest)) :
    ∃ q, p.Adds m (text.map (Part.literal m)) p.groups rest q := by
  induction text generalizing p with
  | nil => exact ⟨p, .nil hp⟩
  | cons c cs ih =>
    rw [escapeChars] at hp
    cases h : needsEscape delimiter c with
    | true =>
      rw [h, if_pos rfl, List.cons_append, List.cons_append] at hp
      have hesc := escapeSequence_of_isEscapable hp.advance.peek? (isEscapable_of_needsEscape h)
      have hstep : p.step '\\' = .ok (p.push
          (.atom (p.cursor.advance.advance.since p.cursor.pos) (.literal c false))
          p.cursor.advance.advance) := by
        rw [Progress.step, hesc]
      have hadds := Progress.adds_push hp hstep hp.advance.advance (Nat.le_succ _)
        (isItem_literal m hm _ c)
      obtain ⟨q, hq⟩ := ih hadds.cursor
      exact ⟨q, hadds.trans hq⟩
    | false =>
      rw [h, if_neg Bool.false_ne_true, List.cons_append] at hp
      have hadds := Progress.adds_push hp (step_literal (isMeta_eq_false_of_needsEscape h))
        hp.advance (Nat.le_refl _) (isItem_literal m hm _ c)
      obtain ⟨q, hq⟩ := ih hadds.cursor
      exact ⟨q, hadds.trans hq⟩

/-! ## Dots and anchors -/

theorem adds_dot {m : Modes} (hm : m.unicode = true) {p : Progress} {rest : List Char}
    (hp : p.cursor.At ('.' :: rest)) : ∃ q, p.Adds m [Part.dot m] p.groups rest q := by
  refine ⟨_, Progress.adds_push hp (t := .atom p.cursor.hereChar .dot) rfl hp.advance
    (Nat.le_refl _) ⟨⟨?_, fun room => by simp [Tree.tooDeep?, Part.dot]⟩, rfl⟩⟩
  rw [Tree.expr, Atom.expr, if_pos hm]
  rfl

/-- The signs for the start and for the end of a line. -/
theorem adds_anchor {m : Modes} {d : Char} {a : Anchor}
    (hd : (d = '^' ∧ a = .lineStart) ∨ (d = '$' ∧ a = .lineEnd)) {p : Progress}
    {rest : List Char} (hp : p.cursor.At (d :: rest)) :
    ∃ q, p.Adds m [Part.anchor m a] p.groups rest q := by
  have hstep : p.step d = .ok (p.push (.atom p.cursor.hereChar (.anchor a)) p.cursor.advance) := by
    rcases hd with ⟨rfl, rfl⟩ | ⟨rfl, rfl⟩
    · rfl
    · rfl
  refine ⟨_, Progress.adds_push hp hstep hp.advance (Nat.le_refl _)
    ⟨⟨rfl, fun room => by simp [Tree.tooDeep?, Part.anchor]⟩, rfl⟩⟩

end Syntax

end FluentRegex
