import FluentRegex.Text.Utf8
import Mathlib.Algebra.GroupWithZero.Nat

/-!
# Lines between line feeds

A text is its lines with a line feed between any two of them (`text_of_lines`). So every place of
the text is a place of one of its lines (`exists_line_of_le`), and a line begins after the lines
before it and their line feeds.
-/

namespace FluentRegex.Text

/-- The lines that stand before another one, each with its line feed. -/
def ended (lines : List (List Char)) : List Char := lines.flatMap (· ++ ['\n'])

theorem ended_cons (line : List Char) (lines : List (List Char)) :
    ended (line :: lines) = line ++ '\n' :: ended lines := by
  rw [ended, ended, List.flatMap_cons, List.append_assoc, List.singleton_append]

/-- Lines before another one begin a text, and a line feed comes before that other one. -/
theorem ended_cases (lines : List (List Char)) :
    ended lines = [] ∨ (ended lines).getLast? = some '\n' := by
  rcases List.eq_nil_or_concat lines with rfl | ⟨lines, line, rfl⟩
  · exact .inl rfl
  · refine .inr ?_
    rw [List.concat_eq_append, ended, List.flatMap_append, List.flatMap_singleton,
      ← List.append_assoc, List.getLast?_concat]

theorem byteLength_ended (lines : List (List Char)) :
    byteLength (ended lines) = (lines.map fun line => byteLength line + 1).sum := by
  induction lines with
  | nil => rfl
  | cons line lines ih =>
    rw [ended_cons, byteLength_append, byteLength_cons, ih, List.map_cons, List.sum_cons,
      Nat.add_assoc]
    rfl

/-- No line has a line feed in it. -/
theorem not_mem_of_mem_lines {text line : List Char} (h : line ∈ text.splitOn '\n') :
    '\n' ∉ line := by
  induction text generalizing line with
  | nil =>
    obtain rfl := List.mem_singleton.1 h
    exact List.not_mem_nil
  | cons c cs ih =>
    rw [List.splitOn_cons_eq_if_modifyHead] at h
    split at h
    · rcases List.mem_cons.1 h with rfl | h
      · exact List.not_mem_nil
      · exact ih h
    · next hc =>
      cases hlines : cs.splitOn '\n' with
      | nil => exact absurd hlines (List.splitOn_ne_nil _ _)
      | cons first rest =>
        rw [hlines] at h ih
        rcases List.mem_cons.1 h with rfl | h
        · intro hmem
          rcases List.mem_cons.1 hmem with rfl | hmem
          · exact hc (by simp)
          · exact ih List.mem_cons_self hmem
        · exact ih (List.mem_cons_of_mem _ h)

/-- A text is what stands before a line of it, the line, and no more or a line feed. -/
theorem text_of_lines {text line : List Char} {before after : List (List Char)}
    (h : text.splitOn '\n' = before ++ line :: after) :
    ∃ rest, text = ended before ++ line ++ rest ∧ (rest = [] ∨ rest.head? = some '\n') ∧
      (after = [] → rest = []) := by
  have htext : ['\n'].intercalate (before ++ line :: after) = text := by
    rw [← h, List.intercalate_splitOn]
  rw [← htext]
  clear h htext
  induction before with
  | nil =>
    cases after with
    | nil => exact ⟨[], by simp [ended], .inl rfl, fun _ => rfl⟩
    | cons next after =>
      refine ⟨'\n' :: ['\n'].intercalate (next :: after), ?_, .inr rfl, fun h => absurd h (by simp)⟩
      rw [List.nil_append, List.intercalate_cons_cons]
      simp [ended]
  | cons first before ih =>
    obtain ⟨rest, htext, hrest⟩ := ih
    refine ⟨rest, ?_, hrest⟩
    have hne : before ++ line :: after ≠ [] := by simp
    obtain ⟨second, others, hothers⟩ := List.exists_cons_of_ne_nil hne
    rw [List.cons_append, hothers, List.intercalate_cons_cons, ← hothers, htext, ended_cons]
    simp

/-- A place among lines with their line feeds is a place of one of them. -/
theorem exists_line_of_lt {lines : List (List Char)} {place : Nat}
    (h : place < (ended lines).length) :
    ∃ before line after p, lines = before ++ line :: after ∧ p ≤ line.length ∧
      place = (ended before).length + p := by
  induction lines generalizing place with
  | nil => exact absurd h (Nat.not_lt_zero _)
  | cons line lines ih =>
    rw [ended_cons, List.length_append, List.length_cons] at h
    by_cases hfirst : place ≤ line.length
    · exact ⟨[], line, lines, place, rfl, hfirst, (Nat.zero_add _).symm⟩
    · have hlater : place - (line.length + 1) < (ended lines).length := by omega
      obtain ⟨before, other, after, p, rfl, hp, hplace⟩ := ih hlater
      refine ⟨line :: before, other, after, p, rfl, hp, ?_⟩
      rw [ended_cons, List.length_append, List.length_cons]
      omega

/-- Every place of a text is a place of one of its lines. -/
theorem exists_line_of_le {text : List Char} {place : Nat} (h : place ≤ text.length) :
    ∃ before line after p, text.splitOn '\n' = before ++ line :: after ∧ p ≤ line.length ∧
      place = (ended before).length + p := by
  refine exists_line_of_lt ?_
  obtain ⟨before, line, hlines⟩ : ∃ before line, text.splitOn '\n' = before ++ [line] := by
    rcases List.eq_nil_or_concat (text.splitOn '\n') with hnil | ⟨before, line, hlines⟩
    · exact absurd hnil (List.splitOn_ne_nil _ _)
    · exact ⟨before, line, hlines.trans (List.concat_eq_append)⟩
  obtain ⟨rest, htext, -, hrest⟩ := text_of_lines hlines
  rw [hrest rfl, List.append_nil] at htext
  rw [htext, List.length_append] at h
  rw [hlines, ended, List.flatMap_append, List.flatMap_singleton, List.length_append,
    List.length_append, List.length_singleton, ← ended]
  omega

end FluentRegex.Text
