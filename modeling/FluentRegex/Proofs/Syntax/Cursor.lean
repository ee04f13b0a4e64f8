import FluentRegex.Syntax.Cursor

/-!
# Places where blanks count

Outside of verbose mode a place in a pattern is no more than the characters that are left: nothing
is skipped (`next_eq`), so what stands at the cursor is decided by the text alone. `Cursor.At` says
that a place stands before a given text, and a text is accepted if it is a prefix of what is left
(`accept?_eq_some_iff`).
-/

namespace FluentRegex.Syntax.Cursor

variable {c c' : Cursor}

/-! ## Steps -/

theorem skipBlanks_eq (hc : c.verbose = false) : c.skipBlanks = c := by
  rw [skipBlanks, hc]
  rfl

theorem next_eq (hc : c.verbose = false) : c.next = c.advance :=
  skipBlanks_eq (show c.advance.verbose = false from hc)

theorem advanceBy_advanceBy (c : Cursor) (m n : Nat) :
    (c.advanceBy m).advanceBy n = c.advanceBy (m + n) := by
  simp only [advanceBy, List.drop_drop, List.length_take, List.length_drop, Cursor.mk.injEq,
    and_true]
  omega

/-! ## What is left -/

/-- The cursor stands before the given text, and blanks count. -/
structure At (c : Cursor) (rest : List Char) : Prop where
  rest : c.rest = rest
  plain : c.verbose = false

namespace At

variable {d : Char} {rest : List Char}

theorem skipBlanks (h : c.At rest) : c.skipBlanks = c := skipBlanks_eq h.plain

theorem advanceBy {text : List Char} (h : c.At (text ++ rest)) :
    (c.advanceBy text.length).At rest := by
  refine ⟨?_, h.plain⟩
  show c.rest.drop text.length = rest
  rw [h.rest, List.drop_left]

theorem advance (h : c.At (d :: rest)) : c.advance.At rest := by
  have h' : c.At ([d] ++ rest) := h
  exact h'.advanceBy

theorem next (h : c.At rest) : c.next = c.advance := next_eq h.plain

theorem peek? (h : c.At rest) : c.peek? = rest.head? := by rw [Cursor.peek?, h.rest]

theorem atEnd (h : c.At rest) : c.atEnd = rest.isEmpty := by rw [Cursor.atEnd, h.rest]

end At

theorem atEnd_of_peek? {d : Char} (h : c.peek? = some d) : c.atEnd = false := by
  rw [peek?, List.head?_eq_some_iff] at h
  obtain ⟨ds, hds⟩ := h
  rw [atEnd, hds]
  rfl

theorem exists_peek? (h : c.atEnd = false) : ∃ d, c.peek? = some d := by
  rw [atEnd] at h
  rw [peek?]
  cases hrest : c.rest with
  | nil => rw [hrest] at h; exact absurd h (by simp)
  | cons d ds => exact ⟨d, rfl⟩

theorem two_le_length (hend : c.advance.atEnd = false) : 2 ≤ c.rest.length := by
  have hdrop : c.rest.drop 1 ≠ [] := List.isEmpty_eq_false_iff.1 hend
  have hpos := List.length_pos_iff.2 hdrop
  rw [List.length_drop] at hpos
  omega

/-! ## Given texts -/

theorem accept?_eq_some_iff {text : List Char} :
    c.accept? text = some c' ↔ text <+: c.rest ∧ c' = c.advanceBy text.length := by
  rw [accept?]
  split
  · next h =>
    rw [List.isPrefixOf_iff_prefix] at h
    rw [Option.some.injEq, eq_comm]
    exact ⟨fun heq => ⟨h, heq⟩, fun hboth => hboth.2⟩
  · next h =>
    rw [List.isPrefixOf_iff_prefix] at h
    exact ⟨fun hnone => absurd hnone (by simp), fun hboth => absurd hboth.1 h⟩

theorem accept?_append (c : Cursor) (s t : List Char) :
    c.accept? (s ++ t) = (c.accept? s).bind fun c' => c'.accept? t := by
  have hdrop : ∀ r, c.rest = s ++ r → (c.advanceBy s.length).rest = r := by
    intro r hr
    rw [advanceBy, hr]
    exact List.drop_left
  refine Option.ext fun c' => ?_
  rw [Option.bind_eq_some_iff, accept?_eq_some_iff, List.length_append, ← advanceBy_advanceBy]
  constructor
  · intro h
    obtain ⟨⟨r, hr⟩, rfl⟩ := h
    rw [List.append_assoc] at hr
    refine ⟨_, accept?_eq_some_iff.2 ⟨⟨t ++ r, hr⟩, rfl⟩, accept?_eq_some_iff.2 ⟨?_, rfl⟩⟩
    rw [hdrop _ hr.symm]
    exact List.prefix_append t r
  · intro h
    obtain ⟨d, hd, hc'⟩ := h
    obtain ⟨⟨r, hr⟩, rfl⟩ := accept?_eq_some_iff.1 hd
    obtain ⟨hpre, rfl⟩ := accept?_eq_some_iff.1 hc'
    rw [hdrop _ hr.symm] at hpre
    obtain ⟨r', rfl⟩ := hpre
    exact ⟨⟨r', by rw [← hr, List.append_assoc]⟩, rfl⟩

theorem accept?_singleton {d : Char} (h : c.peek? = some d) : c.accept? [d] = some c.advance := by
  refine accept?_eq_some_iff.2 ⟨?_, rfl⟩
  rw [peek?, List.head?_eq_some_iff] at h
  obtain ⟨ds, hds⟩ := h
  rw [hds]
  exact List.prefix_append [d] ds

theorem peek?_of_accept? {d : Char} {text : List Char} (h : c.accept? (d :: text) = some c') :
    c.peek? = some d := by
  obtain ⟨⟨r, hr⟩, -⟩ := accept?_eq_some_iff.1 h
  rw [peek?, ← hr]
  rfl

theorem accept?_eq_none {d : Char} {text : List Char} (h : c.peek? ≠ some d) :
    c.accept? (d :: text) = none :=
  Option.eq_none_iff_forall_ne_some.2 fun _ hsome => h (peek?_of_accept? hsome)

theorem accept?_cons {d : Char} {text : List Char} (h : c.peek? = some d) :
    c.accept? (d :: text) = c.advance.accept? text := by
  rw [show d :: text = [d] ++ text from rfl, accept?_append, accept?_singleton h, Option.bind_some]

end FluentRegex.Syntax.Cursor
