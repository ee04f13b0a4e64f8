import FluentRegex.Proofs.Chain.Calls

/-!
# What a chain of calls says

The meaning of a chain without patterns and programs: each call allows certain pieces of a subject
(`Call.Allows`), and a chain says that a stretch of the subject splits into such pieces, one per
call and in their order (`Splits`).

A piece is known from its length where its place is known, so the splits of a stretch can be
compared by the lengths of their pieces.
-/

namespace FluentRegex

/-- The characters that can stand where any may stand: a line feed only under a setting. -/
def Settings.AllowsAny (s : Settings) (c : Char) : Prop := s.dotMatchesNewLine = true ∨ c ≠ '\n'

/-- The characters other than the listed ones, or any where none is listed. -/
def Settings.AllowsOther (s : Settings) (chars : String) (c : Char) : Prop :=
  if chars = "" then s.AllowsAny c else c ∉ chars.toList

/-- The lengths that a count allows: that length, and any but none for no count and for zero. -/
def AllowsLength : Option Nat → Nat → Prop
  | some (k + 1), n => n = k + 1
  | _, n => 0 < n

/-- What a call allows as its piece of a subject, between what stands before and after it. -/
def Call.Allows (s : Settings) (before piece after : List Char) : Call → Prop
  | .find text _ | .search text => piece = text.toList
  | .maybe text _ => piece = text.toList ∨ piece = []
  | .anything _ => ∀ c ∈ piece, s.AllowsAny c
  | .anythingBut chars _ => ∀ c ∈ piece, s.AllowsOther chars c
  | .something _ => piece ≠ [] ∧ ∀ c ∈ piece, s.AllowsAny c
  | .somethingBut chars _ => piece ≠ [] ∧ ∀ c ∈ piece, s.AllowsOther chars c
  | .words _ count => AllowsLength count piece.length ∧ ∀ c ∈ piece, c ∈ CharSet.wordChars
  | .decimals _ count => AllowsLength count piece.length ∧ ∀ c ∈ piece, c ∈ CharSet.digits
  | .anyOf chars => if chars = "" then piece = [] else ∃ c ∈ chars.toList, piece = [c]
  | .startOfLine =>
    piece = [] ∧ (before = [] ∨ (s.multiLine = true ∧ before.getLast? = some '\n'))
  | .endOfLine => piece = [] ∧ (after = [] ∨ (s.multiLine = true ∧ after.head? = some '\n'))
  | _ => False

/-- The calls allow the pieces, each between the pieces before it and those after it. -/
def Splits (s : Settings) (before : List Char) :
    List Call → (pieces : List (List Char)) → (after : List Char) → Prop
  | [], [], _ => True
  | c :: cs, piece :: pieces, after =>
    c.Allows s before piece (pieces.flatten ++ after) ∧ Splits s (before ++ piece) cs pieces after
  | _, _, _ => False

/-- The stretches of a subject from a place on that split into pieces which the calls allow. -/
def SplitsFrom (s : Settings) (subject : List Char) (place : Nat) (cs : List Call)
    (pieces : List (List Char)) : Prop :=
  ∃ after, subject.drop place = pieces.flatten ++ after ∧
    Splits s (subject.take place) cs pieces after

variable {s : Settings} {subject : List Char} {p : Nat}

theorem splitsFrom_nil {pieces : List (List Char)} :
    SplitsFrom s subject p [] pieces ↔ pieces = [] := by
  constructor
  · intro h
    obtain ⟨after, -, hsplits⟩ := h
    cases pieces with
    | nil => rfl
    | cons piece pieces => exact hsplits.elim
  · intro h
    rw [h]
    exact ⟨subject.drop p, rfl, trivial⟩

/-- The lengths that a call allows for a piece of a subject at a place. -/
def Call.AllowsAt (s : Settings) (subject : List Char) (p : Nat) (c : Call) (n : Nat) : Prop :=
  p + n ≤ subject.length ∧
    c.Allows s (subject.take p) ((subject.drop p).take n) (subject.drop (p + n))

/-- A split begins with a piece that its call allows, and goes on behind it. -/
theorem splitsFrom_cons (hp : p ≤ subject.length) {c : Call} {cs : List Call}
    {pieces : List (List Char)} :
    SplitsFrom s subject p (c :: cs) pieces ↔
      ∃ n rest, pieces = (subject.drop p).take n :: rest ∧ c.AllowsAt s subject p n ∧
        SplitsFrom s subject (p + n) cs rest := by
  constructor
  · intro h
    obtain ⟨after, htail, hsplits⟩ := h
    cases pieces with
    | nil => exact hsplits.elim
    | cons piece rest =>
      -- the first piece is what the subject has of its length, and the others split the rest
      obtain ⟨hallows, hrest⟩ := hsplits
      rw [List.flatten_cons, List.append_assoc] at htail
      have htake : (subject.drop p).take piece.length = piece := by
        rw [htail, List.take_left]
      have hdrop : subject.drop (p + piece.length) = rest.flatten ++ after := by
        rw [← List.drop_drop, htail, List.drop_left]
      have hbefore : subject.take (p + piece.length) = subject.take p ++ piece := by
        rw [List.take_add, htake]
      refine ⟨piece.length, rest, by rw [htake], ⟨?_, ?_⟩, after, hdrop, ?_⟩
      · have hlen := congrArg List.length htail
        rw [List.length_drop, List.length_append] at hlen
        omega
      · rw [htake, hdrop]
        exact hallows
      · rw [hbefore]
        exact hrest
  · intro h
    obtain ⟨n, rest, hpieces, ⟨hn, hallows⟩, after, hdrop, hsplits⟩ := h
    rw [hpieces]
    refine ⟨after, ?_, ?_, ?_⟩
    · rw [List.flatten_cons, List.append_assoc, ← hdrop, ← List.drop_drop, List.take_append_drop]
    · rw [← hdrop]
      exact hallows
    · rw [← List.take_add]
      exact hsplits

/-- Between the lengths of the pieces of a split and the place where it ends. -/
theorem SplitsFrom.le_length (hp : p ≤ subject.length) {cs : List Call}
    {pieces : List (List Char)} (h : SplitsFrom s subject p cs pieces) :
    p + pieces.flatten.length ≤ subject.length := by
  obtain ⟨after, htail, -⟩ := h
  have hlen := congrArg List.length htail
  rw [List.length_drop, List.length_append] at hlen
  omega

/-- A stretch of the subject that splits begins at one of the places of the subject. -/
theorem exists_splits_iff {cs : List Call} :
    (∃ before pieces after, subject = before ++ pieces.flatten ++ after ∧
      Splits s before cs pieces after) ↔
    ∃ place ≤ subject.length, ∃ pieces, SplitsFrom s subject place cs pieces := by
  constructor
  · intro h
    obtain ⟨before, pieces, after, hsubject, hsplits⟩ := h
    rw [List.append_assoc] at hsubject
    refine ⟨before.length, ?_, pieces, after, ?_, ?_⟩
    · rw [hsubject, List.length_append]
      exact Nat.le_add_right _ _
    · rw [hsubject, List.drop_left]
    · rw [hsubject, List.take_left]
      exact hsplits
  · intro h
    obtain ⟨place, -, pieces, after, hdrop, hsplits⟩ := h
    refine ⟨subject.take place, pieces, after, ?_, hsplits⟩
    rw [List.append_assoc, ← hdrop, List.take_append_drop]

end FluentRegex
