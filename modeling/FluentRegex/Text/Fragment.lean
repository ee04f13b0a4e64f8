/-!
# Pieces of pattern text

The spellings that calls are put together from: classes, counts in braces, and the search for a
piece in a longer text.
-/

namespace FluentRegex.Text

/-- Whether a text stands somewhere in another. -/
def occursIn (part : List Char) : List Char → Bool
  | [] => part.isEmpty
  | c :: cs => part.isPrefixOf (c :: cs) || occursIn part cs

theorem occursIn_iff {part text : List Char} : occursIn part text = true ↔ part <:+: text := by
  induction text with
  | nil => rw [occursIn, List.isEmpty_iff, List.infix_nil]
  | cons c cs ih =>
    rw [occursIn, Bool.or_eq_true, ih, List.isPrefixOf_iff_prefix, List.infix_cons_iff]

/-- A class of the given characters: `chars_in`. -/
def classOf (chars : String) : String := "[" ++ chars ++ "]"

/-- A class of all but the given characters: `chars_not_in`. -/
def classWithout (chars : String) : String := classOf ("^" ++ chars)

/-- A count in braces. -/
def counted (n : Nat) : String := "\x7b" ++ toString n ++ "\x7d"

/-- A lower and an upper count in braces. -/
def countedBetween (low high : Nat) : String :=
  "\x7b" ++ toString low ++ "," ++ toString high ++ "\x7d"

/-- Exactly so many times, where a positive count is given, and one or more times otherwise:
`repetition`. -/
def rounds (count : Option Nat) : String :=
  match count with
  | some n => if n = 0 then "+" else counted n
  | none => "+"

end FluentRegex.Text
