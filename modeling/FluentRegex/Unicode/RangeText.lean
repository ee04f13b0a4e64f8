import FluentRegex.CharSet.Basic

/-!
# Tables of code points written as text

The Unicode tables are kept as text: hexadecimal code points and closed ranges of them, with
blanks or line ends between, as in `"41-5A 61-7A AA"`. A group of related code points, such as
the case variants of one letter, ends with a semicolon.
-/

namespace FluentRegex.RangeText

/-- The value of a hexadecimal digit. -/
def hexDigit? (c : Char) : Option Nat :=
  if '0' ≤ c ∧ c ≤ '9' then some (c.toNat - '0'.toNat)
  else if 'A' ≤ c ∧ c ≤ 'F' then some (c.toNat - 'A'.toNat + 10)
  else if 'a' ≤ c ∧ c ≤ 'f' then some (c.toNat - 'a'.toNat + 10)
  else none

/-- What has been read so far: finished ranges (latest first), the start of an open range, and
the number whose digits are being read. -/
structure Reading where
  ranges : List (Nat × Nat) := []
  lo : Option Nat := none
  number : Option Nat := none

/-- Ends the number that is being read, and with it its range. -/
def Reading.close (r : Reading) : Reading :=
  match r.number with
  | none => r
  | some hi => ⟨(r.lo.getD hi, hi) :: r.ranges, none, none⟩

/-- Reads one more character of the text. -/
def Reading.step (r : Reading) (c : Char) : Reading :=
  match hexDigit? c with
  | some d => { r with number := some (16 * r.number.getD 0 + d) }
  | none => if c = '-' then { r with lo := r.number, number := none } else r.close

/-- The ranges that a text lists, in its order. -/
def ranges (text : List Char) : List (Nat × Nat) :=
  (text.foldl Reading.step {}).close.ranges.reverse

/-- The set of the code points that a text lists. -/
def set (text : String) : CharSet := CharSet.ofCodes (ranges text.toList)

/-- The code points of each group of a text; a semicolon ends a group. -/
def groups (text : String) : List (List Nat) :=
  (text.toList.splitOn ';').map fun g => (ranges g).flatMap fun r =>
    (List.range (r.2 + 1 - r.1)).map (r.1 + ·)

end FluentRegex.RangeText
