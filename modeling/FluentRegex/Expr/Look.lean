import FluentRegex.Unicode.Classes

/-!
# Conditions on a place

A place in a text lies between two characters, either of which may be missing. Every condition
that a pattern can put on a place looks at these two characters only (`Look.holds`).
-/

namespace FluentRegex

/-- What a place is to a word that it touches. -/
inductive WordTest
  | boundary
  | notBoundary
  | start
  | stop
  | startHalf
  | stopHalf
deriving DecidableEq, Repr

/-- A condition on a place. With `unicode` off, only ASCII characters make words. -/
inductive Look
  | textStart
  | textEnd
  | lineStart
  | lineEnd
  | crlfLineStart
  | crlfLineEnd
  | word (test : WordTest) (unicode : Bool)
deriving DecidableEq, Repr

/-- Whether a word reaches a place from a side with this character. -/
def isWordSide (unicode : Bool) : Option Char → Bool
  | none => false
  | some c => (if unicode then CharSet.wordChars else CharSet.asciiWordChars).contains c

/-- Whether a test holds between a side that belongs to a word or not, and another. -/
def WordTest.holds (before after : Bool) : WordTest → Bool
  | .boundary => before != after
  | .notBoundary => before == after
  | .start => !before && after
  | .stop => before && !after
  | .startHalf => !before
  | .stopHalf => !after

/-- Whether a condition holds between two characters, where `none` is an end of the text. A line
ends at a line feed; where carriage returns count, also at a carriage return, but not inside the
pair of both. -/
def Look.holds (before after : Option Char) : Look → Bool
  | .textStart => before.isNone
  | .textEnd => after.isNone
  | .lineStart => before.isNone || before == some '\n'
  | .lineEnd => after.isNone || after == some '\n'
  | .crlfLineStart =>
    before.isNone || before == some '\n' || (before == some '\r' && after != some '\n')
  | .crlfLineEnd =>
    after.isNone || after == some '\r' || (after == some '\n' && before != some '\r')
  | .word test unicode => test.holds (isWordSide unicode before) (isWordSide unicode after)

end FluentRegex
