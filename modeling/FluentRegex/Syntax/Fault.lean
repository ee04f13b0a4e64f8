import FluentRegex.Syntax.Tree

/-!
# What can be wrong with a pattern

A `Fault` is a cause and the place it points at; a fault about something that occurs twice also
points at the first occurrence. `Cause.text` is the one place where the wording stands.
-/

namespace FluentRegex.Syntax

/-- Why a pattern is refused. -/
inductive Cause
  | classUnclosed
  | classRangeReversed
  | classRangeBoundary
  | classEscape
  | escapeUnrecognized
  | escapeUnfinished
  | backreference
  | repetitionMissing
  | countMissing
  | countUnclosed
  | countReversed
  | countTooLarge
  | groupUnclosed
  | groupUnopened
  | nestedTooDeep (limit : Nat)
  | nameCharacter
  | nameEmpty
  | nameUnclosed
  | nameDuplicate
  | flagUnrecognized
  | flagDuplicate
  | flagNegationRepeated
  | flagNegationDangling
  | flagsUnclosed
  | lookAround
  | hexDigit
  | hexEmpty
  | hexNotScalar
  | propertySyntax
  | propertyUnknown
  | propertyValueUnknown
  | unicodeNotAllowed
  | invalidUtf8
  | wordBoundaryOrCount
  | wordBoundaryUnknown
  | wordBoundaryUnclosed
deriving DecidableEq, Repr

/-- The wording of a cause. -/
def Cause.text : Cause → String
  | .classUnclosed => "unclosed character class"
  | .classRangeReversed => "invalid character class range, the start must be <= the end"
  | .classRangeBoundary => "invalid range boundary, must be a literal"
  | .classEscape => "invalid escape sequence found in character class"
  | .escapeUnrecognized => "unrecognized escape sequence"
  | .escapeUnfinished => "incomplete escape sequence, reached end of pattern prematurely"
  | .backreference => "backreferences are not supported"
  | .repetitionMissing => "repetition operator missing expression"
  | .countMissing => "repetition quantifier expects a valid decimal"
  | .countUnclosed => "unclosed counted repetition"
  | .countReversed => "invalid repetition count range, the start must be <= the end"
  | .countTooLarge => "decimal literal invalid"
  | .groupUnclosed => "unclosed group"
  | .groupUnopened => "unopened group"
  | .nestedTooDeep limit =>
    "exceed the maximum number of nested parentheses/brackets (" ++ toString limit ++ ")"
  | .nameCharacter => "invalid capture group character"
  | .nameEmpty => "empty capture group name"
  | .nameUnclosed => "unclosed capture group name"
  | .nameDuplicate => "duplicate capture group name"
  | .flagUnrecognized => "unrecognized flag"
  | .flagDuplicate => "duplicate flag"
  | .flagNegationRepeated => "flag negation operator repeated"
  | .flagNegationDangling => "dangling flag negation operator"
  | .flagsUnclosed => "expected flag but got end of regex"
  | .lookAround => "look-around, including look-ahead and look-behind, is not supported"
  | .hexDigit => "invalid hexadecimal digit"
  | .hexEmpty => "hexadecimal literal empty"
  | .hexNotScalar => "hexadecimal literal is not a Unicode scalar value"
  | .propertySyntax => "invalid Unicode character class"
  | .propertyUnknown => "Unicode property not found"
  | .propertyValueUnknown => "Unicode property value not found"
  | .unicodeNotAllowed => "Unicode not allowed here"
  | .invalidUtf8 => "pattern can match invalid UTF-8"
  | .wordBoundaryOrCount =>
    "found either the beginning of a special word boundary or a bounded repetition on a \\b " ++
      "with an opening brace, but no closing brace"
  | .wordBoundaryUnknown =>
    "unrecognized special word boundary assertion, valid choices are: start, end, start-half " ++
      "or end-half"
  | .wordBoundaryUnclosed =>
    "special word boundary assertion is either unclosed or contains an invalid character"

/-- What is wrong with a pattern, and where. -/
structure Fault where
  cause : Cause
  span : Span
  /-- The first occurrence, when the fault is that something occurs again. -/
  earlier : Option Span := none
deriving DecidableEq, Repr

end FluentRegex.Syntax
