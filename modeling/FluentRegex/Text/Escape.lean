/-!
# Escaping literal text

A pattern gives some characters a meaning of their own. `escape`, which is `sanitize`, puts a
backslash before each of them, and before the delimiter if the dialect knows an escaped form of it,
so that the result stands for the text itself both outside and inside brackets.
-/

namespace FluentRegex

/-- Characters with a meaning of their own, outside or inside brackets: `is_meta_character`. -/
def isMeta (c : Char) : Bool :=
  ['\\', '.', '+', '*', '?', '(', ')', '|', '[', ']', '{', '}', '^', '$', '#', '&', '-', '~'].contains c

/-- Characters that a backslash may precede without changing them, `is_escapeable_character`: the
ASCII characters other than letters, digits and the angle brackets, which mark word boundaries. -/
def isEscapable (c : Char) : Bool :=
  isMeta c || (c.toNat < 0x80 && !c.isAlphanum && c != '<' && c != '>')

/-- Whether a character of literal text takes a backslash under a delimiter. -/
def needsEscape (delimiter c : Char) : Bool :=
  isMeta c || (isEscapable delimiter && c == delimiter)

/-- Literal text with its special characters escaped. -/
def escapeChars (delimiter : Char) : List Char → List Char
  | [] => []
  | c :: cs =>
    if needsEscape delimiter c then '\\' :: c :: escapeChars delimiter cs
    else c :: escapeChars delimiter cs

/-- Text that stands for itself in a pattern between the given delimiters: `sanitize`. -/
def escape (text : String) (delimiter : Char) : String :=
  String.ofList (escapeChars delimiter text.toList)

theorem escapeChars_append (delimiter : Char) (a b : List Char) :
    escapeChars delimiter (a ++ b) = escapeChars delimiter a ++ escapeChars delimiter b := by
  induction a with
  | nil => rfl
  | cons c cs ih => by_cases h : needsEscape delimiter c <;> simp [escapeChars, h, ih]

end FluentRegex
