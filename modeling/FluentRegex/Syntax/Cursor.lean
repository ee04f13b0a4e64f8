import FluentRegex.Syntax.Fault
import FluentRegex.Unicode.Classes

/-!
# The place in a pattern that is being read

A `Cursor` holds the characters still to be read and the number of those read. In verbose mode
blanks and comments between the parts of a pattern do not count: `skipBlanks` passes over them,
and `next` is a step over one character and what may be skipped after it.
-/

namespace FluentRegex.Syntax

/-- A place in a pattern, and whether blanks are to be skipped there. -/
structure Cursor where
  pos : Nat
  rest : List Char
  verbose : Bool
deriving Repr

namespace Cursor

/-- The start of a pattern. -/
def start (pattern : List Char) : Cursor := ⟨0, pattern, false⟩

/-- The character at the cursor. -/
def peek? (c : Cursor) : Option Char := c.rest.head?

/-- Whether the pattern ends here. -/
def atEnd (c : Cursor) : Bool := c.rest.isEmpty

/-- The empty stretch at the cursor. -/
def here (c : Cursor) : Span := ⟨c.pos, c.pos⟩

/-- The stretch of the character at the cursor. -/
def hereChar (c : Cursor) : Span := ⟨c.pos, c.pos + 1⟩

/-- The stretch from a place that was read before up to the cursor. -/
def since (c : Cursor) (start : Nat) : Span := ⟨start, c.pos⟩

/-- A step over `n` characters. -/
def advanceBy (c : Cursor) (n : Nat) : Cursor :=
  { c with pos := c.pos + (c.rest.take n).length, rest := c.rest.drop n }

/-- A step over one character. -/
def advance (c : Cursor) : Cursor := c.advanceBy 1

/-- Passes over blanks and comments; a comment runs from `#` to the end of its line. -/
def skipFrom : (inComment : Bool) → Nat → List Char → Nat × List Char
  | _, pos, [] => (pos, [])
  | true, pos, c :: cs => skipFrom (c != '\n') (pos + 1) cs
  | false, pos, c :: cs =>
    if isBlank c then skipFrom false (pos + 1) cs
    else if c = '#' then skipFrom true (pos + 1) cs
    else (pos, c :: cs)

/-- Passes over blanks and comments, in verbose mode. -/
def skipBlanks (c : Cursor) : Cursor :=
  if c.verbose then
    let r := skipFrom false c.pos c.rest
    { c with pos := r.1, rest := r.2 }
  else c

/-- A step over one character and the blanks after it. -/
def next (c : Cursor) : Cursor := c.advance.skipBlanks

/-- The first character that is not blank; one `#` is passed over, too. -/
def firstPast : (inComment : Bool) → List Char → Option Char
  | _, [] => none
  | inComment, c :: cs =>
    if isBlank c then firstPast inComment cs
    else if !inComment && c == '#' then firstPast true cs
    else some c

/-- The character that will come after the one at the cursor. -/
def peekPast? (c : Cursor) : Option Char :=
  if c.verbose then
    match firstPast false (c.rest.drop 1) with
    | some d => some d
    | none => (c.rest.drop 1).head?
  else (c.rest.drop 1).head?

/-- The cursor after the given text, if that is what comes next. -/
def accept? (c : Cursor) (text : List Char) : Option Cursor :=
  if text.isPrefixOf c.rest then some (c.advanceBy text.length) else none

/-- The characters as long as a test holds, and the cursor after them. Each step passes over the
blanks that follow; `fuel` is at least the number of characters left. -/
def takeWhile (p : Char → Bool) : (fuel : Nat) → Cursor → List Char × Cursor
  | 0, c => ([], c)
  | fuel + 1, c =>
    match c.peek? with
    | some d =>
      if p d then
        let r := takeWhile p fuel c.next
        (d :: r.1, r.2)
      else ([], c)
    | none => ([], c)

/-- Passes over blanks whatever the mode. -/
def dropBlanks (c : Cursor) : Cursor :=
  let blanks := c.rest.takeWhile isBlank
  c.advanceBy blanks.length

end Cursor

end FluentRegex.Syntax
