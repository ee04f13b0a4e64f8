import FluentRegex.Syntax.Cursor
import FluentRegex.Text.Escape
import FluentRegex.Unicode.RangeText

/-!
# Escapes

What may follow a backslash: a literal character, a hexadecimal code point, a Unicode property, a
class with a letter of its own, or a condition on the place.
-/

namespace FluentRegex.Syntax

/-- The result of reading a part of a pattern: what was read, and the cursor after it. -/
abbrev Reading (α : Type) := Except Fault (α × Cursor)

/-! ## Code points -/

/-- The character with a code point, if there is one. -/
def scalar? (n : Nat) : Option Char := if n.isValidChar then some (Char.ofNat n) else none

/-- The number that hexadecimal digits write. -/
def hexValue (digits : List Char) : Nat :=
  digits.foldl (fun n d => 16 * n + (RangeText.hexDigit? d).getD 0) 0

/-- Whether a character is a hexadecimal digit. -/
def isHexDigit (c : Char) : Bool := (RangeText.hexDigit? c).isSome

/-- Reads exactly so many hexadecimal digits. -/
def hexDigits : Nat → Cursor → Reading (List Char)
  | 0, c => .ok ([], c)
  | n + 1, c =>
    match c.peek? with
    | none => .error ⟨.escapeUnfinished, c.here, none⟩
    | some d =>
      if isHexDigit d then
        match hexDigits n c.next with
        | .ok (ds, c') => .ok (d :: ds, c')
        | .error e => .error e
      else .error ⟨.hexDigit, c.hereChar, none⟩

/-- Reads a code point of fixed length, from its first digit on. -/
def fixedHex (length : Nat) (c : Cursor) : Reading Char :=
  match hexDigits length c with
  | .error e => .error e
  | .ok (ds, c') =>
    match scalar? (hexValue ds) with
    | some d => .ok (d, c')
    | none => .error ⟨.hexNotScalar, c'.since c.pos, none⟩

/-- Reads a code point in braces, from the opening brace on. -/
def bracedHex (c : Cursor) : Reading Char :=
  let r := Cursor.takeWhile isHexDigit c.rest.length c.next
  let after := r.2
  match after.peek? with
  | none => .error ⟨.escapeUnfinished, after.since c.pos, none⟩
  | some d =>
    if d = '}' then
      if r.1.isEmpty then .error ⟨.hexEmpty, after.next.since c.pos, none⟩
      else match scalar? (hexValue r.1) with
        | some d => .ok (d, after.next)
        | none => .error ⟨.hexNotScalar, ⟨c.pos + 1, after.pos⟩, none⟩
    else .error ⟨.hexDigit, after.hereChar, none⟩

/-- Reads a code point, from the letter that announces it on. -/
def hexEscape (letter : Char) (c : Cursor) : Reading Atom :=
  let first := c.next
  match first.peek? with
  | none => .error ⟨.escapeUnfinished, first.here, none⟩
  | some d =>
    if d = '{' then
      match bracedHex first with
      | .ok (ch, c') => .ok (.literal ch false, c')
      | .error e => .error e
    else
      match fixedHex (if letter = 'x' then 2 else if letter = 'u' then 4 else 8) first with
      | .ok (ch, c') => .ok (.literal ch (letter = 'x'), c')
      | .error e => .error e

/-! ## Properties -/

/-- The text before and after the first place where `mark` stands. -/
def splitAtMark? (mark : List Char) : List Char → Option (List Char × List Char)
  | [] => none
  | c :: cs =>
    if mark.isPrefixOf (c :: cs) then some ([], (c :: cs).drop mark.length)
    else (splitAtMark? mark cs).map fun r => (c :: r.1, r.2)

/-- The property that a text in braces names, and whether the text asks for inequality. -/
def propertyName (text : List Char) : PropertyName × Bool :=
  let valued := fun (r : List Char × List Char) =>
    PropertyName.valued (String.ofList r.1) (String.ofList r.2)
  match splitAtMark? ['!', '='] text with
  | some r => (valued r, true)
  | none => match splitAtMark? [':'] text with
    | some r => (valued r, false)
    | none => match splitAtMark? ['='] text with
      | some r => (valued r, false)
      | none => (.name (String.ofList text), false)

/-- Reads a Unicode property, from its `p` or `P` on. -/
def propertyEscape (negated : Bool) (c : Cursor) : Reading Atom :=
  let first := c.next
  match first.peek? with
  | none => .error ⟨.escapeUnfinished, first.here, none⟩
  | some d =>
    if d = '{' then
      let r := Cursor.takeWhile (· != '}') first.rest.length first.next
      if r.2.atEnd then .error ⟨.escapeUnfinished, r.2.here, none⟩
      else
        let name := propertyName r.1
        .ok (.property (negated != name.2) name.1, r.2.advance)
    else if d = '\\' then .error ⟨.propertySyntax, first.hereChar, none⟩
    else .ok (.property negated (.name (String.ofList [d])), first.next)

/-! ## Escapes of one letter -/

/-- Reads what follows `\b` when a brace does: the name of a kind of word boundary. What cannot be
such a name is left to be read as a count. -/
def wordBoundary (start : Nat) (c : Cursor) : Reading Atom :=
  let first := c.next
  let isName := fun (d : Char) => d.isAlpha || d == '-'
  match first.peek? with
  | none => .error ⟨.wordBoundaryOrCount, first.since start, none⟩
  | some d =>
    if isName d then
      let r := Cursor.takeWhile isName first.rest.length first
      if r.2.peek? = some '}' then
        match String.ofList r.1 with
        | "start" => .ok (.anchor .wordStart, r.2.advance)
        | "end" => .ok (.anchor .wordEnd, r.2.advance)
        | "start-half" => .ok (.anchor .wordStartHalf, r.2.advance)
        | "end-half" => .ok (.anchor .wordEndHalf, r.2.advance)
        | _ => .error ⟨.wordBoundaryUnknown, r.2.since first.pos, none⟩
      else .error ⟨.wordBoundaryUnclosed, r.2.since c.pos, none⟩
    else .ok (.anchor .wordBoundary, c)

/-- The escapes of one letter that stand for a character or for a condition on the place. -/
def letterEscape? : Char → Option Atom
  | 'a' => some (.literal '\x07' false)
  | 'f' => some (.literal '\x0c' false)
  | 't' => some (.literal '\t' false)
  | 'n' => some (.literal '\n' false)
  | 'r' => some (.literal '\r' false)
  | 'v' => some (.literal '\x0b' false)
  | 'A' => some (.anchor .textStart)
  | 'z' => some (.anchor .textEnd)
  | 'b' => some (.anchor .wordBoundary)
  | 'B' => some (.anchor .notWordBoundary)
  | '<' => some (.anchor .wordStart)
  | '>' => some (.anchor .wordEnd)
  | _ => none

/-- The class with a letter of its own, and whether the letter negates it. -/
def shorthand? : Char → Option (Bool × Shorthand)
  | 'd' => some (false, .digit)
  | 'D' => some (true, .digit)
  | 's' => some (false, .blank)
  | 'S' => some (true, .blank)
  | 'w' => some (false, .word)
  | 'W' => some (true, .word)
  | _ => none

/-- Reads an escape, from its backslash on. -/
def escapeSequence (c : Cursor) : Reading Atom :=
  let letter := c.advance
  let after := letter.advance
  match letter.peek? with
  | none => .error ⟨.escapeUnfinished, letter.since c.pos, none⟩
  | some d =>
    if d.isDigit then .error ⟨.backreference, after.since c.pos, none⟩
    else if d = 'x' ∨ d = 'u' ∨ d = 'U' then hexEscape d letter
    else if d = 'p' ∨ d = 'P' then propertyEscape (d = 'P') letter
    else match shorthand? d with
      | some (negated, s) => .ok (.shorthand negated s, after)
      | none =>
        if isEscapable d then .ok (.literal d false, after)
        else match letterEscape? d with
          | some a =>
            if d = 'b' ∧ after.peek? = some '{' then wordBoundary c.pos after else .ok (a, after)
          | none => .error ⟨.escapeUnrecognized, after.since c.pos, none⟩

end FluentRegex.Syntax
