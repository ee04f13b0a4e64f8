import FluentRegex.Syntax.Escape

/-!
# Counted repetitions

Counts in braces: `{n}`, `{n,}` and `{m,n}`. A question mark after the closing brace makes the
repetition prefer fewer rounds. A count is at most 4294967295.
-/

namespace FluentRegex.Syntax

/-- How often a repetition goes round, and whether it prefers fewer rounds. -/
structure Quantifier where
  min : Nat
  max : Option Nat
  lazily : Bool
deriving DecidableEq, Repr

/-- The largest count. -/
def maxCount : Nat := 0xFFFFFFFF

/-- The number that decimal digits write. -/
def decimalValue (digits : List Char) : Nat :=
  digits.foldl (fun n d => 10 * n + (d.toNat - '0'.toNat)) 0

/-- Reads a count. Blanks around it do not matter; the answer may be a fault, which does not
always come to light. -/
def count (c : Cursor) : Except Fault Nat × Cursor :=
  let first := c.dropBlanks
  let r := Cursor.takeWhile Char.isDigit first.rest.length first
  let span := r.2.since first.pos
  let value :=
    if r.1.isEmpty then .error ⟨.countMissing, span, none⟩
    else if decimalValue r.1 ≤ maxCount then .ok (decimalValue r.1)
    else .error ⟨.countTooLarge, span, none⟩
  (value, (Cursor.takeWhile isBlank r.2.rest.length r.2).2)

/-- Reads the closing brace of a count that began at `start`, and a question mark after it. -/
def closeCount (start min : Nat) (max : Option Nat) (c : Cursor) : Reading Quantifier :=
  if c.peek? ≠ some '}' then .error ⟨.countUnclosed, c.since start, none⟩
  else
    let after := c.next
    let lazily := after.peek? = some '?'
    let stop := if lazily then after.advance else after
    match max with
    | some m =>
      if min ≤ m then .ok (⟨min, some m, lazily⟩, stop)
      else .error ⟨.countReversed, stop.since start, none⟩
    | none => .ok (⟨min, none, lazily⟩, stop)

/-- Reads a counted repetition, from its opening brace on. -/
def countedQuantifier (c : Cursor) : Reading Quantifier :=
  let unclosed : Cursor → Reading Quantifier := fun place =>
    .error ⟨.countUnclosed, place.since c.pos, none⟩
  let first := c.next
  if first.atEnd then unclosed first
  else
    let low := count first
    match low.2.peek? with
    | none => unclosed low.2
    | some ',' =>
      let second := low.2.next
      if second.atEnd then unclosed second
      else match low.1 with
        | .error e => .error e
        | .ok min =>
          if second.peek? = some '}' then closeCount c.pos min none second
          else
            let high := count second
            match high.1 with
            | .error e => .error e
            | .ok max => closeCount c.pos min (some max) high.2
    | some _ =>
      match low.1 with
      | .error e => .error e
      | .ok n => closeCount c.pos n (some n) low.2

/-- Reads one of the repetitions `?`, `*` and `+`, and a question mark after it. -/
def simpleQuantifier (c : Cursor) (min : Nat) (max : Option Nat) : Quantifier × Cursor :=
  let after := c.advance
  if after.peek? = some '?' then (⟨min, max, true⟩, after.advance) else (⟨min, max, false⟩, after)

end FluentRegex.Syntax
