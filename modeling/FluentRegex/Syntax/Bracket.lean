import FluentRegex.Syntax.Escape

/-!
# Bracketed classes

A class in brackets lists characters, ranges, escapes and further classes; the operators `&&`,
`--` and `~~` stand between its parts and bind from left to right. `Bracket` is a class that has
been opened and not yet closed; the classes around it wait in a list.
-/

namespace FluentRegex.Syntax

/-- A class that is being read. -/
structure Bracket where
  /-- From the opening bracket to the end of what belongs to the opening. -/
  opening : Span
  negated : Bool
  /-- The operator that waits for its right side, with its left side. -/
  pending : Option (SetOp × ClassTree)
  /-- Where the current list of items begins. -/
  itemsStart : Nat
  /-- The items since the last operator, the latest first. -/
  items : List ClassTree

namespace Bracket

/-- Adds an item. -/
def push (b : Bracket) (item : ClassTree) : Bracket := { b with items := item :: b.items }

/-- The items since the last operator, as one tree. -/
def current (b : Bracket) : ClassTree :=
  match b.items with
  | [] => .nothing ⟨b.itemsStart, b.itemsStart⟩
  | [item] => item
  | last :: _ =>
    let items := b.items.reverse
    .union ⟨(items.head?.getD last).span.start, last.span.stop⟩ items

/-- All that has been read of the class, as one tree. -/
def inner (b : Bracket) : ClassTree :=
  match b.pending with
  | none => b.current
  | some (op, lhs) => .operation ⟨lhs.span.start, b.current.span.stop⟩ op lhs b.current

/-- Continues after an operator, which makes all that was read its left side. -/
def operate (b : Bracket) (op : SetOp) (pos : Nat) : Bracket :=
  { b with pending := some (op, b.inner), itemsStart := pos, items := [] }

/-- Reads the hyphens with which a class may begin; they stand for themselves. -/
def hyphens (start : Nat) : (fuel : Nat) → Cursor → List ClassTree → Reading (List ClassTree)
  | 0, c, items => .ok (items, c)
  | fuel + 1, c, items =>
    if c.peek? = some '-' then
      if c.next.atEnd then .error ⟨.classUnclosed, ⟨start, start⟩, none⟩
      else hyphens start fuel c.next (.literal ⟨c.hereChar, '-', false⟩ :: items)
    else .ok (items, c)

/-- Reads the opening of a class: the bracket, a sign of negation, and the hyphens or the closing
bracket that stand for themselves because they come first. -/
def start (c : Cursor) : Reading Bracket :=
  let first := c.next
  if first.atEnd then .error ⟨.classUnclosed, first.since c.pos, none⟩
  else
    let negated := first.peek? = some '^'
    let body := if negated then first.next else first
    if body.atEnd then .error ⟨.classUnclosed, body.since c.pos, none⟩
    else match hyphens c.pos body.rest.length body [] with
      | .error e => .error e
      | .ok (items, c') =>
        if items.isEmpty ∧ c'.peek? = some ']' then
          let after := c'.next
          if after.atEnd then .error ⟨.classUnclosed, after.since c.pos, none⟩
          else .ok (⟨after.since c.pos, negated, none, body.pos,
            [.literal ⟨c'.hereChar, ']', false⟩]⟩, after)
        else .ok (⟨c'.since c.pos, negated, none, body.pos, items⟩, c')

end Bracket

/-! ## Items -/

/-- Reads an ASCII class such as `[:alpha:]`, from its bracket on, if that is what stands here. -/
def asciiClass? (c : Cursor) : Option (ClassTree × Cursor) :=
  match c.accept? ['[', ':'] with
  | none => none
  | some body =>
    let negated := body.peek? = some '^'
    let nameStart := if negated then body.advance else body
    let name := nameStart.rest.takeWhile (· != ':')
    match (nameStart.advanceBy name.length).accept? [':', ']'], AsciiClass.ofName? name with
    | some after, some kind => some (.ascii (after.since c.pos) negated kind, after)
    | _, _ => none

/-- Reads a character or an escape in brackets. -/
def bracketAtom (c : Cursor) : Reading Atom :=
  match c.peek? with
  | some '\\' => escapeSequence c
  | some d => .ok (.literal d false, c.advance)
  | none => .error ⟨.classUnclosed, c.here, none⟩

/-- An atom as an item of a class. Conditions on the place are no characters. -/
def classItem (span : Span) : Atom → Except Fault ClassTree
  | .literal ch byte => .ok (.literal ⟨span, ch, byte⟩)
  | .shorthand negated s => .ok (.shorthand span negated s)
  | .property negated name => .ok (.property span negated name)
  | .dot => .error ⟨.classEscape, span, none⟩
  | .anchor _ => .error ⟨.classEscape, span, none⟩

/-- An atom as a boundary of a range, which only a literal can be. -/
def rangeBoundary (span : Span) : Atom → Except Fault Literal
  | .literal ch byte => .ok ⟨span, ch, byte⟩
  | _ => .error ⟨.classRangeBoundary, span, none⟩

/-- Reads an item of a class: a range, if a hyphen follows that is neither the last character of
the class nor the start of an operator, and a single atom otherwise. -/
def bracketItem (unclosed : Fault) (c : Cursor) : Reading ClassTree :=
  match bracketAtom c with
  | .error e => .error e
  | .ok (lo, c1) =>
    let span := c1.since c.pos
    let sep := c1.skipBlanks
    if sep.atEnd then .error unclosed
    else if sep.peek? ≠ some '-' ∨ sep.peekPast? = some ']' ∨ sep.peekPast? = some '-' then
      match classItem span lo with
      | .ok item => .ok (item, sep)
      | .error e => .error e
    else
      let second := sep.next
      if second.atEnd then .error unclosed
      else match bracketAtom second with
        | .error e => .error e
        | .ok (hi, c2) =>
          match rangeBoundary span lo, rangeBoundary (c2.since second.pos) hi with
          | .ok a, .ok b =>
            if a.char ≤ b.char then .ok (.range (c2.since c.pos) a b, c2)
            else .error ⟨.classRangeReversed, c2.since c.pos, none⟩
          | .error e, _ => .error e
          | .ok _, .error e => .error e

/-- The operator that starts here. -/
def setOp? (c : Cursor) : Option SetOp :=
  match c.rest with
  | '&' :: '&' :: _ => some .intersection
  | '-' :: '-' :: _ => some .difference
  | '~' :: '~' :: _ => some .symmetricDifference
  | _ => none

/-! ## Classes -/

/-- Reads the items of a class up to its closing bracket. `outer` holds the classes around it. -/
def bracketItems : (fuel : Nat) → Bracket → (outer : List Bracket) → Cursor → Reading Tree
  | 0, b, _, _ => .error ⟨.classUnclosed, b.opening, none⟩
  | fuel + 1, b, outer, c =>
    let here := c.skipBlanks
    let unclosed : Fault := ⟨.classUnclosed, b.opening, none⟩
    match here.peek? with
    | none => .error unclosed
    | some '[' =>
      match asciiClass? here with
      | some (item, after) => bracketItems fuel (b.push item) outer after
      | none =>
        match Bracket.start here with
        | .error e => .error e
        | .ok (nested, after) => bracketItems fuel nested (b :: outer) after
    | some ']' =>
      let span : Span := here.advance.since b.opening.start
      match outer with
      | [] => .ok (.bracket span b.negated b.inner, here.advance)
      | parent :: rest =>
        bracketItems fuel (parent.push (.bracketed span b.negated b.inner)) rest here.advance
    | some _ =>
      match setOp? here with
      | some op => bracketItems fuel (b.operate op (here.pos + 2)) outer (here.advanceBy 2)
      | none =>
        match bracketItem unclosed here with
        | .error e => .error e
        | .ok (item, after) => bracketItems fuel (b.push item) outer after

/-- Reads a class, from its opening bracket on. -/
def bracketClass (c : Cursor) : Reading Tree :=
  match Bracket.start c with
  | .error e => .error e
  | .ok (b, c') => bracketItems (c'.rest.length + 1) b [] c'

end FluentRegex.Syntax
