import FluentRegex.Syntax.Fault

/-!
# How deep a pattern is nested

Every group, class, repetition, sequence and alternation is one level deeper than what it stands
in. A pattern may have 250 levels. The fault is the first node, read from the left, that goes
beyond.
-/

namespace FluentRegex.Syntax

/-- The number of levels that a pattern may have. -/
def maxDepth : Nat := 250

mutual

/-- The first part of a class that lies deeper than `room` levels. -/
def ClassTree.tooDeep? (room : Nat) : ClassTree → Option Span
  | .bracketed span _ inner =>
    match room with
    | 0 => some span
    | room + 1 => inner.tooDeep? room
  | .union span items =>
    match room with
    | 0 => some span
    | room + 1 => ClassTree.anyTooDeep? room items
  | .operation span _ lhs rhs =>
    match room with
    | 0 => some span
    | room + 1 => (lhs.tooDeep? room).or (rhs.tooDeep? room)
  | _ => none

/-- The first part of some classes that lies deeper than `room` levels. -/
def ClassTree.anyTooDeep? (room : Nat) : List ClassTree → Option Span
  | [] => none
  | t :: ts => (t.tooDeep? room).or (ClassTree.anyTooDeep? room ts)

end

mutual

/-- The first node of a tree that lies deeper than `room` levels. -/
def Tree.tooDeep? (room : Nat) : Tree → Option Span
  | .bracket span _ inner =>
    match room with
    | 0 => some span
    | room + 1 => inner.tooDeep? room
  | .repetition span _ _ _ body =>
    match room with
    | 0 => some span
    | room + 1 => body.tooDeep? room
  | .group span _ body =>
    match room with
    | 0 => some span
    | room + 1 => body.tooDeep? room
  | .alternation span branches =>
    match room with
    | 0 => some span
    | room + 1 => Tree.anyTooDeep? room branches
  | .sequence span items =>
    match room with
    | 0 => some span
    | room + 1 => Tree.anyTooDeep? room items
  | _ => none

/-- The first node of some trees that lies deeper than `room` levels. -/
def Tree.anyTooDeep? (room : Nat) : List Tree → Option Span
  | [] => none
  | t :: ts => (t.tooDeep? room).or (Tree.anyTooDeep? room ts)

end

end FluentRegex.Syntax
