import FluentRegex.CharSet.Basic

/-!
# Syntax trees of patterns

A pattern is read into a tree whose nodes remember where in the pattern they stand (`Span`,
counted in characters), so that whatever is wrong with a node can be shown in the pattern. The
tree keeps the pattern's own words: what a class or a flag means is decided when the tree is
turned into an expression.
-/

namespace FluentRegex

/-- A stretch of a pattern, from the character at `start` to just before the one at `stop`. -/
structure Span where
  start : Nat
  stop : Nat
deriving DecidableEq, Repr, Inhabited

namespace Syntax

/-- A flag that a pattern can set for the rest of a group. -/
inductive Flag
  | caseInsensitive
  | multiLine
  | dotAll
  | swapGreed
  | unicode
  | crlf
  | verbose
deriving DecidableEq, Repr

/-- The flag that a letter names. -/
def Flag.ofLetter? : Char → Option Flag
  | 'i' => some .caseInsensitive
  | 'm' => some .multiLine
  | 's' => some .dotAll
  | 'U' => some .swapGreed
  | 'u' => some .unicode
  | 'R' => some .crlf
  | 'x' => some .verbose
  | _ => none

/-- One part of a list of flags: a flag, or the sign that switches the following ones off. -/
inductive FlagItem
  | flag (f : Flag)
  | negation
deriving DecidableEq, Repr

/-- A condition on a place in the subject. -/
inductive Anchor
  | lineStart
  | lineEnd
  | textStart
  | textEnd
  | wordBoundary
  | notWordBoundary
  | wordStart
  | wordEnd
  | wordStartHalf
  | wordEndHalf
deriving DecidableEq, Repr

/-- The classes with a letter of their own: `\d`, `\s` and `\w`. -/
inductive Shorthand
  | digit
  | blank
  | word
deriving DecidableEq, Repr

/-- How a pattern names a Unicode property: by one letter, by a name, or by a name and a value. -/
inductive PropertyName
  | name (text : String)
  | valued (property value : String)
deriving DecidableEq, Repr

/-- The ASCII classes that have a name inside brackets, as in `[[:alpha:]]`. -/
inductive AsciiClass
  | alnum | alpha | ascii | blank | cntrl | digit | graph | lower | print | punct | space | upper
  | word | xdigit
deriving DecidableEq, Repr

/-- The ASCII class with a name. -/
def AsciiClass.ofName? (name : List Char) : Option AsciiClass :=
  match String.ofList name with
  | "alnum" => some .alnum
  | "alpha" => some .alpha
  | "ascii" => some .ascii
  | "blank" => some .blank
  | "cntrl" => some .cntrl
  | "digit" => some .digit
  | "graph" => some .graph
  | "lower" => some .lower
  | "print" => some .print
  | "punct" => some .punct
  | "space" => some .space
  | "upper" => some .upper
  | "word" => some .word
  | "xdigit" => some .xdigit
  | _ => none

/-- What stands for itself in a pattern, or an escape. `byte` marks the form `\xHH`, which names a
byte when Unicode is off. -/
inductive Atom
  | literal (c : Char) (byte : Bool)
  | dot
  | anchor (a : Anchor)
  | shorthand (negated : Bool) (s : Shorthand)
  | property (negated : Bool) (name : PropertyName)
deriving DecidableEq, Repr

/-- A literal character in brackets, and where it stands. -/
structure Literal where
  span : Span
  char : Char
  byte : Bool
deriving DecidableEq, Repr

/-- The operators between the parts of a bracketed class. -/
inductive SetOp
  | intersection
  | difference
  | symmetricDifference
deriving DecidableEq, Repr

/-- What stands between the brackets of a class. -/
inductive ClassTree
  | nothing (span : Span)
  | literal (l : Literal)
  | range (span : Span) (lo hi : Literal)
  | ascii (span : Span) (negated : Bool) (c : AsciiClass)
  | shorthand (span : Span) (negated : Bool) (s : Shorthand)
  | property (span : Span) (negated : Bool) (name : PropertyName)
  | bracketed (span : Span) (negated : Bool) (inner : ClassTree)
  | union (span : Span) (items : List ClassTree)
  | operation (span : Span) (op : SetOp) (lhs rhs : ClassTree)
deriving Repr, Inhabited

/-- Where a part of a class stands. -/
def ClassTree.span : ClassTree → Span
  | .nothing s => s
  | .literal l => l.span
  | .range s _ _ => s
  | .ascii s _ _ => s
  | .shorthand s _ _ => s
  | .property s _ _ => s
  | .bracketed s _ _ => s
  | .union s _ => s
  | .operation s _ _ _ => s

/-- What a group is for: to capture, to capture under a name, or to hold its parts together under
flags of its own. -/
inductive GroupKind
  | capture (index : Nat)
  | named (index : Nat) (name : String)
  | plain (flags : List FlagItem)
deriving DecidableEq, Repr

/-- A pattern, or a part of one. -/
inductive Tree
  | empty (span : Span)
  | flags (span : Span) (items : List FlagItem)
  | atom (span : Span) (a : Atom)
  | bracket (span : Span) (negated : Bool) (inner : ClassTree)
  | repetition (span : Span) (min : Nat) (max : Option Nat) (lazily : Bool) (body : Tree)
  | group (span : Span) (kind : GroupKind) (body : Tree)
  | alternation (span : Span) (branches : List Tree)
  | sequence (span : Span) (items : List Tree)
deriving Repr, Inhabited

/-- Where a node starts. -/
def Tree.start : Tree → Nat
  | .empty s => s.start
  | .flags s _ => s.start
  | .atom s _ => s.start
  | .bracket s _ _ => s.start
  | .repetition s _ _ _ _ => s.start
  | .group s _ _ => s.start
  | .alternation s _ => s.start
  | .sequence s _ => s.start

end Syntax

end FluentRegex
