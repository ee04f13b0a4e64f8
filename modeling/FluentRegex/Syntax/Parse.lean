import FluentRegex.Syntax.Bracket
import FluentRegex.Syntax.Count
import FluentRegex.Syntax.Group
import FluentRegex.Syntax.Depth

/-!
# Reading a pattern

A pattern is read from left to right, one item at a time (`Progress.step`). What has been read is
a `Level`: the finished branches of an alternation and the items of the current one. An opening
parenthesis puts the level aside and starts a new one, which the closing parenthesis turns into an
item of the level that was put aside. So what a prefix of the pattern leaves behind is one
`Progress`, and the reading of the rest depends on nothing else.
-/

namespace FluentRegex.Syntax

/-- What has been read of a pattern or of a group. -/
structure Level where
  /-- Where the first branch starts. -/
  start : Nat
  /-- Where the current branch starts. -/
  branchStart : Nat
  /-- The finished branches, the latest first. -/
  branches : List Tree := []
  /-- The items of the current branch, the latest first. -/
  items : List Tree := []

namespace Level

/-- A level with nothing in it. -/
def fresh (pos : Nat) : Level := { start := pos, branchStart := pos }

/-- Adds an item to the current branch. -/
def push (l : Level) (item : Tree) : Level := { l with items := item :: l.items }

/-- The current branch, when it ends at `stop`. -/
def branch (l : Level) (stop : Nat) : Tree :=
  match l.items with
  | [] => .empty ⟨l.branchStart, stop⟩
  | [item] => item
  | items => .sequence ⟨l.branchStart, stop⟩ items.reverse

/-- Ends the current branch at `stop` and begins another after the bar. -/
def bar (l : Level) (stop : Nat) : Level :=
  { start := l.start, branchStart := stop + 1, branches := l.branch stop :: l.branches }

/-- All that has been read, as one tree. -/
def tree (l : Level) (stop : Nat) : Tree :=
  match l.branches with
  | [] => l.branch stop
  | branches => .alternation ⟨l.start, stop⟩ (l.branch stop :: branches).reverse

end Level

/-- A group that waits for its closing parenthesis. -/
structure OpenGroup where
  openAt : Nat
  kind : GroupKind
  /-- The mode for blanks around the group. -/
  verbose : Bool
  /-- What was read before the group. -/
  before : Level

/-- How far the reading of a pattern has come. -/
structure Progress where
  cursor : Cursor
  level : Level
  /-- The open groups, the innermost first. -/
  opened : List OpenGroup := []
  groups : Groups := {}

namespace Progress

/-- The start of a pattern. -/
def start (pattern : List Char) : Progress :=
  { cursor := Cursor.start pattern, level := Level.fresh 0 }

/-- Adds an item and goes on after it. -/
def push (p : Progress) (item : Tree) (c : Cursor) : Progress :=
  { p with cursor := c, level := p.level.push item }

/-- Reads an opening parenthesis and what belongs to it. -/
def openGroup (p : Progress) : Except Fault Progress :=
  match groupOpening p.groups p.cursor with
  | .error e => .error e
  | .ok ((.flags items, groups), c) =>
    let verbose := (verboseFlag? items).getD c.verbose
    .ok { p with
      cursor := { c with verbose := verbose }
      level := p.level.push (.flags (c.since p.cursor.pos) items)
      groups := groups }
  | .ok ((.group kind, groups), c) =>
    let verbose := match kind with
      | .plain items => (verboseFlag? items).getD c.verbose
      | _ => c.verbose
    .ok {
      cursor := { c with verbose := verbose }
      level := Level.fresh c.pos
      opened := ⟨p.cursor.pos, kind, c.verbose, p.level⟩ :: p.opened
      groups := groups }

/-- Reads a closing parenthesis. -/
def closeGroup (p : Progress) : Except Fault Progress :=
  match p.opened with
  | [] => .error ⟨.groupUnopened, p.cursor.hereChar, none⟩
  | g :: opened =>
    let after := { p.cursor.advance with verbose := g.verbose }
    .ok { p with
      cursor := after
      level := g.before.push (.group (after.since g.openAt) g.kind (p.level.tree p.cursor.pos))
      opened := opened }

/-- Puts the latest item under a repetition. Nothing, and flags alone, cannot be repeated. -/
def quantify (p : Progress) (q : Reading Quantifier) : Except Fault Progress :=
  match p.level.items with
  | [] => .error ⟨.repetitionMissing, p.cursor.here, none⟩
  | .empty _ :: _ => .error ⟨.repetitionMissing, p.cursor.here, none⟩
  | .flags _ _ :: _ => .error ⟨.repetitionMissing, p.cursor.here, none⟩
  | item :: items =>
    match q with
    | .error e => .error e
    | .ok (q, c) =>
      .ok { p with
        cursor := c
        level := { p.level with
          items := .repetition (c.since item.start) q.min q.max q.lazily item :: items } }

/-- Reads the item that begins with the character `d` at the cursor. -/
def step (p : Progress) (d : Char) : Except Fault Progress :=
  let c := p.cursor
  match d with
  | '(' => p.openGroup
  | ')' => p.closeGroup
  | '|' => .ok { p with cursor := c.advance, level := p.level.bar c.pos }
  | '[' =>
    match bracketClass c with
    | .error e => .error e
    | .ok (item, c') => .ok (p.push item c')
  | '?' => p.quantify (.ok (simpleQuantifier c 0 (some 1)))
  | '*' => p.quantify (.ok (simpleQuantifier c 0 none))
  | '+' => p.quantify (.ok (simpleQuantifier c 1 none))
  | '{' => p.quantify (countedQuantifier c)
  | '\\' =>
    match escapeSequence c with
    | .error e => .error e
    | .ok (a, c') => .ok (p.push (.atom (c'.since c.pos) a) c')
  | '.' => .ok (p.push (.atom c.hereChar .dot) c.advance)
  | '^' => .ok (p.push (.atom c.hereChar (.anchor .lineStart)) c.advance)
  | '$' => .ok (p.push (.atom c.hereChar (.anchor .lineEnd)) c.advance)
  | d => .ok (p.push (.atom c.hereChar (.literal d false)) c.advance)

/-- Reads on to the end of the pattern. `fuel` is at least the number of characters left. -/
def run : (fuel : Nat) → Progress → Except Fault Progress
  | 0, p => .ok p
  | fuel + 1, p =>
    let p := { p with cursor := p.cursor.skipBlanks }
    match p.cursor.peek? with
    | none => .ok p
    | some d =>
      match p.step d with
      | .error e => .error e
      | .ok p' => run fuel p'

/-- The tree of a pattern that has been read to its end. -/
def finish (p : Progress) : Except Fault Tree :=
  match p.opened with
  | g :: _ => .error ⟨.groupUnclosed, ⟨g.openAt, g.openAt + 1⟩, none⟩
  | [] =>
    let tree := p.level.tree p.cursor.pos
    match tree.tooDeep? maxDepth with
    | some span => .error ⟨.nestedTooDeep maxDepth, span, none⟩
    | none => .ok tree

end Progress

/-- The tree of a pattern. -/
def parse (pattern : List Char) : Except Fault Tree :=
  match Progress.run (pattern.length + 1) (Progress.start pattern) with
  | .error e => .error e
  | .ok p => p.finish

end FluentRegex.Syntax
