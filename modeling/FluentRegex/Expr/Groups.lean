import FluentRegex.Expr.Basic

/-!
# The groups of an expression

The table of groups has an entry per number: the name, if the group has one. Entry 0 is the whole
match. A number whose group is gone, because it stood in a repetition that goes round no times,
has an entry without a name as long as a group with a higher number is left.
-/

namespace FluentRegex

/-- Enters a group, unless its number is taken, after empty entries for the numbers in between. -/
def enterGroup (table : List (Option String)) (index : Nat) (name : Option String) :
    List (Option String) :=
  if index < table.length then table
  else table ++ List.replicate (index - table.length) none ++ [name]

namespace Expr

/-- Enters all groups of an expression, in the order in which they open. -/
def enterGroups (table : List (Option String)) : Expr → List (Option String)
  | .empty => table
  | .set _ => table
  | .look _ => table
  | .group index name e => e.enterGroups (enterGroup table index name)
  | .rep _ _ _ e => e.enterGroups table
  | .seq a b => b.enterGroups (a.enterGroups table)
  | .alt a b => b.enterGroups (a.enterGroups table)

/-- The table of groups of an expression. -/
def groupNames (e : Expr) : List (Option String) := e.enterGroups [none]

end Expr

end FluentRegex
