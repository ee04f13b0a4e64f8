import FluentRegex.Expr.Look

/-!
# Expressions

What a pattern says once its words are understood: sets of characters, conditions on places,
groups, repetitions, sequences and choices. A choice prefers its first side, a greedy repetition
prefers more rounds.

Expressions are built in a simple form. `repeated` never repeats nothing more than once and drops
a repetition that goes round no times, with the groups in it. `sequence` leaves out what is empty.
`choice` makes one set of a choice between sets, and takes out what all its branches begin with;
the part taken out is then tried once for all of them.
-/

namespace FluentRegex

/-- A regular expression with captures and preferences. -/
inductive Expr
  | empty
  | set (s : CharSet)
  | look (l : Look)
  | group (index : Nat) (name : Option String) (body : Expr)
  | rep (min : Nat) (max : Option Nat) (greedy : Bool) (body : Expr)
  | seq (a b : Expr)
  | alt (a b : Expr)
deriving DecidableEq, Inhabited

namespace Expr

/-- Whether every match takes up no characters. -/
def onlyEmpty : Expr → Bool
  | .empty => true
  | .set _ => false
  | .look _ => true
  | .group _ _ e => e.onlyEmpty
  | .rep _ max _ e => max.isSome && e.onlyEmpty
  | .seq a b => a.onlyEmpty && b.onlyEmpty
  | .alt a b => a.onlyEmpty && b.onlyEmpty

/-- Whether every match takes up at least one character. -/
def neverEmpty : Expr → Bool
  | .empty => false
  | .set _ => true
  | .look _ => false
  | .group _ _ e => e.neverEmpty
  | .rep min _ _ e => min != 0 && e.neverEmpty
  | .seq a b => a.neverEmpty || b.neverEmpty
  | .alt a b => a.neverEmpty && b.neverEmpty

/-- The number of nodes. -/
def size : Expr → Nat
  | .empty => 1
  | .set _ => 1
  | .look _ => 1
  | .group _ _ e => e.size + 1
  | .rep _ _ _ e => e.size + 1
  | .seq a b => a.size + b.size + 1
  | .alt a b => a.size + b.size + 1

/-! ## Repetitions and sequences -/

/-- A repetition. What takes up no characters goes round at most once. -/
def repeated (min : Nat) (max : Option Nat) (greedy : Bool) (e : Expr) : Expr :=
  let low := if e.onlyEmpty then Nat.min min 1 else min
  let high := if e.onlyEmpty then some (Nat.min (max.getD 1) 1) else max
  if low = 0 ∧ high = some 0 then .empty
  else if low = 1 ∧ high = some 1 then e
  else .rep low high greedy e

/-- The parts that an expression puts one after the other. -/
def factors : Expr → List Expr
  | .empty => []
  | .seq a b => a.factors ++ b.factors
  | e => [e]

/-- The given parts, one after the other. -/
def join : List Expr → Expr
  | [] => .empty
  | [e] => e
  | e :: es => .seq e (join es)

/-- Expressions one after the other. -/
def sequence (es : List Expr) : Expr := join (es.flatMap factors)

/-! ## Choices -/

/-- The branches among which an expression chooses. -/
def branches : Expr → List Expr
  | .alt a b => a.branches ++ b.branches
  | e => [e]

/-- A choice among the given branches, the first of them preferred. -/
def pick : List Expr → Expr
  | [] => .set CharSet.empty
  | [e] => e
  | e :: es => .alt e (pick es)

/-- The set of an expression that is nothing else. -/
def set? : Expr → Option CharSet
  | .set s => some s
  | _ => none

/-- How many parts two lists have in common at their start. -/
def commonLength : List Expr → List Expr → Nat
  | x :: xs, y :: ys => if x = y then commonLength xs ys + 1 else 0
  | _, _ => 0

/-- How many parts all lists have in common at their start; none if one has fewer than two. -/
def sharedLength : List (List Expr) → Nat
  | [] => 0
  | first :: rest =>
    if (first :: rest).all (2 ≤ ·.length) then
      rest.foldl (fun n parts => Nat.min n (commonLength first parts)) first.length
    else 0

/-- A choice among expressions. `fuel` bounds how often a common start is taken out. -/
def choiceFrom : (fuel : Nat) → List Expr → Expr
  | 0, es => pick es
  | fuel + 1, es =>
    let all := es.flatMap branches
    match all.mapM set? with
    | some (s :: ss) => .set (ss.foldl CharSet.union s)
    | _ =>
      match all with
      | first :: _ :: _ =>
        let parts := all.map factors
        let n := sharedLength parts
        if n = 0 then pick all
        else sequence (first.factors.take n ++
          [choiceFrom fuel (parts.map fun p => sequence (p.drop n))])
      | _ => pick all

/-- A choice among expressions, the first of them preferred. -/
def choice (es : List Expr) : Expr := choiceFrom (es.foldr (fun e n => e.size + n) 1) es

end Expr

end FluentRegex
