import FluentRegex.Expr.OfTree
import FluentRegex.Settings
import FluentRegex.Syntax.Depth
import FluentRegex.Syntax.Parse
import Mathlib.Data.List.Forall2

/-!
# Parts of a pattern

A `Part` is what remains of an item of a pattern when its place is forgotten: the expression that
it means under given settings, and how deep it is nested. `Tree.Means` ties a tree to its part, so
the lemmas about reading need not say anything about spans.

The parts here are those that calls are made of. Each is a function of what was said, and the
delimiter has no part in it.
-/

namespace FluentRegex

open Syntax (Tree ClassTree Shorthand folded)

/-- What an item of a pattern means, and the number of levels that it takes up. -/
structure Part where
  expr : Expr
  depth : Nat

namespace Part

/-- The levels of the deepest of some parts. -/
def deepest (ps : List Part) : Nat := ps.foldr (fun p n => Nat.max p.depth n) 0

/-- Parts one after the other; only more than one make a level of their own. -/
def inSequence : List Part → Part
  | [] => ⟨.empty, 0⟩
  | [p] => p
  | ps => ⟨Expr.sequence (ps.map Part.expr), deepest ps + 1⟩

/-- A character that stands for itself. -/
def literal (m : Modes) (c : Char) : Part := ⟨.set (folded m (CharSet.singleton c)), 0⟩

/-- The dot. -/
def dot (m : Modes) : Part := ⟨.set (Syntax.dotSet m), 0⟩

/-- A condition on the place. -/
def anchor (m : Modes) (a : Syntax.Anchor) : Part := ⟨.look (a.look m), 0⟩

/-- The characters in a list, put together from right to left. -/
def listed : List Char → CharSet
  | [] => CharSet.empty
  | [c] => CharSet.singleton c
  | c :: cs => (CharSet.singleton c).union (cs.foldr (fun d s => (CharSet.singleton d).union s) .empty)

/-- A class of the given characters, or of all but these. More than one make a level of their
own. -/
def ofChars (m : Modes) (negate : Bool) (chars : List Char) : Part :=
  let s := folded m (listed chars)
  ⟨.set (if negate then s.compl else s), if chars.length ≤ 1 then 1 else 2⟩

/-- All but the given characters, or the dot where none are given. -/
def allBut (m : Modes) (chars : List Char) : Part :=
  if chars.isEmpty then dot m else ofChars m true chars

/-- A class of one letter in brackets. -/
def shorthand (m : Modes) (s : Shorthand) : Part := ⟨.set (folded m (s.members true)), 1⟩

/-- A part that goes round a number of times, as often as possible. -/
def repeated (min : Nat) (max : Option Nat) (p : Part) : Part :=
  ⟨Expr.repeated min max true p.expr, p.depth + 1⟩

/-- Parts in a group that captures. -/
def group (index : Nat) (name : Option String) (ps : List Part) : Part :=
  ⟨.group index name (inSequence ps).expr, (inSequence ps).depth + 1⟩

@[simp] theorem mem_listed {c : Char} {chars : List Char} : c ∈ listed chars ↔ c ∈ chars := by
  have hfold : ∀ cs : List Char,
      c ∈ cs.foldr (fun d s => (CharSet.singleton d).union s) CharSet.empty ↔ c ∈ cs := by
    intro cs
    induction cs with
    | nil => simp [CharSet.not_mem_empty]
    | cons d ds ih =>
      rw [List.foldr_cons, CharSet.mem_union, CharSet.mem_singleton, ih, List.mem_cons]
  cases chars with
  | nil => simp [listed, CharSet.not_mem_empty]
  | cons d ds =>
    cases ds with
    | nil => rw [listed, CharSet.mem_singleton, List.mem_singleton]
    | cons e es =>
      rw [listed, CharSet.mem_union, CharSet.mem_singleton, hfold, List.mem_cons (b := d)]
      exact fun h => by cases h

theorem deepest_cons (p : Part) (ps : List Part) :
    deepest (p :: ps) = Nat.max p.depth (deepest ps) := rfl

theorem deepest_le {ps : List Part} {k : Nat} : deepest ps ≤ k ↔ ∀ p ∈ ps, p.depth ≤ k := by
  induction ps with
  | nil => simp [deepest]
  | cons p ps ih =>
    rw [deepest_cons, List.forall_mem_cons, ← ih]
    exact Nat.max_le

end Part

namespace Syntax

variable (m : Modes)

/-! ## Trees and their parts -/

/-- Whether a tree can be repeated: it is neither nothing nor flags alone. -/
def Tree.isSolid : Tree → Bool
  | .empty _ => false
  | .flags _ _ => false
  | _ => true

/-- What a tree means under the given modes, which it leaves as they are, and how deep it is. -/
structure Tree.Means (t : Tree) (p : Part) : Prop where
  expr : t.expr m = .ok (p.expr, m)
  depth : ∀ room, t.tooDeep? room = none ↔ p.depth ≤ room

/-- A tree that can be an item of a sequence. -/
structure Tree.IsItem (t : Tree) (p : Part) : Prop extends t.Means m p where
  solid : t.isSolid = true

variable {m}

theorem exprs_of_items {ts : List Tree} {ps : List Part} (h : List.Forall₂ (Tree.IsItem m) ts ps) :
    Tree.exprs m ts = .ok (ps.map Part.expr, m) := by
  induction h with
  | nil => rfl
  | @cons t p ts ps ht _ ih =>
    rw [Tree.exprs, ht.expr]
    dsimp only
    rw [ih]
    rfl

theorem anyTooDeep_of_items {ts : List Tree} {ps : List Part}
    (h : List.Forall₂ (Tree.IsItem m) ts ps) (room : Nat) :
    Tree.anyTooDeep? room ts = none ↔ Part.deepest ps ≤ room := by
  induction h with
  | nil => simp [Tree.anyTooDeep?, Part.deepest]
  | @cons t p ts ps ht _ ih =>
    rw [Tree.anyTooDeep?, Part.deepest_cons, Option.or_eq_none_iff, ht.depth, ih]
    exact Nat.max_le.symm

/-- A level without branches means its items in sequence. -/
theorem means_tree {l : Level} (hbranches : l.branches = []) {ps : List Part}
    (h : List.Forall₂ (Tree.IsItem m) l.items.reverse ps) (stop : Nat) :
    (l.tree stop).Means m (Part.inSequence ps) := by
  rw [Level.tree, hbranches]
  dsimp only
  rw [Level.branch]
  generalize hts : l.items = ts at h
  -- one item is the tree itself, without a level of its own
  match ts with
  | [] =>
    cases h
    exact ⟨rfl, fun room => by simp [Tree.tooDeep?, Part.inSequence]⟩
  | [t] =>
    cases h with
    | cons ht hnil =>
      cases hnil
      exact ht.toMeans
  | t :: u :: ts =>
    have hlen := h.length_eq
    match ps with
    | [] => simp at hlen
    | [_] => simp at hlen
    | p :: q :: ps =>
      refine ⟨?_, fun room => ?_⟩
      · rw [Tree.expr, exprs_of_items h]
        rfl
      · have hdeep := fun r => anyTooDeep_of_items h r
        cases room with
        | zero => simp [Tree.tooDeep?, Part.inSequence]
        | succ room =>
          rw [Tree.tooDeep?, hdeep, Part.inSequence]
          exact Nat.succ_le_succ_iff.symm
          all_goals simp

end Syntax

end FluentRegex
