import FluentRegex.Expr.OfTree
import Mathlib.Data.List.Forall2

/-!
# One tree under two modes

A tree may be turned into an expression under modes of either of two kinds. If the modes agree on
Unicode, the tree has the same fault under both or none at all, and what relates the two expressions
is what the ways to build expressions carry over from parts to wholes. `Carries` names these ways,
so a relation between modes, sets and expressions is followed through a tree only once:

> `Carries.expr`: related modes give the same fault, or related expressions and related modes.

A flag in the pattern switches both modes alike, whatever they were before.
-/

namespace FluentRegex.Syntax

open FluentRegex.Expr (repeated choice sequence)

/-- Both outcomes are the same fault, or both are results, which are related. -/
inductive Alike {α β : Type} (related : α → β → Prop) : Except Fault α → Except Fault β → Prop
  | fault (f : Fault) : Alike related (.error f) (.error f)
  | ok {a : α} {b : β} (h : related a b) : Alike related (.ok a) (.ok b)

theorem Alike.outcomes {α β : Type} {related : α → β → Prop} {x : Except Fault α}
    {y : Except Fault β} (h : Alike related x y) :
    (∃ f, x = .error f ∧ y = .error f) ∨ ∃ a b, x = .ok a ∧ y = .ok b ∧ related a b := by
  cases h with
  | fault f => exact .inl ⟨f, rfl, rfl⟩
  | ok h => exact .inr ⟨_, _, rfl, rfl, h⟩

/-- What is built from related parts under related modes is related itself. -/
structure Carries (modes : Modes → Modes → Prop) (sets : CharSet → CharSet → Prop)
    (terms : Expr → Expr → Prop) : Prop where
  unicode {m m' : Modes} : modes m m' → m.unicode = m'.unicode
  put {m m' : Modes} (f : Flag) (on : Bool) : modes m m' → modes (m.put f on) (m'.put f on)
  same (s : CharSet) : sets s s
  folded {m m' : Modes} {s s' : CharSet} :
    modes m m' → sets s s' → sets (folded m s) (folded m' s')
  compl {s s' : CharSet} : sets s s' → sets s.compl s'.compl
  union {s s' t t' : CharSet} : sets s s' → sets t t' → sets (s.union t) (s'.union t')
  empty : terms .empty .empty
  set {s s' : CharSet} : sets s s' → terms (.set s) (.set s')
  dot {m m' : Modes} : modes m m' → terms (.set (dotSet m)) (.set (dotSet m'))
  look {m m' : Modes} (a : Anchor) : modes m m' → terms (.look (a.look m)) (.look (a.look m'))
  group (index : Nat) (name : Option String) {e e' : Expr} :
    terms e e' → terms (.group index name e) (.group index name e')
  repeated (min : Nat) (max : Option Nat) (greedy greedy' : Bool) {e e' : Expr} :
    terms e e' → terms (repeated min max greedy e) (repeated min max greedy' e')
  choice {es es' : List Expr} : List.Forall₂ terms es es' → terms (choice es) (choice es')
  sequence {es es' : List Expr} : List.Forall₂ terms es es' → terms (sequence es) (sequence es')

namespace Carries

variable {modes : Modes → Modes → Prop} {sets : CharSet → CharSet → Prop}
  {terms : Expr → Expr → Prop} {m m' : Modes}

theorem apply (h : Carries modes sets terms) (items : List FlagItem) (hm : modes m m') :
    modes (m.apply items) (m'.apply items) := by
  have happly : ∀ (on : Bool) {m m' : Modes}, modes m m' →
      modes (m.applyAs on items) (m'.applyAs on items) := by
    induction items with
    | nil => exact fun _ _ _ hm => hm
    | cons item items ih =>
      intro on m m' hm
      cases item with
      | negation => exact ih false hm
      | flag f => exact ih on (h.put f on hm)
  exact happly true hm

/-! ## Classes -/

theorem negated (h : Carries modes sets terms) (hm : modes m m') (span : Span) (negate : Bool)
    {s s' : CharSet} (hs : sets s s') :
    Alike sets (negated m span negate s) (negated m' span negate s') := by
  rw [Syntax.negated, Syntax.negated, h.unicode hm]
  cases negate with
  | false => exact .ok hs
  | true =>
    cases m'.unicode with
    | false => exact .fault _
    | true => exact .ok (h.compl hs)

theorem shorthandSet (h : Carries modes sets terms) (hm : modes m m') (span : Span)
    (negate : Bool) (s : Shorthand) :
    Alike sets (shorthandSet m span negate s) (shorthandSet m' span negate s) := by
  rw [Syntax.shorthandSet, Syntax.shorthandSet, h.unicode hm]
  exact h.negated hm span negate (h.same _)

theorem propertySet (h : Carries modes sets terms) (hm : modes m m') (span : Span)
    (negate : Bool) (name : PropertyName) :
    Alike sets (propertySet m span negate name) (propertySet m' span negate name) := by
  simp only [Syntax.propertySet, h.unicode hm]
  split
  · exact .fault _
  · split
    · exact h.negated hm span negate (h.folded hm (h.same _))
    · exact .fault _
    · exact .fault _

theorem resolve (h : Carries modes sets terms) (hm : modes m m') (l : Literal) :
    l.resolve m = l.resolve m' := by
  rw [Literal.resolve, Literal.resolve, h.unicode hm]

theorem operation (h : Carries modes sets terms) (op : SetOp) {s s' t t' : CharSet}
    (hs : sets s s') (ht : sets t t') :
    sets
      (match op with
        | .intersection => s.inter t
        | .difference => s.diff t
        | .symmetricDifference => s.symmDiff t)
      (match op with
        | .intersection => s'.inter t'
        | .difference => s'.diff t'
        | .symmetricDifference => s'.symmDiff t') := by
  -- all three operators are made of complements and unions
  have hinter : ∀ {s s' t t' : CharSet}, sets s s' → sets t t' → sets (s.inter t) (s'.inter t') :=
    fun hs ht => h.compl (h.union (h.compl hs) (h.compl ht))
  have hdiff : ∀ {s s' t t' : CharSet}, sets s s' → sets t t' → sets (s.diff t) (s'.diff t') :=
    fun hs ht => hinter hs (h.compl ht)
  cases op with
  | intersection => exact hinter hs ht
  | difference => exact hdiff hs ht
  | symmetricDifference => exact h.union (hdiff hs ht) (hdiff ht hs)

mutual

theorem members (h : Carries modes sets terms) (hm : modes m m') (t : ClassTree) :
    Alike sets (t.members m) (t.members m') := by
  cases t with
  | nothing span => exact .ok (h.same _)
  | literal l =>
    rw [ClassTree.members, ClassTree.members, h.resolve hm]
    cases l.resolve m' with
    | error f => exact .fault f
    | ok c => exact .ok (h.same _)
  | range span lo hi =>
    rw [ClassTree.members, ClassTree.members, h.resolve hm, h.resolve hm]
    cases lo.resolve m' with
    | error f => exact .fault f
    | ok a =>
      cases hi.resolve m' with
      | error f => exact .fault f
      | ok b => exact .ok (h.same _)
  | ascii span negate c => exact h.negated hm span negate (h.folded hm (h.same _))
  | shorthand span negate s => exact h.shorthandSet hm span negate s
  | property span negate name => exact h.propertySet hm span negate name
  | bracketed span negate inner =>
    rw [ClassTree.members, ClassTree.members]
    rcases (h.members hm inner).outcomes with ⟨f, hl, hr⟩ | ⟨_, _, hl, hr, hs⟩ <;> rw [hl, hr]
    · exact .fault f
    · exact h.negated hm span negate (h.folded hm hs)
  | union span items => exact h.allMembers hm items
  | operation span op lhs rhs =>
    rw [ClassTree.members, ClassTree.members]
    rcases (h.members hm lhs).outcomes with ⟨f, hl, hr⟩ | ⟨_, _, hl, hr, hs⟩ <;> rw [hl, hr]
    · exact .fault f
    · rcases (h.members hm rhs).outcomes with ⟨f, hl, hr⟩ | ⟨_, _, hl, hr, ht⟩ <;> rw [hl, hr]
      · exact .fault f
      · exact .ok (h.operation op (h.folded hm hs) (h.folded hm ht))

theorem allMembers (h : Carries modes sets terms) (hm : modes m m') (ts : List ClassTree) :
    Alike sets (ClassTree.allMembers m ts) (ClassTree.allMembers m' ts) := by
  cases ts with
  | nil => exact .ok (h.same _)
  | cons t ts =>
    rw [ClassTree.allMembers, ClassTree.allMembers]
    rcases (h.members hm t).outcomes with ⟨f, hl, hr⟩ | ⟨_, _, hl, hr, hs⟩ <;> rw [hl, hr]
    · exact .fault f
    · rcases (h.allMembers hm ts).outcomes with ⟨f, hl, hr⟩ | ⟨_, _, hl, hr, ht⟩ <;> rw [hl, hr]
      · exact .fault f
      · exact .ok (h.union hs ht)

end

/-! ## Atoms and trees -/

theorem atom (h : Carries modes sets terms) (hm : modes m m') (span : Span) (a : Atom) :
    Alike terms (a.expr m span) (a.expr m' span) := by
  cases a with
  | literal c byte =>
    rw [Atom.expr, Atom.expr, h.unicode hm]
    split
    · exact .fault _
    · exact .ok (h.set (h.folded hm (h.same _)))
  | dot =>
    rw [Atom.expr, Atom.expr, h.unicode hm]
    split
    · exact .ok (h.dot hm)
    · exact .fault _
  | anchor a => exact .ok (h.look a hm)
  | shorthand negate s =>
    rw [Atom.expr, Atom.expr]
    rcases (h.shorthandSet hm span negate s).outcomes with
      ⟨f, hl, hr⟩ | ⟨_, _, hl, hr, hs⟩ <;> rw [hl, hr]
    · exact .fault f
    · exact .ok (h.set hs)
  | property negate name =>
    rw [Atom.expr, Atom.expr]
    rcases (h.propertySet hm span negate name).outcomes with
      ⟨f, hl, hr⟩ | ⟨_, _, hl, hr, hs⟩ <;> rw [hl, hr]
    · exact .fault f
    · exact .ok (h.set hs)

mutual

/-- A tree has the same fault under related modes, or means related expressions and leaves the modes
related. -/
theorem expr (h : Carries modes sets terms) {m m' : Modes} (hm : modes m m') (t : Tree) :
    Alike (fun a b => terms a.1 b.1 ∧ modes a.2 b.2) (t.expr m) (t.expr m') := by
  cases t with
  | empty span => exact .ok ⟨h.empty, hm⟩
  | flags span items => exact .ok ⟨h.empty, h.apply items hm⟩
  | atom span a =>
    rw [Tree.expr, Tree.expr]
    rcases (h.atom hm span a).outcomes with ⟨f, hl, hr⟩ | ⟨_, _, hl, hr, he⟩ <;> rw [hl, hr]
    · exact .fault f
    · exact .ok ⟨he, hm⟩
  | bracket span negate inner =>
    rw [Tree.expr, Tree.expr]
    rcases (h.members hm inner).outcomes with ⟨f, hl, hr⟩ | ⟨_, _, hl, hr, hs⟩ <;> rw [hl, hr]
    · exact .fault f
    · dsimp only
      rcases (h.negated hm span negate (h.folded hm hs)).outcomes with
        ⟨f, hl, hr⟩ | ⟨_, _, hl, hr, hs⟩ <;> rw [hl, hr]
      · exact .fault f
      · exact .ok ⟨h.set hs, hm⟩
  | repetition span min max lazily body =>
    rw [Tree.expr, Tree.expr]
    rcases (h.expr hm body).outcomes with ⟨f, hl, hr⟩ | ⟨_, _, hl, hr, hbody⟩ <;> rw [hl, hr]
    · exact .fault f
    · exact .ok ⟨h.repeated min max _ _ hbody.1, hbody.2⟩
  | group span kind body =>
    cases kind with
    | plain items =>
      rw [Tree.expr, Tree.expr]
      rcases (h.expr (h.apply items hm) body).outcomes with
        ⟨f, hl, hr⟩ | ⟨_, _, hl, hr, hbody⟩ <;> rw [hl, hr]
      · exact .fault f
      · exact .ok ⟨hbody.1, hm⟩
    | capture index =>
      rw [Tree.expr, Tree.expr]
      rcases (h.expr hm body).outcomes with ⟨f, hl, hr⟩ | ⟨_, _, hl, hr, hbody⟩ <;> rw [hl, hr]
      · exact .fault f
      · exact .ok ⟨h.group index none hbody.1, hm⟩
    | named index name =>
      rw [Tree.expr, Tree.expr]
      rcases (h.expr hm body).outcomes with ⟨f, hl, hr⟩ | ⟨_, _, hl, hr, hbody⟩ <;> rw [hl, hr]
      · exact .fault f
      · exact .ok ⟨h.group index (some name) hbody.1, hm⟩
  | alternation span branches =>
    rw [Tree.expr, Tree.expr]
    rcases (h.exprs hm branches).outcomes with ⟨f, hl, hr⟩ | ⟨_, _, hl, hr, hall⟩ <;> rw [hl, hr]
    · exact .fault f
    · exact .ok ⟨h.choice hall.1, hall.2⟩
  | sequence span items =>
    rw [Tree.expr, Tree.expr]
    rcases (h.exprs hm items).outcomes with ⟨f, hl, hr⟩ | ⟨_, _, hl, hr, hall⟩ <;> rw [hl, hr]
    · exact .fault f
    · exact .ok ⟨h.sequence hall.1, hall.2⟩

theorem exprs (h : Carries modes sets terms) {m m' : Modes} (hm : modes m m') (ts : List Tree) :
    Alike (fun a b => List.Forall₂ terms a.1 b.1 ∧ modes a.2 b.2) (Tree.exprs m ts)
      (Tree.exprs m' ts) := by
  cases ts with
  | nil => exact .ok ⟨.nil, hm⟩
  | cons t ts =>
    rw [Tree.exprs, Tree.exprs]
    rcases (h.expr hm t).outcomes with ⟨f, hl, hr⟩ | ⟨_, _, hl, hr, ht⟩ <;> rw [hl, hr]
    · exact .fault f
    · dsimp only
      rcases (h.exprs ht.2 ts).outcomes with ⟨f, hl, hr⟩ | ⟨_, _, hl, hr, hts⟩ <;> rw [hl, hr]
      · exact .fault f
      · exact .ok ⟨.cons ht.1 hts.1, hts.2⟩

end

end Carries

end FluentRegex.Syntax
