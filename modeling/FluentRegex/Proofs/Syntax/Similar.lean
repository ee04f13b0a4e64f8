import FluentRegex.Syntax.Parse
import FluentRegex.Expr.OfTree
import Mathlib.Data.List.Forall2

/-!
# Trees that differ in places

Where the parts of a pattern stand matters for the report of a fault and for nothing else. Two trees
are `Similar` if they mean the same under all modes and neither is nested deeper than the other.
Trees that are built in the same way from similar trees are similar, wherever they stand
(`Level.Similar.tree`).
-/

namespace FluentRegex.Syntax

/-! ## Atoms -/

theorem negated_span {m : Modes} {span : Span} {negate : Bool} {s r : CharSet}
    (h : negated m span negate s = .ok r) (span' : Span) : negated m span' negate s = .ok r := by
  rw [negated] at h ⊢
  split at h
  · next hnegate =>
    rw [if_pos hnegate]
    split at h
    · next hunicode => rwa [if_pos hunicode]
    · exact absurd h (by simp)
  · next hnegate => rwa [if_neg hnegate]

theorem propertySet_span {m : Modes} {span : Span} {negate : Bool} {name : PropertyName}
    {r : CharSet} (h : propertySet m span negate name = .ok r) (span' : Span) :
    propertySet m span' negate name = .ok r := by
  unfold propertySet at h ⊢
  split at h
  · exact absurd h (by simp)
  · next hunicode =>
    rw [if_neg hunicode]
    dsimp only at h ⊢
    split at h
    · exact negated_span h span'
    · exact absurd h (by simp)
    · exact absurd h (by simp)

/-- Where an atom stands does not matter for its meaning. -/
theorem Atom.expr_span {m : Modes} {span : Span} {a : Atom} {e : Expr}
    (h : a.expr m span = .ok e) (span' : Span) : a.expr m span' = .ok e := by
  cases a with
  | literal c byte =>
    rw [Atom.expr] at h ⊢
    split at h
    · exact absurd h (by simp)
    · next hbyte => rwa [if_neg hbyte]
  | dot =>
    rw [Atom.expr] at h ⊢
    split at h
    · next hunicode => rwa [if_pos hunicode]
    · exact absurd h (by simp)
  | anchor a => exact h
  | shorthand negate s =>
    rw [Atom.expr] at h ⊢
    split at h
    · next hset =>
      rw [shorthandSet] at hset ⊢
      rw [negated_span hset span']
      exact h
    · exact absurd h (by simp)
  | property negate name =>
    rw [Atom.expr] at h ⊢
    split at h
    · next hset =>
      rw [propertySet_span hset span']
      exact h
    · exact absurd h (by simp)

/-! ## Trees -/

/-- Two trees that have the same meaning, if they have one, and are nested equally deep. -/
structure Tree.Similar (t u : Tree) : Prop where
  expr : ∀ m r, t.expr m = .ok r ↔ u.expr m = .ok r
  depth : ∀ room, t.tooDeep? room = none ↔ u.tooDeep? room = none

namespace Tree.Similar

variable {t u : Tree} {ts us : List Tree}

theorem refl (t : Tree) : t.Similar t := ⟨fun _ _ => Iff.rfl, fun _ => Iff.rfl⟩

theorem symm (h : t.Similar u) : u.Similar t :=
  ⟨fun m r => (h.expr m r).symm, fun room => (h.depth room).symm⟩

theorem trans {v : Tree} (h : t.Similar u) (h' : u.Similar v) : t.Similar v :=
  ⟨fun m r => (h.expr m r).trans (h'.expr m r), fun room => (h.depth room).trans (h'.depth room)⟩

theorem trees_refl (ts : List Tree) : List.Forall₂ Similar ts ts :=
  List.forall₂_same.2 fun t _ => refl t

theorem trees_symm (h : List.Forall₂ Similar ts us) : List.Forall₂ Similar us ts :=
  (h.imp fun _ _ htu => htu.symm).flip

theorem trees_trans {vs : List Tree} (h : List.Forall₂ Similar ts us)
    (h' : List.Forall₂ Similar us vs) : List.Forall₂ Similar ts vs := by
  induction h generalizing vs with
  | nil => exact h'
  | cons htu _ ih =>
    cases h' with
    | cons huv hrest => exact .cons (htu.trans huv) (ih hrest)

theorem exprs_of_eq (h : List.Forall₂ Similar ts us) {m : Modes} {r : List Expr × Modes}
    (hts : Tree.exprs m ts = .ok r) : Tree.exprs m us = .ok r := by
  induction h generalizing m r with
  | nil => exact hts
  | cons htu _ ih =>
    rw [Tree.exprs] at hts
    split at hts
    · exact absurd hts (by simp)
    · next e m' ht =>
      split at hts
      · exact absurd hts (by simp)
      · next es m'' hrest =>
        rw [Tree.exprs, (htu.expr m _).1 ht]
        dsimp only
        rw [ih hrest]
        exact hts

theorem exprs (h : List.Forall₂ Similar ts us) (m : Modes) (r : List Expr × Modes) :
    Tree.exprs m ts = .ok r ↔ Tree.exprs m us = .ok r :=
  ⟨exprs_of_eq h, exprs_of_eq (trees_symm h)⟩

theorem anyTooDeep (h : List.Forall₂ Similar ts us) (room : Nat) :
    Tree.anyTooDeep? room ts = none ↔ Tree.anyTooDeep? room us = none := by
  induction h with
  | nil => exact Iff.rfl
  | cons htu _ ih =>
    rw [Tree.anyTooDeep?, Tree.anyTooDeep?, Option.or_eq_none_iff, Option.or_eq_none_iff,
      htu.depth room, ih]

/-! ### Trees that are built in the same way -/

theorem empty (span span' : Span) : (Tree.empty span).Similar (.empty span') :=
  ⟨fun _ _ => Iff.rfl, fun _ => Iff.rfl⟩

theorem flags (span span' : Span) (items : List FlagItem) :
    (Tree.flags span items).Similar (.flags span' items) :=
  ⟨fun _ _ => Iff.rfl, fun _ => Iff.rfl⟩

theorem atom (span span' : Span) (a : Atom) : (Tree.atom span a).Similar (.atom span' a) := by
  have hspan : ∀ (s s' : Span) (m : Modes) (r : Expr × Modes),
      (Tree.atom s a).expr m = .ok r → (Tree.atom s' a).expr m = .ok r := by
    intro s s' m r h
    rw [Tree.expr] at h ⊢
    split at h
    · next he =>
      rw [Atom.expr_span he s']
      exact h
    · exact absurd h (by simp)
  exact ⟨fun m r => ⟨hspan _ _ m r, hspan _ _ m r⟩, fun _ => Iff.rfl⟩

theorem repetition (h : t.Similar u) (span span' : Span) (min : Nat) (max : Option Nat)
    (lazily : Bool) :
    (Tree.repetition span min max lazily t).Similar (.repetition span' min max lazily u) := by
  have hbody : ∀ {t u : Tree} {s s' : Span} {m : Modes} {r : Expr × Modes}, t.Similar u →
      (Tree.repetition s min max lazily t).expr m = .ok r →
      (Tree.repetition s' min max lazily u).expr m = .ok r := by
    intro t u s s' m r h ht
    rw [Tree.expr] at ht ⊢
    split at ht
    · exact absurd ht (by simp)
    · next heq =>
      rw [(h.expr m _).1 heq]
      exact ht
  refine ⟨fun m r => ⟨hbody h, hbody h.symm⟩, fun room => ?_⟩
  cases room with
  | zero => exact iff_of_false (Option.some_ne_none _) (Option.some_ne_none _)
  | succ room =>
    rw [Tree.tooDeep?, Tree.tooDeep?]
    exact h.depth room

theorem sequence (h : List.Forall₂ Similar ts us) (span span' : Span) :
    (Tree.sequence span ts).Similar (.sequence span' us) := by
  have hitems : ∀ {ts us : List Tree} {s s' : Span} {m : Modes} {r : Expr × Modes},
      List.Forall₂ Similar ts us → (Tree.sequence s ts).expr m = .ok r →
      (Tree.sequence s' us).expr m = .ok r := by
    intro ts us s s' m r h ht
    rw [Tree.expr] at ht ⊢
    split at ht
    · next heq =>
      rw [(exprs h m _).1 heq]
      exact ht
    · exact absurd ht (by simp)
  refine ⟨fun m r => ⟨hitems h, hitems (trees_symm h)⟩, fun room => ?_⟩
  cases room with
  | zero => exact iff_of_false (Option.some_ne_none _) (Option.some_ne_none _)
  | succ room =>
    rw [Tree.tooDeep?, Tree.tooDeep?]
    exact anyTooDeep h room

theorem alternation (h : List.Forall₂ Similar ts us) (span span' : Span) :
    (Tree.alternation span ts).Similar (.alternation span' us) := by
  have hbranches : ∀ {ts us : List Tree} {s s' : Span} {m : Modes} {r : Expr × Modes},
      List.Forall₂ Similar ts us → (Tree.alternation s ts).expr m = .ok r →
      (Tree.alternation s' us).expr m = .ok r := by
    intro ts us s s' m r h ht
    rw [Tree.expr] at ht ⊢
    split at ht
    · next heq =>
      rw [(exprs h m _).1 heq]
      exact ht
    · exact absurd ht (by simp)
  refine ⟨fun m r => ⟨hbranches h, hbranches (trees_symm h)⟩, fun room => ?_⟩
  cases room with
  | zero => exact iff_of_false (Option.some_ne_none _) (Option.some_ne_none _)
  | succ room =>
    rw [Tree.tooDeep?, Tree.tooDeep?]
    exact anyTooDeep h room

end Tree.Similar

/-! ## Levels -/

/-- Two levels with similar branches and similar items. -/
structure Level.Similar (l l' : Level) : Prop where
  branches : List.Forall₂ Tree.Similar l.branches l'.branches
  items : List.Forall₂ Tree.Similar l.items l'.items

namespace Level.Similar

variable {l l' : Level}

theorem refl (l : Level) : l.Similar l :=
  ⟨Tree.Similar.trees_refl _, Tree.Similar.trees_refl _⟩

theorem symm (h : l.Similar l') : l'.Similar l :=
  ⟨Tree.Similar.trees_symm h.branches, Tree.Similar.trees_symm h.items⟩

theorem trans {l'' : Level} (h : l.Similar l') (h' : l'.Similar l'') : l.Similar l'' :=
  ⟨Tree.Similar.trees_trans h.branches h'.branches, Tree.Similar.trees_trans h.items h'.items⟩

/-- Levels with the same branches, and the same items but for the latest. -/
theorem latest {t t' : Tree} (h : t.Similar t') (start start' branchStart branchStart' : Nat)
    (branches ts : List Tree) : Level.Similar ⟨start, branchStart, branches, t :: ts⟩
      ⟨start', branchStart', branches, t' :: ts⟩ :=
  ⟨Tree.Similar.trees_refl _, .cons h (Tree.Similar.trees_refl ts)⟩

theorem branch (h : l.Similar l') (stop stop' : Nat) :
    (l.branch stop).Similar (l'.branch stop') := by
  obtain ⟨-, hitems⟩ := h
  rw [Level.branch, Level.branch]
  generalize l.items = ts at hitems
  generalize l'.items = us at hitems
  cases hitems with
  | nil => exact .empty _ _
  | cons htu hrest =>
    cases hrest with
    | nil => exact htu
    | cons htu' hrest => exact .sequence (List.rel_reverse (.cons htu (.cons htu' hrest))) _ _

/-- What was read at similar levels is similar. -/
theorem tree (h : l.Similar l') (stop stop' : Nat) : (l.tree stop).Similar (l'.tree stop') := by
  have hbranch := h.branch stop stop'
  obtain ⟨hbranches, -⟩ := h
  rw [Level.tree, Level.tree]
  generalize l.branches = ts at hbranches
  generalize l'.branches = us at hbranches
  cases hbranches with
  | nil => exact hbranch
  | cons htu hrest => exact .alternation (List.rel_reverse (.cons hbranch (.cons htu hrest))) _ _

end Level.Similar

end FluentRegex.Syntax
