import FluentRegex.Proofs.Syntax.Part

/-!
# Trees that leave the modes as they are

Only flags change the modes for what comes after them, and flags in a group are forgotten behind it.
So where a pattern sets no flags, each of its items is turned into an expression under the modes of
the whole pattern, and whether that can be done is decided item by item (`hasExpr_tree`).
-/

namespace FluentRegex.Syntax

/-! ## Trees -/

/-- The modes after a tree are those before it. -/
def Tree.KeepsModes (t : Tree) : Prop :=
  ∀ (m m' : Modes) (e : Expr), t.expr m = .ok (e, m') → m' = m

theorem modes_of_exprs {ts : List Tree} (h : ∀ t ∈ ts, t.KeepsModes) {m m' : Modes}
    {es : List Expr} (hts : Tree.exprs m ts = .ok (es, m')) : m' = m := by
  induction ts generalizing m es with
  | nil => exact (Prod.mk.inj (Except.ok.inj hts)).2.symm
  | cons t ts ih =>
    rw [List.forall_mem_cons] at h
    rw [Tree.exprs] at hts
    split at hts
    · exact absurd hts (by simp)
    · next e between ht =>
      split at hts
      · exact absurd hts (by simp)
      · next es' after hrest =>
        obtain ⟨-, rfl⟩ := Prod.mk.inj (Except.ok.inj hts)
        rw [ih h.2 hrest, h.1 _ _ _ ht]

theorem keepsModes_atom (span : Span) (a : Atom) : (Tree.atom span a).KeepsModes := by
  intro m m' e h
  rw [Tree.expr] at h
  split at h
  · exact (Prod.mk.inj (Except.ok.inj h)).2.symm
  · exact absurd h (by simp)

theorem keepsModes_bracket (span : Span) (negate : Bool) (inner : ClassTree) :
    (Tree.bracket span negate inner).KeepsModes := by
  intro m m' e h
  rw [Tree.expr] at h
  split at h
  · exact absurd h (by simp)
  · split at h
    · exact (Prod.mk.inj (Except.ok.inj h)).2.symm
    · exact absurd h (by simp)

/-- Flags in a group are forgotten behind it. -/
theorem keepsModes_group (span : Span) (kind : GroupKind) (body : Tree) :
    (Tree.group span kind body).KeepsModes := by
  intro m m' e h
  cases kind with
  | plain items =>
    rw [Tree.expr] at h
    split at h
    · exact (Prod.mk.inj (Except.ok.inj h)).2.symm
    · exact absurd h (by simp)
  | capture index =>
    rw [Tree.expr] at h
    split at h
    · exact (Prod.mk.inj (Except.ok.inj h)).2.symm
    · exact absurd h (by simp)
  | named index name =>
    rw [Tree.expr] at h
    split at h
    · exact (Prod.mk.inj (Except.ok.inj h)).2.symm
    · exact absurd h (by simp)

theorem Tree.KeepsModes.repetition {body : Tree} (hbody : body.KeepsModes) (span : Span)
    (min : Nat) (max : Option Nat) (lazily : Bool) :
    (Tree.repetition span min max lazily body).KeepsModes := by
  intro m m' e h
  rw [Tree.expr] at h
  split at h
  · exact absurd h (by simp)
  · next e' after hafter =>
    rw [← (Prod.mk.inj (Except.ok.inj h)).2]
    exact hbody _ _ _ hafter

theorem keepsModes_sequence {ts : List Tree} (hts : ∀ t ∈ ts, t.KeepsModes) (span : Span) :
    (Tree.sequence span ts).KeepsModes := by
  intro m m' e h
  rw [Tree.expr] at h
  split at h
  · next es after hafter =>
    rw [← (Prod.mk.inj (Except.ok.inj h)).2]
    exact modes_of_exprs hts hafter
  · exact absurd h (by simp)

/-- The tree has an expression under the given modes, and leaves them as they are. -/
def Tree.HasExpr (m : Modes) (t : Tree) : Prop := ∃ e, t.expr m = .ok (e, m)

theorem exprs_of_hasExpr {m : Modes} {ts : List Tree} (h : ∀ t ∈ ts, t.HasExpr m) :
    ∃ es, Tree.exprs m ts = .ok (es, m) := by
  induction ts with
  | nil => exact ⟨[], rfl⟩
  | cons t ts ih =>
    rw [List.forall_mem_cons] at h
    obtain ⟨e, he⟩ := h.1
    obtain ⟨es, hes⟩ := ih h.2
    exact ⟨e :: es, by rw [Tree.exprs, he]; dsimp only; rw [hes]⟩

theorem hasExpr_of_exprs {m m' : Modes} {ts : List Tree} {es : List Expr}
    (hkeeps : ∀ t ∈ ts, t.KeepsModes) (h : Tree.exprs m ts = .ok (es, m')) :
    ∀ t ∈ ts, t.HasExpr m := by
  induction ts generalizing es with
  | nil => exact fun t ht => absurd ht List.not_mem_nil
  | cons t ts ih =>
    rw [List.forall_mem_cons] at hkeeps ⊢
    rw [Tree.exprs] at h
    split at h
    · exact absurd h (by simp)
    · next e between ht =>
      obtain rfl := hkeeps.1 _ _ _ ht
      split at h
      · exact absurd h (by simp)
      · next es' after hrest =>
        obtain ⟨-, rfl⟩ := Prod.mk.inj (Except.ok.inj h)
        exact ⟨⟨e, ht⟩, ih hkeeps.2 hrest⟩

/-! ## Levels -/

/-- What was read at a level leaves the modes as they are. -/
structure Level.KeepsModes (l : Level) : Prop where
  branches : ∀ t ∈ l.branches, t.KeepsModes
  items : ∀ t ∈ l.items, t.KeepsModes

namespace Level.KeepsModes

variable {l : Level}

theorem fresh (pos : Nat) : (Level.fresh pos).KeepsModes :=
  ⟨fun _ h => absurd h List.not_mem_nil, fun _ h => absurd h List.not_mem_nil⟩

theorem push (h : l.KeepsModes) {t : Tree} (ht : t.KeepsModes) : (l.push t).KeepsModes :=
  ⟨h.branches, List.forall_mem_cons.2 ⟨ht, h.items⟩⟩

theorem branch (h : l.KeepsModes) (stop : Nat) : (l.branch stop).KeepsModes := by
  unfold Level.branch
  split
  · intro m m' e h
    exact (Prod.mk.inj (Except.ok.inj h)).2.symm
  · next t hitems => exact h.items t (by rw [hitems]; exact List.mem_singleton_self t)
  · exact keepsModes_sequence (fun t ht => h.items t (List.mem_reverse.1 ht)) _

theorem bar (h : l.KeepsModes) (stop : Nat) : (l.bar stop).KeepsModes :=
  ⟨List.forall_mem_cons.2 ⟨h.branch stop, h.branches⟩, fun _ h => absurd h List.not_mem_nil⟩

/-- The items of a level have expressions if what was read there has one. -/
theorem hasExpr_of_tree (h : l.KeepsModes) {m m' : Modes} {e : Expr} {stop : Nat}
    (ht : (l.tree stop).expr m = .ok (e, m')) :
    (∀ t ∈ l.branches, t.HasExpr m) ∧ ∀ t ∈ l.items, t.HasExpr m := by
  have hbranch : ∀ {m' e}, (l.branch stop).expr m = .ok (e, m') → ∀ t ∈ l.items, t.HasExpr m := by
    intro m' e ht
    unfold Level.branch at ht
    split at ht
    · next hnil => exact fun t hmem => absurd (hnil ▸ hmem) List.not_mem_nil
    · next item hitem =>
      have hkeeps := h.items item (by rw [hitem]; exact List.mem_singleton_self item)
      intro t hmem
      rw [hitem, List.mem_singleton] at hmem
      obtain rfl := hkeeps _ _ _ ht
      exact ⟨e, hmem ▸ ht⟩
    · rw [Tree.expr] at ht
      split at ht
      · next hitems =>
        exact fun t hmem => hasExpr_of_exprs (fun u hu => h.items u (List.mem_reverse.1 hu)) hitems
          t (List.mem_reverse.2 hmem)
      · exact absurd ht (by simp)
  unfold Level.tree at ht
  split at ht
  · next hnil => exact ⟨fun t hmem => absurd (hnil ▸ hmem) List.not_mem_nil, hbranch ht⟩
  · rw [Tree.expr] at ht
    split at ht
    · next hall =>
      have hkeeps : ∀ t ∈ (l.branch stop :: l.branches).reverse, t.KeepsModes := by
        intro t hmem
        rcases List.mem_cons.1 (List.mem_reverse.1 hmem) with rfl | hmem
        · exact h.branch stop
        · exact h.branches t hmem
      have hexpr := hasExpr_of_exprs hkeeps hall
      obtain ⟨e, he⟩ := hexpr _ (List.mem_reverse.2 List.mem_cons_self)
      exact ⟨fun t hmem => hexpr t (List.mem_reverse.2 (List.mem_cons_of_mem _ hmem)), hbranch he⟩
    · exact absurd ht (by simp)

end Level.KeepsModes

/-- What was read at a level has an expression if its items have. -/
theorem hasExpr_tree {l : Level} {m : Modes} (hbranches : ∀ t ∈ l.branches, t.HasExpr m)
    (hitems : ∀ t ∈ l.items, t.HasExpr m) (stop : Nat) : (l.tree stop).HasExpr m := by
  have hbranch : (l.branch stop).HasExpr m := by
    unfold Level.branch
    split
    · exact ⟨.empty, rfl⟩
    · next t ht => exact hitems t (by rw [ht]; exact List.mem_singleton_self t)
    · obtain ⟨es, hes⟩ := exprs_of_hasExpr fun t ht => hitems t (List.mem_reverse.1 ht)
      exact ⟨_, by rw [Tree.expr, hes]⟩
  unfold Level.tree
  split
  · exact hbranch
  · have hall : ∀ t ∈ (l.branch stop :: l.branches).reverse, t.HasExpr m := by
      intro t ht
      rcases List.mem_cons.1 (List.mem_reverse.1 ht) with rfl | ht
      · exact hbranch
      · exact hbranches t ht
    obtain ⟨es, hes⟩ := exprs_of_hasExpr hall
    exact ⟨_, by rw [Tree.expr, hes]⟩

end FluentRegex.Syntax
