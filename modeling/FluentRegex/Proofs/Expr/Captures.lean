import FluentRegex.Expr.Groups
import FluentRegex.Proofs.Machine.Sequence

/-!
# The groups of an expression

`Expr.captures` lists the groups of an expression in the order in which they open, and the table of
groups is made from that list (`enterGroups_eq_foldl`). Bringing an expression into its simple form
may leave out groups and tries some of them once for several branches, but makes no new ones.

> `getElem?_enterGroups`: a name in the table is that of a group with the number of its entry.
-/

namespace FluentRegex

namespace Expr

/-- The groups of an expression, with their numbers and names, in the order in which they open. -/
def captures : Expr → List (Nat × Option String)
  | .empty => []
  | .set _ => []
  | .look _ => []
  | .group index name e => (index, name) :: e.captures
  | .rep _ _ _ e => e.captures
  | .seq a b => a.captures ++ b.captures
  | .alt a b => a.captures ++ b.captures

/-! ## Simple forms -/

theorem captures_factors (e : Expr) : e.factors.flatMap captures = e.captures := by
  induction e with
  | seq a b iha ihb => rw [factors, List.flatMap_append, iha, ihb, captures]
  | empty => rfl
  | _ => exact List.flatMap_singleton _ _

theorem captures_join (es : List Expr) : (join es).captures = es.flatMap captures := by
  induction es with
  | nil => rfl
  | cons e es ih =>
    cases es with
    | nil => exact (List.flatMap_singleton _ _).symm
    | cons f fs => rw [join, captures, ih, ← List.flatMap_cons]; simp

/-- A sequence has the groups of its members. -/
theorem captures_sequence (es : List Expr) : (sequence es).captures = es.flatMap captures := by
  rw [sequence, captures_join, List.flatMap_assoc]
  simp only [captures_factors]

theorem captures_repeated (min : Nat) (max : Option Nat) (greedy : Bool) (e : Expr) :
    (repeated min max greedy e).captures ⊆ e.captures := by
  rcases repeated_cases min max greedy e with ⟨-, h⟩ | h | ⟨low, high, h, -⟩
  · rw [h]
    exact List.nil_subset _
  · rw [h]
    exact List.Subset.refl _
  · rw [h]
    exact List.Subset.refl _

theorem captures_branches (e : Expr) : e.branches.flatMap captures = e.captures := by
  induction e with
  | alt a b iha ihb => rw [branches, List.flatMap_append, iha, ihb, captures]
  | _ => exact List.flatMap_singleton _ _

theorem captures_pick (es : List Expr) : (pick es).captures = es.flatMap captures := by
  induction es with
  | nil => rfl
  | cons e es ih =>
    cases es with
    | nil => exact (List.flatMap_singleton _ _).symm
    | cons f fs => rw [pick, captures, ih, ← List.flatMap_cons]; simp

/-- Parts that are taken out of an expression and those that are left have groups of it. -/
theorem captures_take_factors (e : Expr) (n : Nat) :
    (e.factors.take n).flatMap captures ⊆ e.captures ∧
      (e.factors.drop n).flatMap captures ⊆ e.captures := by
  rw [← captures_factors e]
  constructor
  · intro g hg
    obtain ⟨f, hf, hg⟩ := List.mem_flatMap.1 hg
    exact List.mem_flatMap.2 ⟨f, List.take_subset n _ hf, hg⟩
  · intro g hg
    obtain ⟨f, hf, hg⟩ := List.mem_flatMap.1 hg
    exact List.mem_flatMap.2 ⟨f, List.drop_subset n _ hf, hg⟩

theorem captures_choiceFrom (fuel : Nat) (es : List Expr) :
    (choiceFrom fuel es).captures ⊆ es.flatMap captures := by
  induction fuel generalizing es with
  | zero =>
    rw [choiceFrom, captures_pick]
    exact List.Subset.refl _
  | succ fuel ih =>
    -- the branches of all the expressions have the groups of the expressions
    have hall : (es.flatMap branches).flatMap captures = es.flatMap captures := by
      rw [List.flatMap_assoc]
      simp only [captures_branches]
    rw [choiceFrom]
    dsimp only
    split
    · exact List.nil_subset _
    · split
      · next first second rest hbranches =>
        split
        · rw [captures_pick, hall]
          exact List.Subset.refl _
        · -- what all branches begin with is part of the first of them
          rw [captures_sequence, List.flatMap_append, List.flatMap_singleton, ← hall]
          refine List.append_subset.2 ⟨?_, ?_⟩
          · refine List.Subset.trans (captures_take_factors first _).1 ?_
            rw [hbranches, List.flatMap_cons]
            exact List.subset_append_left _ _
          · refine List.Subset.trans (ih _) fun g hg => ?_
            obtain ⟨e, he, hg⟩ := List.mem_flatMap.1 hg
            obtain ⟨parts, hparts, rfl⟩ := List.mem_map.1 he
            obtain ⟨branch, hbranch, rfl⟩ := List.mem_map.1 hparts
            rw [captures_sequence] at hg
            exact List.mem_flatMap.2 ⟨branch, hbranch, (captures_take_factors branch _).2 hg⟩
      · rw [captures_pick, hall]
        exact List.Subset.refl _

theorem captures_choice (es : List Expr) : (choice es).captures ⊆ es.flatMap captures :=
  captures_choiceFrom _ es

/-! ## The table of groups -/

theorem enterGroups_eq_foldl (e : Expr) (table : List (Option String)) :
    e.enterGroups table = e.captures.foldl (fun t g => enterGroup t g.1 g.2) table := by
  induction e generalizing table with
  | empty => rfl
  | set s => rfl
  | look l => rfl
  | group index name e ih => exact ih _
  | rep min max greedy e ih => exact ih table
  | seq a b iha ihb => rw [enterGroups, captures, List.foldl_append, iha, ihb]
  | alt a b iha ihb => rw [enterGroups, captures, List.foldl_append, iha, ihb]

/-- Entering a group puts its name at its number, and no other name anywhere. -/
theorem getElem?_enterGroup {table : List (Option String)} {index i : Nat} {name : Option String}
    {n : String} (h : (enterGroup table index name)[i]? = some (some n)) :
    table[i]? = some (some n) ∨ (i = index ∧ name = some n) := by
  rw [enterGroup] at h
  split at h
  · exact .inl h
  · next hlt =>
    have hle : table.length ≤ index := Nat.le_of_not_lt hlt
    have hlen : (table ++ List.replicate (index - table.length) none).length = index := by
      rw [List.length_append, List.length_replicate]
      omega
    rcases Nat.lt_trichotomy i index with hi | rfl | hi
    · rw [List.getElem?_append_left (by rwa [hlen])] at h
      rcases Nat.lt_or_ge i table.length with hi' | hi'
      · rw [List.getElem?_append_left hi'] at h
        exact .inl h
      · -- the entries in between have no names
        rw [List.getElem?_append_right hi'] at h
        have hmem := List.mem_of_getElem? h
        rw [List.mem_replicate] at hmem
        exact absurd hmem.2 (by simp)
    · rw [List.getElem?_append_right (Nat.le_of_eq hlen), hlen, Nat.sub_self] at h
      exact .inr ⟨rfl, Option.some.inj h⟩
    · rw [List.getElem?_eq_none (by rw [List.length_append, hlen]; exact hi)] at h
      exact absurd h (by simp)

/-- A name in the table is that of a group with the number of its entry. -/
theorem getElem?_enterGroups {gs : List (Nat × Option String)} {table : List (Option String)}
    {i : Nat} {n : String}
    (h : (gs.foldl (fun t g => enterGroup t g.1 g.2) table)[i]? = some (some n)) :
    table[i]? = some (some n) ∨ (i, some n) ∈ gs := by
  induction gs generalizing table with
  | nil => exact .inl h
  | cons g gs ih =>
    rcases ih h with h | h
    · rcases getElem?_enterGroup h with h | ⟨rfl, hname⟩
      · exact .inl h
      · exact .inr (hname ▸ List.mem_cons_self)
    · exact .inr (List.mem_cons_of_mem g h)

theorem mem_captures_of_groupNames {e : Expr} {i : Nat} {n : String}
    (h : e.groupNames[i]? = some (some n)) : (i, some n) ∈ e.captures := by
  rw [groupNames, enterGroups_eq_foldl] at h
  rcases getElem?_enterGroups h with h | h
  · cases i with
    | zero => exact absurd h (by simp)
    | succ i => exact absurd h (by simp)
  · exact h

theorem length_enterGroup (table : List (Option String)) (index : Nat) (name : Option String) :
    table.length ≤ (enterGroup table index name).length := by
  unfold enterGroup
  split
  · exact Nat.le_refl _
  · rw [List.length_append, List.length_append]
    omega

/-- The table has an entry for the whole match. -/
theorem length_groupNames_pos (e : Expr) : 0 < e.groupNames.length := by
  rw [groupNames, enterGroups_eq_foldl]
  refine List.foldlRecOn (motive := fun t : List (Option String) => 0 < t.length) e.captures _
    Nat.one_pos ?_
  intro table h g _
  exact Nat.lt_of_lt_of_le h (length_enterGroup table g.1 g.2)

end Expr

end FluentRegex
