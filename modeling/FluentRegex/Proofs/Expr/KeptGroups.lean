import FluentRegex.Proofs.Expr.Captures
import FluentRegex.Proofs.Expr.Language

/-!
# Groups that stay in an expression

A choice tries what its branches begin with only once, but no group is lost by that: the branches
begin with the same groups (`captures_subset_choice`). The table has one more entry than the highest
number of a group, and the group with that number gives its name to the last one, whatever groups
come before and after it (`enterGroups_of_highest`).
-/

namespace FluentRegex.Expr

/-- A repetition that may go round at least once has the groups of its body. -/
theorem captures_repeated_eq {min : Nat} {max : Option Nat} (hmax : max ≠ some 0) (greedy : Bool)
    (e : Expr) : (repeated min max greedy e).captures = e.captures := by
  rcases repeated_cases min max greedy e with ⟨hzero, -⟩ | h | ⟨low, high, h, -⟩
  · exact absurd hzero hmax
  · rw [h]
  · rw [h]
    rfl

/-! ## Choices -/

theorem captures_subset_choiceFrom (fuel : Nat) (es : List Expr) :
    es.flatMap captures ⊆ (choiceFrom fuel es).captures := by
  induction fuel generalizing es with
  | zero =>
    rw [choiceFrom, captures_pick]
    exact List.Subset.refl _
  | succ fuel ih =>
    have hall : (es.flatMap branches).flatMap captures = es.flatMap captures := by
      rw [List.flatMap_assoc]
      simp only [captures_branches]
    rw [← hall, choiceFrom]
    dsimp only
    split
    · next hsets =>
      -- sets have no groups
      rw [Machine.eq_map_of_sets hsets, List.flatMap_map]
      intro g hg
      obtain ⟨s, -, hg⟩ := List.mem_flatMap.1 hg
      exact absurd hg List.not_mem_nil
    · split
      · next first second rest hbranches =>
        split
        · rw [captures_pick]
          exact List.Subset.refl _
        · have hshared := Machine.take_of_sharedLength (Nat.le_refl (sharedLength
            (first.factors :: (second :: rest).map factors)))
          rw [← List.map_cons, ← hbranches] at hshared
          generalize sharedLength ((es.flatMap branches).map factors) = n at hshared ⊢
          intro g hg
          obtain ⟨branch, hbranch, hg⟩ := List.mem_flatMap.1 hg
          rw [captures_sequence, List.flatMap_append, List.flatMap_singleton, List.mem_append]
          rw [← captures_factors, ← List.take_append_drop n branch.factors, List.flatMap_append,
            List.mem_append, hshared _ (List.mem_map_of_mem hbranch)] at hg
          refine hg.imp_right fun hg => ih _ ?_
          refine List.mem_flatMap.2 ⟨sequence (branch.factors.drop n), ?_, ?_⟩
          · exact List.mem_map_of_mem (List.mem_map_of_mem hbranch)
          · rwa [captures_sequence]
      · rw [captures_pick]
        exact List.Subset.refl _

theorem captures_subset_choice (es : List Expr) : es.flatMap captures ⊆ (choice es).captures :=
  captures_subset_choiceFrom _ es

/-! ## The last entry of the table -/

variable {gs : List (Nat × Option String)} {table : List (Option String)} {index : Nat}
  {name : Option String}

theorem length_enterGroup_le {bound : Nat} (hlen : table.length ≤ bound) (hindex : index < bound) :
    (enterGroup table index name).length ≤ bound := by
  unfold enterGroup
  split
  · exact hlen
  · rw [List.length_append, List.length_append, List.length_replicate, List.length_singleton]
    omega

theorem length_enterGroups_le {bound : Nat} (hlen : table.length ≤ bound)
    (h : ∀ g ∈ gs, g.1 < bound) :
    (gs.foldl (fun t g => enterGroup t g.1 g.2) table).length ≤ bound := by
  induction gs generalizing table with
  | nil => exact hlen
  | cons g gs ih =>
    rw [List.forall_mem_cons] at h
    exact ih (length_enterGroup_le hlen h.1) h.2

/-- Groups with numbers that are taken change nothing. -/
theorem enterGroups_eq_self (h : ∀ g ∈ gs, g.1 < table.length) :
    gs.foldl (fun t g => enterGroup t g.1 g.2) table = table := by
  induction gs with
  | nil => rfl
  | cons g gs ih =>
    rw [List.forall_mem_cons] at h
    rw [List.foldl_cons, enterGroup, if_pos h.1, ih h.2]

/-- The group with the highest number has the last entry. -/
theorem enterGroups_of_highest (hlen : table.length ≤ index) (hmem : (index, name) ∈ gs)
    (hhighest : ∀ g ∈ gs, g.1 ≤ index) (hunique : ∀ other, (index, other) ∈ gs → other = name) :
    (gs.foldl (fun t g => enterGroup t g.1 g.2) table).length = index + 1 ∧
      (gs.foldl (fun t g => enterGroup t g.1 g.2) table).getLast? = some name := by
  induction gs generalizing table with
  | nil => exact absurd hmem List.not_mem_nil
  | cons g gs ih =>
    rw [List.forall_mem_cons] at hhighest
    rw [List.foldl_cons]
    rcases Nat.lt_or_eq_of_le hhighest.1 with hlt | heq
    · refine ih (length_enterGroup_le hlen hlt) ?_ hhighest.2
        fun other hother => hunique other (List.mem_cons_of_mem g hother)
      refine (List.mem_cons.1 hmem).resolve_left fun hg => ?_
      rw [← hg] at hlt
      exact Nat.lt_irrefl _ hlt
    · have hg : g.2 = name := hunique g.2 (by rw [← heq]; exact List.mem_cons_self)
      have hfilled : (table ++ List.replicate (index - table.length) none).length = index := by
        rw [List.length_append, List.length_replicate]
        omega
      have hentry : enterGroup table g.1 g.2 =
          table ++ List.replicate (index - table.length) none ++ [name] := by
        rw [heq, hg, enterGroup, if_neg (Nat.not_lt_of_le hlen)]
      rw [hentry, enterGroups_eq_self fun g hg => ?_]
      · exact ⟨by rw [List.length_append, hfilled]; rfl, List.getLast?_concat⟩
      · rw [List.length_append, hfilled]
        exact Nat.lt_succ_of_le (hhighest.2 g hg)

end FluentRegex.Expr
