import FluentRegex.Proofs.Machine.Sequence

/-!
# The longest way that can be continued

Greedy repetitions offer the longest way first. `Offers` says that of a list of ways: they lead to
certain lengths from a place, and whatever is asked of the length, the first way that meets it has
the greatest length that does. What is asked for in the end is that the rest can be matched from
there:

> `Offers.head_flatMap`: the first way through two things has the greatest length for the first of
> them with which the second can be reached.
-/

namespace FluentRegex

namespace Machine

variable {ρ : Type}

/-- The ways lead from a place to the allowed lengths, greater lengths first, and the first way of
a length has the given record. -/
structure Offers (ws : List (Nat × ρ)) (p : Nat) (allowed : Nat → Prop) (record : Nat → ρ) :
    Prop where
  sound : ∀ y ∈ ws, ∃ n, allowed n ∧ y.1 = p + n
  best : ∀ P : Nat → Prop, (∃ n, allowed n ∧ P n) → ∃ n pre post, allowed n ∧ P n ∧
    (∀ k, allowed k → P k → k ≤ n) ∧ ws = pre ++ (p + n, record n) :: post ∧
    ∀ y ∈ pre, ∀ k, y.1 = p + k → ¬ P k

variable {ws : List (Nat × ρ)} {p : Nat} {allowed : Nat → Prop} {record : Nat → ρ}

/-- In a descending list the first length that meets a condition is the greatest one. -/
theorem exists_greatest {lens : List Nat} (hlens : lens.Pairwise (· > ·)) {P : Nat → Prop}
    (h : ∃ n ∈ lens, P n) : ∃ n pre post, lens = pre ++ n :: post ∧ P n ∧
      (∀ k ∈ lens, P k → k ≤ n) ∧ ∀ k ∈ pre, ¬ P k := by
  induction lens with
  | nil =>
    obtain ⟨n, hn, -⟩ := h
    exact absurd hn List.not_mem_nil
  | cons l lens ih =>
    obtain ⟨hl, hlens⟩ := List.pairwise_cons.1 hlens
    -- if the first length will do, all others are less
    by_cases hP : P l
    · refine ⟨l, [], lens, rfl, hP, fun k hk _ => ?_, fun k hk => absurd hk List.not_mem_nil⟩
      rcases List.mem_cons.1 hk with rfl | hk
      · exact Nat.le_refl k
      · exact Nat.le_of_lt (hl k hk)
    · obtain ⟨n, hn, hPn⟩ := h
      have hmem : n ∈ lens := by
        rcases List.mem_cons.1 hn with rfl | hn
        · exact absurd hPn hP
        · exact hn
      obtain ⟨k, pre, post, heq, hk, hmax, hpre⟩ := ih hlens ⟨n, hmem, hPn⟩
      refine ⟨k, l :: pre, post, by rw [heq]; rfl, hk, fun i hi hPi => ?_, fun i hi => ?_⟩
      · rcases List.mem_cons.1 hi with rfl | hi
        · exact absurd hPi hP
        · exact hmax i hi hPi
      · rcases List.mem_cons.1 hi with rfl | hi
        · exact hP
        · exact hpre i hi

theorem offers_map {lens : List Nat} (hlens : lens.Pairwise (· > ·))
    (hmem : ∀ n, n ∈ lens ↔ allowed n) (p : Nat) (record : Nat → ρ) :
    Offers (lens.map fun n => (p + n, record n)) p allowed record := by
  refine ⟨fun y hy => ?_, fun P h => ?_⟩
  · obtain ⟨n, hn, rfl⟩ := List.mem_map.1 hy
    exact ⟨n, (hmem n).1 hn, rfl⟩
  · obtain ⟨n, hn, hP⟩ := h
    obtain ⟨k, pre, post, heq, hk, hmax, hpre⟩ := exists_greatest hlens ⟨n, (hmem n).2 hn, hP⟩
    have hkmem : k ∈ lens := by
      rw [heq]
      exact List.mem_append_right _ List.mem_cons_self
    refine ⟨k, pre.map fun n => (p + n, record n), post.map fun n => (p + n, record n),
      (hmem k).1 hkmem, hk, fun i hi => hmax i ((hmem i).2 hi), ?_, fun y hy i hi => ?_⟩
    · rw [heq, List.map_append, List.map_cons]
    · obtain ⟨j, hj, rfl⟩ := List.mem_map.1 hy
      have hij : j = i := Nat.add_left_cancel hi
      rw [← hij]
      exact hpre j hj

theorem Offers.congr (h : Offers ws p allowed record) {allowed' : Nat → Prop}
    (hiff : ∀ n, allowed n ↔ allowed' n) : Offers ws p allowed' record := by
  obtain rfl : allowed = allowed' := funext fun n => propext (hiff n)
  exact h

/-- A last way that leads nowhere else. -/
theorem Offers.append_start (h : Offers ws p allowed record) {r : ρ} {record' : Nat → ρ}
    (hsome : ∀ n, allowed n → record' n = record n) (hnone : ¬ allowed 0 → record' 0 = r) :
    Offers (ws ++ [(p, r)]) p (fun n => allowed n ∨ n = 0) record' := by
  refine ⟨fun y hy => ?_, fun P hP => ?_⟩
  · rcases List.mem_append.1 hy with hy | hy
    · obtain ⟨n, hn, heq⟩ := h.sound y hy
      exact ⟨n, .inl hn, heq⟩
    · rw [List.mem_singleton.1 hy]
      exact ⟨0, .inr rfl, rfl⟩
  · by_cases hearlier : ∃ n, allowed n ∧ P n
    · obtain ⟨n, pre, post, hn, hPn, hmax, heq, hpre⟩ := h.best P hearlier
      refine ⟨n, pre, post ++ [(p, r)], .inl hn, hPn, fun k hk hPk => ?_, ?_, hpre⟩
      · rcases hk with hk | rfl
        · exact hmax k hk hPk
        · exact Nat.zero_le n
      · rw [heq, hsome n hn, List.append_assoc, List.cons_append]
    · -- no other length will do, so the last way is the first that does
      have hnot : ∀ k, allowed k → ¬ P k := fun k hk hPk => hearlier ⟨k, hk, hPk⟩
      obtain ⟨n, hn, hPn⟩ := hP
      have hzero : n = 0 := hn.resolve_left fun hn => hnot n hn hPn
      rw [hzero] at hPn
      refine ⟨0, ws, [], .inr rfl, hPn, fun k hk hPk => ?_, ?_, fun y hy k hk => ?_⟩
      · rcases hk with hk | hk
        · exact absurd hPk (hnot k hk)
        · exact Nat.le_of_eq hk
      · rw [hnone fun h0 => hnot 0 h0 hPn]
        rfl
      · obtain ⟨i, hi, heq⟩ := h.sound y hy
        have hik : i = k := Nat.add_left_cancel (heq.symm.trans hk)
        rw [← hik]
        exact hnot i hi

/-- The first way through two things, where it depends on the place alone whether the second can
be matched. -/
theorem Offers.head_flatMap (h : Offers ws p allowed record) {f : Nat × ρ → List (Nat × ρ)}
    {P : Nat → Prop} (hP : ∀ n r, allowed n → (f (p + n, r) ≠ [] ↔ P n)) :
    (ws.flatMap f ≠ [] ↔ ∃ n, allowed n ∧ P n) ∧ ∀ z, (ws.flatMap f).head? = some z →
      ∃ n, allowed n ∧ P n ∧ (∀ k, allowed k → P k → k ≤ n) ∧
        (f (p + n, record n)).head? = some z := by
  have hexists : ws.flatMap f ≠ [] → ∃ n, allowed n ∧ P n := by
    intro hne
    obtain ⟨z, hz⟩ := List.exists_mem_of_ne_nil _ hne
    obtain ⟨y, hy, hz⟩ := List.mem_flatMap.1 hz
    obtain ⟨n, hn, heq⟩ := h.sound y hy
    have hy' : y = (p + n, y.2) := by rw [← heq]
    rw [hy'] at hz
    exact ⟨n, hn, (hP n y.2 hn).1 (List.ne_nil_of_mem hz)⟩
  -- what stands before the best way leads to nothing
  have hbest : (∃ n, allowed n ∧ P n) → ∃ n post, allowed n ∧ P n ∧
      (∀ k, allowed k → P k → k ≤ n) ∧ ws.flatMap f = f (p + n, record n) ++ post := by
    intro hsome
    obtain ⟨n, pre, post, hn, hPn, hmax, heq, hpre⟩ := h.best P hsome
    refine ⟨n, post.flatMap f, hn, hPn, hmax, ?_⟩
    have hnil : pre.flatMap f = [] := by
      refine List.flatMap_eq_nil_iff.2 fun y hy => ?_
      obtain ⟨k, hk, hyk⟩ := h.sound y (by rw [heq]; exact List.mem_append_left _ hy)
      have hy' : y = (p + k, y.2) := by rw [← hyk]
      refine Classical.byContradiction fun hne => ?_
      rw [hy'] at hne
      exact hpre y hy k hyk ((hP k y.2 hk).1 hne)
    rw [heq, List.flatMap_append, hnil, List.nil_append, List.flatMap_cons]
  refine ⟨⟨hexists, fun hsome => ?_⟩, fun z hz => ?_⟩
  · obtain ⟨n, post, hn, hPn, -, heq⟩ := hbest hsome
    rw [heq]
    intro hnil
    exact (hP n _ hn).2 hPn (List.append_eq_nil_iff.1 hnil).1
  · have hne : ws.flatMap f ≠ [] := by
      intro hnil
      rw [hnil] at hz
      exact absurd hz (by simp)
    obtain ⟨n, post, hn, hPn, hmax, heq⟩ := hbest (hexists hne)
    refine ⟨n, hn, hPn, hmax, ?_⟩
    obtain ⟨w, ws', hw⟩ := List.exists_cons_of_ne_nil ((hP n (record n) hn).2 hPn)
    rw [heq, hw] at hz
    rw [hw]
    exact hz

/-- The first way of all has the greatest length. -/
theorem Offers.head (h : Offers ws p allowed record) :
    (ws = [] ↔ ∀ n, ¬ allowed n) ∧ ∀ z, ws.head? = some z →
      ∃ n, allowed n ∧ (∀ k, allowed k → k ≤ n) ∧ z = (p + n, record n) := by
  obtain ⟨hiff, hhead⟩ := h.head_flatMap (f := fun y => [y]) (P := fun _ => True)
    fun n r _ => ⟨fun _ => trivial, fun _ => List.cons_ne_nil _ _⟩
  rw [List.flatMap_singleton'] at hiff hhead
  refine ⟨?_, fun z hz => ?_⟩
  · rw [← not_iff_not, ← Ne, hiff]
    simp
  · obtain ⟨n, hn, -, hmax, heq⟩ := hhead z hz
    exact ⟨n, hn, fun k hk => hmax k hk trivial, (Option.some.inj heq).symm⟩

/-! ## Descending lengths -/

/-- From a place the expressions lead to the allowed lengths, greater ones first and each of them
once, and record nothing. -/
def Descends (m : Machine ρ) (es : List Expr) (p : Nat) (allowed : Nat → Prop) : Prop :=
  ∃ lens : List Nat, lens.Pairwise (· > ·) ∧ (∀ n, n ∈ lens ↔ allowed n) ∧
    ∀ r, m.through es (p, r) = lens.map fun n => (p + n, r)

variable {m : Machine ρ}

theorem Descends.congr {es : List Expr} {allowed' : Nat → Prop} (h : m.Descends es p allowed)
    (hiff : ∀ n, allowed n ↔ allowed' n) : m.Descends es p allowed' := by
  obtain rfl : allowed = allowed' := funext fun n => propext (hiff n)
  exact h

theorem Descends.offers {es : List Expr} (h : m.Descends es p allowed) (r : ρ) :
    Offers (m.through es (p, r)) p allowed fun _ => r := by
  obtain ⟨lens, hlens, hmem, hways⟩ := h
  rw [hways]
  exact offers_map hlens hmem p _

/-- One length, if a condition holds. -/
theorem descends_of_ite {es : List Expr} {n : Nat} {q : Prop} [Decidable q]
    (h : ∀ r, m.through es (p, r) = if q then [(p + n, r)] else []) :
    m.Descends es p fun k => k = n ∧ q := by
  by_cases hq : q
  · refine ⟨[n], List.pairwise_singleton _ n, fun k => ?_, fun r => ?_⟩
    · rw [List.mem_singleton]
      exact (and_iff_left hq).symm
    · rw [h, if_pos hq]
      rfl
  · refine ⟨[], List.Pairwise.nil, fun k => ?_, fun r => ?_⟩
    · exact ⟨fun h => absurd h List.not_mem_nil, fun h => absurd h.2 hq⟩
    · rw [h, if_neg hq]
      rfl

theorem descends_any (s : CharSet) (p : Nat) :
    m.Descends [Expr.repeated 0 none true (.set s)] p fun n => n ≤ m.reach s p := by
  refine ⟨(List.range (m.reach s p + 1)).reverse, ?_, fun n => ?_, fun r => ?_⟩
  · rw [List.pairwise_reverse]
    exact List.pairwise_lt_range
  · rw [List.mem_reverse, List.mem_range]
    exact Nat.lt_succ_iff
  · rw [through_singleton, ways_any]

theorem descends_some (s : CharSet) (p : Nat) :
    m.Descends [Expr.repeated 1 none true (.set s)] p fun n => 0 < n ∧ n ≤ m.reach s p := by
  refine ⟨((List.range (m.reach s p)).map (· + 1)).reverse, ?_, fun n => ?_, fun r => ?_⟩
  · rw [List.pairwise_reverse, List.pairwise_map]
    exact List.pairwise_lt_range.imp fun h => Nat.succ_lt_succ h
  · rw [List.mem_reverse, List.mem_map]
    constructor
    · intro h
      obtain ⟨k, hk, rfl⟩ := h
      exact ⟨Nat.succ_pos k, List.mem_range.1 hk⟩
    · intro h
      exact ⟨n - 1, List.mem_range.2 (by omega), by omega⟩
  · rw [through_singleton, ways_some, ← List.map_reverse, List.map_map]
    rfl

theorem descends_exactly (s : CharSet) (n : Nat) (p : Nat) :
    m.Descends [Expr.repeated n (some n) true (.set s)] p fun k => k = n ∧ n ≤ m.reach s p :=
  descends_of_ite fun r => by rw [through_singleton, ways_exactly s n]

theorem descends_sets (sets : List CharSet) (p : Nat) :
    m.Descends (sets.map Expr.set) p fun n => n = sets.length ∧
      List.Forall₂ (· ∈ ·) ((m.subject.toList.drop p).take sets.length) sets :=
  descends_of_ite fun r => through_sets sets p r

theorem descends_set (s : CharSet) (p : Nat) :
    m.Descends [.set s] p fun n => n = 1 ∧ 1 ≤ m.reach s p :=
  descends_of_ite fun r => by rw [through_singleton, ways_set]

theorem descends_look (l : Look) (p : Nat) :
    m.Descends [.look l] p fun n => n = 0 ∧ l.holds (m.before? p) (m.after? p) = true :=
  descends_of_ite fun r => by rw [through_singleton]; rfl

end Machine

end FluentRegex
