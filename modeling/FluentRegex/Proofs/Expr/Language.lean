import FluentRegex.Proofs.Machine.Complete

/-!
# What the simple forms of expressions can be passed from and to

Expressions are built in simple forms: a sequence leaves out what is empty, a choice takes out what
its branches begin with, and a repetition of what takes up no characters goes round at most once.
From where to where an expression can be passed is not changed by that:

> `passes_sequence`, `passes_choice`: the members one after the other, and any one of them.
> `passes_repeated`: so many rounds as the bounds allow, on a machine that records nothing.

What is recorded does change, since rounds that are left out would have left marks.
-/

namespace FluentRegex.Machine

open FluentRegex.Expr

variable {ρ : Type} {m : Machine ρ} {x y : Nat × ρ}

/-! ## Sequences -/

/-- Expressions can be passed one after the other. -/
def PassesAll (m : Machine ρ) : List Expr → Nat × ρ → Nat × ρ → Prop
  | [], x, y => y = x
  | e :: es, x, y => ∃ z, m.Passes e x z ∧ m.PassesAll es z y

theorem passesAll_singleton {e : Expr} : m.PassesAll [e] x y ↔ m.Passes e x y := by
  constructor
  · intro h
    obtain ⟨z, hz, rfl⟩ := h
    exact hz
  · exact fun h => ⟨y, h, rfl⟩

theorem passesAll_append {es fs : List Expr} :
    m.PassesAll (es ++ fs) x y ↔ ∃ z, m.PassesAll es x z ∧ m.PassesAll fs z y := by
  induction es generalizing x with
  | nil => exact ⟨fun h => ⟨x, rfl, h⟩, fun ⟨z, hz, h⟩ => hz ▸ h⟩
  | cons e es ih =>
    constructor
    · intro h
      obtain ⟨w, hw, h⟩ := h
      obtain ⟨z, hz, h⟩ := ih.1 h
      exact ⟨z, ⟨w, hw, hz⟩, h⟩
    · intro h
      obtain ⟨z, ⟨w, hw, hz⟩, h⟩ := h
      exact ⟨w, hw, ih.2 ⟨z, hz, h⟩⟩

theorem passesAll_factors {e : Expr} : m.PassesAll e.factors x y ↔ m.Passes e x y := by
  induction e generalizing x y with
  | empty => exact Iff.rfl
  | seq a b iha ihb =>
    rw [factors, passesAll_append, Passes]
    exact exists_congr fun z => and_congr iha ihb
  | _ => exact passesAll_singleton

theorem passes_join (es : List Expr) : m.Passes (join es) x y ↔ m.PassesAll es x y := by
  induction es generalizing x with
  | nil => exact Iff.rfl
  | cons e es ih =>
    cases es with
    | nil => exact passesAll_singleton.symm
    | cons f fs => exact exists_congr fun z => and_congr_right fun _ => ih

/-- A sequence in its simple form can be passed like its members one after the other. -/
theorem passes_sequence (es : List Expr) :
    m.Passes (sequence es) x y ↔ m.PassesAll es x y := by
  rw [Expr.sequence, passes_join]
  induction es generalizing x with
  | nil => exact Iff.rfl
  | cons e es ih =>
    rw [List.flatMap_cons, passesAll_append, PassesAll]
    exact exists_congr fun z => and_congr passesAll_factors ih

/-! ## Choices -/

theorem passes_branches {e : Expr} : (∃ b ∈ e.branches, m.Passes b x y) ↔ m.Passes e x y := by
  induction e with
  | alt a b iha ihb =>
    rw [Passes, ← iha, ← ihb]
    simp only [branches, List.mem_append, or_and_right, exists_or]
  | _ => simp [branches]

theorem passes_pick (es : List Expr) : m.Passes (pick es) x y ↔ ∃ e ∈ es, m.Passes e x y := by
  induction es with
  | nil =>
    refine ⟨fun h => ?_, fun ⟨e, he, _⟩ => absurd he List.not_mem_nil⟩
    obtain ⟨⟨c, -, hc⟩, -⟩ := h
    exact absurd hc (CharSet.not_mem_empty c)
  | cons e es ih =>
    cases es with
    | nil => simp [pick]
    | cons f fs =>
      exact (or_congr_right ih).trans
        (List.exists_mem_cons_iff (fun e => m.Passes e x y) e (f :: fs)).symm

theorem contains_foldl_union {c : Char} (ss : List CharSet) (s : CharSet) :
    c ∈ ss.foldl CharSet.union s ↔ ∃ t ∈ s :: ss, c ∈ t := by
  induction ss generalizing s with
  | nil => simp
  | cons t ss ih =>
    rw [List.foldl_cons, ih]
    simp [or_assoc]

theorem eq_map_of_sets {es : List Expr} {ss : List CharSet} (h : es.mapM set? = some ss) :
    es = ss.map Expr.set := by
  induction es generalizing ss with
  | nil =>
    obtain rfl : [] = ss := Option.some.inj h
    rfl
  | cons e es ih =>
    rw [List.mapM_cons] at h
    obtain ⟨s, hs, h⟩ := Option.bind_eq_some_iff.1 h
    obtain ⟨ts, hts, h⟩ := Option.bind_eq_some_iff.1 h
    obtain rfl : s :: ts = ss := Option.some.inj h
    cases e with
    | set u =>
      obtain rfl : u = s := Option.some.inj hs
      rw [ih hts, List.map_cons]
    | _ => exact absurd hs (by simp [set?])

/-- A choice of sets is the set of all their characters. -/
theorem passes_union {es : List Expr} {s : CharSet} {ss : List CharSet}
    (h : es.mapM set? = some (s :: ss)) :
    m.Passes (.set (ss.foldl CharSet.union s)) x y ↔ ∃ e ∈ es, m.Passes e x y := by
  rw [eq_map_of_sets h]
  constructor
  · intro h
    obtain ⟨⟨c, hc, hcs⟩, hy⟩ := h
    obtain ⟨t, ht, hct⟩ := (contains_foldl_union ss s).1 hcs
    exact ⟨.set t, List.mem_map_of_mem ht, ⟨c, hc, hct⟩, hy⟩
  · intro h
    obtain ⟨e, he, h⟩ := h
    obtain ⟨t, ht, rfl⟩ := List.mem_map.1 he
    obtain ⟨⟨c, hc, hct⟩, hy⟩ := h
    exact ⟨⟨c, hc, (contains_foldl_union ss s).2 ⟨t, ht, hct⟩⟩, hy⟩

theorem take_of_commonLength {xs ys : List Expr} {n : Nat} (h : n ≤ commonLength xs ys) :
    ys.take n = xs.take n := by
  induction xs generalizing ys n with
  | nil =>
    obtain rfl : n = 0 := Nat.le_zero.1 (by simpa [commonLength] using h)
    rfl
  | cons a xs ih =>
    cases ys with
    | nil =>
      obtain rfl : n = 0 := Nat.le_zero.1 (by simpa [commonLength] using h)
      rfl
    | cons b ys =>
      rw [commonLength] at h
      split at h
      · next hab =>
        cases n with
        | zero => rfl
        | succ n =>
          rw [List.take_succ_cons, List.take_succ_cons, ih (Nat.le_of_succ_le_succ h), hab]
      · obtain rfl := Nat.le_zero.1 h
        rfl

/-- All lists begin with the shared parts of the first one. -/
theorem take_of_sharedLength {first : List Expr} {rest : List (List Expr)} {n : Nat}
    (h : n ≤ sharedLength (first :: rest)) : ∀ p ∈ first :: rest, p.take n = first.take n := by
  have hfold : ∀ (ps : List (List Expr)) (k : Nat),
      n ≤ ps.foldl (fun n parts => Nat.min n (commonLength first parts)) k →
        ∀ p ∈ ps, n ≤ commonLength first p := by
    intro ps
    induction ps with
    | nil => exact fun _ _ p hp => absurd hp List.not_mem_nil
    | cons q ps ih =>
      intro k hk
      -- the minimum does not grow again over the lists that follow
      have hmono : ∀ (ps : List (List Expr)) (k : Nat),
          ps.foldl (fun n parts => Nat.min n (commonLength first parts)) k ≤ k := by
        intro ps
        induction ps with
        | nil => exact fun _ => Nat.le_refl _
        | cons q ps ih => exact fun k => Nat.le_trans (ih _) (Nat.min_le_left _ _)
      refine List.forall_mem_cons.2 ⟨?_, ih _ hk⟩
      exact Nat.le_trans hk (Nat.le_trans (hmono ps _) (Nat.min_le_right _ _))
  rw [sharedLength] at h
  split at h
  · refine List.forall_mem_cons.2 ⟨rfl, fun p hp => ?_⟩
    exact take_of_commonLength (hfold rest _ h p hp)
  · obtain rfl := Nat.le_zero.1 h
    exact fun p _ => rfl

theorem passes_choiceFrom (fuel : Nat) (es : List Expr) :
    m.Passes (choiceFrom fuel es) x y ↔ ∃ e ∈ es, m.Passes e x y := by
  induction fuel generalizing es x with
  | zero => exact passes_pick es
  | succ fuel ih =>
    have hall : (∃ b ∈ es.flatMap branches, m.Passes b x y) ↔ ∃ e ∈ es, m.Passes e x y := by
      constructor
      · intro h
        obtain ⟨b, hb, h⟩ := h
        obtain ⟨e, he, hb⟩ := List.mem_flatMap.1 hb
        exact ⟨e, he, passes_branches.1 ⟨b, hb, h⟩⟩
      · intro h
        obtain ⟨e, he, h⟩ := h
        obtain ⟨b, hb, h⟩ := passes_branches.2 h
        exact ⟨b, List.mem_flatMap.2 ⟨e, he, hb⟩, h⟩
    rw [choiceFrom]
    dsimp only
    split
    · next hsets => rw [passes_union hsets, hall]
    · split
      · next first second rest hbranches =>
        split
        · rw [passes_pick, hall]
        · -- each branch is what is taken out and what is left of it
          have hshared := take_of_sharedLength (Nat.le_refl (sharedLength
            (first.factors :: (second :: rest).map factors)))
          rw [← List.map_cons, ← hbranches] at hshared
          generalize sharedLength ((es.flatMap branches).map factors) = n at hshared ⊢
          have hbranch : ∀ b ∈ es.flatMap branches, (m.Passes b x y ↔ ∃ z,
              m.PassesAll (first.factors.take n) x z ∧ m.PassesAll (b.factors.drop n) z y) := by
            intro b hb
            rw [← hshared _ (List.mem_map_of_mem hb), ← passesAll_append, List.take_append_drop,
              passesAll_factors]
          rw [passes_sequence, passesAll_append, ← hall]
          constructor
          · intro h
            obtain ⟨z, hz, h⟩ := h
            obtain ⟨e, he, h⟩ := (ih _).1 (passesAll_singleton.1 h)
            obtain ⟨parts, hparts, rfl⟩ := List.mem_map.1 he
            obtain ⟨b, hb, rfl⟩ := List.mem_map.1 hparts
            exact ⟨b, hb, (hbranch b hb).2 ⟨z, hz, (passes_sequence _).1 h⟩⟩
          · intro h
            obtain ⟨b, hb, h⟩ := h
            obtain ⟨z, hz, h⟩ := (hbranch b hb).1 h
            refine ⟨z, hz, passesAll_singleton.2 ((ih _).2 ⟨_, ?_, (passes_sequence _).2 h⟩)⟩
            exact List.mem_map_of_mem (List.mem_map_of_mem hb)
      · rw [passes_pick, hall]

theorem passes_choice (es : List Expr) :
    m.Passes (choice es) x y ↔ ∃ e ∈ es, m.Passes e x y :=
  passes_choiceFrom _ es

/-! ## Repetitions -/

/-- What takes up no characters leads nowhere else, where nothing is recorded. -/
theorem eq_of_onlyEmpty [Subsingleton ρ] {e : Expr} (he : e.onlyEmpty = true)
    (h : m.Passes e x y) : y = x := by
  induction e generalizing x y with
  | empty => exact h
  | set s => exact absurd he (by simp [onlyEmpty])
  | look l => exact h.2
  | group index name e ih =>
    obtain ⟨z, hz, rfl⟩ := h
    rw [ih he hz]
    exact Prod.ext rfl (Subsingleton.elim _ _)
  | rep min max greedy e ih =>
    rw [onlyEmpty, Bool.and_eq_true] at he
    obtain ⟨n, -, -, h⟩ := h
    exact h.lift (Q := fun x y => y = x) (fun _ => rfl) (fun h h' => h'.trans h) (ih he.2)
  | seq a b iha ihb =>
    rw [onlyEmpty, Bool.and_eq_true] at he
    obtain ⟨z, hz, h⟩ := h
    exact (ihb he.2 h).trans (iha he.1 hz)
  | alt a b iha ihb =>
    rw [onlyEmpty, Bool.and_eq_true] at he
    exact h.elim (iha he.1) (ihb he.2)

/-- Rounds that lead nowhere else are as good as one, if there is any. -/
theorem rounds_iff_of_onlyEmpty [Subsingleton ρ] {e : Expr} (he : e.onlyEmpty = true) (n : Nat) :
    Rounds (m.Passes e) n x y ↔ y = x ∧ (0 < n → m.Passes e x x) := by
  induction n with
  | zero => exact ⟨fun h => ⟨h, fun h => absurd h (Nat.lt_irrefl 0)⟩, fun h => h.1⟩
  | succ n ih =>
    constructor
    · intro h
      obtain ⟨z, hz, h⟩ := h
      obtain rfl := eq_of_onlyEmpty he hz
      exact ⟨(ih.1 h).1, fun _ => hz⟩
    · intro h
      exact ⟨x, h.2 (Nat.succ_pos n), ih.2 ⟨h.1, fun _ => h.2 (Nat.succ_pos n)⟩⟩

theorem passes_rep_iff_of_onlyEmpty [Subsingleton ρ] {e : Expr} (he : e.onlyEmpty = true)
    (min : Nat) (max : Option Nat) (greedy : Bool) :
    m.Passes (.rep min max greedy e) x y ↔ y = x ∧ (0 < min → m.Passes e x x) := by
  constructor
  · intro h
    obtain ⟨n, hmin, -, h⟩ := h
    obtain ⟨hy, h⟩ := (rounds_iff_of_onlyEmpty he n).1 h
    exact ⟨hy, fun hpos => h (Nat.lt_of_lt_of_le hpos hmin)⟩
  · intro h
    exact ⟨min, Nat.le_refl min, fun k _ => Nat.le_add_right _ _,
      (rounds_iff_of_onlyEmpty he min).2 h⟩

/-- The simple form of a repetition. -/
theorem passes_simple {low : Nat} {high : Option Nat} (greedy : Bool) (e : Expr) :
    m.Passes (if low = 0 ∧ high = some 0 then .empty
      else if low = 1 ∧ high = some 1 then e else .rep low high greedy e) x y ↔
      m.Passes (.rep low high greedy e) x y := by
  split
  · next h =>
    obtain ⟨rfl, rfl⟩ := h
    constructor
    · exact fun h => ⟨0, Nat.le_refl 0, fun k _ => Nat.zero_le _, h⟩
    · intro h
      obtain ⟨n, -, hn, h⟩ := h
      obtain rfl : n = 0 := Nat.le_zero.1 (hn 0 rfl)
      exact h
  · split
    · next h =>
      obtain ⟨rfl, rfl⟩ := h
      constructor
      · exact fun h => ⟨1, Nat.le_refl 1, fun k _ => Nat.le_add_right _ _, y, h, rfl⟩
      · intro h
        obtain ⟨n, hmin, hn, h⟩ := h
        obtain rfl : n = 1 := Nat.le_antisymm (hn 1 rfl) hmin
        obtain ⟨z, hz, rfl⟩ := h
        exact hz
    · exact Iff.rfl

/-- A repetition in its simple form can be passed in as many rounds as its bounds allow. -/
theorem passes_repeated [Subsingleton ρ] (min : Nat) (max : Option Nat) (greedy : Bool) (e : Expr) :
    m.Passes (repeated min max greedy e) x y ↔ m.Passes (.rep min max greedy e) x y := by
  rw [repeated, passes_simple]
  cases he : e.onlyEmpty with
  | false => exact Iff.rfl
  | true =>
    have hlow : 0 < Nat.min min 1 ↔ 0 < min := by
      rw [show Nat.min min 1 = Min.min min 1 from rfl]
      omega
    rw [if_pos rfl, if_pos rfl, passes_rep_iff_of_onlyEmpty he, passes_rep_iff_of_onlyEmpty he,
      hlow]

end FluentRegex.Machine
