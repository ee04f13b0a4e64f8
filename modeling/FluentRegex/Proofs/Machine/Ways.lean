import FluentRegex.Machine.Search

/-!
# The ways through an expression

`Machine.ways` says what an expression does to a place and a record: the places where it may end,
each with its record, in the order of preference. It is a plain recursion on the expression, with
no program and no threads in it, and the results about what patterns find are stated over it.

A repetition without an upper bound goes round at most once for every character that is left.
That is all its ways as long as each round takes up a character, which `Expr.Guarded` asks for.
-/

namespace FluentRegex

/-- Every repetition without an upper bound takes up a character in each round. -/
def Expr.Guarded : Expr → Prop
  | .empty => True
  | .set _ => True
  | .look _ => True
  | .group _ _ e => e.Guarded
  | .rep _ max _ e => e.Guarded ∧ (max = none → e.neverEmpty = true)
  | .seq a b => a.Guarded ∧ b.Guarded
  | .alt a b => a.Guarded ∧ b.Guarded

namespace Machine

variable {ρ : Type} {m : Machine ρ}

/-- Exactly `n` rounds. -/
def rounds (f : Nat × ρ → List (Nat × ρ)) : (n : Nat) → Nat × ρ → List (Nat × ρ)
  | 0, x => [x]
  | n + 1, x => (rounds f n x).flatMap f

/-- At most `n` rounds, more of them or fewer of them preferred. -/
def roundsUpTo (greedy : Bool) (f : Nat × ρ → List (Nat × ρ)) :
    (n : Nat) → Nat × ρ → List (Nat × ρ)
  | 0, x => [x]
  | n + 1, x =>
    let more := (f x).flatMap (roundsUpTo greedy f n)
    if greedy then more ++ [x] else x :: more

/-- Where an expression may end from a place, and what is recorded then, in the order of
preference. -/
def ways (m : Machine ρ) : Expr → Nat × ρ → List (Nat × ρ)
  | .empty, x => [x]
  | .set s, x =>
    match m.after? x.1 with
    | some c => if s.contains c then [(x.1 + 1, x.2)] else []
    | none => []
  | .look l, x => if l.holds (m.before? x.1) (m.after? x.1) then [x] else []
  | .group index _ e, x =>
    (m.ways e (x.1, m.note (2 * index) x.1 x.2)).map
      fun y => (y.1, m.note (2 * index + 1) y.1 y.2)
  | .rep min (some max) greedy e, x =>
    (rounds (m.ways e) min x).flatMap (roundsUpTo greedy (m.ways e) (max - min))
  | .rep min none greedy e, x =>
    (rounds (m.ways e) min x).flatMap
      fun y => roundsUpTo greedy (m.ways e) (m.subject.size - y.1) y
  | .seq a b, x => (m.ways a x).flatMap (m.ways b)
  | .alt a b, x => m.ways a x ++ m.ways b x

/-! ## Ways lead forward -/

/-- The second place is not before the first, and is in the subject if the first is. -/
def Forward (m : Machine ρ) (x y : Nat × ρ) : Prop :=
  x.1 ≤ y.1 ∧ (x.1 ≤ m.subject.size → y.1 ≤ m.subject.size)

theorem Forward.refl (x : Nat × ρ) : Forward m x x := ⟨Nat.le_refl _, id⟩

theorem Forward.trans {x y z : Nat × ρ} (h1 : Forward m x y) (h2 : Forward m y z) :
    Forward m x z :=
  ⟨Nat.le_trans h1.1 h2.1, fun h => h2.2 (h1.2 h)⟩

theorem mem_roundsUpTo_succ {greedy : Bool} {f : Nat × ρ → List (Nat × ρ)} {n : Nat}
    {x y : Nat × ρ} :
    y ∈ roundsUpTo greedy f (n + 1) x ↔ y = x ∨ ∃ z ∈ f x, y ∈ roundsUpTo greedy f n z := by
  rw [← List.mem_flatMap, roundsUpTo]
  cases greedy with
  | true => simp only [if_true, List.mem_append, List.mem_singleton, or_comm]
  | false => simp only [Bool.false_eq_true, if_false, List.mem_cons]

theorem forward_rounds {f : Nat × ρ → List (Nat × ρ)} (hf : ∀ x, ∀ y ∈ f x, Forward m x y)
    (n : Nat) (x : Nat × ρ) : ∀ y ∈ rounds f n x, Forward m x y := by
  induction n with
  | zero =>
    intro y hy
    rw [rounds, List.mem_singleton] at hy
    rw [hy]
    exact .refl x
  | succ n ih =>
    intro y hy
    obtain ⟨z, hz, hy⟩ := List.mem_flatMap.1 hy
    exact (ih z hz).trans (hf z y hy)

theorem forward_roundsUpTo {f : Nat × ρ → List (Nat × ρ)} (hf : ∀ x, ∀ y ∈ f x, Forward m x y)
    (greedy : Bool) (n : Nat) (x : Nat × ρ) : ∀ y ∈ roundsUpTo greedy f n x, Forward m x y := by
  induction n generalizing x with
  | zero =>
    intro y hy
    rw [roundsUpTo, List.mem_singleton] at hy
    rw [hy]
    exact .refl x
  | succ n ih =>
    intro y hy
    rcases mem_roundsUpTo_succ.1 hy with rfl | ⟨z, hz, hy⟩
    · exact .refl y
    · exact (hf x z hz).trans (ih z y hy)

theorem forward_ways (e : Expr) (x : Nat × ρ) : ∀ y ∈ m.ways e x, Forward m x y := by
  induction e generalizing x with
  | empty =>
    intro y hy
    rw [ways, List.mem_singleton] at hy
    rw [hy]
    exact .refl x
  | set s =>
    intro y hy
    rw [ways] at hy
    split at hy
    · next c hc =>
      have hlt : x.1 < m.subject.size := (Array.getElem?_eq_some_iff.1 hc).1
      split at hy
      · rw [List.mem_singleton.1 hy]
        exact ⟨Nat.le_succ _, fun _ => hlt⟩
      · exact absurd hy List.not_mem_nil
    · exact absurd hy List.not_mem_nil
  | look l =>
    intro y hy
    rw [ways] at hy
    split at hy
    · rw [List.mem_singleton.1 hy]
      exact .refl x
    · exact absurd hy List.not_mem_nil
  | group index name e ih =>
    intro y hy
    obtain ⟨z, hz, rfl⟩ := List.mem_map.1 hy
    exact ih (x.1, m.note (2 * index) x.1 x.2) z hz
  | rep min max greedy e ih =>
    intro y hy
    cases max with
    | some max =>
      obtain ⟨z, hz, hy⟩ := List.mem_flatMap.1 hy
      exact (forward_rounds ih min x z hz).trans (forward_roundsUpTo ih greedy _ z y hy)
    | none =>
      obtain ⟨z, hz, hy⟩ := List.mem_flatMap.1 hy
      exact (forward_rounds ih min x z hz).trans (forward_roundsUpTo ih greedy _ z y hy)
  | seq a b iha ihb =>
    intro y hy
    obtain ⟨z, hz, hy⟩ := List.mem_flatMap.1 hy
    exact (iha x z hz).trans (ihb z y hy)
  | alt a b iha ihb =>
    intro y hy
    rcases List.mem_append.1 hy with hy | hy
    · exact iha x y hy
    · exact ihb x y hy

/-- An expression that never matches nothing leads to later places. -/
theorem lt_of_mem_ways {e : Expr} (he : e.neverEmpty = true) {x y : Nat × ρ}
    (hy : y ∈ m.ways e x) : x.1 < y.1 := by
  induction e generalizing x y with
  | empty => exact absurd he (by simp [Expr.neverEmpty])
  | look l => exact absurd he (by simp [Expr.neverEmpty])
  | set s =>
    rw [ways] at hy
    split at hy
    · split at hy
      · rw [List.mem_singleton.1 hy]
        exact Nat.lt_succ_self _
      · exact absurd hy List.not_mem_nil
    · exact absurd hy List.not_mem_nil
  | group index name e ih =>
    obtain ⟨z, hz, rfl⟩ := List.mem_map.1 hy
    exact ih (x := (x.1, m.note (2 * index) x.1 x.2)) (y := z) he hz
  | rep min max greedy e ih =>
    simp only [Expr.neverEmpty, Bool.and_eq_true, bne_iff_ne, ne_eq] at he
    -- the last of the rounds that have to be made takes up a character
    have hrounds : ∀ z ∈ rounds (m.ways e) min x, x.1 < z.1 := by
      intro z hz
      cases min with
      | zero => exact absurd rfl he.1
      | succ n =>
        obtain ⟨w, hw, hz⟩ := List.mem_flatMap.1 hz
        exact Nat.lt_of_le_of_lt (forward_rounds (forward_ways e) n x w hw).1 (ih he.2 hz)
    cases max with
    | some max =>
      obtain ⟨z, hz, hy⟩ := List.mem_flatMap.1 hy
      exact Nat.lt_of_lt_of_le (hrounds z hz)
        (forward_roundsUpTo (forward_ways e) greedy _ z y hy).1
    | none =>
      obtain ⟨z, hz, hy⟩ := List.mem_flatMap.1 hy
      exact Nat.lt_of_lt_of_le (hrounds z hz)
        (forward_roundsUpTo (forward_ways e) greedy _ z y hy).1
  | seq a b iha ihb =>
    obtain ⟨z, hz, hy⟩ := List.mem_flatMap.1 hy
    simp only [Expr.neverEmpty, Bool.or_eq_true] at he
    rcases he with he | he
    · exact Nat.lt_of_lt_of_le (iha he hz) (forward_ways b z y hy).1
    · exact Nat.lt_of_le_of_lt (forward_ways a x z hz).1 (ihb he hy)
  | alt a b iha ihb =>
    simp only [Expr.neverEmpty, Bool.and_eq_true] at he
    rcases List.mem_append.1 hy with hy | hy
    · exact iha he.1 hy
    · exact ihb he.2 hy

end Machine

end FluentRegex
