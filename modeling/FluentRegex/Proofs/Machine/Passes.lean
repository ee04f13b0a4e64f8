import FluentRegex.Proofs.Machine.Code

/-!
# Passing through an expression

`Machine.Passes` says from where to where an expression can be passed, and what is recorded on the
way, without any preference. Unlike `Machine.ways` it knows no bound on the rounds of a repetition,
so it is right for every expression, also where rounds may take up no characters.

A thread `Stops` if it comes to `stop` in a number of steps, whichever of its successors it takes.
The steps carry the induction: a repetition without an upper bound comes back to the same address
with fewer of them left.

> `Stops.passes`: a thread that stops after the code of an expression has passed the expression.
> `passes_of_findMarks`: what a search finds was recorded on the way through the whole expression.
-/

namespace FluentRegex

/-- A relation holds from step to step, so many times. -/
def Rounds {α : Type} (R : α → α → Prop) : Nat → α → α → Prop
  | 0, x, y => y = x
  | n + 1, x, y => ∃ z, R x z ∧ Rounds R n z y

namespace Rounds

variable {α : Type} {R : α → α → Prop}

theorem add {n k : Nat} {x y z : α} (h : Rounds R n x y) (h' : Rounds R k y z) :
    Rounds R (n + k) x z := by
  induction n generalizing x with
  | zero =>
    obtain rfl : y = x := h
    rwa [Nat.zero_add]
  | succ n ih =>
    obtain ⟨w, hw, h⟩ := h
    rw [Nat.add_right_comm]
    exact ⟨w, hw, ih h⟩

theorem mono {S : α → α → Prop} (hRS : ∀ x y, R x y → S x y) {n : Nat} {x y : α}
    (h : Rounds R n x y) : Rounds S n x y := by
  induction n generalizing x with
  | zero => exact h
  | succ n ih =>
    obtain ⟨z, hz, h⟩ := h
    exact ⟨z, hRS x z hz, ih h⟩

/-- What holds of no round, of one, and of rounds in a row holds of any number of rounds. -/
theorem lift {Q : α → α → Prop} (hrefl : ∀ x, Q x x) (htrans : ∀ {x y z}, Q x y → Q y z → Q x z)
    (hstep : ∀ {x y}, R x y → Q x y) {n : Nat} {x y : α} (h : Rounds R n x y) : Q x y := by
  induction n generalizing x with
  | zero =>
    obtain rfl : y = x := h
    exact hrefl y
  | succ n ih =>
    obtain ⟨z, hz, h⟩ := h
    exact htrans (hstep hz) (ih h)

end Rounds

namespace Machine

variable {ρ : Type} {m : Machine ρ}

/-- An expression can be passed from the first place and record to the second. -/
def Passes (m : Machine ρ) : Expr → Nat × ρ → Nat × ρ → Prop
  | .empty, x, y => y = x
  | .set s, x, y => (∃ c, m.after? x.1 = some c ∧ s.contains c = true) ∧ y = (x.1 + 1, x.2)
  | .look l, x, y => l.holds (m.before? x.1) (m.after? x.1) = true ∧ y = x
  | .group index _ e, x, y =>
    ∃ z, m.Passes e (x.1, m.note (2 * index) x.1 x.2) z ∧
      y = (z.1, m.note (2 * index + 1) z.1 z.2)
  | .rep min max _ e, x, y =>
    ∃ n, min ≤ n ∧ (∀ k ∈ max, n ≤ min + (k - min)) ∧ Rounds (m.Passes e) n x y
  | .seq a b, x, y => ∃ z, m.Passes a x z ∧ m.Passes b z y
  | .alt a b, x, y => m.Passes a x y ∨ m.Passes b x y

/-! ## Threads that stop -/

/-- In so many steps a thread comes to `stop`, and has the given record there. -/
inductive Stops (m : Machine ρ) : Nat → Thread ρ → ρ → Prop
  | stop {t : Thread ρ} (h : m.instr? t.address = some .stop) : Stops m 0 t t.record
  | step {n : Nat} {t u : Thread ρ} {r : ρ} (hu : u ∈ m.next t) (h : Stops m n u r) :
    Stops m (n + 1) t r

/-- What a run finds is the record of a thread that stops. -/
theorem stops_of_run {fuel : Nat} {ts : List (Thread ρ)} {seen : Std.HashSet (Nat × Nat)} {r : ρ}
    (h : m.run fuel ts seen = some r) : ∃ t ∈ ts, ∃ n, m.Stops n t r := by
  induction fuel generalizing ts seen with
  | zero => exact absurd h (by simp [run])
  | succ fuel ih =>
    cases ts with
    | nil => exact absurd h (by simp [run])
    | cons t ts =>
      rw [run] at h
      split at h
      · obtain ⟨u, hu, hstops⟩ := ih h
        exact ⟨u, List.mem_cons_of_mem t hu, hstops⟩
      · split at h
        · next hstop =>
          obtain rfl := Option.some.inj h
          exact ⟨t, List.mem_cons_self, 0, .stop hstop⟩
        · obtain ⟨u, hu, n, hstops⟩ := ih h
          rcases List.mem_append.1 hu with hu | hu
          · exact ⟨t, List.mem_cons_self, n + 1, .step hu hstops⟩
          · exact ⟨u, List.mem_cons_of_mem t hu, n, hstops⟩

section

variable {n a : Nat} {x : Nat × ρ} {r : ρ}

/-- A thread at an instruction other than `stop` has to make a step. -/
theorem Stops.exists_step {i : Instr} (h : m.Stops n (Thread.on a x) r)
    (hi : m.instr? a = some i) (hne : i ≠ .stop) :
    ∃ k < n, ∃ u ∈ m.next (Thread.on a x), m.Stops k u r := by
  cases h with
  | stop hstop =>
    have heq : some i = some Instr.stop := hi.symm.trans hstop
    exact absurd (Option.some.inj heq) hne
  | @step k _ u _ hu h => exact ⟨k, Nat.lt_succ_self k, u, hu, h⟩

theorem Stops.set {s : CharSet} (h : m.Stops n (Thread.on a x) r)
    (hi : m.instr? a = some (.char s)) : ∃ k < n, (∃ c, m.after? x.1 = some c ∧
      s.contains c = true) ∧ m.Stops k (Thread.on (a + 1) (x.1 + 1, x.2)) r := by
  obtain ⟨k, hk, u, hu, h⟩ := h.exists_step hi (by simp)
  rw [next, show m.instr? (Thread.on a x).address = _ from hi] at hu
  dsimp only at hu
  split at hu
  · next c hc =>
    split at hu
    · next hs =>
      rw [List.mem_singleton.1 hu] at h
      exact ⟨k, hk, ⟨c, hc, hs⟩, h⟩
    · exact absurd hu List.not_mem_nil
  · exact absurd hu List.not_mem_nil

theorem Stops.look {l : Look} (h : m.Stops n (Thread.on a x) r)
    (hi : m.instr? a = some (.look l)) : ∃ k < n,
      l.holds (m.before? x.1) (m.after? x.1) = true ∧ m.Stops k (Thread.on (a + 1) x) r := by
  obtain ⟨k, hk, u, hu, h⟩ := h.exists_step hi (by simp)
  rw [next, show m.instr? (Thread.on a x).address = _ from hi] at hu
  dsimp only at hu
  split at hu
  · next hl =>
    rw [List.mem_singleton.1 hu] at h
    exact ⟨k, hk, hl, h⟩
  · exact absurd hu List.not_mem_nil

theorem Stops.mark {slot : Nat} (h : m.Stops n (Thread.on a x) r)
    (hi : m.instr? a = some (.mark slot)) :
    ∃ k < n, m.Stops k (Thread.on (a + 1) (x.1, m.note slot x.1 x.2)) r := by
  obtain ⟨k, hk, u, hu, h⟩ := h.exists_step hi (by simp)
  rw [next, show m.instr? (Thread.on a x).address = _ from hi] at hu
  rw [List.mem_singleton.1 hu] at h
  exact ⟨k, hk, h⟩

theorem Stops.jump {target : Nat} (h : m.Stops n (Thread.on a x) r)
    (hi : m.instr? a = some (.jump target)) : ∃ k < n, m.Stops k (Thread.on target x) r := by
  obtain ⟨k, hk, u, hu, h⟩ := h.exists_step hi (by simp)
  rw [next, show m.instr? (Thread.on a x).address = _ from hi] at hu
  rw [List.mem_singleton.1 hu] at h
  exact ⟨k, hk, h⟩

theorem Stops.split {first second : Nat} (h : m.Stops n (Thread.on a x) r)
    (hi : m.instr? a = some (.split first second)) :
    ∃ k < n, m.Stops k (Thread.on first x) r ∨ m.Stops k (Thread.on second x) r := by
  obtain ⟨k, hk, u, hu, h⟩ := h.exists_step hi (by simp)
  rw [next, show m.instr? (Thread.on a x).address = _ from hi] at hu
  rcases List.mem_pair.1 hu with rfl | rfl
  · exact ⟨k, hk, .inl h⟩
  · exact ⟨k, hk, .inr h⟩

theorem Stops.choose {greedy : Bool} {inside outside : Nat} (h : m.Stops n (Thread.on a x) r)
    (hi : m.instr? a = some (.choose greedy inside outside)) :
    ∃ k < n, m.Stops k (Thread.on inside x) r ∨ m.Stops k (Thread.on outside x) r := by
  cases greedy with
  | true => exact h.split hi
  | false =>
    obtain ⟨k, hk, h⟩ := h.split hi
    exact ⟨k, hk, h.symm⟩

end

/-! ## Expressions -/

/-- Wherever its code stands, a thread that stops passes the expression first. -/
def Traverses (m : Machine ρ) (e : Expr) : Prop :=
  ∀ (base n : Nat) (x : Nat × ρ) (r : ρ), m.Holds base (e.code base) →
    m.Stops n (Thread.on base x) r →
    ∃ k ≤ n, ∃ y, m.Passes e x y ∧ m.Stops k (Thread.on (base + e.width) y) r

/-- The rounds that have to be made, one block of code after the other. -/
theorem Traverses.rounds {e : Expr} (he : m.Traverses e) (count : Nat) {base n : Nat}
    {x : Nat × ρ} {r : ρ}
    (h : ∀ i < count, m.Holds (base + i * e.width) (e.code (base + i * e.width)))
    (hstops : m.Stops n (Thread.on base x) r) : ∃ k ≤ n, ∃ y, Rounds (m.Passes e) count x y ∧
      m.Stops k (Thread.on (base + count * e.width) y) r := by
  induction count generalizing base n x with
  | zero => exact ⟨n, Nat.le_refl n, x, rfl, by rwa [Nat.zero_mul, Nat.add_zero]⟩
  | succ count ih =>
    have hfirst := h 0 (Nat.succ_pos count)
    rw [Nat.zero_mul, Nat.add_zero] at hfirst
    have hshift : ∀ i, base + e.width + i * e.width = base + (i + 1) * e.width := by
      intro i
      rw [Nat.succ_mul]
      omega
    obtain ⟨k, hk, z, hz, hstops⟩ := he base n x r hfirst hstops
    obtain ⟨l, hl, y, hy, hstops⟩ := ih (fun i hi => by
      rw [hshift]
      exact h (i + 1) (Nat.succ_lt_succ hi)) hstops
    rw [hshift] at hstops
    exact ⟨l, Nat.le_trans hl hk, y, ⟨z, hz, hy⟩, hstops⟩

/-- The rounds that may be made, each behind a choice to leave out this one and all that follow. -/
theorem Traverses.options {e : Expr} (he : m.Traverses e) {greedy : Bool} {exit : Nat}
    (count : Nat) {top n : Nat} {x : Nat × ρ} {r : ρ} (hexit : exit = top + count * (e.width + 1))
    (h : ∀ i < count, m.Holds (top + i * (e.width + 1))
      (.choose greedy (top + i * (e.width + 1) + 1) exit ::
        e.code (top + i * (e.width + 1) + 1)))
    (hstops : m.Stops n (Thread.on top x) r) : ∃ k ≤ n, ∃ j ≤ count, ∃ y,
      Rounds (m.Passes e) j x y ∧ m.Stops k (Thread.on exit y) r := by
  induction count generalizing top n x with
  | zero =>
    rw [Nat.zero_mul, Nat.add_zero] at hexit
    exact ⟨n, Nat.le_refl n, 0, Nat.le_refl 0, x, rfl, by rwa [hexit]⟩
  | succ count ih =>
    have hfirst := h 0 (Nat.succ_pos count)
    rw [Nat.zero_mul, Nat.add_zero] at hfirst
    have hshift : ∀ i, top + 1 + e.width + i * (e.width + 1) = top + (i + 1) * (e.width + 1) := by
      intro i
      rw [Nat.succ_mul]
      omega
    obtain ⟨k, hk, hin | hout⟩ := hstops.choose hfirst.head
    · obtain ⟨l, hl, z, hz, hstops⟩ := he _ k x r hfirst.tail hin
      obtain ⟨l', hl', j, hj, y, hy, hstops⟩ := ih (by rw [hexit, hshift]) (fun i hi => by
        rw [hshift]
        exact h (i + 1) (Nat.succ_lt_succ hi)) hstops
      exact ⟨l', by omega, j + 1, Nat.succ_le_succ hj, y, ⟨z, hz, hy⟩, hstops⟩
    · exact ⟨k, Nat.le_of_lt hk, 0, Nat.zero_le _, x, rfl, hout⟩

/-- Rounds without a bound, where the code at `inside` comes back to the choice. -/
theorem stops_loop {e : Expr} {greedy : Bool} {loop inside exit : Nat} {r : ρ}
    (hchoice : m.instr? loop = some (.choose greedy inside exit))
    (hbody : ∀ (n : Nat) (x : Nat × ρ), m.Stops n (Thread.on inside x) r →
      ∃ k ≤ n, ∃ y, m.Passes e x y ∧ m.Stops k (Thread.on loop y) r)
    (n : Nat) {x : Nat × ρ} (hstops : m.Stops n (Thread.on loop x) r) :
    ∃ k ≤ n, ∃ j y, Rounds (m.Passes e) j x y ∧ m.Stops k (Thread.on exit y) r := by
  -- every round begins with the step of the choice, so fewer steps are left after it
  induction n using Nat.strongRecOn generalizing x with
  | ind n ih =>
    obtain ⟨k, hk, hin | hout⟩ := hstops.choose hchoice
    · obtain ⟨l, hl, z, hz, hback⟩ := hbody k x hin
      obtain ⟨l', hl', j, y, hy, hstops⟩ := ih l (by omega) hback
      exact ⟨l', by omega, j + 1, y, ⟨z, hz, hy⟩, hstops⟩
    · exact ⟨k, Nat.le_of_lt hk, 0, x, rfl, hout⟩

theorem Traverses.rep_some {e : Expr} (he : m.Traverses e) (min max : Nat) (greedy : Bool) :
    m.Traverses (.rep min (some max) greedy e) := by
  intro base n x r h hstops
  obtain ⟨hrounds, hright⟩ := Holds.rounds h
  have hoptions := fun i (hi : i < max - min) =>
    Holds.block (w := e.width + 1) (fun i => by simp [Expr.length_code]) hright hi
  obtain ⟨k, hk, y, hy, hstops⟩ := he.rounds min hrounds hstops
  obtain ⟨l, hl, j, hj, z, hz, hstops⟩ := he.options (max - min) rfl hoptions hstops
  refine ⟨l, Nat.le_trans hl hk, z, ⟨min + j, Nat.le_add_right _ _, fun i hi => ?_, hy.add hz⟩, ?_⟩
  · rw [← Option.some.inj hi]
    omega
  · rw [Expr.width, ← Nat.add_assoc]
    exact hstops

theorem Traverses.rep_none {e : Expr} (he : m.Traverses e) (min : Nat) (greedy : Bool) :
    m.Traverses (.rep min none greedy e) := by
  intro base n x r h hstops
  have hunbounded : ∀ j : Nat, ∀ k ∈ (none : Option Nat), j ≤ min + (k - min) :=
    fun j k hk => absurd hk (by simp)
  by_cases hmin : min = 0
  · subst hmin
    simp only [Expr.code, if_true] at h
    have hlast := h.right.head
    rw [List.length_cons, Expr.length_code] at hlast
    rw [Expr.width, if_pos rfl, ← Nat.add_assoc]
    by_cases hne : e.neverEmpty = true
    · -- the body ends with a jump back to the choice before it
      rw [if_pos hne] at hlast
      obtain ⟨k, hk, j, y, hy, hstops⟩ := stops_loop (e := e) h.left.head (fun n x hin => by
        obtain ⟨k, hk, y, hy, hstops⟩ := he _ n x r h.left.tail hin
        rw [show base + 1 + e.width = base + (e.width + 1) by omega] at hstops
        obtain ⟨l, hl, hstops⟩ := hstops.jump hlast
        exact ⟨l, by omega, y, hy, hstops⟩) n hstops
      exact ⟨k, hk, y, ⟨j, Nat.zero_le _, hunbounded j, hy⟩, hstops⟩
    · -- the choice behind the body is another one than that before it
      rw [if_neg hne] at hlast
      obtain ⟨k, hk, hin | hout⟩ := hstops.choose h.left.head
      · have hbody : ∀ (n : Nat) (x : Nat × ρ), m.Stops n (Thread.on (base + 1) x) r →
            ∃ k ≤ n, ∃ y, m.Passes e x y ∧ m.Stops k (Thread.on (base + (e.width + 1)) y) r := by
          intro n x hin
          obtain ⟨k, hk, y, hy, hstops⟩ := he _ n x r h.left.tail hin
          rw [show base + 1 + e.width = base + (e.width + 1) by omega] at hstops
          exact ⟨k, hk, y, hy, hstops⟩
        obtain ⟨l, hl, z, hz, hback⟩ := hbody k x hin
        obtain ⟨l', hl', j, y, hy, hstops⟩ := stops_loop hlast hbody l hback
        exact ⟨l', by omega, y, ⟨j + 1, Nat.zero_le _, hunbounded _, z, hz, hy⟩, hstops⟩
      · exact ⟨k, Nat.le_of_lt hk, x, ⟨0, Nat.le_refl 0, hunbounded 0, rfl⟩, hout⟩
  · -- the choice stands behind the last of the rounds that have to be made, and leads back to it
    rw [Expr.code, if_neg hmin] at h
    obtain ⟨hrounds, hright⟩ := Holds.rounds h
    have hlast : base + (min - 1) * e.width + e.width = base + min * e.width := by
      rw [Nat.add_assoc, ← Nat.succ_mul, Nat.succ_eq_add_one, Nat.sub_add_cancel (by omega)]
    obtain ⟨k, hk, y, hy, hstops⟩ := he.rounds min hrounds hstops
    obtain ⟨l, hl, j, z, hz, hstops⟩ := stops_loop hright.head (fun n x hin => by
      obtain ⟨k, hk, y, hy, hstops⟩ := he _ n x r (hrounds (min - 1) (by omega)) hin
      rw [hlast] at hstops
      exact ⟨k, hk, y, hy, hstops⟩) k hstops
    refine ⟨l, Nat.le_trans hl hk, z,
      ⟨min + j, Nat.le_add_right _ _, hunbounded _, hy.add hz⟩, ?_⟩
    rw [Expr.width, if_neg hmin, ← Nat.add_assoc, ← hlast]
    exact hstops

theorem Traverses.group {e : Expr} (he : m.Traverses e) (index : Nat) (name : Option String) :
    m.Traverses (.group index name e) := by
  intro base n x r h hstops
  have hlast := h.right.head
  rw [List.length_cons, Expr.length_code] at hlast
  obtain ⟨k, hk, hstops⟩ := hstops.mark h.left.head
  obtain ⟨l, hl, y, hy, hstops⟩ := he _ k _ r h.left.tail hstops
  rw [show base + 1 + e.width = base + (e.width + 1) by omega] at hstops
  obtain ⟨l', hl', hstops⟩ := hstops.mark hlast
  exact ⟨l', by omega, _, ⟨y, hy, rfl⟩, hstops⟩

theorem Traverses.seq {a b : Expr} (ha : m.Traverses a) (hb : m.Traverses b) :
    m.Traverses (.seq a b) := by
  intro base n x r h hstops
  have hright := h.right
  rw [Expr.length_code] at hright
  obtain ⟨k, hk, y, hy, hstops⟩ := ha base n x r h.left hstops
  obtain ⟨l, hl, z, hz, hstops⟩ := hb _ k y r hright hstops
  rw [Nat.add_assoc] at hstops
  exact ⟨l, Nat.le_trans hl hk, z, ⟨y, hy, hz⟩, hstops⟩

theorem Traverses.alt {a b : Expr} (ha : m.Traverses a) (hb : m.Traverses b) :
    m.Traverses (.alt a b) := by
  intro base n x r h hstops
  have hright := h.right
  rw [List.length_cons, Expr.length_code] at hright
  have hsecond : m.Holds (base + a.width + 2) (b.code (base + a.width + 2)) := by
    have htail := hright.tail
    rwa [show base + (a.width + 1) + 1 = base + a.width + 2 by omega] at htail
  have hwidth : base + a.width + 2 + b.width = base + (Expr.alt a b).width := by
    rw [Expr.width]
    omega
  obtain ⟨k, hk, hfirst | hother⟩ := hstops.split h.left.head
  · -- behind the first branch stands a jump over the second one
    obtain ⟨l, hl, y, hy, hstops⟩ := ha _ k x r h.left.tail hfirst
    rw [show base + 1 + a.width = base + (a.width + 1) by omega] at hstops
    obtain ⟨l', hl', hstops⟩ := hstops.jump hright.head
    rw [hwidth] at hstops
    exact ⟨l', by omega, y, .inl hy, hstops⟩
  · obtain ⟨l, hl, y, hy, hstops⟩ := hb _ k x r hsecond hother
    rw [hwidth] at hstops
    exact ⟨l, by omega, y, .inr hy, hstops⟩

/-- A thread that stops after the code of an expression has passed the expression. -/
theorem Stops.passes (e : Expr) : m.Traverses e := by
  induction e with
  | empty => exact fun base n x r _ hstops => ⟨n, Nat.le_refl n, x, rfl, hstops⟩
  | set s =>
    intro base n x r h hstops
    obtain ⟨k, hk, hc, hstops⟩ := hstops.set h.head
    exact ⟨k, Nat.le_of_lt hk, _, ⟨hc, rfl⟩, hstops⟩
  | look l =>
    intro base n x r h hstops
    obtain ⟨k, hk, hl, hstops⟩ := hstops.look h.head
    exact ⟨k, Nat.le_of_lt hk, x, ⟨hl, rfl⟩, hstops⟩
  | group index name e ih => exact ih.group index name
  | rep min max greedy e ih =>
    cases max with
    | some max => exact ih.rep_some min max greedy
    | none => exact ih.rep_none min greedy
  | seq a b iha ihb => exact iha.seq ihb
  | alt a b iha ihb => exact iha.alt ihb

/-! ## The search -/

/-- The program has no part in what an expression passes. -/
theorem passes_program (program : Array Instr) (e : Expr) :
    ({ m with program := program } : Machine ρ).Passes e = m.Passes e := by
  induction e with
  | empty => rfl
  | set s => rfl
  | look l => rfl
  | group index name e ih =>
    funext x y
    rw [Passes, Passes, ih]
  | rep min max greedy e ih =>
    funext x y
    rw [Passes, Passes, ih]
  | seq a b iha ihb =>
    funext x y
    rw [Passes, Passes, iha, ihb]
  | alt a b iha ihb =>
    funext x y
    rw [Passes, Passes, iha, ihb]

/-- What a search through the program of an expression finds was recorded on the way through the
expression from some place. -/
theorem passes_of_search {e : Expr} (hprogram : m.program = e.program) {blank r : ρ}
    (h : m.search blank = some r) :
    ∃ p ≤ m.subject.size, ∃ y, m.Passes (.group 0 none e) (p, blank) y ∧ y.2 = r := by
  have hholds : m.Holds 0 ((Expr.group 0 none e).code 0 ++ [Instr.stop]) := by
    intro i _
    rw [Nat.zero_add, instr?, hprogram, Expr.program, List.getElem?_toArray]
  have hstop := hholds.right.head
  rw [Expr.length_code] at hstop
  obtain ⟨t, ht, n, hstops⟩ := stops_of_run h
  obtain ⟨p, hp, rfl⟩ := List.mem_map.1 ht
  obtain ⟨k, -, y, hy, hstops⟩ := Stops.passes _ 0 n (p, blank) r hholds.left hstops
  refine ⟨p, Nat.le_of_lt_succ (List.mem_range.1 hp), y, hy, ?_⟩
  -- the thread behind the expression stands at `stop`
  cases hstops with
  | stop _ => rfl
  | step hu _ =>
    rw [next, show m.instr? (Thread.on _ y).address = _ from hstop] at hu
    exact absurd hu List.not_mem_nil

end Machine

/-- The marks that a search finds were noted on the way through the whole expression. -/
theorem passes_of_findMarks {e : Expr} {subject : List Char} {marks : Marks}
    (h : findMarks e.program subject.toArray = some marks) :
    ∃ p ≤ subject.length, ∃ y,
      (marking subject).Passes (.group 0 none e) (p, []) y ∧ y.2 = marks := by
  have hpasses := Machine.passes_of_search (m := { marking subject with program := e.program })
    rfl h
  rwa [Machine.passes_program] at hpasses

end FluentRegex
