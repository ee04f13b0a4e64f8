import FluentRegex.Proofs.Machine.Passes

/-!
# A search misses no way

A run that finds nothing has entered a set of spots that no step leads out of and none of which is
at `stop` (`Runs.closed`). So wherever a thread can come to from one of the first ones, by whatever
successors, there is no `stop`. This holds of every program, also where threads run in circles, and
the other way round it says that a search is complete:

> `Passes.steps`: where an expression can be passed, a thread can go from one end of its code to the
> other.
> `hasMatch_iff`: there is a match exactly if the expression can be passed from some place.
-/

namespace FluentRegex

namespace Machine

variable {ρ : Type} {m : Machine ρ}

/-! ## What a run in vain has entered -/

/-- What the fuelled run comes to with fuel enough, it comes to without fuel. -/
theorem runs_of_run {fuel : Nat} {ts : List (Thread ρ)} {seen : Std.HashSet (Nat × Nat)}
    {o : Option ρ} (hplace : ∀ t ∈ ts, t.place ≤ m.subject.size)
    (hfuel : ts.length + 2 * (m.unseen seen).card < fuel) (h : m.run fuel ts seen = o) :
    Runs m ts seen o := by
  induction fuel generalizing ts seen with
  | zero => omega
  | succ fuel ih =>
    cases ts with
    | nil =>
      obtain rfl : none = o := h
      exact .nil
    | cons t ts =>
      have hrest : ∀ u ∈ ts, u.place ≤ m.subject.size :=
        fun u hu => hplace u (List.mem_cons_of_mem _ hu)
      have ht := hplace t List.mem_cons_self
      rw [run] at h
      split at h
      · next hseen =>
        rw [List.length_cons] at hfuel
        exact .drop hseen (ih hrest (by omega) h)
      · next hseen =>
        have hnew : seen.contains t.spot = false := Bool.eq_false_of_not_eq_true hseen
        split at h
        · next hstop =>
          obtain rfl := h
          exact .stop hnew hstop
        · next hstop =>
          refine .step hnew hstop (ih ?_ (fuel_step hnew ht hfuel) h)
          intro u hu
          rcases List.mem_append.1 hu with hu | hu
          · exact place_next ht hu
          · exact hrest u hu

/-- A run that comes to nothing has entered all its threads and, except from the spots entered
before it, whatever they lead to; and `stop` is nowhere among that. -/
theorem Runs.closed {ts : List (Thread ρ)} {seen : Std.HashSet (Nat × Nat)}
    (h : Runs m ts seen none) : ∃ entered : Nat × Nat → Prop,
      (∀ a, seen.contains a = true → entered a) ∧ (∀ t ∈ ts, entered t.spot) ∧
      ∀ t : Thread ρ, entered t.spot → seen.contains t.spot = false →
        m.instr? t.address ≠ some .stop ∧ ∀ u ∈ m.next t, entered u.spot := by
  generalize ho : (none : Option ρ) = o at h
  induction h with
  | @nil seen =>
    refine ⟨fun a => seen.contains a = true, fun _ h => h, by simp, fun t h hnew => ?_⟩
    rw [h] at hnew
    exact absurd hnew (by simp)
  | @drop t ts seen o hseen h ih =>
    obtain ⟨entered, hold, hts, hclosed⟩ := ih ho
    exact ⟨entered, hold, List.forall_mem_cons.2 ⟨hold _ hseen, hts⟩, hclosed⟩
  | stop => exact absurd ho (by simp)
  | @step t ts seen o hseen hstop h ih =>
    obtain ⟨entered, hold, hts, hclosed⟩ := ih ho
    have ht : entered t.spot := hold _ Std.HashSet.contains_insert_self
    refine ⟨entered, fun a ha => hold a ?_, ?_, fun u hu hnew => ?_⟩
    · rw [Std.HashSet.contains_insert, ha, Bool.or_true]
    · exact List.forall_mem_cons.2 ⟨ht, fun u hu => hts u (List.mem_append_right _ hu)⟩
    · by_cases hspot : t.spot = u.spot
      · -- the thread just entered, whatever its record
        have haddress : t.address = u.address := congrArg Prod.fst hspot
        refine ⟨haddress ▸ hstop, fun v hv => ?_⟩
        have hv' : v.spot ∈ (m.next t).map Thread.spot := by
          rw [next_spots hspot]
          exact List.mem_map_of_mem hv
        obtain ⟨w, hw, hsame⟩ := List.mem_map.1 hv'
        rw [← hsame]
        exact hts w (List.mem_append_left _ hw)
      · refine hclosed u hu ?_
        rw [Std.HashSet.contains_insert, hnew, Bool.or_false]
        simpa using hspot

/-- From the first thread to the second, by whatever successors. -/
def Reaches (m : Machine ρ) : Thread ρ → Thread ρ → Prop :=
  Relation.ReflTransGen fun t u => u ∈ m.next t

/-- A search that finds nothing has no way to `stop`. -/
theorem not_stop_of_search {blank : ρ} (h : m.search blank = none) {t u : Thread ρ}
    (ht : t ∈ m.starts blank) (hreaches : m.Reaches t u) : m.instr? u.address ≠ some .stop := by
  obtain ⟨entered, -, hstarts, hclosed⟩ :=
    (runs_of_run place_starts (fuel_starts blank) h).closed
  have hentered : entered u.spot := by
    induction hreaches with
    | refl => exact hstarts t ht
    | tail _ hnext ih => exact (hclosed _ ih (by simp)).2 _ hnext
  exact (hclosed u hentered (by simp)).1

/-! ## The code of an expression -/

theorem Rounds.split {α : Type} {R : α → α → Prop} {n k : Nat} {x y : α}
    (h : Rounds R (n + k) x y) : ∃ z, Rounds R n x z ∧ Rounds R k z y := by
  induction n generalizing x with
  | zero => exact ⟨x, rfl, by rwa [Nat.zero_add] at h⟩
  | succ n ih =>
    rw [Nat.add_right_comm] at h
    obtain ⟨w, hw, h⟩ := h
    obtain ⟨z, hz, h⟩ := ih h
    exact ⟨z, ⟨w, hw, hz⟩, h⟩

/-- A step of one instruction. -/
theorem reaches_of_next {t u v : Thread ρ} (hu : u ∈ m.next t) (h : m.Reaches u v) :
    m.Reaches t v :=
  .head hu h

section

variable {a : Nat} {x : Nat × ρ} {u : Thread ρ}

theorem reaches_jump {target : Nat} (hi : m.instr? a = some (.jump target))
    (h : m.Reaches (Thread.on target x) u) : m.Reaches (Thread.on a x) u := by
  refine reaches_of_next ?_ h
  rw [next, show m.instr? (Thread.on a x).address = _ from hi]
  exact List.mem_singleton_self _

theorem reaches_mark {slot : Nat} (hi : m.instr? a = some (.mark slot))
    (h : m.Reaches (Thread.on (a + 1) (x.1, m.note slot x.1 x.2)) u) :
    m.Reaches (Thread.on a x) u := by
  refine reaches_of_next ?_ h
  rw [next, show m.instr? (Thread.on a x).address = _ from hi]
  exact List.mem_singleton_self _

theorem reaches_split {first second : Nat} (hi : m.instr? a = some (.split first second))
    (h : m.Reaches (Thread.on first x) u ∨ m.Reaches (Thread.on second x) u) :
    m.Reaches (Thread.on a x) u := by
  have hnext : m.next (Thread.on a x) = [Thread.on first x, Thread.on second x] := by
    rw [next, show m.instr? (Thread.on a x).address = _ from hi]
    rfl
  rcases h with h | h
  · exact reaches_of_next (by rw [hnext]; exact List.mem_cons_self) h
  · exact reaches_of_next (by rw [hnext]; exact List.mem_cons_of_mem _ List.mem_cons_self) h

theorem reaches_choose {greedy : Bool} {inside outside : Nat}
    (hi : m.instr? a = some (.choose greedy inside outside))
    (h : m.Reaches (Thread.on inside x) u ∨ m.Reaches (Thread.on outside x) u) :
    m.Reaches (Thread.on a x) u := by
  cases greedy with
  | true => exact reaches_split hi h
  | false => exact reaches_split hi h.symm

end

/-- Wherever its code stands, a thread can go from one end of it to the other if the expression can
be passed. -/
def Crosses (m : Machine ρ) (e : Expr) : Prop :=
  ∀ (base : Nat) (x y : Nat × ρ), m.Holds base (e.code base) → m.Passes e x y →
    m.Reaches (Thread.on base x) (Thread.on (base + e.width) y)

/-- The rounds that have to be made, one block of code after the other. -/
theorem Crosses.rounds {e : Expr} (he : m.Crosses e) (count : Nat) {base : Nat} {x y : Nat × ρ}
    (h : ∀ i < count, m.Holds (base + i * e.width) (e.code (base + i * e.width)))
    (hxy : Rounds (m.Passes e) count x y) :
    m.Reaches (Thread.on base x) (Thread.on (base + count * e.width) y) := by
  induction count generalizing base x with
  | zero =>
    obtain rfl : y = x := hxy
    rw [Nat.zero_mul, Nat.add_zero]
    exact .refl
  | succ count ih =>
    have hfirst := h 0 (Nat.succ_pos count)
    rw [Nat.zero_mul, Nat.add_zero] at hfirst
    have hshift : ∀ i, base + e.width + i * e.width = base + (i + 1) * e.width := by
      intro i
      rw [Nat.succ_mul]
      omega
    obtain ⟨z, hz, hrest⟩ := hxy
    have hblocks : ∀ i < count,
        m.Holds (base + e.width + i * e.width) (e.code (base + e.width + i * e.width)) := by
      intro i hi
      rw [hshift]
      exact h (i + 1) (Nat.succ_lt_succ hi)
    have hrest' := ih hblocks hrest
    rw [hshift] at hrest'
    exact (he base x z hfirst hz).trans hrest'

/-- The rounds that may be made, each behind a choice to leave out this one and all that follow. -/
theorem Crosses.options {e : Expr} (he : m.Crosses e) {greedy : Bool} {exit : Nat}
    (count : Nat) {j top : Nat} {x y : Nat × ρ} (hexit : exit = top + count * (e.width + 1))
    (h : ∀ i < count, m.Holds (top + i * (e.width + 1))
      (.choose greedy (top + i * (e.width + 1) + 1) exit ::
        e.code (top + i * (e.width + 1) + 1)))
    (hj : j ≤ count) (hxy : Rounds (m.Passes e) j x y) :
    m.Reaches (Thread.on top x) (Thread.on exit y) := by
  induction count generalizing j top x with
  | zero =>
    obtain rfl := Nat.le_zero.1 hj
    obtain rfl : y = x := hxy
    rw [Nat.zero_mul, Nat.add_zero] at hexit
    rw [hexit]
    exact .refl
  | succ count ih =>
    have hfirst := h 0 (Nat.succ_pos count)
    rw [Nat.zero_mul, Nat.add_zero] at hfirst
    have hshift : ∀ i, top + 1 + e.width + i * (e.width + 1) = top + (i + 1) * (e.width + 1) := by
      intro i
      rw [Nat.succ_mul]
      omega
    refine reaches_choose hfirst.head ?_
    cases j with
    | zero =>
      obtain rfl : y = x := hxy
      exact .inr .refl
    | succ j =>
      obtain ⟨z, hz, hrest⟩ := hxy
      refine .inl ((he _ x z hfirst.tail hz).trans ?_)
      refine ih (by rw [hexit, hshift]) (fun i hi => ?_) (Nat.le_of_succ_le_succ hj) hrest
      rw [hshift]
      exact h (i + 1) (Nat.succ_lt_succ hi)

/-- Rounds without a bound, where the code at `inside` comes back to the choice. -/
theorem reaches_loop {e : Expr} {greedy : Bool} {loop inside exit : Nat}
    (hchoice : m.instr? loop = some (.choose greedy inside exit))
    (hbody : ∀ x y : Nat × ρ, m.Passes e x y →
      m.Reaches (Thread.on inside x) (Thread.on loop y))
    {j : Nat} {x y : Nat × ρ} (hxy : Rounds (m.Passes e) j x y) :
    m.Reaches (Thread.on loop x) (Thread.on exit y) := by
  induction j generalizing x with
  | zero =>
    obtain rfl : y = x := hxy
    exact reaches_choose hchoice (.inr .refl)
  | succ j ih =>
    obtain ⟨z, hz, hrest⟩ := hxy
    exact reaches_choose hchoice (.inl ((hbody x z hz).trans (ih hrest)))

theorem Crosses.rep_some {e : Expr} (he : m.Crosses e) (min max : Nat) (greedy : Bool) :
    m.Crosses (.rep min (some max) greedy e) := by
  intro base x y h hxy
  obtain ⟨n, hmin, hmax, hxy⟩ := hxy
  obtain ⟨j, rfl⟩ : ∃ j, n = min + j := ⟨n - min, by omega⟩
  have hj := hmax max rfl
  obtain ⟨z, hz, hxy⟩ := Rounds.split hxy
  obtain ⟨hrounds, hright⟩ := Holds.rounds h
  have hoptions := fun i (hi : i < max - min) =>
    Holds.block (w := e.width + 1) (fun i => by simp [Expr.length_code]) hright hi
  rw [Expr.width, ← Nat.add_assoc]
  exact (he.rounds min hrounds hz).trans (he.options (max - min) rfl hoptions (by omega) hxy)

theorem Crosses.rep_none {e : Expr} (he : m.Crosses e) (min : Nat) (greedy : Bool) :
    m.Crosses (.rep min none greedy e) := by
  intro base x y h hxy
  obtain ⟨n, hn, -, hxy⟩ := hxy
  by_cases hmin : min = 0
  · subst hmin
    simp only [Expr.code, if_true] at h
    have hlast := h.right.head
    rw [List.length_cons, Expr.length_code] at hlast
    rw [Expr.width, if_pos rfl, ← Nat.add_assoc]
    have hbody : ∀ x y : Nat × ρ, m.Passes e x y →
        m.Reaches (Thread.on (base + 1) x) (Thread.on (base + (e.width + 1)) y) := by
      intro x y hxy
      have hcross := he _ x y h.left.tail hxy
      rwa [show base + 1 + e.width = base + (e.width + 1) by omega] at hcross
    by_cases hne : e.neverEmpty = true
    · -- the body ends with a jump back to the choice before it
      rw [if_pos hne] at hlast
      exact reaches_loop h.left.head (fun x y hxy => (hbody x y hxy).trans
        (reaches_jump hlast .refl)) hxy
    · -- the choice behind the body is another one than that before it
      rw [if_neg hne] at hlast
      refine reaches_choose h.left.head ?_
      cases n with
      | zero =>
        obtain rfl : y = x := hxy
        exact .inr .refl
      | succ n =>
        obtain ⟨z, hz, hrest⟩ := hxy
        exact .inl ((hbody x z hz).trans (reaches_loop hlast hbody hrest))
  · -- the choice stands behind the last of the rounds that have to be made, and leads back to it
    rw [Expr.code, if_neg hmin] at h
    obtain ⟨hrounds, hright⟩ := Holds.rounds h
    have hlast : base + (min - 1) * e.width + e.width = base + min * e.width := by
      rw [Nat.add_assoc, ← Nat.succ_mul, Nat.succ_eq_add_one, Nat.sub_add_cancel (by omega)]
    obtain ⟨j, rfl⟩ : ∃ j, n = min + j := ⟨n - min, by omega⟩
    obtain ⟨z, hz, hxy⟩ := Rounds.split hxy
    have hloop := reaches_loop hright.head (fun x y hxy => by
      have hcross := he _ x y (hrounds (min - 1) (by omega)) hxy
      rwa [hlast] at hcross) hxy
    refine (he.rounds min hrounds hz).trans ?_
    rw [Expr.width, if_neg hmin, ← Nat.add_assoc, ← hlast]
    rwa [← hlast] at hloop

theorem Crosses.group {e : Expr} (he : m.Crosses e) (index : Nat) (name : Option String) :
    m.Crosses (.group index name e) := by
  intro base x y h hxy
  have hlast := h.right.head
  rw [List.length_cons, Expr.length_code] at hlast
  obtain ⟨z, hz, rfl⟩ := hxy
  refine reaches_mark h.left.head ((he _ _ z h.left.tail hz).trans ?_)
  rw [show base + 1 + e.width = base + (e.width + 1) by omega]
  exact reaches_mark hlast .refl

theorem Crosses.seq {a b : Expr} (ha : m.Crosses a) (hb : m.Crosses b) :
    m.Crosses (.seq a b) := by
  intro base x y h hxy
  have hright := h.right
  rw [Expr.length_code] at hright
  obtain ⟨z, hz, hzy⟩ := hxy
  have hsecond := hb _ z y hright hzy
  rw [Nat.add_assoc] at hsecond
  exact (ha base x z h.left hz).trans hsecond

theorem Crosses.alt {a b : Expr} (ha : m.Crosses a) (hb : m.Crosses b) :
    m.Crosses (.alt a b) := by
  intro base x y h hxy
  have hright := h.right
  rw [List.length_cons, Expr.length_code] at hright
  have hsecond : m.Holds (base + a.width + 2) (b.code (base + a.width + 2)) := by
    have htail := hright.tail
    rwa [show base + (a.width + 1) + 1 = base + a.width + 2 by omega] at htail
  have hwidth : base + a.width + 2 + b.width = base + (Expr.alt a b).width := by
    rw [Expr.width]
    omega
  refine reaches_split h.left.head ?_
  rcases hxy with hxy | hxy
  · -- behind the first branch stands a jump over the second one
    refine .inl ((ha _ x y h.left.tail hxy).trans ?_)
    rw [show base + 1 + a.width = base + (a.width + 1) by omega]
    refine reaches_jump hright.head ?_
    rw [hwidth]
    exact .refl
  · refine .inr ?_
    have hcross := hb _ x y hsecond hxy
    rwa [hwidth] at hcross

/-- Where an expression can be passed, a thread can go from one end of its code to the other. -/
theorem Passes.steps (e : Expr) : m.Crosses e := by
  induction e with
  | empty =>
    intro base x y _ hxy
    obtain rfl : y = x := hxy
    exact .refl
  | set s =>
    intro base x y h hxy
    obtain ⟨⟨c, hc, hs⟩, rfl⟩ := hxy
    refine .single ?_
    rw [next, show m.instr? (Thread.on base x).address = _ from h.head]
    dsimp only
    rw [show m.after? (Thread.on base x).place = _ from hc]
    dsimp only
    rw [if_pos hs]
    exact List.mem_singleton_self _
  | look l =>
    intro base x y h hxy
    obtain ⟨hl, rfl⟩ := hxy
    refine .single ?_
    rw [next, show m.instr? (Thread.on base y).address = _ from h.head]
    dsimp only
    rw [if_pos (show l.holds (m.before? (Thread.on base y).place)
      (m.after? (Thread.on base y).place) = true from hl)]
    exact List.mem_singleton_self _
  | group index name e ih => exact ih.group index name
  | rep min max greedy e ih =>
    cases max with
    | some max => exact ih.rep_some min max greedy
    | none => exact ih.rep_none min greedy
  | seq a b iha ihb => exact iha.seq ihb
  | alt a b iha ihb => exact iha.alt ihb

/-- A search with the program of an expression finds something if the expression can be passed from
some place. -/
theorem search_of_passes {e : Expr} (hprogram : m.program = e.program) {blank : ρ} {p : Nat}
    (hp : p ≤ m.subject.size) {y : Nat × ρ} (h : m.Passes (.group 0 none e) (p, blank) y) :
    m.search blank ≠ none := by
  intro hnone
  have hholds : m.Holds 0 ((Expr.group 0 none e).code 0 ++ [Instr.stop]) := by
    intro i _
    rw [Nat.zero_add, instr?, hprogram, Expr.program, List.getElem?_toArray]
  have hstop := hholds.right.head
  rw [Expr.length_code] at hstop
  have hstart : Thread.on 0 (p, blank) ∈ m.starts blank :=
    List.mem_map.2 ⟨p, List.mem_range.2 (Nat.lt_succ_of_le hp), rfl⟩
  exact not_stop_of_search hnone hstart (Passes.steps _ 0 (p, blank) y hholds.left h) hstop

end Machine

/-! ## Plain tests -/

/-- The machine that records nothing on a subject. It has no program: it is for what expressions
pass. -/
def testing (subject : List Char) : Machine Unit := ⟨#[], subject.toArray, fun _ _ u => u⟩

/-- There is a match exactly if the expression can be passed from some place. -/
theorem hasMatch_iff (e : Expr) (subject : List Char) :
    hasMatch e.program subject.toArray = true ↔
      ∃ p ≤ subject.length, ∃ y, (testing subject).Passes e (p, ()) y := by
  have hpasses := Machine.passes_program (m := testing subject) e.program
  have hsearch : hasMatch e.program subject.toArray =
      (({ testing subject with program := e.program } : Machine Unit).search ()).isSome := rfl
  rw [hsearch, Option.isSome_iff_ne_none]
  constructor
  · intro h
    obtain ⟨r, hr⟩ := Option.ne_none_iff_exists'.1 h
    obtain ⟨p, hp, y, ⟨z, hz, -⟩, -⟩ := Machine.passes_of_search rfl hr
    rw [hpasses] at hz
    exact ⟨p, hp, z, hz⟩
  · intro h
    obtain ⟨p, hp, y, hy⟩ := h
    refine Machine.search_of_passes rfl hp (y := y) ⟨y, ?_, rfl⟩
    rw [hpasses]
    exact hy

end FluentRegex
