import FluentRegex.Proofs.Machine.Records
import Mathlib.Data.Finset.Prod
import Mathlib.Logic.Relation

/-!
# A run finds the preferred way to stop

`Machine.run` enters every pair of address and place once. This file says what that pruning
leaves of the plain search, which follows every thread to its end:

> `Explores`: the records at `stop`, in the order in which the plain search comes to them.
> `search_eq_head`: where the plain search ends, the run finds the first of its records.

A thread that does not stop and leads only to such threads `Fails`; one whose first successor
that does not fail `Wins` does so itself. A pair that was entered before is either one of a failed
thread, which may be dropped, or lies on the way to the thread at hand. The latter would be a loop
and the plain search would not end, which is what `Acc` excludes.

The steps of a run are counted against `Machine.stepBound` apart from that (`run_eq_of_runs`):
every step takes a thread off the list, and puts back two at most if it enters a new pair.
-/

namespace FluentRegex

namespace Machine

variable {ρ : Type} {m : Machine ρ}

/-! ## The plain search -/

/-- The plain search: the records at which threads stop when every thread is followed to its
end. There are none to speak of unless the search ends. -/
inductive Explores (m : Machine ρ) : List (Thread ρ) → List ρ → Prop
  | nil : Explores m [] []
  | stop {t : Thread ρ} {ts : List (Thread ρ)} {rs : List ρ}
      (hstop : m.instr? t.address = some .stop) (h : Explores m ts rs) :
      Explores m (t :: ts) (t.record :: rs)
  | step {t : Thread ρ} {ts : List (Thread ρ)} {rs : List ρ}
      (hstop : m.instr? t.address ≠ some .stop) (h : Explores m (m.next t ++ ts) rs) :
      Explores m (t :: ts) rs

/-- A thread from which no way leads to `stop`. -/
inductive Fails (m : Machine ρ) : Thread ρ → Prop
  | intro {t : Thread ρ} (hstop : m.instr? t.address ≠ some .stop)
      (h : ∀ u ∈ m.next t, Fails m u) : Fails m t

/-- A thread whose preferred way to `stop` ends with the given record. -/
inductive Wins (m : Machine ρ) : Thread ρ → ρ → Prop
  | stop {t : Thread ρ} (hstop : m.instr? t.address = some .stop) : Wins m t t.record
  | step {t u : Thread ρ} {pre post : List (Thread ρ)} {r : ρ}
      (hstop : m.instr? t.address ≠ some .stop) (hnext : m.next t = pre ++ u :: post)
      (hpre : ∀ x ∈ pre, Fails m x) (h : Wins m u r) : Wins m t r

/-- One step leads from the first spot to the second. -/
def Leads (m : Machine ρ) (a b : Nat × Nat) : Prop :=
  ∃ t u : Thread ρ, t.spot = a ∧ u ∈ m.next t ∧ u.spot = b

/-- Where a thread leads does not depend on its record. -/
theorem next_spots {t u : Thread ρ} (h : t.spot = u.spot) :
    (m.next t).map Thread.spot = (m.next u).map Thread.spot :=
  (Twin.refl m).spots_next h

theorem Wins.not_fails {t u : Thread ρ} {r : ρ} (ht : Wins m t r) (h : t.spot = u.spot) :
    ¬ Fails m u := by
  induction ht generalizing u with
  | @stop t hstop =>
    intro h
    obtain ⟨hu, _⟩ := h
    have haddr : t.address = u.address := congrArg Prod.fst h
    exact hu (haddr ▸ hstop)
  | @step t v pre post r hstop hnext hpre hv ih =>
    intro h
    obtain ⟨_, hu⟩ := h
    have hv' : v.spot ∈ (m.next u).map Thread.spot := by
      rw [← next_spots h]
      exact List.mem_map_of_mem (by simp [hnext])
    obtain ⟨w, hw, hspot⟩ := List.mem_map.1 hv'
    exact ih hspot.symm (hu w hw)

/-! ## What the plain search says about single threads -/

/-- Where the plain search ends, no thread runs in a circle. -/
theorem Explores.acc {ts : List (Thread ρ)} {rs : List ρ} (h : Explores m ts rs) :
    ∀ t ∈ ts, Acc (flip (Leads m)) t.spot := by
  induction h with
  | nil => intro t ht; exact absurd ht List.not_mem_nil
  | @stop t ts rs hstop h ih =>
    intro u hu
    rcases List.mem_cons.1 hu with rfl | hu
    · refine Acc.intro _ ?_
      intro b h
      obtain ⟨v, w, hv, hw, -⟩ := h
      have haddr : v.address = u.address := congrArg Prod.fst hv
      have hnil : m.next v = [] := by rw [next, haddr, hstop]
      rw [hnil] at hw
      exact absurd hw List.not_mem_nil
    · exact ih u hu
  | @step t ts rs hstop h ih =>
    intro u hu
    rcases List.mem_cons.1 hu with rfl | hu
    · -- a successor lies on the list that the search goes on with
      refine Acc.intro _ ?_
      intro b h
      obtain ⟨v, w, hv, hw, rfl⟩ := h
      have hw' : w.spot ∈ (m.next u).map Thread.spot := by
        rw [← next_spots hv]
        exact List.mem_map_of_mem hw
      obtain ⟨x, hx, hspot⟩ := List.mem_map.1 hw'
      rw [← hspot]
      exact ih x (List.mem_append_left _ hx)
    · exact ih u (List.mem_append_right _ hu)

theorem Explores.fails {ts : List (Thread ρ)} (h : Explores m ts []) : ∀ t ∈ ts, Fails m t := by
  generalize hrs : ([] : List ρ) = rs at h
  induction h with
  | nil => intro t ht; exact absurd ht List.not_mem_nil
  | stop => simp at hrs
  | @step t ts rs hstop h ih =>
    intro u hu
    rcases List.mem_cons.1 hu with rfl | hu
    · exact .intro hstop fun v hv => ih hrs v (List.mem_append_left _ hv)
    · exact ih hrs u (List.mem_append_right _ hu)

/-- The first record that the plain search comes to is that of the first thread that does not
fail. -/
theorem Explores.wins {ts : List (Thread ρ)} {r : ρ} {rs : List ρ} (h : Explores m ts (r :: rs)) :
    ∃ pre t post, ts = pre ++ t :: post ∧ (∀ x ∈ pre, Fails m x) ∧ Wins m t r := by
  generalize hrs : r :: rs = all at h
  induction h generalizing rs with
  | nil => simp at hrs
  | @stop t ts all hstop h ih =>
    obtain ⟨rfl, rfl⟩ := List.cons.inj hrs
    exact ⟨[], t, ts, rfl, by simp, .stop hstop⟩
  | @step t ts all hstop h ih =>
    obtain ⟨pre, u, post, heq, hpre, hu⟩ := ih hrs
    rcases List.append_eq_append_iff.1 heq with ⟨more, rfl, hts⟩ | ⟨more, hnext, htail⟩
    · -- all successors of `t` fail, and so does `t`
      refine ⟨t :: more, u, post, by rw [hts]; rfl, ?_, hu⟩
      intro x hx
      rcases List.mem_cons.1 hx with rfl | hx
      · exact .intro hstop fun v hv => hpre v (List.mem_append_left _ hv)
      · exact hpre x (List.mem_append_right _ hx)
    · -- the thread that wins is a successor of `t`, or comes right behind all of them
      cases more with
      | nil =>
        rw [List.append_nil] at hnext
        rw [List.nil_append] at htail
        refine ⟨[t], u, post, by rw [← htail]; rfl, ?_, hu⟩
        intro x hx
        rw [List.mem_singleton.1 hx]
        exact .intro hstop fun v hv => hpre v (hnext ▸ hv)
      | cons v more =>
        obtain ⟨rfl, -⟩ := List.cons.inj htail
        exact ⟨[], t, ts, rfl, by simp, .step hstop hnext hpre hu⟩

/-! ## The run without fuel -/

/-- The steps of `Machine.run`, without fuel: `o` is what the run comes to. -/
inductive Runs (m : Machine ρ) : List (Thread ρ) → Std.HashSet (Nat × Nat) → Option ρ → Prop
  | nil {seen : Std.HashSet (Nat × Nat)} : Runs m [] seen none
  | drop {t : Thread ρ} {ts : List (Thread ρ)} {seen : Std.HashSet (Nat × Nat)} {o : Option ρ}
      (hseen : seen.contains t.spot = true) (h : Runs m ts seen o) : Runs m (t :: ts) seen o
  | stop {t : Thread ρ} {ts : List (Thread ρ)} {seen : Std.HashSet (Nat × Nat)}
      (hseen : seen.contains t.spot = false) (hstop : m.instr? t.address = some .stop) :
      Runs m (t :: ts) seen (some t.record)
  | step {t : Thread ρ} {ts : List (Thread ρ)} {seen : Std.HashSet (Nat × Nat)} {o : Option ρ}
      (hseen : seen.contains t.spot = false) (hstop : m.instr? t.address ≠ some .stop)
      (h : Runs m (m.next t ++ ts) (seen.insert t.spot) o) : Runs m (t :: ts) seen o

/-- The spot of a failed thread. -/
def Failed (m : Machine ρ) (a : Nat × Nat) : Prop := ∃ t : Thread ρ, t.spot = a ∧ Fails m t

/-- What was entered while some threads were tried in vain: failed threads, and those of before. -/
def OnlyFailed (m : Machine ρ) (seen seen' : Std.HashSet (Nat × Nat)) : Prop :=
  ∀ a, seen'.contains a = true → seen.contains a = true ∨ Failed m a

theorem OnlyFailed.refl (seen : Std.HashSet (Nat × Nat)) : OnlyFailed m seen seen :=
  fun _ h => .inl h

theorem OnlyFailed.trans {a b c : Std.HashSet (Nat × Nat)} (hab : OnlyFailed m a b)
    (hbc : OnlyFailed m b c) : OnlyFailed m a c := by
  intro x hx
  rcases hbc x hx with h | h
  · exact hab x h
  · exact .inr h

/-- Threads that fail one by one are passed over together. -/
theorem runs_append_of_each {ts : List (Thread ρ)}
    (each : ∀ t ∈ ts, ∀ (us : List (Thread ρ)) (seen : Std.HashSet (Nat × Nat)) (o : Option ρ),
      (∀ seen', OnlyFailed m seen seen' → Runs m us seen' o) → Runs m (t :: us) seen o)
    (us : List (Thread ρ)) (seen : Std.HashSet (Nat × Nat)) (o : Option ρ)
    (h : ∀ seen', OnlyFailed m seen seen' → Runs m us seen' o) : Runs m (ts ++ us) seen o := by
  induction ts generalizing seen with
  | nil => exact h seen (OnlyFailed.refl seen)
  | cons t ts ih =>
    refine each t List.mem_cons_self (ts ++ us) seen o fun seen' hseen' => ?_
    exact ih (fun x hx => each x (List.mem_cons_of_mem _ hx)) seen'
      fun seen'' hseen'' => h seen'' (hseen'.trans hseen'')

/-- The run passes over a thread that fails, and enters nothing but spots of failed threads on the
way. -/
theorem Fails.runs {t : Thread ρ} (ht : Fails m t) (us : List (Thread ρ))
    (seen : Std.HashSet (Nat × Nat)) (o : Option ρ)
    (h : ∀ seen', OnlyFailed m seen seen' → Runs m us seen' o) : Runs m (t :: us) seen o := by
  induction ht generalizing us seen o with
  | @intro t hstop hnext ih =>
    cases hseen : seen.contains t.spot with
    | true => exact .drop hseen (h seen (OnlyFailed.refl seen))
    | false =>
      refine .step hseen hstop (runs_append_of_each ih us _ o ?_)
      intro seen' hseen'
      refine h seen' fun a ha => ?_
      rcases hseen' a ha with hins | hfail
      · rw [Std.HashSet.contains_insert, Bool.or_eq_true, beq_iff_eq] at hins
        rcases hins with rfl | hold
        · exact .inr ⟨t, rfl, .intro hstop hnext⟩
        · exact .inl hold
      · exact .inr hfail

theorem Fails.runs_append {ts : List (Thread ρ)} (hts : ∀ t ∈ ts, Fails m t)
    (us : List (Thread ρ)) (seen : Std.HashSet (Nat × Nat)) (o : Option ρ)
    (h : ∀ seen', OnlyFailed m seen seen' → Runs m us seen' o) : Runs m (ts ++ us) seen o :=
  runs_append_of_each (fun t ht us seen o => (hts t ht).runs us seen o) us seen o h

theorem not_transGen_of_acc {α : Type} {R : α → α → Prop} {a : α} (h : Acc (flip R) a) :
    ¬ Relation.TransGen R a a := by
  intro hloop
  have hacc : Acc (Relation.TransGen (flip R)) a := h.transGen
  have hswap : Relation.TransGen (flip R) a a := Relation.transGen_swap.2 hloop
  induction hacc with
  | intro b _ ih => exact ih b hswap h hloop hswap

/-- The run finds the record of a thread that wins, whatever comes after it, if what was entered
before has failed or lies on the way to the thread. -/
theorem Wins.runs {t : Thread ρ} {r : ρ} (ht : Wins m t r) (us : List (Thread ρ))
    (seen : Std.HashSet (Nat × Nat)) (hacc : Acc (flip (Leads m)) t.spot)
    (hseen : ∀ a, seen.contains a = true → Failed m a ∨ Relation.TransGen (Leads m) a t.spot) :
    Runs m (t :: us) seen (some r) := by
  -- a winning thread has not failed and does not lead to itself, so it was not entered before
  have hnew : ∀ {t : Thread ρ} {r : ρ} {seen : Std.HashSet (Nat × Nat)}, Wins m t r →
      Acc (flip (Leads m)) t.spot →
      (∀ a, seen.contains a = true → Failed m a ∨ Relation.TransGen (Leads m) a t.spot) →
      seen.contains t.spot = false := by
    intro t r seen ht hacc hseen
    by_contra hold
    rcases hseen t.spot (by simpa using hold) with ⟨u, hu, hfail⟩ | hloop
    · exact ht.not_fails hu.symm hfail
    · exact not_transGen_of_acc hacc hloop
  induction ht generalizing us seen with
  | stop hstop => exact .stop (hnew (.stop hstop) hacc hseen) hstop
  | @step t u pre post r hstop hnext hpre hu ih =>
    have hlead : Leads m t.spot u.spot := ⟨t, u, rfl, by simp [hnext], rfl⟩
    refine .step (hnew (.step hstop hnext hpre hu) hacc hseen) hstop ?_
    rw [hnext, List.append_assoc, List.cons_append]
    refine Fails.runs_append hpre _ _ _ fun seen' hseen' => ?_
    refine ih (post ++ us) seen' (hacc.inv hlead) fun a ha => ?_
    rcases hseen' a ha with hins | hfail
    · rw [Std.HashSet.contains_insert, Bool.or_eq_true, beq_iff_eq] at hins
      rcases hins with rfl | hold
      · exact .inr (.single hlead)
      · exact (hseen a hold).imp_right fun hway => hway.tail hlead
    · exact .inl hfail

/-- Where the plain search ends, the run comes to the first of its records. -/
theorem Explores.runs {ts : List (Thread ρ)} {rs : List ρ} (h : Explores m ts rs) :
    Runs m ts ∅ rs.head? := by
  cases rs with
  | nil =>
    rw [← List.append_nil ts]
    exact Fails.runs_append h.fails [] ∅ none fun _ _ => .nil
  | cons r rs =>
    obtain ⟨pre, t, post, rfl, hpre, ht⟩ := h.wins
    refine Fails.runs_append hpre _ ∅ _ fun seen' hseen' => ?_
    refine ht.runs post seen' (h.acc t (by simp)) fun a ha => ?_
    rcases hseen' a ha with hold | hfail
    · simp at hold
    · exact .inl hfail

/-! ## Enough steps -/

/-- The pairs of an address of the program and a place of the subject that were not entered. -/
def unseen (m : Machine ρ) (seen : Std.HashSet (Nat × Nat)) : Finset (Nat × Nat) :=
  (Finset.range m.program.size ×ˢ Finset.range (m.subject.size + 1)).filter
    (fun a => seen.contains a = false)

theorem mem_unseen {seen : Std.HashSet (Nat × Nat)} {a : Nat × Nat} :
    a ∈ m.unseen seen ↔
      (a.1 < m.program.size ∧ a.2 < m.subject.size + 1) ∧ seen.contains a = false := by
  rw [unseen, Finset.mem_filter, Finset.mem_product, Finset.mem_range, Finset.mem_range]

/-- A step leads to at most two threads, and leads on within the program only. -/
theorem length_next (t : Thread ρ) :
    (m.next t).length ≤ if t.address < m.program.size then 2 else 0 := by
  by_cases h : t.address < m.program.size
  · rw [if_pos h]
    unfold next
    split
    · split
      · split <;> simp
      · simp
    · split <;> simp
    all_goals simp
  · have hnone : m.instr? t.address = none := Array.getElem?_eq_none (Nat.le_of_not_lt h)
    rw [if_neg h, next, hnone]
    simp

/-- No step leads beyond the end of the subject. -/
theorem place_next {t u : Thread ρ} (ht : t.place ≤ m.subject.size) (hu : u ∈ m.next t) :
    u.place ≤ m.subject.size := by
  unfold next at hu
  split at hu
  · next s hi =>
    split at hu
    · next c hc =>
      have hlt : t.place < m.subject.size := (Array.getElem?_eq_some_iff.1 hc).1
      split at hu
      · rw [List.mem_singleton.1 hu]
        exact hlt
      · exact absurd hu List.not_mem_nil
    · exact absurd hu List.not_mem_nil
  · split at hu
    · rw [List.mem_singleton.1 hu]
      exact ht
    · exact absurd hu List.not_mem_nil
  · rw [List.mem_singleton.1 hu]
    exact ht
  · rcases List.mem_pair.1 hu with rfl | rfl
    · exact ht
    · exact ht
  · rw [List.mem_singleton.1 hu]
    exact ht
  · exact absurd hu List.not_mem_nil
  · exact absurd hu List.not_mem_nil

/-- Entering a pair uses up one of the unseen ones if it belongs to the program. -/
theorem card_unseen_insert {seen : Std.HashSet (Nat × Nat)} {t : Thread ρ}
    (hseen : seen.contains t.spot = false) (hplace : t.place ≤ m.subject.size) :
    (m.unseen (seen.insert t.spot)).card + (if t.address < m.program.size then 1 else 0)
      ≤ (m.unseen seen).card := by
  have hsub : m.unseen (seen.insert t.spot) ⊆ m.unseen seen := by
    intro a ha
    rw [mem_unseen, Std.HashSet.contains_insert, Bool.or_eq_false_iff] at ha
    exact mem_unseen.2 ⟨ha.1, ha.2.2⟩
  by_cases h : t.address < m.program.size
  · rw [if_pos h]
    have hmem : t.spot ∈ m.unseen seen := mem_unseen.2 ⟨⟨h, Nat.lt_succ_of_le hplace⟩, hseen⟩
    have hnot : t.spot ∉ m.unseen (seen.insert t.spot) := by
      rw [mem_unseen, Std.HashSet.contains_insert]
      simp
    exact Finset.card_lt_card ⟨hsub, fun hsup => hnot (hsup hmem)⟩
  · rw [if_neg h]
    exact Finset.card_le_card hsub

/-- A step leaves fewer threads and unseen pairs to count: at most two threads more, and then one
unseen pair less. -/
theorem fuel_step {t : Thread ρ} {ts : List (Thread ρ)} {seen : Std.HashSet (Nat × Nat)}
    {fuel : Nat} (hseen : seen.contains t.spot = false) (hplace : t.place ≤ m.subject.size)
    (hfuel : (t :: ts).length + 2 * (m.unseen seen).card < fuel + 1) :
    (m.next t ++ ts).length + 2 * (m.unseen (seen.insert t.spot)).card < fuel := by
  have hlen := length_next (m := m) t
  have hcard := card_unseen_insert (m := m) hseen hplace
  rw [List.length_append]
  rw [List.length_cons] at hfuel
  by_cases hin : t.address < m.program.size
  · rw [if_pos hin] at hlen hcard
    omega
  · rw [if_neg hin] at hlen hcard
    omega

/-- Fuel beyond the number of threads and twice the number of unseen pairs is enough. -/
theorem run_eq_of_runs {ts : List (Thread ρ)} {seen : Std.HashSet (Nat × Nat)} {o : Option ρ}
    (h : Runs m ts seen o) (hplace : ∀ t ∈ ts, t.place ≤ m.subject.size) {fuel : Nat}
    (hfuel : ts.length + 2 * (m.unseen seen).card < fuel) : m.run fuel ts seen = o := by
  induction h generalizing fuel with
  | nil =>
    cases fuel with
    | zero => omega
    | succ fuel => rfl
  | @drop t ts seen o hseen h ih =>
    cases fuel with
    | zero => omega
    | succ fuel =>
      rw [run, if_pos (show seen.contains (t.address, t.place) = true from hseen)]
      rw [List.length_cons] at hfuel
      exact ih (fun u hu => hplace u (List.mem_cons_of_mem _ hu)) (by omega)
  | @stop t ts seen hseen hstop =>
    cases fuel with
    | zero => omega
    | succ fuel =>
      have hnew : ¬ seen.contains (t.address, t.place) = true := Bool.not_eq_true _ ▸ hseen
      rw [run, if_neg hnew, if_pos hstop]
  | @step t ts seen o hseen hstop h ih =>
    cases fuel with
    | zero => omega
    | succ fuel =>
      have hnew : ¬ seen.contains (t.address, t.place) = true := Bool.not_eq_true _ ▸ hseen
      have ht := hplace t List.mem_cons_self
      rw [run, if_neg hnew, if_neg hstop]
      refine ih ?_ (fuel_step hseen ht hfuel)
      intro u hu
      rcases List.mem_append.1 hu with hu | hu
      · exact place_next ht hu
      · exact hplace u (List.mem_cons_of_mem _ hu)

theorem place_starts {blank : ρ} : ∀ t ∈ m.starts blank, t.place ≤ m.subject.size := by
  intro t ht
  obtain ⟨p, hp, rfl⟩ := List.mem_map.1 ht
  exact Nat.le_of_lt_succ (List.mem_range.1 hp)

/-- The bound on the steps of a search is enough. -/
theorem fuel_starts (blank : ρ) :
    (m.starts blank).length + 2 * (m.unseen ∅).card < m.stepBound := by
  have hcard : (m.unseen ∅).card ≤ m.program.size * (m.subject.size + 1) := by
    refine (Finset.card_filter_le _ _).trans ?_
    rw [Finset.card_product, Finset.card_range, Finset.card_range]
  have hbound : (2 * m.program.size + 1) * (m.subject.size + 1)
      = 2 * (m.program.size * (m.subject.size + 1)) + (m.subject.size + 1) := by
    rw [Nat.add_mul, Nat.one_mul, Nat.mul_assoc]
  rw [stepBound, hbound, starts, List.length_map, List.length_range]
  omega

/-- Where the plain search from all places ends, the search of the machine finds the first of its
records. -/
theorem search_eq_head {blank : ρ} {rs : List ρ} (h : Explores m (m.starts blank) rs) :
    m.search blank = rs.head? :=
  run_eq_of_runs h.runs place_starts (fuel_starts blank)

end Machine

end FluentRegex
