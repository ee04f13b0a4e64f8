import FluentRegex.Proofs.Machine.Preference
import FluentRegex.Proofs.Machine.Ways

/-!
# The program of an expression finds its first way

The instructions of an expression send a thread at their first address to threads at the address
behind their last one: one for each of the expression's ways, in the order of preference
(`unfolds_code`). So the plain search through a program is known from the ways alone, and by
`search_eq_head` so is the run of the machine:

> `findMarks_program`: the marks that a search finds are those of the first way there is, from the
> leftmost place that has one.
-/

namespace FluentRegex

/-- A thread at an address with the place and the record of a way. -/
def Thread.on {ρ : Type} (address : Nat) (x : Nat × ρ) : Thread ρ := ⟨address, x.1, x.2⟩

namespace Machine

variable {ρ : Type} {m : Machine ρ}

/-! ## Threads that may stand for others -/

theorem Explores.append {ts us : List (Thread ρ)} {rs qs : List ρ} (ht : Explores m ts rs)
    (hu : Explores m us qs) : Explores m (ts ++ us) (rs ++ qs) := by
  induction ht with
  | nil => exact hu
  | stop hstop h ih => exact .stop hstop ih
  | @step t ts rs hstop h ih =>
    refine .step hstop ?_
    rw [List.append_eq, ← List.append_assoc]
    exact ih

theorem Explores.split {ts us : List (Thread ρ)} {rs : List ρ} (h : Explores m (ts ++ us) rs) :
    ∃ qs₁ qs₂, rs = qs₁ ++ qs₂ ∧ Explores m ts qs₁ ∧ Explores m us qs₂ := by
  generalize hall : ts ++ us = all at h
  induction h generalizing ts with
  | nil =>
    obtain ⟨rfl, rfl⟩ := List.append_eq_nil_iff.1 hall
    exact ⟨[], [], rfl, .nil, .nil⟩
  | @stop t all rs hstop h ih =>
    cases ts with
    | nil =>
      obtain rfl : us = t :: all := hall
      exact ⟨[], t.record :: rs, rfl, .nil, .stop hstop h⟩
    | cons t' ts =>
      obtain ⟨rfl, htail⟩ := List.cons.inj hall
      obtain ⟨qs₁, qs₂, rfl, h1, h2⟩ := ih htail
      exact ⟨_ :: qs₁, qs₂, rfl, .stop hstop h1, h2⟩
  | @step t all rs hstop h ih =>
    cases ts with
    | nil =>
      obtain rfl : us = t :: all := hall
      exact ⟨[], rs, rfl, .nil, .step hstop h⟩
    | cons t' ts =>
      obtain ⟨rfl, htail⟩ := List.cons.inj hall
      have hnext : (m.next t' ++ ts) ++ us = m.next t' ++ all := by
        rw [List.append_assoc, ← htail, List.append_eq]
      obtain ⟨qs₁, qs₂, rfl, h1, h2⟩ := ih hnext
      exact ⟨qs₁, qs₂, rfl, .step hstop h1, h2⟩

/-- The plain search finds with the first threads what it finds with the second ones. -/
def Unfolds (m : Machine ρ) (ts us : List (Thread ρ)) : Prop :=
  ∀ rs, Explores m us rs → Explores m ts rs

theorem Unfolds.refl (ts : List (Thread ρ)) : Unfolds m ts ts := fun _ h => h

theorem Unfolds.trans {ts us vs : List (Thread ρ)} (h1 : Unfolds m ts us) (h2 : Unfolds m us vs) :
    Unfolds m ts vs :=
  fun rs h => h1 rs (h2 rs h)

theorem Unfolds.append {ts us ts' us' : List (Thread ρ)} (h : Unfolds m ts us)
    (h' : Unfolds m ts' us') : Unfolds m (ts ++ ts') (us ++ us') := by
  intro rs hrs
  obtain ⟨qs₁, qs₂, rfl, h1, h2⟩ := hrs.split
  exact (h qs₁ h1).append (h' qs₂ h2)

theorem unfolds_next {t : Thread ρ} (h : m.instr? t.address ≠ some .stop) :
    Unfolds m [t] (m.next t) := by
  intro rs hrs
  refine .step h ?_
  rw [List.append_nil]
  exact hrs

/-- A step of one instruction that is not `stop`. -/
theorem unfolds_instr {t : Thread ρ} {i : Instr} (h : m.instr? t.address = some i)
    (hi : i ≠ .stop) {us : List (Thread ρ)} (hus : m.next t = us) : Unfolds m [t] us := by
  rw [← hus]
  refine unfolds_next ?_
  rw [h]
  simpa using hi

/-- Threads at one address that each unfold to threads at another one. -/
theorem unfolds_flatMap {a b : Nat} {f : Nat × ρ → List (Nat × ρ)} {xs : List (Nat × ρ)}
    (h : ∀ x ∈ xs, Unfolds m [Thread.on a x] ((f x).map (Thread.on b))) :
    Unfolds m (xs.map (Thread.on a)) ((xs.flatMap f).map (Thread.on b)) := by
  induction xs with
  | nil => exact .refl _
  | cons x xs ih =>
    rw [List.flatMap_cons, List.map_append, List.map_cons]
    exact (h x List.mem_cons_self).append (ih fun y hy => h y (List.mem_cons_of_mem _ hy))

/-- Threads at one address that each unfold to the same at another one. -/
theorem unfolds_map {a b : Nat} {xs : List (Nat × ρ)}
    (h : ∀ x, Unfolds m [Thread.on a x] [Thread.on b x]) :
    Unfolds m (xs.map (Thread.on a)) (xs.map (Thread.on b)) := by
  induction xs with
  | nil => exact .refl _
  | cons x xs ih => exact (h x).append ih

/-! ## Instructions at an address -/

/-- The given instructions stand in the program from an address on. -/
def Holds (m : Machine ρ) (base : Nat) (code : List Instr) : Prop :=
  ∀ i, i < code.length → m.instr? (base + i) = code[i]?

theorem Holds.head {base : Nat} {i : Instr} {code : List Instr} (h : m.Holds base (i :: code)) :
    m.instr? base = some i :=
  h 0 (Nat.succ_pos _)

theorem Holds.left {base : Nat} {a b : List Instr} (h : m.Holds base (a ++ b)) :
    m.Holds base a := by
  intro i hi
  rw [h i (by rw [List.length_append]; omega), List.getElem?_append_left hi]

theorem Holds.right {base : Nat} {a b : List Instr} (h : m.Holds base (a ++ b)) :
    m.Holds (base + a.length) b := by
  intro i hi
  rw [Nat.add_assoc, h (a.length + i) (by rw [List.length_append]; omega),
    List.getElem?_append_right (Nat.le_add_right _ _), Nat.add_sub_cancel_left]

theorem Holds.tail {base : Nat} {i : Instr} {code : List Instr} (h : m.Holds base (i :: code)) :
    m.Holds (base + 1) code :=
  Holds.right (a := [i]) h

/-- Blocks of one width stand one after the other. -/
theorem Holds.block {base w : Nat} {f : Nat → List Instr} (hw : ∀ i, (f i).length = w) {n : Nat}
    (h : m.Holds base ((List.range n).flatMap f)) {i : Nat} (hi : i < n) :
    m.Holds (base + i * w) (f i) := by
  induction n with
  | zero => omega
  | succ n ih =>
    rw [List.range_succ, List.flatMap_append, List.flatMap_singleton] at h
    rcases Nat.lt_or_ge i n with hlt | hge
    · exact ih h.left hlt
    · obtain rfl : i = n := by omega
      have hright := h.right
      rwa [Expr.length_flatMap_range f w hw] at hright

/-- The two threads that a choice leads to. -/
theorem unfolds_choose {a inside outside : Nat} {greedy : Bool}
    (h : m.instr? a = some (.choose greedy inside outside)) (x : Nat × ρ) :
    Unfolds m [Thread.on a x]
      (if greedy then [Thread.on inside x, Thread.on outside x]
        else [Thread.on outside x, Thread.on inside x]) := by
  have hnext : m.next (Thread.on a x) = if greedy then [Thread.on inside x, Thread.on outside x]
      else [Thread.on outside x, Thread.on inside x] := by
    rw [next, show m.instr? (Thread.on a x).address = _ from h]
    cases greedy <;> rfl
  refine unfolds_instr (t := Thread.on a x) h ?_ hnext
  cases greedy <;> simp [Instr.choose]

/-- One more round or none, from a choice between them. -/
theorem unfolds_roundsUpTo_succ {a inside outside n : Nat} {greedy : Bool}
    {f : Nat × ρ → List (Nat × ρ)} {x : Nat × ρ}
    (h : m.instr? a = some (.choose greedy inside outside))
    (hin : Unfolds m [Thread.on inside x]
      (((f x).flatMap (roundsUpTo greedy f n)).map (Thread.on outside))) :
    Unfolds m [Thread.on a x] ((roundsUpTo greedy f (n + 1) x).map (Thread.on outside)) := by
  have hout : Unfolds m [Thread.on outside x] [Thread.on outside x] := .refl _
  refine (unfolds_choose h x).trans ?_
  cases greedy with
  | true =>
    rw [roundsUpTo, if_pos rfl, if_pos rfl, List.map_append]
    exact hin.append hout
  | false =>
    rw [roundsUpTo, if_neg Bool.false_ne_true, if_neg Bool.false_ne_true, List.map_cons]
    exact hout.append hin

/-! ## Expressions -/

/-- Wherever its code stands, an expression unfolds to its ways. -/
def Unfolding (m : Machine ρ) (e : Expr) : Prop :=
  ∀ (base : Nat) (x : Nat × ρ), m.Holds base (e.code base) → x.1 ≤ m.subject.size →
    Unfolds m [Thread.on base x] ((m.ways e x).map (Thread.on (base + e.width)))

/-- The rounds that have to be made, one block of code after the other. -/
theorem Unfolding.rounds {e : Expr} (he : m.Unfolding e) {base : Nat} (n : Nat) {x : Nat × ρ}
    (h : ∀ i < n, m.Holds (base + i * e.width) (e.code (base + i * e.width)))
    (hx : x.1 ≤ m.subject.size) :
    Unfolds m [Thread.on base x]
      ((Machine.rounds (m.ways e) n x).map (Thread.on (base + n * e.width))) := by
  induction n with
  | zero =>
    rw [Nat.zero_mul, Nat.add_zero]
    exact .refl _
  | succ n ih =>
    refine (ih fun i hi => h i (Nat.lt_succ_of_lt hi)).trans ?_
    rw [Nat.succ_mul, ← Nat.add_assoc]
    refine unfolds_flatMap fun y hy => he _ y (h n (Nat.lt_succ_self n)) ?_
    exact (forward_rounds (forward_ways e) n x y hy).2 hx

/-- The rounds that may be made, each behind a choice to leave out this one and all that follow. -/
theorem Unfolding.options {e : Expr} (he : m.Unfolding e) {greedy : Bool} {exit : Nat} (n : Nat)
    {top : Nat} {x : Nat × ρ} (hexit : exit = top + n * (e.width + 1))
    (h : ∀ i < n, m.Holds (top + i * (e.width + 1))
      (.choose greedy (top + i * (e.width + 1) + 1) exit ::
        e.code (top + i * (e.width + 1) + 1)))
    (hx : x.1 ≤ m.subject.size) :
    Unfolds m [Thread.on top x]
      ((roundsUpTo greedy (m.ways e) n x).map (Thread.on exit)) := by
  induction n generalizing top x with
  | zero =>
    rw [hexit, Nat.zero_mul, Nat.add_zero]
    exact .refl _
  | succ n ih =>
    have hfirst := h 0 (Nat.succ_pos n)
    rw [Nat.zero_mul, Nat.add_zero] at hfirst
    refine unfolds_roundsUpTo_succ hfirst.head ((he _ x hfirst.tail hx).trans ?_)
    refine unfolds_flatMap fun y hy => ?_
    have hshift : ∀ i, top + 1 + e.width + i * (e.width + 1) = top + (i + 1) * (e.width + 1) := by
      intro i
      rw [Nat.succ_mul]
      omega
    refine ih (by rw [hexit, hshift]) (fun i hi => ?_) ((forward_ways e x y hy).2 hx)
    rw [hshift]
    exact h (i + 1) (Nat.succ_lt_succ hi)

/-- Rounds without a bound, where the code at `inside` comes back to the choice. -/
theorem unfolds_loop {e : Expr} (hne : e.neverEmpty = true) {greedy : Bool}
    {loop inside exit : Nat} (hchoice : m.instr? loop = some (.choose greedy inside exit))
    (hbody : ∀ x : Nat × ρ, x.1 ≤ m.subject.size →
      Unfolds m [Thread.on inside x] ((m.ways e x).map (Thread.on loop)))
    (n : Nat) {x : Nat × ρ} (hx : x.1 ≤ m.subject.size) (hn : m.subject.size - x.1 ≤ n) :
    Unfolds m [Thread.on loop x]
      ((roundsUpTo greedy (m.ways e) n x).map (Thread.on exit)) := by
  induction n generalizing x with
  | zero =>
    -- nothing is left of the subject, so the body has no ways
    have hnone : m.ways e x = [] := by
      refine List.eq_nil_iff_forall_not_mem.2 fun y hy => ?_
      have hlt := lt_of_mem_ways hne hy
      have hle := (forward_ways e x y hy).2 hx
      omega
    have hin : Unfolds m [Thread.on inside x] [] := by
      have hin := hbody x hx
      rwa [hnone] at hin
    refine (unfolds_choose hchoice x).trans ?_
    cases greedy with
    | true => exact hin.append (.refl [Thread.on exit x])
    | false => exact Unfolds.append (.refl [Thread.on exit x]) hin
  | succ n ih =>
    refine unfolds_roundsUpTo_succ hchoice ((hbody x hx).trans ?_)
    refine unfolds_flatMap fun y hy => ?_
    have hlt := lt_of_mem_ways hne hy
    exact ih ((forward_ways e x y hy).2 hx) (by omega)

theorem length_code_block (e : Expr) (base i : Nat) :
    (e.code (base + i * e.width)).length = e.width :=
  Expr.length_code e _

/-- The first rounds of a repetition stand one after the other at its start. -/
theorem Holds.rounds {e : Expr} {base n : Nat} {more : List Instr}
    (h : m.Holds base (((List.range n).flatMap fun i => e.code (base + i * e.width)) ++ more)) :
    (∀ i < n, m.Holds (base + i * e.width) (e.code (base + i * e.width))) ∧
      m.Holds (base + n * e.width) more := by
  refine ⟨fun i hi => Holds.block (length_code_block e base) h.left hi, ?_⟩
  have hright := h.right
  rwa [Expr.length_flatMap_range _ e.width (length_code_block e base)] at hright

theorem Unfolding.rep_some {e : Expr} (he : m.Unfolding e) (min max : Nat) (greedy : Bool) :
    m.Unfolding (.rep min (some max) greedy e) := by
  intro base x h hx
  obtain ⟨hrounds, hright⟩ := Holds.rounds h
  have hoptions := fun i (hi : i < max - min) =>
    Holds.block (w := e.width + 1) (fun i => by simp [Expr.length_code]) hright hi
  rw [Expr.width, ← Nat.add_assoc]
  refine (he.rounds min hrounds hx).trans (unfolds_flatMap fun y hy => ?_)
  exact he.options (max - min) rfl hoptions ((forward_rounds (forward_ways e) min x y hy).2 hx)

theorem Unfolding.rep_none {e : Expr} (he : m.Unfolding e) (hne : e.neverEmpty = true) (min : Nat)
    (greedy : Bool) : m.Unfolding (.rep min none greedy e) := by
  intro base x h hx
  by_cases hmin : min = 0
  · -- the choice stands before the body, which ends with a jump back to it
    subst hmin
    simp only [Expr.code, if_true, hne] at h
    have hjump := h.right.head
    rw [List.length_cons, Expr.length_code] at hjump
    rw [ways, Machine.rounds, List.flatMap_singleton, Expr.width, if_pos rfl, ← Nat.add_assoc]
    refine unfolds_loop hne h.left.head (fun y hy => ?_) _ hx (Nat.le_refl _)
    refine (he _ y h.left.tail hy).trans (unfolds_map fun z => ?_)
    have hback : m.instr? (Thread.on (base + 1 + e.width) z).address = some (.jump base) := by
      rw [← hjump]
      exact congrArg m.instr? (by simp only [Thread.on]; omega)
    exact unfolds_instr hback (by simp) (by rw [next, hback]; rfl)
  · -- the choice stands behind the last of the rounds that have to be made, and leads back to it
    rw [Expr.code, if_neg hmin] at h
    obtain ⟨hrounds, hright⟩ := Holds.rounds h
    have hchoice := hright.head
    have hlast : base + (min - 1) * e.width + e.width = base + min * e.width := by
      rw [Nat.add_assoc, ← Nat.succ_mul, Nat.succ_eq_add_one, Nat.sub_add_cancel (by omega)]
    refine (he.rounds min hrounds hx).trans (unfolds_flatMap fun y hy => ?_)
    have hy' := (forward_rounds (forward_ways e) min x y hy).2 hx
    rw [Expr.width, if_neg hmin, ← Nat.add_assoc, ← hlast]
    rw [← hlast] at hchoice
    refine unfolds_loop hne hchoice (fun z hz => ?_) _ hy' (Nat.le_refl _)
    exact he _ z (hrounds (min - 1) (by omega)) hz

theorem Unfolding.group {e : Expr} (he : m.Unfolding e) (index : Nat) (name : Option String) :
    m.Unfolding (.group index name e) := by
  intro base x h hx
  have hfirst : m.instr? (Thread.on base x).address = some (.mark (2 * index)) := h.left.head
  have hlast := h.right.head
  rw [List.length_cons, Expr.length_code] at hlast
  refine (unfolds_instr hfirst (by simp) (by rw [next, hfirst])).trans ?_
  refine (he (base + 1) (x.1, m.note (2 * index) x.1 x.2) h.left.tail hx).trans ?_
  rw [ways, List.map_eq_flatMap (l := m.ways e _) (f := fun y => (y.1, _))]
  refine unfolds_flatMap fun y _ => ?_
  have hclose : m.instr? (Thread.on (base + 1 + e.width) y).address =
      some (.mark (2 * index + 1)) := by
    rw [← hlast]
    exact congrArg m.instr? (by simp only [Thread.on]; omega)
  refine unfolds_instr hclose (by simp) ?_
  rw [next, hclose, Expr.width]
  simp only [Thread.on, List.map_cons, List.map_nil]
  rw [show base + 1 + e.width + 1 = base + (e.width + 2) by omega]

theorem Unfolding.seq {a b : Expr} (ha : m.Unfolding a) (hb : m.Unfolding b) :
    m.Unfolding (.seq a b) := by
  intro base x h hx
  refine (ha base x h.left hx).trans ?_
  rw [ways, Expr.width, ← Nat.add_assoc]
  refine unfolds_flatMap fun y hy => hb _ y ?_ ((forward_ways a x y hy).2 hx)
  have hright := h.right
  rwa [Expr.length_code] at hright

theorem Unfolding.alt {a b : Expr} (ha : m.Unfolding a) (hb : m.Unfolding b) :
    m.Unfolding (.alt a b) := by
  intro base x h hx
  have hsplit : m.instr? (Thread.on base x).address =
      some (.split (base + 1) (base + a.width + 2)) := h.left.head
  have hright := h.right
  rw [List.length_cons, Expr.length_code] at hright
  have hsecond : m.Holds (base + a.width + 2) (b.code (base + a.width + 2)) := by
    have htail := hright.tail
    rwa [show base + (a.width + 1) + 1 = base + a.width + 2 by omega] at htail
  refine (unfolds_instr hsplit (by simp) (by rw [next, hsplit])).trans ?_
  rw [ways, List.map_append]
  -- behind the first branch stands a jump over the second one
  have hfirst : Unfolds m [Thread.on (base + 1) x]
      ((m.ways a x).map (Thread.on (base + (Expr.alt a b).width))) := by
    refine (ha (base + 1) x h.left.tail hx).trans (unfolds_map fun y => ?_)
    have hjump : m.instr? (Thread.on (base + 1 + a.width) y).address =
        some (.jump (base + a.width + 2 + b.width)) := by
      rw [← hright.head]
      exact congrArg m.instr? (by simp only [Thread.on]; omega)
    refine unfolds_instr hjump (by simp) ?_
    rw [next, hjump, Expr.width]
    simp only [Thread.on]
    rw [show base + a.width + 2 + b.width = base + (a.width + b.width + 2) by omega]
  have hother := hb _ x hsecond hx
  rw [show base + a.width + 2 + b.width = base + (Expr.alt a b).width by
    rw [Expr.width]; omega] at hother
  exact hfirst.append hother

/-- The code of an expression unfolds to its ways. -/
theorem unfolds_code (e : Expr) (he : e.Guarded) : m.Unfolding e := by
  induction e with
  | empty => exact fun base x _ _ => .refl _
  | set s =>
    intro base x h _
    have hi : m.instr? (Thread.on base x).address = some (.char s) := h.head
    refine unfolds_instr hi (by simp) ?_
    rw [next, hi, ways]
    cases hc : m.after? x.1 with
    | none => simp [Thread.on, hc]
    | some c => by_cases hs : s.contains c = true <;> simp [Thread.on, hc, hs, Expr.width]
  | look l =>
    intro base x h _
    have hi : m.instr? (Thread.on base x).address = some (.look l) := h.head
    refine unfolds_instr hi (by simp) ?_
    rw [next, hi, ways]
    by_cases hl : l.holds (m.before? x.1) (m.after? x.1) = true <;> simp [Thread.on, hl, Expr.width]
  | group index name e ih => exact (ih he).group index name
  | rep min max greedy e ih =>
    cases max with
    | some max => exact (ih he.1).rep_some min max greedy
    | none => exact (ih he.1).rep_none (he.2 rfl) min greedy
  | seq a b iha ihb => exact (iha he.1).seq (ihb he.2)
  | alt a b iha ihb => exact (iha he.1).alt (ihb he.2)

/-! ## The search -/

/-- What a search through the program of an expression records. -/
theorem search_program {e : Expr} (he : e.Guarded) (hprogram : m.program = e.program) (blank : ρ) :
    m.search blank =
      (((List.range (m.subject.size + 1)).flatMap
        fun p => m.ways (.group 0 none e) (p, blank)).head?).map Prod.snd := by
  have hholds : m.Holds 0 ((Expr.group 0 none e).code 0 ++ [Instr.stop]) := by
    intro i _
    rw [Nat.zero_add, instr?, hprogram, Expr.program, List.getElem?_toArray]
  have hstop : m.instr? (0 + (Expr.group 0 none e).width) = some .stop := by
    have hlast := hholds.right.head
    rwa [Expr.length_code] at hlast
  have hexplore : ∀ xs : List (Nat × ρ),
      Explores m (xs.map (Thread.on (0 + (Expr.group 0 none e).width))) (xs.map Prod.snd) := by
    intro xs
    induction xs with
    | nil => exact .nil
    | cons x xs ih => exact .stop (t := Thread.on _ x) hstop ih
  have hstarts : m.starts blank =
      ((List.range (m.subject.size + 1)).map fun p => (p, blank)).map (Thread.on 0) := by
    rw [starts, List.map_map]
    rfl
  have hunfolds : Unfolds m (m.starts blank)
      (((List.range (m.subject.size + 1)).flatMap
        fun p => m.ways (.group 0 none e) (p, blank)).map
          (Thread.on (0 + (Expr.group 0 none e).width))) := by
    rw [hstarts, ← List.flatMap_map (fun p => (p, blank)) (m.ways (.group 0 none e))]
    refine unfolds_flatMap fun x hx => ?_
    obtain ⟨p, hp, rfl⟩ := List.mem_map.1 hx
    have hguarded : (Expr.group 0 none e).Guarded := he
    exact unfolds_code _ hguarded 0 _ hholds.left (Nat.le_of_lt_succ (List.mem_range.1 hp))
  rw [search_eq_head (hunfolds _ (hexplore _)), List.head?_map]

/-- The program has no part in the ways of an expression. -/
theorem ways_program (program : Array Instr) (e : Expr) :
    ({ m with program := program } : Machine ρ).ways e = m.ways e := by
  induction e with
  | empty => rfl
  | set s => rfl
  | look l => rfl
  | group index name e ih =>
    funext x
    rw [ways, ways, ih]
  | rep min max greedy e ih =>
    funext x
    cases max with
    | some max => rw [ways, ways, ih]
    | none => rw [ways, ways, ih]
  | seq a b iha ihb =>
    funext x
    rw [ways, ways, iha, ihb]
  | alt a b iha ihb =>
    funext x
    rw [ways, ways, iha, ihb]

end Machine

/-- The machine that notes all marks on a subject. It has no program: it is for the ways of
expressions. -/
def marking (subject : List Char) : Machine Marks :=
  ⟨#[], subject.toArray, fun slot place marks => (slot, place) :: marks⟩

/-- A search with captures finds the marks of the first way there is, from the leftmost place that
has one. -/
theorem findMarks_program {e : Expr} (he : e.Guarded) (subject : List Char) :
    findMarks e.program subject.toArray =
      (((List.range (subject.length + 1)).flatMap
        fun p => (marking subject).ways (.group 0 none e) (p, [])).head?).map Prod.snd := by
  have h := Machine.search_program (m := { marking subject with program := e.program }) he rfl []
  rw [Machine.ways_program] at h
  exact h

end FluentRegex
