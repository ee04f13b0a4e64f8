import FluentRegex.Proofs.Machine.Code
import FluentRegex.Proofs.Machine.Sequence

/-!
# Ways along a line

An expression that takes up no line feed does not lead out of the line on which it begins. Its ways
there are those that it has in the line alone, moved to where the line begins (`Machine.Along`), and
the ends of the line are to it what the ends of the text are in the line alone. This holds of the
parts that patterns are put together from, and so of the whole:

> `parallel_through`: expressions one after the other have their ways along the line.
-/

namespace FluentRegex

/-- A line of a text, between what stands before it and after it. -/
structure IsLine (before line after : List Char) : Prop where
  noFeed : '\n' ∉ line
  starts : before = [] ∨ before.getLast? = some '\n'
  ends : after = [] ∨ after.head? = some '\n'

/-- Marks that count from so many places earlier. -/
def Marks.moved (offset : Nat) (marks : Marks) : Marks :=
  marks.map fun mark => (mark.1, offset + mark.2)

/-- The same place and marks, counted from so many places earlier. -/
def moved (offset : Nat) (x : Nat × Marks) : Nat × Marks := (offset + x.1, x.2.moved offset)

namespace Machine

section

variable {f g : Nat × Marks → List (Nat × Marks)} {offset last : Nat}

/-- Steps that correspond up to a place, and lead no further than it. -/
structure Parallel (offset last : Nat) (f g : Nat × Marks → List (Nat × Marks)) : Prop where
  step : ∀ x : Nat × Marks, x.1 ≤ last → f (moved offset x) = (g x).map (moved offset)
  le : ∀ x : Nat × Marks, x.1 ≤ last → ∀ y ∈ g x, y.1 ≤ last

theorem Parallel.flatMap {f' g' : Nat × Marks → List (Nat × Marks)} (h : Parallel offset last f g)
    (h' : Parallel offset last f' g') :
    Parallel offset last (fun x => (f x).flatMap f') fun x => (g x).flatMap g' := by
  refine ⟨fun x hx => ?_, fun x hx y hy => ?_⟩
  · rw [h.step x hx, List.flatMap_map, List.map_flatMap]
    exact List.flatMap_congr fun y hy => h'.step y (h.le x hx y hy)
  · obtain ⟨z, hz, hy⟩ := List.mem_flatMap.1 hy
    exact h'.le z (h.le x hx z hz) y hy

theorem parallel_stay : Parallel offset last (fun x => [x]) fun x => [x] :=
  ⟨fun _ _ => rfl, fun x hx y hy => by rwa [List.mem_singleton.1 hy]⟩

theorem Parallel.rounds (h : Parallel offset last f g) (n : Nat) :
    Parallel offset last (rounds f n) (rounds g n) := by
  induction n with
  | zero => exact parallel_stay
  | succ n ih => exact ih.flatMap h

theorem Parallel.append {f' g' : Nat × Marks → List (Nat × Marks)} (h : Parallel offset last f g)
    (h' : Parallel offset last f' g') :
    Parallel offset last (fun x => f x ++ f' x) fun x => g x ++ g' x := by
  refine ⟨fun x hx => ?_, fun x hx y hy => ?_⟩
  · rw [h.step x hx, h'.step x hx, List.map_append]
  · rcases List.mem_append.1 hy with hy | hy
    · exact h.le x hx y hy
    · exact h'.le x hx y hy

theorem Parallel.roundsUpTo (h : Parallel offset last f g) (greedy : Bool) (n : Nat) :
    Parallel offset last (roundsUpTo greedy f n) (roundsUpTo greedy g n) := by
  induction n with
  | zero => exact parallel_stay
  | succ n ih =>
    cases greedy with
    | true => exact (h.flatMap ih).append parallel_stay
    | false => exact parallel_stay.append (h.flatMap ih)

theorem roundsUpTo_of_nil {x : Nat × Marks} (h : g x = []) (greedy : Bool) (n : Nat) :
    roundsUpTo greedy g n x = [x] := by
  cases n with
  | zero => rfl
  | succ n =>
    rw [Machine.roundsUpTo, h]
    cases greedy <;> rfl

/-- A bound on the rounds that the places give out before is none. -/
theorem roundsUpTo_stable
    (hnext : ∀ x : Nat × Marks, x.1 ≤ last → ∀ y ∈ g x, x.1 < y.1 ∧ y.1 ≤ last) (greedy : Bool)
    {n k : Nat} {x : Nat × Marks} (hx : x.1 ≤ last) (hn : last - x.1 ≤ n) (hk : last - x.1 ≤ k) :
    roundsUpTo greedy g n x = roundsUpTo greedy g k x := by
  -- at the last place there is no further round
  have hlast : ∀ x : Nat × Marks, x.1 ≤ last → last - x.1 ≤ 0 → g x = [] := by
    intro x hx hzero
    refine List.eq_nil_iff_forall_not_mem.2 fun y hy => ?_
    have hy' := hnext x hx y hy
    omega
  induction n generalizing k x with
  | zero =>
    rw [roundsUpTo_of_nil (hlast x hx hn), roundsUpTo_of_nil (hlast x hx hn)]
  | succ n ih =>
    cases k with
    | zero => rw [roundsUpTo_of_nil (hlast x hx hk), roundsUpTo_of_nil (hlast x hx hk)]
    | succ k =>
      have hmore : (g x).flatMap (Machine.roundsUpTo greedy g n) =
          (g x).flatMap (Machine.roundsUpTo greedy g k) := by
        refine List.flatMap_congr fun y hy => ?_
        have hy' := hnext x hx y hy
        exact ih hy'.2 (by omega) (by omega)
      rw [Machine.roundsUpTo, Machine.roundsUpTo, hmore]

/-- Rounds without a bound other than the places that are left. -/
theorem Parallel.roundsUntil (h : Parallel offset last f g)
    (hnext : ∀ x : Nat × Marks, x.1 ≤ last → ∀ y ∈ g x, x.1 < y.1) (greedy : Bool) {size : Nat}
    (hsize : offset + last ≤ size) :
    Parallel offset last (fun x => Machine.roundsUpTo greedy f (size - x.1) x)
      fun x => Machine.roundsUpTo greedy g (last - x.1) x := by
  refine ⟨fun x hx => ?_, fun x hx => (h.roundsUpTo greedy _).le x hx⟩
  have hle : last - x.1 ≤ size - (offset + x.1) := by omega
  have hstable := roundsUpTo_stable (fun x hx y hy => ⟨hnext x hx y hy, h.le x hx y hy⟩) greedy hx
    hle (Nat.le_refl _)
  rw [← hstable]
  exact (h.roundsUpTo greedy _).step x hx

end

/-! ## Expressions on a line -/

section

variable {before line after : List Char} {e : Expr}

theorem after?_along {p : Nat} (hp : p ≤ line.length) :
    (marking (before ++ line ++ after)).after? (before.length + p) =
      (line.drop p ++ after).head? := by
  rw [after?_eq]
  show ((before ++ line ++ after).drop (before.length + p)).head? = _
  rw [List.append_assoc, List.drop_length_add_append, List.drop_append_of_le_length hp]

theorem before?_along {p : Nat} (hp : p ≤ line.length) :
    (marking (before ++ line ++ after)).before? (before.length + p) =
      (before ++ line.take p).getLast? := by
  have hsize : before.length + p ≤ (marking (before ++ line ++ after)).subject.size := by
    show before.length + p ≤ (before ++ line ++ after).length
    rw [List.length_append, List.length_append]
    omega
  rw [before?_eq hsize]
  show ((before ++ line ++ after).take (before.length + p)).getLast? = _
  rw [List.append_assoc, List.take_length_add_append, List.take_append_of_le_length hp]

/-- After a place on a line stands a character of the line, or no more than a line feed. -/
theorem after?_cases (h : IsLine before line after) {p : Nat} (hp : p ≤ line.length) :
    (∃ c, c ≠ '\n' ∧ (marking (before ++ line ++ after)).after? (before.length + p) = some c ∧
      (marking line).after? p = some c) ∨
    ((marking line).after? p = none ∧
      ∀ c ∈ (marking (before ++ line ++ after)).after? (before.length + p), c = '\n') := by
  have hline : (marking line).after? p = (line.drop p).head? := after?_eq p
  rw [after?_along hp, hline]
  cases hrest : line.drop p with
  | nil =>
    refine .inr ⟨rfl, fun c hc => ?_⟩
    rcases h.ends with hafter | hafter
    · rw [hafter] at hc
      exact absurd hc (by simp)
    · exact Option.some.inj (hc.symm.trans hafter)
  | cons c cs =>
    refine .inl ⟨c, ?_, rfl, rfl⟩
    rintro rfl
    exact h.noFeed (List.mem_of_mem_drop (hrest ▸ List.mem_cons_self))

/-- Before a place on a line stands a character of the line, or no more than a line feed. -/
theorem before?_cases (h : IsLine before line after) {p : Nat} (hp : p ≤ line.length) :
    (∃ c, c ≠ '\n' ∧ (marking (before ++ line ++ after)).before? (before.length + p) = some c ∧
      (marking line).before? p = some c) ∨
    ((marking line).before? p = none ∧
      ∀ c ∈ (marking (before ++ line ++ after)).before? (before.length + p), c = '\n') := by
  have hline : (marking line).before? p = (line.take p).getLast? := before?_eq hp
  rw [before?_along hp, hline]
  rcases List.eq_nil_or_concat (line.take p) with htake | ⟨cs, c, htake⟩
  · refine .inr ⟨by rw [htake]; rfl, fun c hc => ?_⟩
    rw [htake, List.append_nil] at hc
    rcases h.starts with hbefore | hbefore
    · rw [hbefore] at hc
      exact absurd hc (by simp)
    · exact Option.some.inj (hc.symm.trans hbefore)
  · rw [htake, List.concat_eq_append, ← List.append_assoc, List.getLast?_concat,
      List.getLast?_concat]
    refine .inl ⟨c, ?_, rfl, rfl⟩
    rintro rfl
    have hmem : '\n' ∈ line.take p := by
      rw [htake, List.concat_eq_append]
      exact List.mem_append_right _ (List.mem_singleton_self _)
    exact h.noFeed (List.mem_of_mem_take hmem)

variable (before line after) in
/-- The first expression has the ways on the line that the second one has in the line alone. -/
def Along (e e' : Expr) : Prop :=
  Parallel before.length line.length ((marking (before ++ line ++ after)).ways e)
    ((marking line).ways e')

variable (h : IsLine before line after)
include h

theorem along_set {s : CharSet} (hs : '\n' ∉ s) :
    Along before line after (.set s) (.set s) := by
  refine ⟨fun x hx => ?_, fun x hx y hy => (forward_ways _ x y hy).2 hx⟩
  rw [ways, ways, show (moved before.length x).1 = before.length + x.1 from rfl]
  rcases after?_cases h hx with ⟨c, -, hsubject, hline⟩ | ⟨hline, hfeed⟩
  · rw [hsubject, hline]
    dsimp only
    split <;> rfl
  · rw [hline]
    cases hc : (marking (before ++ line ++ after)).after? (before.length + x.1) with
    | none => rfl
    | some c =>
      rw [hfeed c hc]
      exact if_neg hs

omit h in
/-- A test of places that comes to the same on the line and in the line alone. -/
theorem along_look {l l' : Look}
    (hl : ∀ p ≤ line.length,
      l.holds ((marking (before ++ line ++ after)).before? (before.length + p))
          ((marking (before ++ line ++ after)).after? (before.length + p)) =
        l'.holds ((marking line).before? p) ((marking line).after? p)) :
    Along before line after (.look l) (.look l') := by
  refine ⟨fun x hx => ?_, fun x hx y hy => (forward_ways _ x y hy).2 hx⟩
  rw [ways, ways, show (moved before.length x).1 = before.length + x.1 from rfl, hl x.1 hx]
  split <;> rfl

theorem along_lineStart : Along before line after (.look .lineStart) (.look .textStart) := by
  refine along_look fun p hp => ?_
  rcases before?_cases h hp with ⟨c, hc, hsubject, hline⟩ | ⟨hline, hfeed⟩
  · rw [hsubject, hline]
    simpa [Look.holds] using hc
  · rw [hline]
    cases hc : (marking (before ++ line ++ after)).before? (before.length + p) with
    | none => rfl
    | some c =>
      rw [hfeed c hc]
      rfl

theorem along_lineEnd : Along before line after (.look .lineEnd) (.look .textEnd) := by
  refine along_look fun p hp => ?_
  rcases after?_cases h hp with ⟨c, hc, hsubject, hline⟩ | ⟨hline, hfeed⟩
  · rw [hsubject, hline]
    simpa [Look.holds] using hc
  · rw [hline]
    cases hc : (marking (before ++ line ++ after)).after? (before.length + p) with
    | none => rfl
    | some c =>
      rw [hfeed c hc]
      rfl

omit h

theorem Along.group {e e' : Expr} (he : Along before line after e e') (index : Nat)
    (name : Option String) :
    Along before line after (.group index name e) (.group index name e') := by
  refine ⟨fun x hx => ?_, fun x hx y hy => (forward_ways _ x y hy).2 hx⟩
  have hopened := he.step (x.1, (2 * index, x.1) :: x.2) hx
  rw [ways, ways, List.map_map]
  show ((marking (before ++ line ++ after)).ways e
    (moved before.length (x.1, (2 * index, x.1) :: x.2))).map _ = _
  rw [hopened, List.map_map]
  rfl

/-- A repetition, of which the rounds take up characters if there is no bound on them. -/
theorem Along.rep {e e' : Expr} (he : Along before line after e e') (min : Nat)
    {max : Option Nat} (hmax : max = none → e'.neverEmpty = true) (greedy : Bool) :
    Along before line after (.rep min max greedy e) (.rep min max greedy e') := by
  cases max with
  | some max => exact (he.rounds min).flatMap (he.roundsUpTo greedy _)
  | none =>
    refine (he.rounds min).flatMap (he.roundsUntil (fun x _ y hy => ?_) greedy ?_)
    · exact lt_of_mem_ways (hmax rfl) hy
    · show before.length + line.length ≤ (before ++ line ++ after).length
      rw [List.length_append, List.length_append]
      omega

theorem Along.repeated {e : Expr} (he : Along before line after e e) (min : Nat)
    {max : Option Nat} (hmax : max = none → e.neverEmpty = true) (greedy : Bool) :
    Along before line after (.repeated min max greedy e) (.repeated min max greedy e) := by
  rcases Expr.repeated_cases min max greedy e with ⟨-, h⟩ | h | ⟨low, high, h, hhigh⟩
  · rw [h]
    exact parallel_stay
  · rw [h]
    exact he
  · rw [h]
    exact he.rep low (fun hnone => hmax (hhigh hnone)) greedy

/-- Expressions one after the other have their ways along the line if each of them has. -/
theorem parallel_through {es es' : List Expr}
    (hes : List.Forall₂ (Along before line after) es es') :
    Parallel before.length line.length ((marking (before ++ line ++ after)).through es)
      ((marking line).through es') := by
  induction hes with
  | nil => exact parallel_stay
  | cons he _ ih => exact he.flatMap ih

end

end Machine

end FluentRegex
