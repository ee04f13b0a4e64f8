import FluentRegex.Proofs.Machine.Ways
import Mathlib.Data.List.Forall2

/-!
# Ways through sequences and runs of characters

The ways of an expression that was put together with `Expr.sequence` or `Expr.repeated` are those
of its parts, whatever simpler form it was given (`ways_sequence`). For sets of characters, which
are all that calls repeat, the ways can be written down: they lead as far as the characters of the
set go, the longest way first (`ways_any`, `ways_some`, `ways_exactly`).
-/

namespace FluentRegex

namespace Expr

section

variable {P : Expr → Prop} (hempty : P .empty) (hseq : ∀ a b, P (.seq a b) ↔ P a ∧ P b)

include hseq in
theorem forall_factors {e : Expr} (he : P e) : ∀ f ∈ e.factors, P f := by
  induction e with
  | empty => exact fun f hf => absurd hf List.not_mem_nil
  | seq a b iha ihb =>
    intro f hf
    rcases List.mem_append.1 hf with hf | hf
    · exact iha ((hseq a b).1 he).1 f hf
    · exact ihb ((hseq a b).1 he).2 f hf
  | _ =>
    intro f hf
    rw [List.mem_singleton.1 hf]
    exact he

include hempty hseq

theorem join_of_forall {es : List Expr} (h : ∀ e ∈ es, P e) : P (join es) := by
  induction es with
  | nil => exact hempty
  | cons e es ih =>
    rw [List.forall_mem_cons] at h
    cases es with
    | nil => exact h.1
    | cons f fs => exact (hseq e (join (f :: fs))).2 ⟨h.1, ih h.2⟩

/-- What holds of nothing, and of two expressions one after the other exactly if it holds of both,
holds of a sequence in its simple form if it holds of all its members. -/
theorem sequence_of_forall {es : List Expr} (h : ∀ e ∈ es, P e) : P (sequence es) := by
  refine join_of_forall hempty hseq fun f hf => ?_
  obtain ⟨e, he, hf⟩ := List.mem_flatMap.1 hf
  exact forall_factors hseq (h e he) f hf

end

/-- The forms that a repetition is given: nothing, where it may go round at most no times, its body
alone, or a repetition with a bound if it was to have one. -/
theorem repeated_cases (min : Nat) (max : Option Nat) (greedy : Bool) (e : Expr) :
    (max = some 0 ∧ repeated min max greedy e = .empty) ∨ repeated min max greedy e = e ∨
      ∃ low high, repeated min max greedy e = .rep low high greedy e ∧
        (high = none → max = none) := by
  have hzero : (if e.onlyEmpty then some (Nat.min (max.getD 1) 1) else max) = some 0 →
      max = some 0 := by
    intro h
    split at h
    · cases max with
      | none => exact absurd h (by decide)
      | some n =>
        rw [Option.getD_some, Option.some.injEq] at h
        have hmin : Nat.min n 1 = n ∨ Nat.min n 1 = 1 := by
          rcases Nat.le_total n 1 with hle | hle
          · exact .inl (Nat.min_eq_left hle)
          · exact .inr (Nat.min_eq_right hle)
        rw [Option.some.injEq]
        omega
    · exact h
  have hnone : (if e.onlyEmpty then some (Nat.min (max.getD 1) 1) else max) = none →
      max = none := by
    intro h
    split at h
    · exact absurd h (by simp)
    · exact h
  simp only [repeated]
  generalize (if e.onlyEmpty then some (Nat.min (max.getD 1) 1) else max) = high at hzero hnone ⊢
  generalize (if e.onlyEmpty then Nat.min min 1 else min) = low
  by_cases hempty : low = 0 ∧ high = some 0
  · rw [if_pos hempty]
    exact .inl ⟨hzero hempty.2, rfl⟩
  · rw [if_neg hempty]
    by_cases honce : low = 1 ∧ high = some 1
    · rw [if_pos honce]
      exact .inr (.inl rfl)
    · rw [if_neg honce]
      exact .inr (.inr ⟨low, high, rfl, hnone⟩)

theorem guarded_repeated {min : Nat} {max : Option Nat} {greedy : Bool} {e : Expr}
    (he : e.Guarded) (hmax : max = none → e.neverEmpty = true) :
    (repeated min max greedy e).Guarded := by
  rcases repeated_cases min max greedy e with ⟨-, h⟩ | h | ⟨low, high, h, hhigh⟩
  · rw [h]
    exact trivial
  · rw [h]
    exact he
  · rw [h]
    exact ⟨he, fun hnone => hmax (hhigh hnone)⟩

end Expr

namespace Machine

variable {ρ : Type} {m : Machine ρ}

/-! ## Sequences -/

/-- Where expressions one after the other may end, in the order of preference. -/
def through (m : Machine ρ) : List Expr → Nat × ρ → List (Nat × ρ)
  | [], x => [x]
  | e :: es, x => (m.ways e x).flatMap (m.through es)

theorem through_singleton (e : Expr) (x : Nat × ρ) : m.through [e] x = m.ways e x := by
  show (m.ways e x).flatMap (fun y => [y]) = m.ways e x
  exact List.flatMap_singleton' _

theorem through_append (es fs : List Expr) (x : Nat × ρ) :
    m.through (es ++ fs) x = (m.through es x).flatMap (m.through fs) := by
  induction es generalizing x with
  | nil =>
    rw [List.nil_append, through, List.flatMap_singleton]
  | cons e es ih =>
    rw [List.cons_append, through, through, List.flatMap_assoc]
    congr 1
    funext y
    exact ih y

theorem through_factors (e : Expr) (x : Nat × ρ) : m.through e.factors x = m.ways e x := by
  induction e generalizing x with
  | empty => rfl
  | seq a b iha ihb =>
    rw [Expr.factors, through_append, ways, iha]
    congr 1
    funext y
    exact ihb y
  | _ => exact through_singleton _ x

theorem ways_join (es : List Expr) (x : Nat × ρ) : m.ways (Expr.join es) x = m.through es x := by
  induction es generalizing x with
  | nil => rfl
  | cons e es ih =>
    cases es with
    | nil => exact (through_singleton e x).symm
    | cons f fs =>
      rw [Expr.join, ways, through]
      · congr 1
        funext y
        exact ih y
      · exact fun h => absurd h (by simp)

/-- A sequence in its simple form has the ways of its members one after the other. -/
theorem ways_sequence (es : List Expr) (x : Nat × ρ) :
    m.ways (Expr.sequence es) x = m.through es x := by
  rw [Expr.sequence, ways_join]
  induction es generalizing x with
  | nil => rfl
  | cons e es ih =>
    rw [List.flatMap_cons, through_append, through_factors, through]
    congr 1
    funext y
    exact ih y

/-- What may be left out is tried first. -/
theorem ways_optional (e : Expr) (x : Nat × ρ) :
    m.ways (Expr.repeated 0 (some 1) true e) x = m.ways e x ++ [x] := by
  have hrep : Expr.repeated 0 (some 1) true e = .rep 0 (some 1) true e := by
    cases h : e.onlyEmpty with
    | true => simp [Expr.repeated, h]
    | false => simp [Expr.repeated, h]
  rw [hrep, ways, rounds, List.flatMap_singleton]
  show (m.ways e x).flatMap (fun y => [y]) ++ [x] = _
  rw [List.flatMap_singleton']

/-- A repetition of what may take up characters goes round as often as it says, in whatever simple
form. -/
theorem ways_repeated {e : Expr} (he : e.onlyEmpty = false) (low high : Nat) (x : Nat × ρ) :
    m.ways (Expr.repeated low (some high) true e) x =
      (rounds (m.ways e) low x).flatMap (roundsUpTo true (m.ways e) (high - low)) := by
  rw [Expr.repeated, he, if_neg Bool.false_ne_true, if_neg Bool.false_ne_true]
  split
  · next hnone =>
    rw [hnone.1, Option.some.inj hnone.2]
    rfl
  · split
    · next honce =>
      rw [honce.1, Option.some.inj honce.2]
      show m.ways e x = ([x].flatMap (m.ways e)).flatMap fun y => [y]
      rw [List.flatMap_singleton, List.flatMap_singleton']
    · rfl

/-! ## Rounds along a path -/

section

variable {f : Nat × ρ → List (Nat × ρ)} {spot : Nat → Nat × ρ} {c : Nat}

theorem head?_flatMap_of_head? {l : List (Nat × ρ)} {x y : Nat × ρ} (hx : l.head? = some x)
    (hy : (f x).head? = some y) : (l.flatMap f).head? = some y := by
  obtain ⟨rest, rfl⟩ := List.head?_eq_some_iff.1 hx
  rw [List.flatMap_cons, List.head?_append, hy]
  rfl

/-- Where each round leads from one spot to the next up to a last one, so many rounds lead as far as
there are spots. -/
theorem rounds_eq (hf : ∀ k ≤ c, f (spot k) = if k < c then [spot (k + 1)] else []) (n : Nat) :
    rounds f n (spot 0) = if n ≤ c then [spot n] else [] := by
  induction n with
  | zero => rw [if_pos (Nat.zero_le c), rounds]
  | succ n ih =>
    rw [rounds, ih]
    by_cases hn : n ≤ c
    · rw [if_pos hn, List.flatMap_singleton, hf n hn]
      rfl
    · rw [if_neg hn, if_neg fun h => hn (Nat.le_of_succ_le h)]
      rfl

variable (hnext : ∀ k < c, (f (spot k)).head? = some (spot (k + 1)))

include hnext

/-- Where a round leads to the next spot first, and from the last one to where it is, so many rounds
lead first to the spot of that number, or to the last one. -/
theorem head?_rounds (hlast : (f (spot c)).head? = some (spot c)) (n : Nat) :
    (rounds f n (spot 0)).head? = some (spot (min n c)) := by
  induction n with
  | zero => rw [Nat.zero_min, rounds, List.head?_cons]
  | succ n ih =>
    refine head?_flatMap_of_head? ih ?_
    rcases Nat.lt_or_ge n c with hn | hn
    · rw [Nat.min_eq_left (Nat.le_of_lt hn), Nat.min_eq_left hn, hnext n hn]
    · rw [Nat.min_eq_right hn, Nat.min_eq_right (Nat.le_succ_of_le hn), hlast]

/-- As many rounds as possible lead first to the last spot that is not too far. -/
theorem head?_roundsUpTo (hlast : f (spot c) = [] ∨ (f (spot c)).head? = some (spot c)) (n : Nat)
    {k : Nat} (hk : k ≤ c) :
    (roundsUpTo true f n (spot k)).head? = some (spot (min (k + n) c)) := by
  induction n generalizing k with
  | zero => rw [Nat.add_zero, Nat.min_eq_left hk, roundsUpTo, List.head?_cons]
  | succ n ih =>
    show ((f (spot k)).flatMap (roundsUpTo true f n) ++ [spot k]).head? = _
    rcases Nat.lt_or_eq_of_le hk with hlt | rfl
    · rw [List.head?_append, head?_flatMap_of_head? (hnext k hlt) (ih hlt), Option.some_or,
        Nat.add_assoc, Nat.add_comm 1]
    · rw [Nat.min_eq_right (Nat.le_add_right _ _)]
      rcases hlast with hnil | hhead
      · rw [hnil]
        rfl
      · rw [List.head?_append, head?_flatMap_of_head? hhead (ih (Nat.le_refl _)),
          Nat.min_eq_right (Nat.le_add_right _ _), Option.some_or]

end

/-! ## Runs of characters -/

/-- The number of characters of a set that follow one another from a place on. -/
def reach (m : Machine ρ) (s : CharSet) (place : Nat) : Nat :=
  ((m.subject.toList.drop place).takeWhile s.contains).length

theorem after?_eq (p : Nat) : m.after? p = (m.subject.toList.drop p).head? := by
  rw [after?, List.head?_drop, Array.getElem?_toList]

theorem before?_eq {p : Nat} (hp : p ≤ m.subject.size) :
    m.before? p = (m.subject.toList.take p).getLast? := by
  cases p with
  | zero => rfl
  | succ p =>
    have hlt : p < m.subject.toList.length := hp
    rw [List.take_succ_eq_append_getElem hlt, List.getLast?_concat, before?,
      Array.getElem?_eq_getElem hp, Array.getElem_toList]

/-- One character of a set. -/
theorem ways_set (s : CharSet) (p : Nat) (r : ρ) :
    m.ways (.set s) (p, r) = if 1 ≤ m.reach s p then [(p + 1, r)] else [] := by
  rw [ways, after?_eq, reach]
  cases m.subject.toList.drop p with
  | nil => rfl
  | cons c cs =>
    rw [List.head?_cons, List.takeWhile_cons]
    cases h : s.contains c with
    | true => simp [h]
    | false => simp [h]

theorem reach_succ {s : CharSet} {p : Nat} (h : 1 ≤ m.reach s p) :
    m.reach s p = m.reach s (p + 1) + 1 := by
  rw [reach] at h
  rw [reach, reach, ← List.tail_drop]
  cases htail : m.subject.toList.drop p with
  | nil =>
    rw [htail] at h
    exact absurd h (by simp)
  | cons c cs =>
    rw [htail, List.takeWhile_cons] at h
    rw [List.takeWhile_cons]
    split
    · rfl
    · next hc =>
      rw [if_neg hc] at h
      exact absurd h (by simp)

theorem reach_le (s : CharSet) (p : Nat) : m.reach s p ≤ m.subject.size - p := by
  have h := (List.takeWhile_sublist s.contains (l := m.subject.toList.drop p)).length_le
  rwa [List.length_drop, Array.length_toList] at h

/-- At most `n` characters of a set, of which there are not so many: all of them, then one less,
and so on down to none. -/
theorem roundsUpTo_set (s : CharSet) (n : Nat) (p : Nat) (r : ρ) (hn : m.reach s p ≤ n) :
    roundsUpTo true (m.ways (.set s)) n (p, r) =
      (List.range (m.reach s p + 1)).reverse.map fun k => (p + k, r) := by
  induction n generalizing p with
  | zero =>
    rw [Nat.le_zero.1 hn]
    rfl
  | succ n ih =>
    rw [roundsUpTo, ways_set]
    by_cases h : 1 ≤ m.reach s p
    · have hreach := reach_succ h
      rw [if_pos h, List.flatMap_singleton, ih (p + 1) (by omega), hreach,
        List.range_succ_eq_map (n := m.reach s (p + 1) + 1)]
      simp [Function.comp_def, Nat.add_assoc, Nat.add_comm 1]
    · have hzero : m.reach s p = 0 := by omega
      rw [if_neg h, hzero]
      rfl

/-- Exactly `n` characters of a set. -/
theorem rounds_set (s : CharSet) (n : Nat) (p : Nat) (r : ρ) :
    rounds (m.ways (.set s)) n (p, r) = if n ≤ m.reach s p then [(p + n, r)] else [] := by
  -- each character that is taken leaves one less to reach
  have hreach : ∀ k, k ≤ m.reach s p → m.reach s p = m.reach s (p + k) + k := by
    intro k
    induction k with
    | zero => exact fun _ => rfl
    | succ k ih =>
      intro h
      have hk := ih (by omega)
      have hnext := reach_succ (m := m) (s := s) (p := p + k) (by omega)
      rw [Nat.add_assoc] at hnext
      omega
  induction n with
  | zero => rfl
  | succ n ih =>
    rw [rounds, ih]
    by_cases h : n ≤ m.reach s p
    · have hn := hreach n h
      rw [if_pos h, List.flatMap_singleton, ways_set]
      by_cases hnext : 1 ≤ m.reach s (p + n)
      · rw [if_pos hnext, if_pos (by omega), Nat.add_assoc]
      · rw [if_neg hnext, if_neg (by omega)]
    · rw [if_neg h, if_neg (by omega)]
      rfl

/-- No characters of a set or more, as many of them as possible. -/
theorem ways_any (s : CharSet) (p : Nat) (r : ρ) :
    m.ways (Expr.repeated 0 none true (.set s)) (p, r) =
      (List.range (m.reach s p + 1)).reverse.map fun k => (p + k, r) := by
  show (rounds (m.ways (.set s)) 0 (p, r)).flatMap
    (fun y => roundsUpTo true (m.ways (.set s)) (m.subject.size - y.1) y) = _
  rw [rounds, List.flatMap_singleton]
  exact roundsUpTo_set s _ p r (reach_le s p)

/-- One character of a set or more. -/
theorem ways_some (s : CharSet) (p : Nat) (r : ρ) :
    m.ways (Expr.repeated 1 none true (.set s)) (p, r) =
      (List.range (m.reach s p)).reverse.map fun k => (p + (k + 1), r) := by
  show (rounds (m.ways (.set s)) 1 (p, r)).flatMap
    (fun y => roundsUpTo true (m.ways (.set s)) (m.subject.size - y.1) y) = _
  rw [rounds_set]
  by_cases h : 1 ≤ m.reach s p
  · rw [if_pos h, List.flatMap_singleton, roundsUpTo_set s _ (p + 1) r (reach_le s (p + 1)),
      reach_succ h]
    refine List.map_congr_left fun k _ => ?_
    rw [Nat.add_assoc, Nat.add_comm 1 k]
  · have hzero : m.reach s p = 0 := by omega
    rw [if_neg h, hzero]
    rfl

/-- So many characters of a set. -/
theorem ways_exactly (s : CharSet) (n : Nat) (p : Nat) (r : ρ) :
    m.ways (Expr.repeated n (some n) true (.set s)) (p, r) =
      if n ≤ m.reach s p then [(p + n, r)] else [] := by
  rw [← rounds_set s n p r, ways_repeated rfl, Nat.sub_self]
  exact List.flatMap_singleton' _

/-- Characters of the given sets, one after the other. -/
theorem through_sets (sets : List CharSet) (p : Nat) (r : ρ) :
    m.through (sets.map Expr.set) (p, r) =
      if List.Forall₂ (· ∈ ·) ((m.subject.toList.drop p).take sets.length) sets then
        [(p + sets.length, r)] else [] := by
  induction sets generalizing p with
  | nil =>
    rw [List.length_nil, List.take_zero, if_pos List.Forall₂.nil]
    rfl
  | cons s sets ih =>
    rw [List.map_cons, through, ways, after?_eq, List.length_cons]
    cases htail : m.subject.toList.drop p with
    | nil => simp
    | cons d ds =>
      have hnext : m.subject.toList.drop (p + 1) = ds := by
        rw [← List.tail_drop, htail, List.tail_cons]
      have hcons : List.Forall₂ (· ∈ ·) (d :: ds.take sets.length) (s :: sets) ↔
          d ∈ s ∧ List.Forall₂ (· ∈ ·) (ds.take sets.length) sets := List.forall₂_cons
      rw [List.head?_cons, List.take_succ_cons]
      dsimp only
      by_cases hd : d ∈ s
      · rw [if_pos (CharSet.mem_iff.1 hd), List.flatMap_singleton, ih (p + 1), hnext,
          Nat.add_assoc, Nat.add_comm 1]
        by_cases hrest : List.Forall₂ (· ∈ ·) (ds.take sets.length) sets
        · rw [if_pos hrest, if_pos (hcons.2 ⟨hd, hrest⟩)]
        · rw [if_neg hrest, if_neg fun h => hrest (hcons.1 h).2]
      · rw [if_neg fun h => hd (CharSet.mem_iff.2 h), if_neg fun h => hd (hcons.1 h).1]
        rfl

end Machine

end FluentRegex
