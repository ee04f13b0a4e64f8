/-!
# Ascending ranges of code points

Closed ranges in a list, in ascending order, with at least one code point between two neighbours
(`CodeRange.Ascending`). What a list holds is said by `holds`; the two operations keep the order
and are known by what their results hold:

> `holds_add`: adding a range adds its code points, and those only.
> `holds_gaps`: the gaps hold what the ranges leave out.
-/

namespace FluentRegex

/-- A closed range of code points. -/
structure CodeRange where
  lo : Nat
  hi : Nat
deriving DecidableEq, Repr, Inhabited

namespace CodeRange

/-- Ranges in ascending order, none empty, none touching the next, all from `b` upward. -/
def Ascending (b : Nat) : List CodeRange → Prop
  | [] => True
  | r :: rs => b ≤ r.lo ∧ r.lo ≤ r.hi ∧ Ascending (r.hi + 2) rs

theorem Ascending.weaken {a b : Nat} {rs : List CodeRange} (h : Ascending b rs) (hab : a ≤ b) :
    Ascending a rs := by
  cases rs with
  | nil => trivial
  | cons r rs => exact ⟨Nat.le_trans hab h.1, h.2⟩

/-- Whether some range holds `n`. In an ascending list a range above `n` ends the search. -/
def holds (n : Nat) : List CodeRange → Bool
  | [] => false
  | r :: rs => if n < r.lo then false else if n ≤ r.hi then true else holds n rs

theorem holds_eq_false_of_lt {n b : Nat} {rs : List CodeRange} (h : Ascending b rs) (hn : n < b) :
    holds n rs = false := by
  cases rs with
  | nil => rfl
  | cons r rs => simp [holds, Nat.lt_of_lt_of_le hn h.1]

theorem holds_cons {n b : Nat} {r : CodeRange} {rs : List CodeRange}
    (h : Ascending b (r :: rs)) :
    holds n (r :: rs) = true ↔ (r.lo ≤ n ∧ n ≤ r.hi) ∨ holds n rs = true := by
  obtain ⟨_, _, hrs⟩ := h
  simp only [holds]
  by_cases h1 : n < r.lo
  · have hrs' : holds n rs = false := holds_eq_false_of_lt hrs (by omega)
    rw [if_pos h1, hrs']
    refine iff_of_false Bool.false_ne_true ?_
    intro h
    rcases h with h | h
    · omega
    · exact Bool.false_ne_true h
  · rw [if_neg h1]
    by_cases h2 : n ≤ r.hi
    · rw [if_pos h2]
      exact iff_of_true rfl (.inl ⟨by omega, h2⟩)
    · rw [if_neg h2]
      exact ⟨.inr, fun h => h.resolve_left fun hr => h2 hr.2⟩

/-- Adds a range, absorbing every range that it meets or touches. -/
def add (lo hi : Nat) : List CodeRange → List CodeRange
  | [] => [⟨lo, hi⟩]
  | r :: rs =>
    if hi + 1 < r.lo then ⟨lo, hi⟩ :: r :: rs
    else if r.hi + 1 < lo then r :: add lo hi rs
    else add (min lo r.lo) (max hi r.hi) rs

theorem ascending_add {b lo hi : Nat} {rs : List CodeRange} (h : Ascending b rs) (hb : b ≤ lo)
    (hlo : lo ≤ hi) : Ascending b (add lo hi rs) := by
  induction rs generalizing b lo hi with
  | nil => exact ⟨hb, hlo, trivial⟩
  | cons r rs ih =>
    obtain ⟨h1, h2, h3⟩ := h
    simp only [add]
    split
    · exact ⟨hb, hlo, by simp only; omega, h2, h3⟩
    · split
      · exact ⟨h1, h2, ih h3 (by omega) hlo⟩
      · exact ih (h3.weaken (by omega)) (by omega) (by omega)

theorem holds_add {b lo hi n : Nat} {rs : List CodeRange} (h : Ascending b rs) (hlo : lo ≤ hi) :
    holds n (add lo hi rs) = true ↔ (lo ≤ n ∧ n ≤ hi) ∨ holds n rs = true := by
  induction rs generalizing b lo hi with
  | nil =>
    have hasc : Ascending lo [⟨lo, hi⟩] := ⟨Nat.le_refl _, hlo, trivial⟩
    exact holds_cons hasc
  | cons r rs ih =>
    have hr := holds_cons (n := n) h
    obtain ⟨h1, h2, h3⟩ := h
    simp only [add]
    split
    · have hasc : Ascending lo (⟨lo, hi⟩ :: r :: rs) :=
        ⟨Nat.le_refl _, hlo, by simp only; omega, h2, h3⟩
      rw [holds_cons hasc]
    · split
      · have hasc : Ascending b (r :: add lo hi rs) := ⟨h1, h2, ascending_add h3 (by omega) hlo⟩
        rw [holds_cons hasc, ih h3 hlo, hr]
        exact or_left_comm
      · rw [ih h3 (show min lo r.lo ≤ max hi r.hi by omega), hr]
        constructor
        · intro h
          rcases h with h | h
          · by_cases hn : lo ≤ n ∧ n ≤ hi
            · exact .inl hn
            · exact .inr (.inl (by omega))
          · exact .inr (.inr h)
        · intro h
          rcases h with h | h | h
          · exact .inl (by omega)
          · exact .inl (by omega)
          · exact .inr h

/-- The code points from `b` to `top` that the ranges leave out. -/
def gaps (top b : Nat) : List CodeRange → List CodeRange
  | [] => if b ≤ top then [⟨b, top⟩] else []
  | r :: rs => if b < r.lo then ⟨b, r.lo - 1⟩ :: gaps top (r.hi + 1) rs else gaps top (r.hi + 1) rs

theorem ascending_gaps {top a b : Nat} {rs : List CodeRange} (h : Ascending b rs) (hab : a ≤ b) :
    Ascending a (gaps top b rs) := by
  induction rs generalizing a b with
  | nil =>
    simp only [gaps]
    split
    · exact ⟨hab, by simpa, trivial⟩
    · trivial
  | cons r rs ih =>
    obtain ⟨h1, h2, h3⟩ := h
    simp only [gaps]
    split
    · exact ⟨hab, by simp only; omega, ih (h3.weaken (by omega)) (by simp only; omega)⟩
    · exact ih (h3.weaken (by omega)) (by omega)

theorem holds_gaps {top b n : Nat} {rs : List CodeRange} (h : Ascending b rs) (hn : n ≤ top) :
    holds n (gaps top b rs) = true ↔ b ≤ n ∧ holds n rs = false := by
  induction rs generalizing b with
  | nil =>
    simp only [gaps]
    split
    · have hasc : Ascending b [⟨b, top⟩] := ⟨Nat.le_refl _, by simpa, trivial⟩
      rw [holds_cons hasc]
      constructor
      · intro h
        rcases h with h | h
        · exact ⟨h.1, rfl⟩
        · exact absurd h Bool.false_ne_true
      · exact fun h => .inl ⟨h.1, hn⟩
    · refine iff_of_false Bool.false_ne_true ?_
      intro h
      obtain ⟨h, _⟩ := h
      omega
  | cons r rs ih =>
    have hr := holds_cons (n := n) h
    have hfalse : holds n (r :: rs) = false ↔ ¬ (r.lo ≤ n ∧ n ≤ r.hi) ∧ holds n rs = false := by
      rw [Bool.eq_false_iff, Ne, hr, not_or, Bool.not_eq_true]
    obtain ⟨h1, h2, h3⟩ := h
    have ih' := ih (b := r.hi + 1) (h3.weaken (by omega))
    simp only [gaps]
    split
    · have hasc : Ascending b (⟨b, r.lo - 1⟩ :: gaps top (r.hi + 1) rs) :=
        ⟨Nat.le_refl _, by simp only; omega,
          ascending_gaps (h3.weaken (by omega)) (by simp only; omega)⟩
      rw [holds_cons hasc, ih', hfalse]
      simp only
      constructor
      · intro h
        rcases h with h | ⟨h, hrest⟩
        · exact ⟨h.1, by omega, holds_eq_false_of_lt h3 (by omega)⟩
        · exact ⟨by omega, by omega, hrest⟩
      · intro h
        obtain ⟨hb, hout, hrest⟩ := h
        by_cases hlow : n < r.lo
        · exact .inl ⟨hb, by omega⟩
        · exact .inr ⟨by omega, hrest⟩
    · rw [ih', hfalse]
      constructor
      · intro h
        obtain ⟨h, hrest⟩ := h
        exact ⟨by omega, by omega, hrest⟩
      · intro h
        obtain ⟨hb, hout, hrest⟩ := h
        exact ⟨by omega, hrest⟩

end CodeRange

end FluentRegex
