import FluentRegex.CharSet.Range

/-!
# Sets of characters

A `CharSet` is a list of ascending ranges of code points. The order is part of the type
(`CharSet.ordered`), so equal sets that avoid the surrogate block are equal values, and membership
can stop at the first range that starts above the character.

What the operations mean is said once, through `∈`:

> `mem_union`, `mem_inter`, `mem_diff`, `mem_symmDiff`, `mem_compl`, `mem_ofList`, `mem_ofRange`.

The surrogate block D800–DFFF holds no character. `ofRange` and `compl` leave it out.
-/

namespace FluentRegex

open CodeRange (Ascending holds add gaps ascending_add holds_add ascending_gaps holds_gaps)

/-- A set of characters, as ascending ranges of code points. -/
structure CharSet where
  ranges : List CodeRange
  ordered : Ascending 0 ranges

namespace CharSet

theorem ext_ranges {s t : CharSet} (h : s.ranges = t.ranges) : s = t := by
  cases s; cases t; cases h; rfl

instance : DecidableEq CharSet := fun s t =>
  if h : s.ranges = t.ranges then isTrue (ext_ranges h)
  else isFalse fun e => h (congrArg ranges e)

/-- Whether a code point is in the set. -/
def holdsCode (s : CharSet) (n : Nat) : Bool := holds n s.ranges

/-- Whether a character is in the set. -/
def contains (s : CharSet) (c : Char) : Bool := s.holdsCode c.toNat

instance : Membership Char CharSet := ⟨fun s c => s.contains c = true⟩

instance (c : Char) (s : CharSet) : Decidable (c ∈ s) :=
  inferInstanceAs (Decidable (s.contains c = true))

theorem mem_iff {c : Char} {s : CharSet} : c ∈ s ↔ s.contains c = true := Iff.rfl

/-- The set without members. -/
def empty : CharSet := ⟨[], trivial⟩

instance : Inhabited CharSet := ⟨empty⟩

/-- Adds the code points from `lo` to `hi`; a reversed range adds nothing. -/
def addCodes (lo hi : Nat) (s : CharSet) : CharSet :=
  if h : lo ≤ hi then ⟨add lo hi s.ranges, ascending_add s.ordered (Nat.zero_le _) h⟩ else s

/-- All members of either set. -/
def union (s t : CharSet) : CharSet := t.ranges.foldr (fun r acc => acc.addCodes r.lo r.hi) s

/-- The set of the given code point ranges, in any order. -/
def ofCodes (rs : List (Nat × Nat)) : CharSet := rs.foldr (fun r acc => acc.addCodes r.1 r.2) empty

/-- The largest code point. -/
def maxCode : Nat := 0x10FFFF

/-- All characters that are not in the set. -/
def compl (s : CharSet) : CharSet :=
  ⟨gaps maxCode 0 (s.addCodes 0xD800 0xDFFF).ranges,
    ascending_gaps (s.addCodes 0xD800 0xDFFF).ordered (Nat.le_refl 0)⟩

/-- The characters in both sets. -/
def inter (s t : CharSet) : CharSet := (s.compl.union t.compl).compl

/-- The characters of `s` that are not in `t`. -/
def diff (s t : CharSet) : CharSet := s.inter t.compl

/-- The characters in exactly one of the sets. -/
def symmDiff (s t : CharSet) : CharSet := (s.diff t).union (t.diff s)

/-- The set of one character. -/
def singleton (c : Char) : CharSet := empty.addCodes c.toNat c.toNat

/-- The set of the listed characters. -/
def ofList (cs : List Char) : CharSet := cs.foldr (fun c acc => acc.addCodes c.toNat c.toNat) empty

/-- The characters from `lo` to `hi`, both included. -/
def ofRange (lo hi : Char) : CharSet :=
  (empty.addCodes (max lo.toNat 0xE000) hi.toNat).addCodes lo.toNat (min hi.toNat 0xD7FF)

/-- Every character. -/
def univ : CharSet := empty.compl

/-- The code points from `b` upward that are in the set. -/
def fromCode (b : Nat) (s : CharSet) : CharSet :=
  s.ranges.foldr (fun r acc => acc.addCodes (max b r.lo) r.hi) empty

/-! ## Membership -/

theorem holdsCode_addCodes {s : CharSet} {lo hi n : Nat} :
    (s.addCodes lo hi).holdsCode n = true ↔ (lo ≤ n ∧ n ≤ hi) ∨ s.holdsCode n = true := by
  unfold addCodes
  split
  · exact holds_add s.ordered ‹_›
  · constructor
    · exact .inr
    · intro h
      rcases h with h | h
      · omega
      · exact h

theorem holdsCode_empty (n : Nat) : empty.holdsCode n = false := rfl

theorem not_mem_empty (c : Char) : ¬ c ∈ empty := by simp [mem_iff, contains, holdsCode_empty]

private theorem holdsCode_foldr_addCodes {s : CharSet} {rs : List CodeRange} {n : Nat} :
    (rs.foldr (fun r (acc : CharSet) => acc.addCodes r.lo r.hi) s).holdsCode n = true ↔
      (∃ r ∈ rs, r.lo ≤ n ∧ n ≤ r.hi) ∨ s.holdsCode n = true := by
  induction rs with
  | nil => simp
  | cons r rs ih => simp [holdsCode_addCodes, ih, or_assoc]

theorem holds_iff_exists {b n : Nat} {rs : List CodeRange} (h : Ascending b rs) :
    holds n rs = true ↔ ∃ r ∈ rs, r.lo ≤ n ∧ n ≤ r.hi := by
  induction rs generalizing b with
  | nil => simp [holds]
  | cons r rs ih => rw [CodeRange.holds_cons h, ih h.2.2]; simp

theorem holdsCode_union {s t : CharSet} {n : Nat} :
    (s.union t).holdsCode n = true ↔ s.holdsCode n = true ∨ t.holdsCode n = true := by
  unfold union
  rw [holdsCode_foldr_addCodes, ← holds_iff_exists t.ordered]
  exact or_comm

theorem holdsCode_ofCodes {rs : List (Nat × Nat)} {n : Nat} :
    (ofCodes rs).holdsCode n = true ↔ ∃ r ∈ rs, r.1 ≤ n ∧ n ≤ r.2 := by
  unfold ofCodes
  induction rs with
  | nil => simp [holdsCode_empty]
  | cons r rs ih => simp [holdsCode_addCodes, ih]

theorem holdsCode_compl {s : CharSet} {n : Nat} (hn : n ≤ maxCode) :
    s.compl.holdsCode n = true ↔
      ¬ ((0xD800 ≤ n ∧ n ≤ 0xDFFF) ∨ s.holdsCode n = true) := by
  have h := holds_gaps (s.addCodes 0xD800 0xDFFF).ordered hn
  rw [← holdsCode_addCodes]
  unfold compl holdsCode
  rw [h]
  simp

/-- A character's code point is below the surrogate block or above it. -/
theorem toNat_not_surrogate (c : Char) : c.toNat < 0xD800 ∨ (0xDFFF < c.toNat ∧ c.toNat ≤ maxCode) := by
  have h := c.valid
  unfold maxCode
  rcases h with h | ⟨h1, h2⟩
  · exact .inl h
  · exact .inr ⟨h1, Nat.le_of_lt_succ h2⟩

@[simp] theorem mem_union {c : Char} {s t : CharSet} : c ∈ s.union t ↔ c ∈ s ∨ c ∈ t :=
  holdsCode_union

@[simp] theorem mem_compl {c : Char} {s : CharSet} : c ∈ s.compl ↔ ¬ c ∈ s := by
  have hc := toNat_not_surrogate c
  have hmax : c.toNat ≤ maxCode := by unfold maxCode at *; omega
  have h := holdsCode_compl (s := s) hmax
  simp only [mem_iff, contains, h]
  constructor
  · exact fun h1 h2 => h1 (.inr h2)
  · intro h1 h
    rcases h with h2 | h2
    · omega
    · exact h1 h2

@[simp] theorem mem_inter {c : Char} {s t : CharSet} : c ∈ s.inter t ↔ c ∈ s ∧ c ∈ t := by
  simp [inter]

@[simp] theorem mem_diff {c : Char} {s t : CharSet} : c ∈ s.diff t ↔ c ∈ s ∧ ¬ c ∈ t := by
  simp [diff]

@[simp] theorem mem_symmDiff {c : Char} {s t : CharSet} :
    c ∈ s.symmDiff t ↔ (c ∈ s ∧ ¬ c ∈ t) ∨ (c ∈ t ∧ ¬ c ∈ s) := by
  simp [symmDiff]

@[simp] theorem mem_univ (c : Char) : c ∈ univ := by
  simp [univ, not_mem_empty]

@[simp] theorem mem_singleton {c d : Char} : c ∈ singleton d ↔ c = d := by
  unfold singleton
  simp only [mem_iff, contains, holdsCode_addCodes, holdsCode_empty]
  constructor
  · intro h
    rcases h with h | h
    · exact Char.toNat_inj.1 (by omega)
    · simp at h
  · intro heq
    subst heq
    simp

@[simp] theorem mem_ofList {c : Char} {cs : List Char} : c ∈ ofList cs ↔ c ∈ cs := by
  induction cs with
  | nil => simp [ofList, not_mem_empty]
  | cons d ds ih =>
    have h : (ofList (d :: ds)) = (ofList ds).addCodes d.toNat d.toNat := rfl
    rw [h, List.mem_cons, ← ih]
    simp only [mem_iff, contains, holdsCode_addCodes]
    constructor
    · intro h
      rcases h with h | h
      · exact .inl (Char.toNat_inj.1 (by omega))
      · exact .inr h
    · intro h
      rcases h with rfl | h
      · simp
      · exact .inr h

/-- A range of characters is the interval of their code points. -/
@[simp] theorem mem_ofRange {c lo hi : Char} :
    c ∈ ofRange lo hi ↔ lo.toNat ≤ c.toNat ∧ c.toNat ≤ hi.toNat := by
  unfold ofRange
  simp only [mem_iff, contains, holdsCode_addCodes, holdsCode_empty]
  have hc := toNat_not_surrogate c
  constructor
  · intro h
    rcases h with h | h | h
    · omega
    · omega
    · simp at h
  · intro h
    rcases hc with hc | hc
    · exact .inl (by omega)
    · exact .inr (.inl (by omega))

theorem holdsCode_fromCode {s : CharSet} {b n : Nat} :
    (s.fromCode b).holdsCode n = true ↔ b ≤ n ∧ s.holdsCode n = true := by
  have key : ∀ rs : List CodeRange,
      (rs.foldr (fun r (acc : CharSet) => acc.addCodes (max b r.lo) r.hi) empty).holdsCode n = true ↔
        b ≤ n ∧ ∃ r ∈ rs, r.lo ≤ n ∧ n ≤ r.hi := by
    intro rs
    induction rs with
    | nil => simp [holdsCode_empty]
    | cons r rs ih =>
      rw [List.foldr_cons, holdsCode_addCodes, ih]
      constructor
      · intro h
        rcases h with h | ⟨h1, r', hr', h2⟩
        · exact ⟨by omega, r, by simp, by omega⟩
        · exact ⟨h1, r', by simp [hr'], h2⟩
      · intro h
        obtain ⟨h1, r', hr', h2⟩ := h
        rcases List.mem_cons.1 hr' with rfl | hr'
        · exact .inl (by omega)
        · exact .inr ⟨h1, r', hr', h2⟩
  unfold fromCode
  rw [key, ← holds_iff_exists s.ordered]
  rfl

end CharSet

end FluentRegex
