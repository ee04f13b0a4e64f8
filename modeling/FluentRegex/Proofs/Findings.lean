import FluentRegex.Findings

/-!
# Asking for captures

What the findings of a match say about a group depends on its own two marks alone. Asked for by
number, a group of the table has the capture between them (`get?_ofMarks`); asked for by name, a
name that stands once in the table has the capture of its group (`name?_ofMarks`).

The captures are listed by their numbers and by their names, both in ascending order and each of
them once, as long as no name stands twice in the table (`ascending_positional`,
`ascending_named`).
-/

namespace FluentRegex

namespace Findings

variable {subject : List Char} {marks : Marks}

/-! ## The capture of one group -/

theorem captureOf_eq_some {index first last : Nat} (hfirst : marks.lookup (2 * index) = some first)
    (hlast : marks.lookup (2 * index + 1) = some last) :
    captureOf subject marks index = some (Capture.ofPlaces subject first last) := by
  rw [captureOf, hfirst, hlast]

theorem captureOf_eq_none {index : Nat} (h : marks.lookup (2 * index) = Option.none) :
    captureOf subject marks index = Option.none := by
  rw [captureOf, h]

/-- A mark of another group has no part in the capture of a group. -/
theorem captureOf_cons {index slot place : Nat} (h : slot / 2 ≠ index) :
    captureOf subject ((slot, place) :: marks) index = captureOf subject marks index := by
  have hfirst : (2 * index == slot) = false := beq_eq_false_iff_ne.2 (by omega)
  have hlast : (2 * index + 1 == slot) = false := beq_eq_false_iff_ne.2 (by omega)
  rw [captureOf, captureOf, List.lookup_cons, List.lookup_cons, hfirst, hlast]

/-! ## By number -/

theorem lookup_capturesFrom (index : Nat) (names : List (Option String)) (k : Nat) :
    ((capturesFrom subject marks index names).map fun e => (e.1, e.2.2)).lookup k =
      if index ≤ k ∧ k < index + names.length then captureOf subject marks k else Option.none := by
  induction names generalizing index with
  | nil =>
    rw [if_neg (by simp), capturesFrom]
    rfl
  | cons name names ih =>
    have hlen : (name :: names).length = names.length + 1 := rfl
    rw [capturesFrom, hlen]
    -- a group that took no part has no entry, and no capture either
    cases hc : captureOf subject marks index with
    | none =>
      dsimp only
      rw [ih]
      by_cases hk : k = index
      · rw [hk, hc, if_neg (by omega), if_pos (by omega)]
      · have hiff : (index + 1 ≤ k ∧ k < index + 1 + names.length) ↔
            (index ≤ k ∧ k < index + (names.length + 1)) := by omega
        simp only [hiff]
    | some c =>
      dsimp only
      rw [List.map_cons, List.lookup_cons]
      by_cases hk : k = index
      · rw [hk, beq_self_eq_true, if_pos (by omega), hc]
      · have hiff : (index + 1 ≤ k ∧ k < index + 1 + names.length) ↔
            (index ≤ k ∧ k < index + (names.length + 1)) := by omega
        rw [beq_eq_false_iff_ne.2 hk]
        dsimp only
        rw [ih]
        simp only [hiff]

/-- Asked for by number, a group of the table has the capture between its marks. -/
theorem get?_ofMarks (groups : List (Option String)) (k : Nat) :
    (ofMarks subject groups marks).get? k =
      if k < groups.length then captureOf subject marks k else Option.none := by
  have h : (ofMarks subject groups marks).get? k =
      if 0 ≤ k ∧ k < 0 + groups.length then captureOf subject marks k else Option.none :=
    lookup_capturesFrom 0 groups k
  simp only [Nat.zero_add, Nat.zero_le, true_and] at h
  exact h

/-! ## By name -/

theorem lookup_insertByName (name n : String) (c : Capture) (es : List (String × Capture)) :
    (insertByName name c es).lookup n = if n = name then some c else es.lookup n := by
  induction es with
  | nil =>
    rw [insertByName, List.lookup_cons]
    by_cases h : n = name
    · rw [if_pos h, beq_iff_eq.2 h]
    · rw [if_neg h, beq_eq_false_iff_ne.2 h]
  | cons e es ih =>
    rw [insertByName]
    by_cases hlt : e.1 < name
    · rw [if_pos hlt, List.lookup_cons, List.lookup_cons, ih]
      by_cases he : n = e.1
      · -- what stands before the name is less, so it is another name
        have hne : n ≠ name := by
          intro h
          rw [← he, h] at hlt
          exact String.lt_irrefl name hlt
        simp only [beq_iff_eq.2 he, if_neg hne]
      · simp only [beq_eq_false_iff_ne.2 he]
    · rw [if_neg hlt, List.lookup_cons]
      by_cases h : n = name
      · rw [if_pos h, beq_iff_eq.2 h]
      · rw [if_neg h, beq_eq_false_iff_ne.2 h]

/-- The captures of named groups, in the order of their names. -/
def byName (all : List (Nat × Option String × Capture)) : List (String × Capture) :=
  all.foldr (fun e acc => match e.2.1 with
    | some name => insertByName name e.2.2 acc
    | Option.none => acc) []

theorem lookup_byName_cons (n : String) (e : Nat × Option String × Capture)
    (all : List (Nat × Option String × Capture)) :
    (byName (e :: all)).lookup n =
      if e.2.1 = some n then some e.2.2 else (byName all).lookup n := by
  rw [byName, List.foldr_cons, ← byName]
  cases hname : e.2.1 with
  | none => rw [if_neg (by simp)]
  | some name =>
    dsimp only
    rw [lookup_insertByName]
    by_cases h : n = name
    · rw [if_pos h, if_pos (congrArg some h.symm)]
    · rw [if_neg h, if_neg fun heq => h (Option.some.inj heq).symm]

/-- A name that no group has. -/
theorem lookup_byName_of_not_mem {n : String} {names : List (Option String)}
    (hn : some n ∉ names) (index : Nat) :
    (byName (capturesFrom subject marks index names)).lookup n = Option.none := by
  induction names generalizing index with
  | nil => rfl
  | cons name names ih =>
    rw [List.mem_cons, not_or] at hn
    rw [capturesFrom]
    split
    · rw [lookup_byName_cons, if_neg (Ne.symm hn.1), ih hn.2]
    · exact ih hn.2 (index + 1)

/-- A name that one group has. -/
theorem lookup_byName {n : String} {names : List (Option String)} {k : Nat}
    (hk : names[k]? = some (some n)) (hunique : ∀ j, names[j]? = some (some n) → j = k)
    (index : Nat) : (byName (capturesFrom subject marks index names)).lookup n =
      captureOf subject marks (index + k) := by
  induction names generalizing k index with
  | nil => exact absurd hk (by simp)
  | cons name names ih =>
    rw [capturesFrom]
    cases k with
    | zero =>
      have hname : name = some n := Option.some.inj hk
      have hn : some n ∉ names := by
        intro hmem
        obtain ⟨j, hj⟩ := List.getElem?_of_mem hmem
        exact absurd (hunique (j + 1) hj) (Nat.succ_ne_zero j)
      split
      · next c hc => rw [lookup_byName_cons, if_pos hname, Nat.add_zero, hc]
      · next hc => rw [lookup_byName_of_not_mem hn, Nat.add_zero, hc]
    | succ k =>
      have hname : name ≠ some n := by
        intro h
        exact absurd (hunique 0 (congrArg some h)) (Ne.symm (Nat.succ_ne_zero k))
      have hrest := ih (k := k) hk (fun j hj => Nat.succ.inj (hunique (j + 1) hj)) (index + 1)
      rw [Nat.add_assoc, Nat.add_comm 1] at hrest
      split
      · rw [lookup_byName_cons, if_neg hname, hrest]
      · exact hrest

/-- Asked for by a name that one group of the table has, the findings have the capture of that
group. -/
theorem name?_ofMarks {groups : List (Option String)} {k : Nat} {n : String}
    (hk : groups[k]? = some (some n)) (hunique : ∀ j, groups[j]? = some (some n) → j = k) :
    (ofMarks subject groups marks).name? n = (ofMarks subject groups marks).get? k := by
  have hlt : k < groups.length := (List.getElem?_eq_some_iff.1 hk).1
  have h : (ofMarks subject groups marks).name? n = captureOf subject marks (0 + k) :=
    lookup_byName hk hunique 0
  rw [h, Nat.zero_add, get?_ofMarks, if_pos hlt]

/-- A name that no group of the table has is that of no capture. -/
theorem name?_ofMarks_of_not_mem {groups : List (Option String)} {n : String}
    (hn : some n ∉ groups) : (ofMarks subject groups marks).name? n = Option.none :=
  lookup_byName_of_not_mem hn 0

/-! ## In ascending order -/

theorem mem_keys_iff {α β : Type} [BEq α] [LawfulBEq α] {l : List (α × β)} {k : α} :
    k ∈ l.map Prod.fst ↔ l.lookup k ≠ Option.none := by
  rw [Ne, List.lookup_eq_none_iff, List.mem_map]
  constructor
  · intro h hall
    obtain ⟨e, he, rfl⟩ := h
    exact absurd (hall e he) (by simp)
  · intro h
    refine Classical.byContradiction fun hnot => h fun e he => ?_
    rw [bne_iff_ne]
    rintro rfl
    exact hnot ⟨e, he, rfl⟩

/-- In a list without repeated keys an entry is what its key is looked up as. -/
theorem mem_iff_lookup {α β : Type} [BEq α] [LawfulBEq α] {l : List (α × β)}
    (h : (l.map Prod.fst).Nodup) {k : α} {b : β} : (k, b) ∈ l ↔ l.lookup k = some b := by
  induction l with
  | nil => exact ⟨fun h => absurd h List.not_mem_nil, fun h => absurd h (by simp)⟩
  | cons e l ih =>
    obtain ⟨key, value⟩ := e
    rw [List.map_cons, List.nodup_cons] at h
    rw [List.mem_cons, List.lookup_cons]
    by_cases hk : k = key
    · subst hk
      -- the key does not come again
      have hnot : (k, b) ∉ l := fun hmem => h.1 (List.mem_map.2 ⟨_, hmem, rfl⟩)
      simp [hnot, eq_comm]
    · rw [beq_eq_false_iff_ne.2 hk, ← ih h.2]
      simp [hk]

theorem ascending_capturesFrom (index : Nat) (names : List (Option String)) :
    ((capturesFrom subject marks index names).map Prod.fst).Pairwise (· < ·) ∧
      ∀ i ∈ (capturesFrom subject marks index names).map Prod.fst, index ≤ i := by
  induction names generalizing index with
  | nil => exact ⟨List.Pairwise.nil, fun i hi => absurd hi List.not_mem_nil⟩
  | cons name names ih =>
    obtain ⟨hascending, hle⟩ := ih (index + 1)
    rw [capturesFrom]
    split
    · rw [List.map_cons, List.pairwise_cons]
      refine ⟨⟨hle, hascending⟩, fun i hi => ?_⟩
      rcases List.mem_cons.1 hi with rfl | hi
      · exact Nat.le_refl i
      · exact Nat.le_of_succ_le (hle i hi)
    · exact ⟨hascending, fun i hi => Nat.le_of_succ_le (hle i hi)⟩

/-- The captures by number stand in the order of their numbers. -/
theorem ascending_positional (groups : List (Option String)) :
    ((ofMarks subject groups marks).positional.map Prod.fst).Pairwise (· < ·) := by
  show (((capturesFrom subject marks 0 groups).map fun e => (e.1, e.2.2)).map Prod.fst).Pairwise _
  rw [List.map_map]
  exact (ascending_capturesFrom 0 groups).1

theorem mem_keys_insertByName {name n : String} {c : Capture} {es : List (String × Capture)} :
    n ∈ (insertByName name c es).map Prod.fst ↔ n = name ∨ n ∈ es.map Prod.fst := by
  rw [mem_keys_iff, mem_keys_iff, lookup_insertByName]
  by_cases h : n = name
  · simp [h]
  · simp [h]

/-- A new name is put in its place. -/
theorem ascending_insertByName {name : String} {c : Capture} {es : List (String × Capture)}
    (h : (es.map Prod.fst).Pairwise (· < ·)) (hnew : name ∉ es.map Prod.fst) :
    ((insertByName name c es).map Prod.fst).Pairwise (· < ·) := by
  induction es with
  | nil => exact List.pairwise_singleton _ _
  | cons e es ih =>
    rw [List.map_cons, List.pairwise_cons] at h
    rw [List.map_cons, List.mem_cons, not_or] at hnew
    rw [insertByName]
    split
    · next hlt =>
      rw [List.map_cons, List.pairwise_cons]
      refine ⟨fun n hn => ?_, ih h.2 hnew.2⟩
      rcases mem_keys_insertByName.1 hn with rfl | hn
      · exact hlt
      · exact h.1 n hn
    · next hnot =>
      -- what does not come before the name and is another one comes behind it
      have hlt : name < e.1 :=
        Std.lt_of_le_of_ne (String.not_lt.1 hnot) hnew.1
      rw [List.map_cons, List.map_cons, List.pairwise_cons, List.pairwise_cons]
      refine ⟨fun n hn => ?_, h⟩
      rcases List.mem_cons.1 hn with rfl | hn
      · exact hlt
      · exact String.lt_trans hlt (h.1 n hn)

theorem mem_keys_byName {n : String} {all : List (Nat × Option String × Capture)} :
    n ∈ (byName all).map Prod.fst ↔ n ∈ all.filterMap fun e => e.2.1 := by
  induction all with
  | nil => exact Iff.rfl
  | cons e all ih =>
    rw [byName, List.foldr_cons, ← byName, List.filterMap_cons]
    cases hname : e.2.1 with
    | none => exact ih
    | some name =>
      dsimp only
      rw [mem_keys_insertByName, ih, List.mem_cons]

theorem ascending_byName {all : List (Nat × Option String × Capture)}
    (h : (all.filterMap fun e => e.2.1).Nodup) :
    ((byName all).map Prod.fst).Pairwise (· < ·) := by
  induction all with
  | nil => exact List.Pairwise.nil
  | cons e all ih =>
    rw [List.filterMap_cons] at h
    rw [byName, List.foldr_cons, ← byName]
    cases hname : e.2.1 with
    | none =>
      rw [hname] at h
      exact ih h
    | some name =>
      rw [hname] at h
      dsimp only at h ⊢
      rw [List.nodup_cons] at h
      exact ascending_insertByName (ih h.2) fun hmem => h.1 (mem_keys_byName.1 hmem)

theorem names_capturesFrom (index : Nat) (names : List (Option String)) :
    ((capturesFrom subject marks index names).filterMap fun e => e.2.1).Sublist
      (names.filterMap id) := by
  induction names generalizing index with
  | nil => exact List.Sublist.slnil
  | cons name names ih =>
    have hrest := ih (index + 1)
    rw [capturesFrom, List.filterMap_cons]
    cases name with
    | none =>
      split
      · rw [List.filterMap_cons]
        exact hrest
      · exact hrest
    | some n =>
      split
      · rw [List.filterMap_cons]
        exact hrest.cons_cons n
      · exact hrest.cons n

theorem nodup_of_unique {groups : List (Option String)} (h : ∀ (i j : Nat) (n : String),
    groups[i]? = some (some n) → groups[j]? = some (some n) → i = j) :
    (groups.filterMap id).Nodup := by
  induction groups with
  | nil => exact List.nodup_nil
  | cons name groups ih =>
    have hrest := ih fun i j n hi hj => Nat.succ.inj (h (i + 1) (j + 1) n hi hj)
    cases name with
    | none => exact hrest
    | some n =>
      refine List.nodup_cons.2 ⟨fun hmem => ?_, hrest⟩
      obtain ⟨name, hname, rfl⟩ := List.mem_filterMap.1 hmem
      obtain ⟨j, hj⟩ := List.getElem?_of_mem hname
      exact absurd (h 0 (j + 1) n rfl hj) (Nat.succ_ne_zero j).symm

/-- The captures by name stand in the order of their names, if no name stands twice in the table. -/
theorem ascending_named {groups : List (Option String)} (h : (groups.filterMap id).Nodup) :
    ((ofMarks subject groups marks).named.map Prod.fst).Pairwise (· < ·) :=
  ascending_byName (List.Nodup.sublist (names_capturesFrom 0 groups) h)

end Findings

end FluentRegex
