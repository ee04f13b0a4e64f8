import FluentRegex.Machine.Estimate
import FluentRegex.Proofs.Findings
import FluentRegex.Proofs.Machine.Code
import FluentRegex.Proofs.Machine.Marks
import FluentRegex.Proofs.Outcome
import FluentRegex.Proofs.Syntax.Numbering
import FluentRegex.Proofs.Text.Utf8

/-!
# What findings hold

Findings are lists that could hold anything. Those of a run hold what they should
(`Findings.WellFormed`): the captures are stretches of the subject inside the whole match, there are
none for groups that the pattern does not have, each name stands for the group that has it, and the
list of all of them is in order.

> `wellFormed_of_run`: so it is for every pattern, raw fragments included.

Three things come together for that: the marks of a group are noted in pairs
(`marks_of_findMarks`), the groups of a pattern are numbered from 1 on and have different names
(`numbered_of_parse`), and an entry depends on the marks of its own group alone
(`Findings.get?_ofMarks`).
-/

namespace FluentRegex

open Text

/-! ## Captures -/

/-- The capture is a stretch of the subject, between two of its characters. -/
structure Capture.In (subject : String) (c : Capture) : Prop where
  start_le_stop : c.start ≤ c.stop
  stop_le : c.stop ≤ subject.utf8ByteSize
  text : ∃ before after : String, subject = before ++ c.text ++ after ∧
    c.start = before.utf8ByteSize ∧ c.stop = (before ++ c.text).utf8ByteSize

theorem ofPlaces_in {subject : String} {first last : Nat} (hle : first ≤ last) :
    (Capture.ofPlaces subject.toList first last).In subject := by
  have htake : subject.toList.take first ++ (subject.toList.take last).drop first =
      subject.toList.take last := by
    have happend := List.take_append_drop first (subject.toList.take last)
    rwa [List.take_take, Nat.min_eq_left hle] at happend
  have hsize : subject.utf8ByteSize =
      byteLength (subject.toList.take last) + byteLength (subject.toList.drop last) := by
    rw [← byteLength_append, List.take_append_drop, ← utf8ByteSize_ofList, String.ofList_toList]
  refine ⟨byteOffset_mono _ hle, ?_, String.ofList (subject.toList.take first),
    String.ofList (subject.toList.drop last), ?_, ?_, ?_⟩
  · rw [hsize]
    exact Nat.le_add_right _ _
  · rw [Capture.ofPlaces, ← String.ofList_append, ← String.ofList_append, htake,
      List.take_append_drop, String.ofList_toList]
  · rw [utf8ByteSize_ofList]
    rfl
  · rw [Capture.ofPlaces, ← String.ofList_append, htake, utf8ByteSize_ofList]
    rfl

/-! ## The groups of a pattern -/

/-- No name is given to two groups of a list in which the names are different. -/
theorem eq_of_mem_captures {gs : List (Nat × Option String)} (h : (gs.filterMap Prod.snd).Nodup)
    {i j : Nat} {n : String} (hi : (i, some n) ∈ gs) (hj : (j, some n) ∈ gs) : i = j := by
  induction gs with
  | nil => exact absurd hi List.not_mem_nil
  | cons g gs ih =>
    obtain ⟨k, name⟩ := g
    rw [List.filterMap_cons] at h
    -- a name that comes first does not come again
    have hagain : ∀ {l : Nat}, name = some n → (l, some n) ∉ gs := by
      rintro l rfl hmem
      exact (List.nodup_cons.1 h).1 (List.mem_filterMap.2 ⟨_, hmem, rfl⟩)
    have hrest : (gs.filterMap Prod.snd).Nodup := by
      cases name with
      | none => exact h
      | some n' => exact (List.nodup_cons.1 h).2
    rcases List.mem_cons.1 hi with hi | hi
    · rcases List.mem_cons.1 hj with hj | hj
      · exact (congrArg Prod.fst hi).trans (congrArg Prod.fst hj).symm
      · exact absurd hj (hagain (congrArg Prod.snd hi).symm)
    · rcases List.mem_cons.1 hj with hj | hj
      · exact absurd hi (hagain (congrArg Prod.snd hj).symm)
      · exact ih hrest hi hj

/-- No group of a pattern has the number of the whole match, and no two have the same name. -/
theorem captures_of_expression {pattern : List Char} {m : Modes} {e : Expr}
    (h : expression pattern m = .ok e) : (∀ name, (0, name) ∉ e.captures) ∧
      ∀ (i j : Nat) (n : String), (i, some n) ∈ e.captures → (j, some n) ∈ e.captures → i = j := by
  rw [expression] at h
  split at h
  · exact absurd h (by simp)
  · next t hparse =>
    split at h
    · exact absurd h (by simp)
    · next e' m' hexpr =>
      obtain rfl := Except.ok.inj h
      obtain ⟨⟨count, hnumbers⟩, hnames⟩ := Syntax.numbered_of_parse hparse
      have hsubset := Syntax.captures_expr t hexpr
      refine ⟨fun name hmem => ?_, fun i j n hi hj =>
        eq_of_mem_captures hnames (hsubset hi) (hsubset hj)⟩
      have hzero : 0 ∈ t.captures.map Prod.fst := List.mem_map.2 ⟨_, hsubset hmem, rfl⟩
      rw [hnumbers, List.mem_range'_1] at hzero
      exact absurd hzero.1 (by decide)

/-! ## Findings -/

/-- All captures are listed once: by these numbers in ascending order, and then by these names in
ascending order of their bytes. -/
structure Findings.Listed (f : Findings) (indices : List Nat) (names : List String) : Prop where
  keys : f.toList.map Prod.fst = indices.map Key.index ++ names.map Key.name
  indices_ascending : indices.Pairwise (· < ·)
  mem_indices : ∀ i, i ∈ indices ↔ f.get? i ≠ Option.none
  names_ascending : names.Pairwise fun a b => bytes a < bytes b
  mem_names : ∀ n, n ∈ names ↔ f.name? n ≠ Option.none
  length : f.length = indices.length
  entries : f.entries = f.length + names.length
  length_toList : f.toList.length = f.entries

/-- The findings of a regular expression in a subject are in order. -/
structure Findings.WellFormed (f : Findings) (r : Regex) (subject : String) : Prop where
  /-- Without a match there is nothing. -/
  noMatch : f.isMatch = false → (∀ i, f.get? i = Option.none) ∧ (∀ n, f.name? n = Option.none) ∧
    f.whole = Option.none ∧ f.length = 0 ∧ f.entries = 0 ∧ f.toList = []
  /-- A match has a whole, and all captures lie within it. -/
  whole : f.isMatch = true → ∃ w, f.whole = some w ∧
    ∀ i c, f.get? i = some c → w.start ≤ c.start ∧ c.stop ≤ w.stop
  index_lt : ∀ i c, f.get? i = some c → i < r.groupCount
  captures : ∀ i c, f.get? i = some c → c.In subject
  /-- A name stands for the capture of the group that has it. -/
  names : ∀ n c, f.name? n = some c ↔
    ∃ i, r.groupNames[i]? = some (some n) ∧ f.get? i = some c
  listed : ∃ indices names, f.Listed indices names
  indexText : ∀ i t, (Key.index i, t) ∈ f.toList ↔ ∃ c, f.get? i = some c ∧ c.text = t
  nameText : ∀ n t, (Key.name n, t) ∈ f.toList ↔ ∃ c, f.name? n = some c ∧ c.text = t
  /-- To ask for the text of a capture fails where there is none. -/
  missingIndex : ∀ i, (∃ e, f.text i = .error e) ↔ f.get? i = Option.none
  missingName : ∀ n, (∃ e, f.textNamed n = .error e) ↔ f.name? n = Option.none

namespace Findings

/-! ### The list of captures -/

theorem listed_of_ascending {f : Findings}
    (hpositional : (f.positional.map Prod.fst).Pairwise (· < ·))
    (hnamed : (f.named.map Prod.fst).Pairwise (· < ·)) :
    f.Listed (f.positional.map Prod.fst) (f.named.map Prod.fst) where
  keys := by simp only [toList, List.map_append, List.map_map, Function.comp_def]
  indices_ascending := hpositional
  mem_indices _ := mem_keys_iff
  names_ascending := hnamed.imp bytes_lt
  mem_names _ := mem_keys_iff
  length := (List.length_map _).symm
  entries := by
    rw [List.length_map]
    rfl
  length_toList := by simp only [toList, entries, List.length_append, List.length_map]

theorem mem_toList_index {f : Findings} (h : (f.positional.map Prod.fst).Pairwise (· < ·))
    (i : Nat) (t : String) :
    (Key.index i, t) ∈ f.toList ↔ ∃ c, f.get? i = some c ∧ c.text = t := by
  have hnodup : (f.positional.map Prod.fst).Nodup := h.imp Nat.ne_of_lt
  simp [toList, get?, ← mem_iff_lookup hnodup]

theorem mem_toList_name {f : Findings} (h : (f.named.map Prod.fst).Pairwise (· < ·))
    (n : String) (t : String) :
    (Key.name n, t) ∈ f.toList ↔ ∃ c, f.name? n = some c ∧ c.text = t := by
  have hnodup : (f.named.map Prod.fst).Nodup := by
    refine h.imp fun {a b} hlt heq => ?_
    rw [heq] at hlt
    exact String.lt_irrefl b hlt
  simp [toList, name?, ← mem_iff_lookup hnodup]

/-! ### Captures that are not there -/

theorem error_text_iff (f : Findings) (i : Nat) :
    (∃ e, f.text i = .error e) ↔ f.get? i = Option.none := by
  rw [text]
  cases f.get? i with
  | none => simp
  | some c => simp

theorem error_textNamed_iff (f : Findings) (n : String) :
    (∃ e, f.textNamed n = .error e) ↔ f.name? n = Option.none := by
  rw [textNamed]
  cases f.name? n with
  | none => simp
  | some c => simp

/-! ### From the marks of a match -/

theorem wellFormed_none (r : Regex) (subject : String) : none.WellFormed r subject where
  noMatch _ := ⟨fun _ => rfl, fun _ => rfl, rfl, rfl, rfl, rfl⟩
  whole h := absurd h (by decide)
  index_lt i c h := absurd h (by simp [none, get?])
  captures i c h := absurd h (by simp [none, get?])
  names n c := by simp [none, get?, name?]
  listed := ⟨_, _, listed_of_ascending List.Pairwise.nil List.Pairwise.nil⟩
  indexText := mem_toList_index List.Pairwise.nil
  nameText := mem_toList_name List.Pairwise.nil
  missingIndex := error_text_iff none
  missingName := error_textNamed_iff none

section

variable {r : Regex} {subject : String} {marks : Marks} {p q : Nat}
  (hgroups : Marks.Within p q marks)

include hgroups

/-- A capture stands between two places within the whole match. -/
theorem places_of_get? {i : Nat} {c : Capture}
    (h : (ofMarks subject.toList r.groupNames marks).get? i = some c) :
    i < r.groupCount ∧ ∃ first last, p ≤ first ∧ first ≤ last ∧ last ≤ q ∧
      c = Capture.ofPlaces subject.toList first last := by
  rw [get?_ofMarks] at h
  split at h
  · next hlt =>
    refine ⟨hlt, ?_⟩
    rcases hgroups i with hnone | ⟨first, last, hfirst, hle, hlast, hends⟩
    · rw [captureOf_eq_none hnone.1] at h
      exact absurd h (by simp)
    · rw [captureOf_eq_some hends.1 hends.2] at h
      exact ⟨first, last, hfirst, hle, hlast, (Option.some.inj h).symm⟩
  · exact absurd h (by simp)

/-- Marks that are noted in pairs give findings that are in order, if no name stands twice in the
table. -/
theorem wellFormed_ofMarks (hwhole : Marks.Ends 0 p q marks) (hpos : 0 < r.groupNames.length)
    (hunique : ∀ (i j : Nat) (n : String), r.groupNames[i]? = some (some n) →
      r.groupNames[j]? = some (some n) → i = j) :
    (ofMarks subject.toList r.groupNames marks).WellFormed r subject := by
  have hpositional : ((ofMarks subject.toList r.groupNames marks).positional.map
      Prod.fst).Pairwise (· < ·) := ascending_positional r.groupNames
  have hnamed : ((ofMarks subject.toList r.groupNames marks).named.map
      Prod.fst).Pairwise (· < ·) := ascending_named (nodup_of_unique hunique)
  refine {
    noMatch := fun h => Bool.noConfusion h
    whole := fun _ => ⟨Capture.ofPlaces subject.toList p q, ?_, fun i c h => ?_⟩
    index_lt := fun i c h => (places_of_get? hgroups h).1
    captures := fun i c h => ?_
    names := fun n c => ⟨fun h => ?_, fun h => ?_⟩
    listed := ⟨_, _, listed_of_ascending hpositional hnamed⟩
    indexText := mem_toList_index hpositional
    nameText := mem_toList_name hnamed
    missingIndex := error_text_iff _
    missingName := error_textNamed_iff _ }
  · rw [Findings.whole, get?_ofMarks, if_pos hpos]
    exact captureOf_eq_some hwhole.1 hwhole.2
  · obtain ⟨-, first, last, hfirst, -, hlast, rfl⟩ := places_of_get? hgroups h
    exact ⟨byteOffset_mono _ hfirst, byteOffset_mono _ hlast⟩
  · obtain ⟨-, first, last, -, hle, -, rfl⟩ := places_of_get? hgroups h
    exact ofPlaces_in hle
  · by_cases hn : some n ∈ r.groupNames
    · obtain ⟨i, hi⟩ := List.getElem?_of_mem hn
      rw [name?_ofMarks hi fun j hj => hunique j i n hj hi] at h
      exact ⟨i, hi, h⟩
    · rw [name?_ofMarks_of_not_mem hn] at h
      exact absurd h (by simp)
  · obtain ⟨i, hi, h⟩ := h
    rwa [name?_ofMarks hi fun j hj => hunique j i n hj hi]

end

end Findings

/-- Whatever the pattern and its settings, a run comes to findings that are in order. -/
theorem wellFormed_of_run [Sizing] (d : Draft) (subject : String) {f : Findings}
    (hf : (d.run subject).value = .ok f) :
    ∃ r, d.regex.value = .ok r ∧ f.WellFormed r subject := by
  obtain ⟨r, hr, rfl⟩ := Draft.find_of_run hf
  refine ⟨r, hr, ?_⟩
  rw [Draft.value_regex] at hr
  obtain ⟨e, he, rfl⟩ := Draft.expression_of_compile hr
  obtain ⟨hzero, hnames⟩ := captures_of_expression he
  rw [Regex.find]
  split
  · next marks hmarks =>
    obtain ⟨p, q, -, -, hwhole, hgroups⟩ := marks_of_findMarks hzero hmarks
    exact Findings.wellFormed_ofMarks hgroups hwhole (Expr.length_groupNames_pos e)
      fun i j n hi hj => hnames i j n (Expr.mem_captures_of_groupNames hi)
        (Expr.mem_captures_of_groupNames hj)
  · exact Findings.wellFormed_none _ subject

section

attribute [local instance] Sizing.estimate

/-- The last round of a repetition takes one group and the round before it another, which has a name
and a character of two bytes. Both are kept. -/
theorem wellFormed_of_two_rounds : ∃ f r,
    ((({} : Draft).call (.raw "(?:(?P<_>é)|(b))+")).run "aéb").value = .ok f ∧
      (({} : Draft).call (.raw "(?:(?P<_>é)|(b))+")).regex.value = .ok r ∧
      f.WellFormed r "aéb" ∧ f.isMatch = true ∧ f.whole = some ⟨1, 4, "éb"⟩ ∧
      f.get? 1 = some ⟨1, 3, "é"⟩ ∧ f.get? 2 = some ⟨3, 4, "b"⟩ ∧ f.name? "_" = f.get? 1 := by
  obtain ⟨r, hr⟩ : ∃ r, (({} : Draft).call (.raw "(?:(?P<_>é)|(b))+")).regex.value = .ok r :=
    ⟨_, rfl⟩
  have hf := Draft.value_run hr "aéb"
  obtain ⟨r', hr', hwell⟩ := wellFormed_of_run _ _ hf
  have hexpr : expression "(?:(?P<_>é)|(b))+".toList ({} : Settings).modes = .ok (.rep 1 none true
      (.alt (.group 1 (some "_") (.set (CharSet.singleton 'é')))
        (.group 2 none (.set (CharSet.singleton 'b'))))) := rfl
  obtain ⟨e, he, hregex⟩ := Draft.expression_of_compile ((Draft.value_regex _).symm.trans hr)
  obtain rfl := Except.ok.inj (hexpr.symm.trans he)
  -- every round takes up a character, so the marks are those of the first way
  have hmarks : findMarks r.program "aéb".toList.toArray =
      some [(1, 3), (5, 3), (4, 2), (3, 2), (2, 1), (0, 1)] := by
    rw [hregex]
    refine (findMarks_program ?_ "aéb".toList).trans rfl
    exact ⟨⟨trivial, trivial⟩, fun _ => rfl⟩
  have hfind : r.find "aéb" = Findings.ofMarks "aéb".toList r.groupNames
      [(1, 3), (5, 3), (4, 2), (3, 2), (2, 1), (0, 1)] := by
    rw [Regex.find, hmarks]
  rw [hregex] at hfind
  refine ⟨_, r', hf, hr', hwell, ?_⟩
  rw [hregex, hfind]
  exact ⟨rfl, rfl, rfl, rfl, rfl⟩

end

end FluentRegex
