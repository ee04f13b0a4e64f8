import FluentRegex.Machine.Estimate
import FluentRegex.Proofs.Chain.GroupTable
import FluentRegex.Proofs.Chain.Matching
import FluentRegex.Proofs.Findings

/-!
# What a chain of calls captures

The marks of a match are those of the pieces of a split (`records`). Each group has marks of its
own, so what a group captured can be read off its own piece, whatever was noted before and after
it (`captureOf_records`).

> `captures_of_greatest_split`: a match is the greatest split from where it begins. The group of
> a call has captured the piece of that call, and nothing where its text was left out.
-/

namespace FluentRegex

open Text (byteOffset)

/-- The capture of a piece of a subject at a place. -/
def Capture.ofPiece (subject : List Char) (place : Nat) (piece : List Char) : Capture where
  start := byteOffset subject place
  stop := byteOffset subject (place + piece.length)
  text := String.ofList piece

/-- The number of groups of a chain of calls. -/
def groupsOf (cs : List Call) : Nat := (cs.filterMap Call.captures?).length

theorem groupsOf_cons (c : Call) (cs : List Call) :
    groupsOf (c :: cs) = c.groups + groupsOf cs := by
  rw [groupsOf, Call.groups, List.filterMap_cons]
  cases c.captures? with
  | none => exact (Nat.zero_add _).symm
  | some asked => exact Nat.add_comm _ _

variable {s : Settings} {subject : List Char} {marks : Marks}

/-! ## The marks of one group -/

/-- A call notes nothing at the marks of other groups. -/
theorem lookup_marksAfter {c : Call} {index p n slot : Nat}
    (h : c.captures?.isSome → slot / 2 ≠ index) :
    (c.marksAfter index p n marks).lookup slot = marks.lookup slot := by
  rw [Call.marksAfter]
  split
  · next hnoted =>
    have hother := h hnoted.1
    rw [noted, List.lookup_cons, beq_eq_false_iff_ne.2 (by omega : slot ≠ 2 * index + 1)]
    dsimp only
    rw [List.lookup_cons, beq_eq_false_iff_ne.2 (by omega : slot ≠ 2 * index)]
  · rfl

/-- A chain notes nothing at the marks of the groups before it and after it. -/
theorem lookup_records {cs : List Call} {groups place slot : Nat} {pieces : List (List Char)}
    (h : slot / 2 ≤ groups ∨ groups + groupsOf cs < slot / 2) :
    (records groups place cs pieces marks).lookup slot = marks.lookup slot := by
  induction cs generalizing groups place pieces marks with
  | nil => rfl
  | cons c cs ih =>
    cases pieces with
    | nil => rfl
    | cons piece pieces =>
      rw [groupsOf_cons] at h
      rw [records, ih (by omega), lookup_marksAfter]
      intro hc
      rw [Call.groups, if_pos hc] at h
      omega

/-- The pieces of the first calls are noted before those of the others. -/
theorem records_append {before cs : List Call} {earlier pieces : List (List Char)}
    (hlen : before.length = earlier.length) (groups place : Nat) :
    records groups place (before ++ cs) (earlier ++ pieces) marks =
      records (groups + groupsOf before) (place + earlier.flatten.length) cs pieces
        (records groups place before earlier marks) := by
  induction before generalizing earlier groups place marks with
  | nil =>
    obtain rfl : earlier = [] := List.length_eq_zero_iff.1 hlen.symm
    rfl
  | cons c before ih =>
    cases earlier with
    | nil => exact absurd hlen (Nat.succ_ne_zero _)
    | cons piece earlier =>
      rw [List.cons_append, List.cons_append, records, ih (Nat.succ.inj hlen), records,
        groupsOf_cons, List.flatten_cons, List.length_append, Nat.add_assoc, Nat.add_assoc]

/-- A group has captured the piece of its call, unless the text was left out. -/
theorem captureOf_records {before after : List Call} {c : Call} (hc : c.captures?.isSome)
    {earlier later : List (List Char)} {piece : List Char}
    (hlen : before.length = earlier.length) {groups place : Nat}
    (hmarks : ∀ slot, groups < slot / 2 → marks.lookup slot = none) :
    Findings.captureOf subject
        (records groups place (before ++ c :: after) (earlier ++ piece :: later) marks)
        (groups + groupsOf before + 1) =
      if c.leavesOut piece.length then none
      else some (Capture.ofPlaces subject (place + earlier.flatten.length)
        (place + earlier.flatten.length + piece.length)) := by
  have hgroups : c.groups = 1 := if_pos hc
  rw [records_append hlen, records, hgroups]
  generalize hindex : groups + groupsOf before + 1 = index
  -- the calls after this one have other groups, and those before it have not noted this one
  have hlater : ∀ slot, slot / 2 = index →
      (records index (place + earlier.flatten.length + piece.length) after later
        (c.marksAfter index (place + earlier.flatten.length) piece.length
          (records groups place before earlier marks))).lookup slot =
      (c.marksAfter index (place + earlier.flatten.length) piece.length
        (records groups place before earlier marks)).lookup slot :=
    fun slot hslot => lookup_records (.inl (Nat.le_of_eq hslot))
  by_cases hleft : c.leavesOut piece.length = true
  · rw [if_pos hleft]
    refine Findings.captureOf_eq_none ?_
    rw [hlater _ (by omega), Call.marksAfter, if_neg (by simp [hleft]),
      lookup_records (.inr (by omega))]
    exact hmarks _ (by omega)
  · -- both ends were noted, the second one last
    rw [if_neg hleft]
    have hnoted : c.marksAfter index (place + earlier.flatten.length) piece.length
        (records groups place before earlier marks) =
        noted index (place + earlier.flatten.length) piece.length
          (records groups place before earlier marks) :=
      if_pos ⟨hc, Bool.eq_false_iff.2 hleft⟩
    refine Findings.captureOf_eq_some ?_ ?_
    · rw [hlater _ (by omega), hnoted, noted, List.lookup_cons,
        beq_eq_false_iff_ne.2 (by omega : 2 * index ≠ 2 * index + 1)]
      exact List.lookup_cons_self
    · rw [hlater _ (by omega), hnoted]
      exact List.lookup_cons_self

/-! ## The marks of a match -/

theorem ofPlaces_eq_ofPiece {place : Nat} {piece : List Char}
    (h : piece <+: subject.drop place) :
    Capture.ofPlaces subject place (place + piece.length) =
      Capture.ofPiece subject place piece := by
  have htext : (subject.take (place + piece.length)).drop place = piece := by
    rw [List.drop_take, Nat.add_sub_cancel_left]
    exact (List.prefix_iff_eq_take.1 h).symm
  rw [Capture.ofPlaces, Capture.ofPiece, htext]

variable {cs : List Call} {start : Nat}

/-- The whole match spans all pieces. -/
theorem captureOf_marksOf_zero {pieces : List (List Char)}
    (h : SplitsFrom s subject start cs pieces) :
    Findings.captureOf subject (marksOf cs start pieces) 0 =
      some (Capture.ofPiece subject start pieces.flatten) := by
  obtain ⟨rest, hdrop, -⟩ := h
  rw [← ofPlaces_eq_ofPiece ⟨rest, hdrop.symm⟩]
  refine Findings.captureOf_eq_some ?_ List.lookup_cons_self
  show (records 0 start cs pieces [(0, start)]).lookup 0 = some start
  rw [lookup_records (.inl (Nat.le_refl 0))]
  exact List.lookup_cons_self

/-- The group of a capturing call spans the piece of that call. -/
theorem captureOf_marksOf {before after : List Call} {c : Call} (hc : c.captures?.isSome)
    {earlier later : List (List Char)} {piece : List Char} (hlen : before.length = earlier.length)
    (h : SplitsFrom s subject start (before ++ c :: after) (earlier ++ piece :: later)) :
    Findings.captureOf subject
        (marksOf (before ++ c :: after) start (earlier ++ piece :: later)) (groupsOf before + 1) =
      if c.leavesOut piece.length then none
      else some (Capture.ofPiece subject (start + earlier.flatten.length) piece) := by
  obtain ⟨rest, hdrop, -⟩ := h
  -- the piece stands where the pieces before it end
  have hpiece : piece <+: subject.drop (start + earlier.flatten.length) := by
    refine ⟨later.flatten ++ rest, ?_⟩
    rw [← List.drop_drop, hdrop, List.flatten_append, List.flatten_cons, List.append_assoc,
      List.drop_left, List.append_assoc]
  have hblank : ∀ slot, 0 < slot / 2 → ([(0, start)] : Marks).lookup slot = none := by
    intro slot hslot
    rw [List.lookup_cons, beq_eq_false_iff_ne.2 (by omega : slot ≠ 0)]
    rfl
  rw [marksOf, Findings.captureOf_cons (by omega), ← ofPlaces_eq_ofPiece hpiece,
    ← captureOf_records hc hlen hblank, Nat.zero_add]

/-! ## The groups of a chain -/

section

variable [Sizing] (s) (hraw : ∀ c ∈ cs, c.isRaw = false) (hrepeats : ∀ c ∈ cs, c.repeats? = none)
  {r : Regex} (hr : ((Draft.withSettings s).calls cs).compile = .ok r)
include hraw hrepeats hr

theorem groupNames_without_repetitions :
    r.groupNames = none :: grants ((sinceClear cs).filterMap Call.captures?) := by
  refine groupNames_of_calls s hraw (fun c hc bounds hbounds => ?_) hr
  rw [hrepeats c hc] at hbounds
  exact absurd hbounds (by simp)

theorem length_groupNames : r.groupNames.length = groupsOf (sinceClear cs) + 1 := by
  rw [groupNames_without_repetitions s hraw hrepeats hr, List.length_cons, length_grants, groupsOf]

/-- The name that a call asks for first, if it can be a name, is that of its group alone. -/
theorem findings_name {before after : List Call} {c : Call} (hsaid : sinceClear cs = before ++ c :: after)
    {n : String} (hn : c.captures? = some (some n)) (hvalid : Syntax.isName n.toList = true)
    (hfree : some n ∉ before.filterMap Call.captures?) (marks : Marks) :
    (Findings.ofMarks subject r.groupNames marks).name? n =
      (Findings.ofMarks subject r.groupNames marks).get? (groupsOf before + 1) := by
  rw [groupNames_without_repetitions s hraw hrepeats hr]
  have hgroup : (grants ((sinceClear cs).filterMap Call.captures?))[groupsOf before]? =
      some (some n) := by
    rw [getElem?_grants, hsaid, List.filterMap_append, groupsOf, List.filterMap_cons_some hn,
      List.getElem?_append_right (Nat.le_refl _), Nat.sub_self, List.take_left]
    exact ⟨rfl, hvalid, hfree⟩
  refine Findings.name?_ofMarks hgroup fun j hj => ?_
  cases j with
  | zero => exact absurd hj (by simp)
  | succ j => exact congrArg Nat.succ (grants_unique hj hgroup)

end

/-! ## Captures of a match -/

/-- A match of a chain of calls of which none repeats is the greatest split from the leftmost place
that has one. The whole match spans its pieces. The group of each capturing call has captured the
piece of that call, or nothing where the text of the call was left out, and is found as well under
the name that the call gave to it. There are no other groups. -/
theorem captures_of_greatest_split [Sizing] (s : Settings) (hcase : s.caseInsensitive = false)
    (cs : List Call) (hraw : ∀ c ∈ cs, c.isRaw = false) (hrepeats : ∀ c ∈ cs, c.repeats? = none)
    (subject : String) {f : Findings}
    (hf : (((Draft.withSettings s).calls cs).run subject).value = .ok f)
    (hmatch : f.isMatch = true) :
    ∃ start pieces, start ≤ subject.toList.length ∧
      GreatestFrom s subject.toList start (sinceClear cs) pieces ∧
      (∀ place < start, ¬ ∃ others, SplitsFrom s subject.toList place (sinceClear cs) others) ∧
      f.whole = some (Capture.ofPiece subject.toList start pieces.flatten) ∧
      (∀ before c after, sinceClear cs = before ++ c :: after → c.captures?.isSome →
        ∀ earlier piece later, pieces = earlier ++ piece :: later →
          before.length = earlier.length →
          f.get? (groupsOf before + 1) =
              (if c.leavesOut piece.length then none
              else some (Capture.ofPiece subject.toList (start + earlier.flatten.length) piece)) ∧
            ∀ n : String, c.captures? = some (some n) → Syntax.isName n.toList = true →
              some n ∉ before.filterMap Call.captures? →
              f.name? n = f.get? (groupsOf before + 1)) ∧
      ∀ k, groupsOf (sinceClear cs) < k → f.get? k = none := by
  obtain ⟨r, hr, rfl⟩ := Draft.find_of_run hf
  rw [Draft.value_regex] at hr
  obtain ⟨marks, hmarks⟩ := Option.ne_none_iff_exists'.1 ((Regex.isMatch_find r subject).1 hmatch)
  obtain ⟨start, pieces, hstart, hgreatest, hleftmost, rfl⟩ :=
    (findMarks_calls hraw hrepeats hr hcase subject.toList).2 marks hmarks
  have hlength := length_groupNames s hraw hrepeats hr
  rw [Regex.find, hmarks]
  dsimp only
  refine ⟨start, pieces, hstart, hgreatest, hleftmost, ?_, ?_, fun k hk => ?_⟩
  · rw [Findings.whole, Findings.get?_ofMarks, if_pos (by omega)]
    exact captureOf_marksOf_zero hgreatest.1
  · intro before c after hsaid hc earlier piece later hpieces hlen
    refine ⟨?_, fun n hn hvalid hfree => ?_⟩
    · have hlt : groupsOf before + 1 < r.groupNames.length := by
        rw [hlength, hsaid, groupsOf, groupsOf, List.filterMap_append, List.length_append,
          ← groupsOf, ← groupsOf, groupsOf_cons, Call.groups, if_pos hc]
        omega
      rw [Findings.get?_ofMarks, if_pos hlt, hsaid, hpieces]
      refine captureOf_marksOf hc hlen (s := s) ?_
      rw [← hsaid, ← hpieces]
      exact hgreatest.1
    · exact findings_name s hraw hrepeats hr hsaid hn hvalid hfree _
  · rw [Findings.get?_ofMarks, if_neg (by omega)]

section

attribute [local instance] Sizing.estimate

/-- Any characters give back the last one to a text that is to follow. -/
theorem captures_with_character_given_back : ∃ f, (((Draft.withDelimiter '#').calls
    [.anything (some "_"), .find "b" none]).run "abb").value = .ok f ∧
      f.get? 1 = some ⟨0, 2, "ab"⟩ ∧ f.get? 2 = some ⟨2, 3, "b"⟩ ∧ f.name? "_" = f.get? 1 := by
  generalize hs : ({ delimiter := '#' } : Settings) = s
  generalize hcs : [Call.anything (some "_"), .find "b" none] = cs
  have hcase : s.caseInsensitive = false := by rw [← hs]
  have hraw : ∀ c ∈ cs, c.isRaw = false := by
    rw [← hcs]
    decide
  have hrepeats : ∀ c ∈ cs, c.repeats? = none := by
    rw [← hcs]
    decide
  have hsince : sinceClear cs = [.anything (some "_"), .find "b" none] := by
    rw [← hcs]
    decide
  have hsplit : SplitsFrom s "abb".toList 0 (sinceClear cs) [['a', 'b'], ['b']] := by
    rw [hsince]
    refine ⟨[], by decide, ⟨fun c hc => .inr ?_, rfl, trivial⟩⟩
    intro h
    rw [h] at hc
    exact absurd hc (by decide)
  obtain ⟨r, hr⟩ : ∃ r, ((Draft.withSettings s).calls cs).regex.value = .ok r := by
    rw [← hs, ← hcs]
    exact ⟨_, rfl⟩
  have hmatch : (r.find "abb").isMatch = true := by
    rw [Draft.value_regex] at hr
    rw [Regex.isMatch_find]
    intro hnone
    exact (findMarks_calls hraw hrepeats hr hcase "abb".toList).1.1 hnone 0 (Nat.zero_le _)
      ⟨_, hsplit⟩
  have hrun : (((Draft.withSettings s).calls cs).run "abb").value = .ok (r.find "abb") :=
    Draft.value_run hr "abb"
  obtain ⟨start, pieces, hstart, ⟨hpieces, hgreatest⟩, hleftmost, -, hgroups, -⟩ :=
    captures_of_greatest_split s hcase cs hraw hrepeats "abb" hrun hmatch
  have hzero : start = 0 := by
    rcases Nat.eq_zero_or_pos start with h | h
    · exact h
    · exact absurd ⟨_, hsplit⟩ (hleftmost 0 h)
  subst hzero
  have heq : pieces = [['a', 'b'], ['b']] := by
    rcases hgreatest _ hsplit with h | hlex
    · exact h.symm
    · -- a greater split would be longer than the subject
      have hlen := hpieces.le_length (Nat.zero_le _)
      rw [hsince] at hpieces
      obtain ⟨rest, -, hsplits⟩ := hpieces
      match pieces, hsplits with
      | [first, second], hsplits =>
        obtain ⟨-, hsecond, -⟩ := hsplits
        rw [show second = ['b'] from hsecond] at hlen hlex
        have hless : 2 < first.length := by simpa [List.cons_lex_cons_iff] using hlex
        have habb : "abb".toList.length = 3 := by decide
        rw [habb, List.flatten_cons, List.length_append, List.flatten_cons, List.length_append,
          List.length_singleton] at hlen
        omega
  rw [hsince] at hgroups
  obtain ⟨hfirst, hname⟩ := hgroups [] _ _ rfl rfl [] ['a', 'b'] [['b']] heq rfl
  obtain ⟨hsecond, -⟩ := hgroups [.anything (some "_")] _ [] rfl rfl [['a', 'b']] ['b'] [] heq rfl
  rw [← hs] at hrun
  exact ⟨r.find "abb", hrun, hfirst, hsecond, hname "_" rfl (by decide) List.not_mem_nil⟩

end

end FluentRegex
