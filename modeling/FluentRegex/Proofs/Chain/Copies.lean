import FluentRegex.Machine.Estimate
import FluentRegex.Proofs.Chain.Captures
import FluentRegex.Proofs.Chain.Repeated
import FluentRegex.Proofs.Text.Utf8
import Mathlib.Data.Nat.Find

/-!
# Copies of a text

A count behind a captured text goes round once for each copy of the text that the subject begins
with (`copies`), as far as its bounds allow. Each copy is noted over the one before it, and a round
that leaves out its text notes nothing, so what the group holds in the end is the last copy.

> `last_copy_held`: this is so for a text that must be there and for one that may be left out, and
> for both kinds of counts. Only the former needs as many copies as the lower bound says.
-/

namespace FluentRegex

open Machine Text

/-! ## Counting copies -/

/-- The number of copies of a text, one after the other, that a subject begins with. -/
def copies (text subject : List Char) : Nat :=
  Nat.findGreatest (fun k => (List.replicate k text).flatten <+: subject) subject.length

section

variable {text subject : List Char} (htext : text ≠ [])

theorem length_copies (text : List Char) (k : Nat) :
    (List.replicate k text).flatten.length = text.length * k := by
  rw [List.length_flatten, List.map_replicate, List.sum_replicate_nat, Nat.mul_comm]

include htext

theorem copies_prefix_iff {k : Nat} :
    (List.replicate k text).flatten <+: subject ↔ k ≤ copies text subject := by
  constructor
  · intro h
    have hlength := h.length_le
    rw [length_copies] at hlength
    have hle : k ≤ text.length * k := Nat.le_mul_of_pos_left k (List.length_pos_of_ne_nil htext)
    exact Nat.le_findGreatest (Nat.le_trans hle hlength) h
  · intro h
    -- the greatest number of copies has the others before its last ones
    have hgreatest : (List.replicate (copies text subject) text).flatten <+: subject :=
      Nat.findGreatest_spec (P := fun k => (List.replicate k text).flatten <+: subject)
        (Nat.zero_le _) List.nil_prefix
    obtain ⟨j, hj⟩ := Nat.exists_eq_add_of_le h
    rw [hj, List.replicate_add, List.flatten_append] at hgreatest
    exact (List.prefix_append _ _).trans hgreatest

/-- Behind some copies the text stands once more if there are more copies. -/
theorem copy_at_iff {k : Nat} (hk : k ≤ copies text subject) :
    text <+: subject.drop (text.length * k) ↔ k < copies text subject := by
  obtain ⟨rest, hrest⟩ := (copies_prefix_iff htext).2 hk
  have hdrop : subject.drop (text.length * k) = rest := by
    rw [← length_copies, ← hrest, List.drop_left]
  have hmore : (List.replicate (k + 1) text).flatten = (List.replicate k text).flatten ++ text := by
    rw [List.replicate_add, List.flatten_append]
    simp
  rw [Nat.lt_iff_add_one_le, ← copies_prefix_iff htext, hmore, hdrop]
  exact hrest ▸ (List.prefix_append_right_inj _).symm

end

/-! ## Marks of copies -/

/-- The marks of a group that went round so many times, over a text of the given length. -/
def copyMarks (length : Nat) : Nat → Marks
  | 0 => [(0, 0)]
  | k + 1 => noted 1 (length * k) length (copyMarks length k)

/-- Where so many copies end, and what is noted there. -/
def copySpot (length k : Nat) : Nat × Marks := (length * k, copyMarks length k)

theorem lookup_copyMarks_zero (length k : Nat) : (copyMarks length k).lookup 0 = some 0 := by
  induction k with
  | zero => rfl
  | succ k ih => exact ih

section

variable {s : Settings} (hcase : s.caseInsensitive = false) (subject : List Char) {text : String}

include hcase

/-- The group of a text goes over a copy of it, where there is one. -/
theorem ways_copy (p : Nat) (marks : Marks) :
    (marking subject).ways
        (Part.group 1 none (text.toList.map (Part.literal s.modes))).expr (p, marks) =
      if text.toList <+: subject.drop p then
        [(p + text.toList.length, noted 1 p text.toList.length marks)] else [] := by
  have hexprs : (text.toList.map (Part.literal s.modes)).map Part.expr =
      (text.toList.map fun c => Syntax.folded s.modes (CharSet.singleton c)).map Expr.set := by
    rw [List.map_map, List.map_map]
    rfl
  have hsame : s.Same = Eq := funext fun c => funext fun d => propext (Settings.same_iff hcase)
  have hiff : List.Forall₂ (· ∈ ·) ((subject.drop p).take text.toList.length)
      (text.toList.map fun c => Syntax.folded s.modes (CharSet.singleton c)) ↔
      text.toList <+: subject.drop p := by
    rw [List.forall₂_map_right_iff]
    simp only [mem_folded_singleton]
    rw [hsame, List.forall₂_eq_eq_eq, List.prefix_iff_eq_take, eq_comm]
  have hsubject : (marking subject).subject.toList = subject := rfl
  rw [Part.group, ways, ways_inSequence, hexprs, through_sets, List.length_map, hsubject]
  simp only [hiff]
  split
  · rfl
  · rfl

variable (htext : text ≠ "")

include htext

/-- A text that must be there leads from each copy to the next, and from the last one nowhere. -/
theorem ways_find {k : Nat} (hk : k ≤ copies text.toList subject) :
    (marking subject).ways ((Call.find text none).capturedPart s.modes 1 none).expr
        (copySpot text.toList.length k) =
      if k < copies text.toList subject then [copySpot text.toList.length (k + 1)] else [] := by
  have hne : text.toList ≠ [] := fun h => htext (String.toList_eq_nil_iff.1 h)
  refine (ways_copy hcase subject _ _).trans ?_
  simp only [copy_at_iff hne hk]
  rfl

/-- A text that may be left out leads to the next copy first, and to where it is otherwise. -/
theorem ways_maybe {k : Nat} (hk : k ≤ copies text.toList subject) :
    (marking subject).ways ((Call.maybe text none).capturedPart s.modes 1 none).expr
        (copySpot text.toList.length k) =
      (if k < copies text.toList subject then [copySpot text.toList.length (k + 1)] else []) ++
        [copySpot text.toList.length k] := by
  rw [← ways_find hcase subject htext hk]
  exact ways_optional _ _

end

/-! ## What is found -/

/-- The findings are those of so many copies of a text at the beginning of the subject: all of them in
the whole match, and the last of them in group 1, which has captured nothing if there is none. -/
structure Findings.HoldsCopies (f : Findings) (text : String) (k : Nat) : Prop where
  whole : f.whole =
    some ⟨0, k * text.utf8ByteSize, String.join (List.replicate k text)⟩
  last : f.get? 1 = if k = 0 then Option.none else
    some ⟨(k - 1) * text.utf8ByteSize, k * text.utf8ByteSize, text⟩

/-- What a search finds from the beginning of a line is what the part behind it finds there first. -/
theorem findMarks_atStart {s : Settings} (hlines : s.multiLine = false) {q : Part}
    (hguarded : q.expr.Guarded) (subject : List Char) :
    findMarks (Part.inSequence [Part.anchor s.modes .lineStart, q]).expr.program subject.toArray =
      ((marking subject).ways q.expr (0, [(0, 0)])).head?.map fun y => (1, y.1) :: y.2 := by
  have hthrough : ∀ p ≤ subject.length, (marking subject).through
      ([Part.anchor s.modes .lineStart, q].map Part.expr) (p, [(0, p)]) =
      if p = 0 then (marking subject).ways q.expr (0, [(0, 0)]) else [] := by
    intro p hp
    have hlook : (Syntax.Anchor.look s.modes .lineStart).holds ((marking subject).before? p)
        ((marking subject).after? p) = true ↔ p = 0 := by
      have hbefore : (marking subject).before? p = (subject.take p).getLast? := before?_eq hp
      rw [hbefore, holds_lineStart, hlines, List.take_eq_nil_iff]
      simp only [Bool.false_eq_true, false_and, or_false]
      refine ⟨fun h => h.elim id fun hnil => ?_, .inl⟩
      rw [hnil] at hp
      exact Nat.le_zero.1 hp
    rw [List.map_cons, List.map_singleton, through, Part.anchor, ways]
    simp only [hlook]
    split
    · next hzero => rw [List.flatMap_singleton, through_singleton, hzero]
    · rfl
  have hparts : ∀ p ∈ [Part.anchor s.modes .lineStart, q], p.expr.Guarded :=
    List.forall_mem_cons.2 ⟨trivial, List.forall_mem_singleton.2 hguarded⟩
  obtain ⟨hnone, hsome⟩ := findMarks_inSequence hparts subject
  have hstart := hthrough 0 (Nat.zero_le _)
  rw [if_pos rfl] at hstart
  cases hmarks : findMarks (Part.inSequence [Part.anchor s.modes .lineStart, q]).expr.program
      subject.toArray with
  | none =>
    have hnil := hnone.1 hmarks 0 (Nat.zero_le _)
    rw [hstart] at hnil
    rw [hnil]
    rfl
  | some marks =>
    obtain ⟨p, y, hp, hhead, -, rfl⟩ := hsome marks hmarks
    rw [hthrough p hp] at hhead
    split at hhead
    · rw [hhead]
      rfl
    · exact absurd hhead (by simp)

section

variable {text : String} {subject : List Char}

/-- So many copies in bytes. -/
theorem byteLength_copies (k : Nat) :
    byteLength (List.replicate k text.toList).flatten = k * text.utf8ByteSize := by
  have hsize : text.utf8ByteSize = byteLength text.toList := by
    rw [← utf8ByteSize_ofList, String.ofList_toList]
  induction k with
  | zero => simp
  | succ k ih =>
    rw [List.replicate_succ, List.flatten_cons, byteLength_append, ih, hsize, Nat.succ_mul,
      Nat.add_comm]

theorem byteOffset_copies {k : Nat} (h : (List.replicate k text.toList).flatten <+: subject) :
    byteOffset subject (text.toList.length * k) = k * text.utf8ByteSize := by
  rw [byteOffset, ← length_copies, ← List.prefix_iff_eq_take.1 h, byteLength_copies]

/-- The marks of so many copies are those of the whole match and of the last copy. -/
theorem holdsCopies_ofMarks (htext : text ≠ "") {k : Nat}
    (hk : k ≤ copies text.toList subject) {groups : List (Option String)} (hpos : 0 < groups.length)
    (hgroup : 0 < k → 1 < groups.length) :
    (Findings.ofMarks subject groups
      ((1, text.toList.length * k) :: copyMarks text.toList.length k)).HoldsCopies text k := by
  have hne : text.toList ≠ [] := fun h => htext (String.toList_eq_nil_iff.1 h)
  have hbegins : ∀ j ≤ k, (List.replicate j text.toList).flatten <+: subject :=
    fun j hj => (copies_prefix_iff hne).2 (Nat.le_trans hj hk)
  constructor
  · have hfirst : ((1, text.toList.length * k) :: copyMarks text.toList.length k).lookup (2 * 0) =
        some 0 := lookup_copyMarks_zero _ k
    have hlast : ((1, text.toList.length * k) :: copyMarks text.toList.length k).lookup
        (2 * 0 + 1) = some (text.toList.length * k) := List.lookup_cons_self
    rw [Findings.whole, Findings.get?_ofMarks, if_pos hpos, Findings.captureOf_eq_some hfirst hlast]
    have hall : subject.take (text.toList.length * k) = (List.replicate k text.toList).flatten := by
      rw [← length_copies]
      exact (List.prefix_iff_eq_take.1 (hbegins k (Nat.le_refl k))).symm
    have hjoin : String.ofList (List.replicate k text.toList).flatten =
        String.join (List.replicate k text) := by
      rw [← String.toList_inj, String.toList_ofList, String.toList_join, List.flatMap_def,
        List.map_replicate]
    rw [Capture.ofPlaces, byteOffset_copies (hbegins k (Nat.le_refl k)), hall, List.drop_zero, hjoin]
    rfl
  · rw [Findings.get?_ofMarks, Findings.captureOf_cons (by decide)]
    cases k with
    | zero =>
      rw [if_pos rfl, Findings.captureOf_eq_none rfl]
      split
      · rfl
      · rfl
    | succ j =>
      -- the last round is noted over those before it
      have hcopy := (copy_at_iff hne (Nat.le_of_succ_le hk)).2 hk
      have hnoted : Findings.captureOf subject (copyMarks text.toList.length (j + 1)) 1 =
          some (Capture.ofPlaces subject (text.toList.length * j)
            (text.toList.length * j + text.toList.length)) :=
        Findings.captureOf_eq_some rfl rfl
      rw [if_pos (hgroup (Nat.succ_pos j)), if_neg (Nat.succ_ne_zero j), hnoted,
        ofPlaces_eq_ofPiece hcopy, Capture.ofPiece, ← Nat.mul_succ,
        byteOffset_copies (hbegins (j + 1) (Nat.le_refl _)),
        byteOffset_copies (hbegins j (Nat.le_succ j)), String.ofList_toList]
      rfl

end

/-! ## The first way through the copies -/

section

variable {s : Settings} (hcase : s.caseInsensitive = false) {text : String} (htext : text ≠ "")
  (subject : List Char) {low high : Nat} (hle : low ≤ high)

include htext

omit hcase in
/-- A text takes up characters. -/
theorem onlyEmpty_find (m : Modes) :
    ((Call.find text none).capturedPart m 1 none).expr.onlyEmpty = false := by
  have hne : text.toList ≠ [] := fun h => htext (String.toList_eq_nil_iff.1 h)
  show (Part.group 1 none (text.toList.map (Part.literal m))).expr.onlyEmpty = false
  match text.toList, hne with
  | [c], _ => rfl
  | c :: d :: cs, _ => rfl

omit hcase in
theorem onlyEmpty_maybe (m : Modes) :
    ((Call.maybe text none).capturedPart m 1 none).expr.onlyEmpty = false := by
  show (Expr.repeated 0 (some 1) true
    ((Call.find text none).capturedPart m 1 none).expr).onlyEmpty = false
  simp [Expr.repeated, Expr.onlyEmpty, onlyEmpty_find htext m]

include hcase hle

/-- A text that must be there goes over as many copies as it may, if there are as many as it must. -/
theorem head?_ways_find :
    ((marking subject).ways (((Call.find text none).capturedPart s.modes 1 none).repeated low
        (some high)).expr (0, [(0, 0)])).head? =
      if low ≤ copies text.toList subject then
        some (copySpot text.toList.length (min high (copies text.toList subject))) else none := by
  have hrounds := fun k (hk : k ≤ _) => ways_find hcase subject htext hk
  have hstart : ((0, [(0, 0)]) : Nat × Marks) = copySpot text.toList.length 0 := rfl
  rw [Part.repeated, ways_repeated (onlyEmpty_find htext _), hstart, rounds_eq hrounds]
  split
  · next hlow =>
    rw [List.flatMap_singleton, head?_roundsUpTo (c := copies text.toList subject) ?_ ?_ _ hlow,
      Nat.add_sub_of_le hle]
    · intro k hk
      rw [hrounds k (Nat.le_of_lt hk), if_pos hk, List.head?_cons]
    · exact .inl ((hrounds _ (Nat.le_refl _)).trans (if_neg (Nat.lt_irrefl _)))
  · rfl

/-- A text that may be left out goes over as many copies as it may. -/
theorem head?_ways_maybe :
    ((marking subject).ways (((Call.maybe text none).capturedPart s.modes 1 none).repeated low
        (some high)).expr (0, [(0, 0)])).head? =
      some (copySpot text.toList.length (min high (copies text.toList subject))) := by
  have hrounds := fun k (hk : k ≤ _) => ways_maybe hcase subject htext hk
  generalize hcopies : copies text.toList subject = c at hrounds ⊢
  have hnext : ∀ k < c, ((marking subject).ways
      ((Call.maybe text none).capturedPart s.modes 1 none).expr
        (copySpot text.toList.length k)).head? = some (copySpot text.toList.length (k + 1)) := by
    intro k hk
    rw [hrounds k (Nat.le_of_lt hk), if_pos hk]
    rfl
  have hlast : ((marking subject).ways
      ((Call.maybe text none).capturedPart s.modes 1 none).expr
        (copySpot text.toList.length c)).head? = some (copySpot text.toList.length c) := by
    rw [hrounds c (Nat.le_refl c), if_neg (Nat.lt_irrefl c)]
    rfl
  rw [Part.repeated, ways_repeated (onlyEmpty_maybe htext _)]
  refine head?_flatMap_of_head? (head?_rounds hnext hlast low) ?_
  rw [head?_roundsUpTo hnext (.inr hlast) _ (Nat.min_le_right low c)]
  congr 2
  omega

end

/-! ## Drafts with a count at the beginning of a line -/

/-- A text that is captured under a count, from the beginning of a line on. -/
def Draft.counted (o count : Call) : Draft :=
  (Draft.withSettings {}).calls [.startOfLine, o, count]

section

variable {o count : Call} {low high : Nat} {r : Regex} {text : String} (subject : String)

theorem structured_of_counted (ho : o.Describes) (hc : count.repeats? = some (low, high)) :
    ∀ c ∈ [Call.startOfLine, o, count], c.isRaw = false ∧ c ≠ .clear :=
  List.forall_mem_cons.2 ⟨⟨rfl, by simp⟩, List.forall_mem_cons.2
    ⟨⟨ho.notRaw, ho.ne_clear⟩, List.forall_mem_singleton.2 (Call.structured_of_repeats hc)⟩⟩

variable [Sizing]

/-- A draft that counts a capturing call repeats the part of that, and has its group in the table
unless the count leaves nothing of it. -/
theorem regex_of_counted (ho : o.Describes) (hcaptures : o.captures? = some none)
    (hc : count.repeats? = some (low, high)) (hr : (Draft.counted o count).compile = .ok r) :
    r.program = (Part.inSequence [Part.anchor ({} : Settings).modes .lineStart,
        (o.capturedPart ({} : Settings).modes 1 none).repeated low (some high)]).expr.program ∧
      0 < r.groupNames.length ∧ (0 < high → 1 < r.groupNames.length) := by
  have hstructured := structured_of_counted ho hc
  have hreads := Draft.reads_calls {} fun c hc => (hstructured c hc).1
  have hsaid := sinceClear_eq_self fun c hc => (hstructured c hc).2
  rw [hsaid] at hreads
  obtain ⟨a, ha, hnames, hprogram⟩ := hreads.of_compile hr
  have hq : o.partsAfter ({} : Settings).modes [] =
      [] ++ [o.capturedPart ({} : Settings).modes 1 none] := by
    rw [Call.partsAfter, hcaptures]
    rfl
  rw [parts_of_count ho hq hc ha] at hprogram
  refine ⟨hprogram, hnames ▸ Expr.length_groupNames_pos _, fun hpos => ?_⟩
  have hsome : RepeatsSome [.startOfLine, o, count] := by
    intro c hmem bounds hbounds
    simp only [List.mem_cons, List.not_mem_nil, or_false] at hmem
    rcases hmem with rfl | rfl | rfl
    · exact absurd hbounds (by simp [Call.repeats?])
    · rw [ho.noRepeat] at hbounds
      exact absurd hbounds (by simp)
    · rw [hc, Option.mem_some] at hbounds
      rw [← hbounds]
      exact hpos
  rw [groupNames_of_calls {} (fun c hc => (hstructured c hc).1) hsome hr, List.length_cons,
    length_grants, hsaid, List.filterMap_cons_none rfl, List.filterMap_cons_some hcaptures,
    List.length_cons]
  omega

/-- What the part leads to first is what is found. -/
theorem find_counted (ho : o.Describes) (hcaptures : o.captures? = some none)
    (hc : count.repeats? = some (low, high)) (hr : (Draft.counted o count).compile = .ok r) :
    findMarks r.program subject.toList.toArray =
      ((marking subject.toList).ways ((o.capturedPart ({} : Settings).modes 1 none).repeated low
        (some high)).expr (0, [(0, 0)])).head?.map fun y => (1, y.1) :: y.2 := by
  rw [(regex_of_counted ho hcaptures hc hr).1]
  refine findMarks_atStart rfl ?_ subject.toList
  have hguarded := guarded_partsAfter ({} : Settings).modes [] o
  rw [Call.partsAfter, hcaptures] at hguarded
  exact Expr.guarded_repeated (hguarded _ (List.mem_singleton_self _)) fun h => absurd h (by simp)

/-- So a way through some copies is a match that holds them. -/
theorem holdsCopies_counted (htext : text ≠ "") (ho : o.Describes)
    (hcaptures : o.captures? = some none) (hc : count.repeats? = some (low, high))
    (hr : (Draft.counted o count).compile = .ok r)
    (hhead : ((marking subject.toList).ways ((o.capturedPart ({} : Settings).modes 1 none).repeated
        low (some high)).expr (0, [(0, 0)])).head? =
      some (copySpot text.toList.length (min high (copies text.toList subject.toList)))) :
    (r.find subject).isMatch = true ∧
      (r.find subject).HoldsCopies text (min high (copies text.toList subject.toList)) := by
  obtain ⟨-, hpos, hgroup⟩ := regex_of_counted ho hcaptures hc hr
  have hmarks := find_counted subject ho hcaptures hc hr
  rw [hhead, Option.map_some] at hmarks
  refine ⟨(Regex.isMatch_find r subject).2 (by rw [hmarks]; simp), ?_⟩
  rw [Regex.find, hmarks]
  exact holdsCopies_ofMarks htext (Nat.min_le_right _ _) hpos fun h =>
    hgroup (Nat.lt_of_lt_of_le h (Nat.min_le_left _ _))

end

/-! ## The last copy -/

/-- What a text finds in a subject under a count with the given bounds, from the beginning of a line
on: as many copies as the subject begins with, up to the upper bound. A text that must be there needs
as many as the lower bound says, one that may be left out needs none. -/
def HoldsLastCopy [Sizing] (text subject : String) (low high : Nat) (count : Call) : Prop :=
  let c := copies text.toList subject.toList
  (∀ r, (Draft.counted (.find text none) count).regex.value = .ok r →
    ∃ f, ((Draft.counted (.find text none) count).run subject).value = .ok f ∧
      (f.isMatch = true ↔ low ≤ c) ∧ (f.isMatch = true → f.HoldsCopies text (min high c))) ∧
  ∀ r, (Draft.counted (.maybe text none) count).regex.value = .ok r →
    ∃ f, ((Draft.counted (.maybe text none) count).run subject).value = .ok f ∧
      f.isMatch = true ∧ f.HoldsCopies text (min high c)

theorem holdsLastCopy_of_repeats [Sizing] {text : String} (htext : text ≠ "") (subject : String)
    {low high : Nat} (hle : low ≤ high) {count : Call} (hc : count.repeats? = some (low, high)) :
    HoldsLastCopy text subject low high count := by
  constructor
  · intro r hr
    have hdescribes : (Call.find text none).Describes := ⟨rfl, rfl, by simp⟩
    have hcompile := (Draft.value_regex _).symm.trans hr
    have hhead := head?_ways_find (s := {}) rfl htext subject.toList hle
    refine ⟨r.find subject, Draft.value_run hr subject, ?_⟩
    by_cases hlow : low ≤ copies text.toList subject.toList
    · rw [if_pos hlow] at hhead
      obtain ⟨hmatch, hholds⟩ := holdsCopies_counted subject htext hdescribes rfl hc hcompile hhead
      exact ⟨iff_of_true hmatch hlow, fun _ => hholds⟩
    · rw [if_neg hlow] at hhead
      have hmarks := find_counted subject hdescribes rfl hc hcompile
      rw [hhead] at hmarks
      have hnot : ¬ (r.find subject).isMatch = true :=
        fun h => (Regex.isMatch_find r subject).1 h hmarks
      exact ⟨iff_of_false hnot hlow, fun h => absurd h hnot⟩
  · intro r hr
    have hhead := head?_ways_maybe (s := {}) rfl htext subject.toList hle
    exact ⟨r.find subject, Draft.value_run hr subject, holdsCopies_counted subject htext
      ⟨rfl, rfl, by simp⟩ rfl hc ((Draft.value_regex _).symm.trans hr) hhead⟩

/-- A single count is read as the two bounds that it stands for. -/
theorem alike_of_times [Sizing] (n : Nat) {o : Call} (ho : o.Describes) :
    (Draft.counted o (.times n)).Alike (Draft.counted o (.between n n)) := by
  have hreads : ∀ count low high, Call.repeats? count = some (low, high) →
      (Draft.counted o count).Reads
        (Assembly.ofCalls ({} : Settings).modes ([.startOfLine, o] ++ [count])) := by
    intro count low high hc
    have hstructured := structured_of_counted ho hc
    have hreads := Draft.reads_calls {} fun c hc => (hstructured c hc).1
    rwa [sinceClear_eq_self fun c hc => (hstructured c hc).2] at hreads
  have htimes := hreads (.times n) n n rfl
  have hbetween := hreads (.between n n) (min n n) (max n n) rfl
  have hsame : Assembly.ofCalls ({} : Settings).modes ([.startOfLine, o] ++ [.times n]) =
      Assembly.ofCalls ({} : Settings).modes ([.startOfLine, o] ++ [.between n n]) := by
    rw [Assembly.ofCalls_append, Assembly.ofCalls_append]
    simp only [Assembly.step_times]
  rw [hsame] at htimes
  refine htimes.alike hbetween ?_
  rw [Draft.counted, Draft.counted, Draft.settings_calls, Draft.settings_calls]

/-- A captured text under a count holds its last copy, even where later rounds leave the text out.
The bounds may come in either order, and a single number stands for both of them. -/
theorem last_copy_held [Sizing] (text : String) (htext : text ≠ "") :
    (∀ (x y : Nat) (subject : String),
      HoldsLastCopy text subject (min x y) (max x y) (.between x y)) ∧
    (∀ (n : Nat) (subject : String), HoldsLastCopy text subject n n (.times n)) ∧
    ∀ (n : Nat), ∀ o ∈ [Call.find text none, .maybe text none],
      (Draft.counted o (.times n)).Alike (Draft.counted o (.between n n)) := by
  refine ⟨fun x y subject => ?_, fun n subject => ?_, fun n o ho => ?_⟩
  · have hle : min x y ≤ max x y := Nat.le_trans (Nat.min_le_left x y) (Nat.le_max_left x y)
    exact holdsLastCopy_of_repeats htext subject hle rfl
  · exact holdsLastCopy_of_repeats htext subject (Nat.le_refl n) rfl
  · have hdescribes : o.Describes := by
      simp only [List.mem_cons, List.not_mem_nil, or_false] at ho
      rcases ho with rfl | rfl
      · exact ⟨rfl, rfl, by simp⟩
      · exact ⟨rfl, rfl, by simp⟩
    exact alike_of_times n hdescribes

section

attribute [local instance] Sizing.estimate

/-- A text that overlaps itself, three times or once, with the bounds the wrong way round. The third
round leaves it out, and the group still holds the second copy. -/
theorem second_copy_held : "aa" ≠ "" ∧ ∃ f,
    ((Draft.counted (.maybe "aa" none) (.between 3 1)).run "aaaaa").value = .ok f ∧
      f.whole = some ⟨0, 4, "aaaa"⟩ ∧ f.get? 1 = some ⟨2, 4, "aa"⟩ := by
  obtain ⟨r, hr⟩ : ∃ r, (Draft.counted (.maybe "aa" none) (.between 3 1)).regex.value = .ok r :=
    ⟨_, rfl⟩
  obtain ⟨f, hf, -, hholds⟩ := ((last_copy_held "aa" (by simp)).1 3 1 "aaaaa").2 r hr
  have hcopies : min (max 3 1) (copies "aa".toList "aaaaa".toList) = 2 := by decide
  rw [hcopies] at hholds
  exact ⟨by simp, f, hf, hholds.whole, hholds.last⟩

end

end FluentRegex
