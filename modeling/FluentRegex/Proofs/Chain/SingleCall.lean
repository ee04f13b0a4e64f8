import FluentRegex.Machine.Estimate
import FluentRegex.Proofs.Chain.Captures
import FluentRegex.Proofs.Chain.WellFormed

/-!
# What a single call finds

A text, and a set of characters, stand for what they say, whatever characters they are made of: what
is escaped is read back as itself. So a draft with one such call looks for a run of characters with
a property that the call alone gives, and finds the longest one from the leftmost place that has any
(`Regex.FindsRun`).

> `find_text_exactly`: a text is found where the subject has its characters one after the other.
> `find_sets_exactly`: the listed characters, and all others, are found where the subject has them.

Both hold under every setting. Where case does not count, a character stands for its case variants
as well (`Settings.Same`), and the characters that are not listed are those of which no variant is.
-/

namespace FluentRegex

open Machine Text

/-! ## Runs of characters -/

/-- The capture of a run of characters, behind those that stand before it. -/
def Capture.behind (before run : List Char) : Capture where
  start := byteLength before
  stop := byteLength (before ++ run)
  text := String.ofList run

/-- The findings in a subject are those of a run of characters with a property: of the longest one
from the leftmost place that has any. It is what the given groups have captured. -/
structure Regex.FindsRun (r : Regex) (subject : String) (P : List Char → Prop)
    (groups : List Nat) : Prop where
  isMatch_iff : (r.find subject).isMatch = true ↔
    ∃ before run after, subject.toList = before ++ run ++ after ∧ P run
  captured : (r.find subject).isMatch = true →
    ∃ before run after, subject.toList = before ++ run ++ after ∧ P run ∧
      (∀ run' after', subject.toList = before ++ run' ++ after' → P run' →
        run'.length ≤ run.length) ∧
      (∀ before' run' after', subject.toList = before' ++ run' ++ after' → P run' →
        before.length ≤ before'.length) ∧
      ∀ i ∈ groups, (r.find subject).get? i = some (Capture.behind before run)

section

variable {subject : List Char}

theorem ofPlaces_eq_behind (p n : Nat) : Capture.ofPlaces subject p (p + n) =
    Capture.behind (subject.take p) ((subject.drop p).take n) := by
  rw [Capture.ofPlaces, Capture.behind, ← List.take_add, List.drop_take, Nat.add_sub_cancel_left]
  rfl

/-- A subject that is cut in three, as places. -/
theorem places_of_append {before run after : List Char} (h : subject = before ++ run ++ after) :
    before.length + run.length ≤ subject.length ∧
      (subject.drop before.length).take run.length = run := by
  rw [h]
  constructor
  · rw [List.length_append, List.length_append]
    exact Nat.le_add_right _ _
  · rw [List.append_assoc, List.drop_left, List.take_left]

theorem append_of_places (p n : Nat) :
    subject = subject.take p ++ (subject.drop p).take n ++ subject.drop (p + n) := by
  rw [List.append_assoc, ← List.drop_drop, List.take_append_drop, List.take_append_drop]

end

/-- Parts that offer the runs with a property find the first and longest of them. -/
theorem findsRun_of_offers {subject : String} {P : List Char → Prop} {ps : List Part}
    (hguarded : ∀ q ∈ ps, q.expr.Guarded) {m : Nat → Nat → Marks}
    (hoffers : ∀ p ≤ subject.toList.length,
      Offers ((marking subject.toList).through (ps.map Part.expr) (p, [(0, p)])) p
        (fun n => p + n ≤ subject.toList.length ∧ P ((subject.toList.drop p).take n)) (m p))
    {r : Regex} (hprogram : r.program = (Part.inSequence ps).expr.program) {groups : List Nat}
    (hgroups : ∀ i ∈ groups, i < r.groupNames.length ∧ ∀ p n,
      ((1, p + n) :: m p n).lookup (2 * i) = some p ∧
      ((1, p + n) :: m p n).lookup (2 * i + 1) = some (p + n)) :
    r.FindsRun subject P groups := by
  obtain ⟨hnone, hsome⟩ := findMarks_inSequence hguarded subject.toList
  rw [← hprogram] at hnone hsome
  have hmatch := Regex.isMatch_find r subject
  -- something is found where a run begins
  have hbegins : ∀ {before run after : List Char}, subject.toList = before ++ run ++ after →
      P run → before.length ≤ subject.toList.length ∧
        (marking subject.toList).through (ps.map Part.expr)
          (before.length, [(0, before.length)]) ≠ [] := by
    intro before run after hsubject hP
    obtain ⟨hlen, hrun⟩ := places_of_append hsubject
    have hplace : before.length ≤ subject.toList.length :=
      Nat.le_trans (Nat.le_add_right _ _) hlen
    refine ⟨hplace, fun hnil => (hoffers _ hplace).head.1.1 hnil run.length ⟨hlen, ?_⟩⟩
    rw [hrun]
    exact hP
  refine ⟨?_, fun h => ?_⟩
  · rw [hmatch, Ne, hnone]
    constructor
    · intro h
      refine Classical.byContradiction fun hnot => h fun p hp => ?_
      rw [(hoffers p hp).head.1]
      intro n hn
      exact hnot ⟨_, _, _, append_of_places p n, hn.2⟩
    · intro h hall
      obtain ⟨before, run, after, hsubject, hP⟩ := h
      obtain ⟨hplace, hways⟩ := hbegins hsubject hP
      exact hways (hall _ hplace)
  · obtain ⟨marks, hmarks⟩ := Option.ne_none_iff_exists'.1 (hmatch.1 h)
    obtain ⟨p, y, hp, hhead, hearlier, rfl⟩ := hsome marks hmarks
    obtain ⟨n, ⟨hlen, hP⟩, hlongest, rfl⟩ := (hoffers p hp).head.2 y hhead
    have hbefore : (subject.toList.take p).length = p := List.length_take_of_le hp
    refine ⟨subject.toList.take p, (subject.toList.drop p).take n, subject.toList.drop (p + n),
      append_of_places p n, hP, fun run' after' hsubject hP' => ?_,
      fun before' run' after' hsubject hP' => ?_, fun i hi => ?_⟩
    · obtain ⟨hlen', hrun'⟩ := places_of_append hsubject
      rw [hbefore] at hlen' hrun'
      rw [length_piece hlen]
      refine hlongest _ ⟨hlen', ?_⟩
      rw [hrun']
      exact hP'
    · -- no run begins before the leftmost place
      rw [hbefore]
      exact Nat.le_of_not_lt fun hlt => (hbegins hsubject hP').2 (hearlier _ hlt)
    · obtain ⟨hlt, hlookup⟩ := hgroups i hi
      obtain ⟨hfirst, hlast⟩ := hlookup p n
      rw [Regex.find, hmarks]
      dsimp only
      rw [Findings.get?_ofMarks, if_pos hlt, Findings.captureOf_eq_some hfirst hlast,
        ofPlaces_eq_behind]

/-! ## Runs of characters with a property -/

/-- Of all runs of characters with a property, the longest from the leftmost place stands between
characters without it. -/
theorem maximal_run {subject before run after : List Char} {P : Char → Prop}
    (hsubject : subject = before ++ run ++ after) (hrun : ∀ c ∈ run, P c)
    (hlongest : ∀ run' after', subject = before ++ run' ++ after' →
      (run' ≠ [] ∧ ∀ c ∈ run', P c) → run'.length ≤ run.length)
    (hleftmost : ∀ before' run' after', subject = before' ++ run' ++ after' →
      (run' ≠ [] ∧ ∀ c ∈ run', P c) → before.length ≤ before'.length) :
    (∀ c ∈ before, ¬ P c) ∧ ∀ c ∈ after.head?, ¬ P c := by
  refine ⟨fun c hc hP => ?_, fun c hc hP => ?_⟩
  · obtain ⟨pre, post, rfl⟩ := List.append_of_mem hc
    have hle := hleftmost pre [c] (post ++ run ++ after) (by simp [hsubject])
      ⟨List.cons_ne_nil _ _, by simpa using hP⟩
    rw [List.length_append, List.length_cons] at hle
    omega
  · obtain ⟨rest, rfl⟩ := List.head?_eq_some_iff.1 hc
    have hle := hlongest (run ++ [c]) rest (by simp [hsubject])
      ⟨by simp, fun d hd => ?_⟩
    · rw [List.length_append, List.length_singleton] at hle
      omega
    · rcases List.mem_append.1 hd with hd | hd
      · exact hrun d hd
      · rw [List.mem_singleton.1 hd]
        exact hP

namespace Regex.FindsRun

variable {r : Regex} {subject : String} {P : Char → Prop} {groups : List Nat}

/-- One character is found at the first place of the subject that has such a character. -/
theorem first (h : r.FindsRun subject (fun run => ∃ c, P c ∧ run = [c]) groups) :
    ((r.find subject).isMatch = true ↔ ∃ c ∈ subject.toList, P c) ∧
    ((r.find subject).isMatch = true → ∃ before c after, subject.toList = before ++ c :: after ∧
      (∀ b ∈ before, ¬ P b) ∧ P c ∧
      ∀ i ∈ groups, (r.find subject).get? i = some (Capture.behind before [c])) := by
  refine ⟨h.isMatch_iff.trans ⟨fun h => ?_, fun h => ?_⟩, fun hmatch => ?_⟩
  · obtain ⟨before, run, after, hsubject, c, hc, rfl⟩ := h
    exact ⟨c, by simp [hsubject], hc⟩
  · obtain ⟨c, hmem, hc⟩ := h
    obtain ⟨before, after, hsubject⟩ := List.append_of_mem hmem
    exact ⟨before, [c], after, by simp [hsubject], c, hc, rfl⟩
  · obtain ⟨before, run, after, hsubject, ⟨c, hc, rfl⟩, -, hleftmost, hgroups⟩ :=
      h.captured hmatch
    refine ⟨before, c, after, by simpa using hsubject, fun b hb hP => ?_, hc, hgroups⟩
    -- such a character further left would have been found
    obtain ⟨pre, post, rfl⟩ := List.append_of_mem hb
    have hle := hleftmost pre [b] (post ++ [c] ++ after) (by simp [hsubject]) ⟨b, hP, rfl⟩
    rw [List.length_append, List.length_cons] at hle
    omega

/-- Any number of characters is found at the start of the subject, up to the first other one. -/
theorem fromStart (h : r.FindsRun subject (fun run => ∀ c ∈ run, P c) groups) :
    (r.find subject).isMatch = true ∧ ∃ run after, subject.toList = run ++ after ∧
      (∀ c ∈ run, P c) ∧ (∀ c ∈ after.head?, ¬ P c) ∧
      ∀ i ∈ groups, (r.find subject).get? i = some (Capture.behind [] run) := by
  have hmatch := h.isMatch_iff.2 ⟨[], [], subject.toList, rfl, by simp⟩
  obtain ⟨before, run, after, hsubject, hrun, hlongest, hleftmost, hgroups⟩ := h.captured hmatch
  -- no characters at all are found at the start already
  have hbefore : before = [] := by
    have hle := hleftmost [] [] subject.toList rfl (by simp)
    exact List.length_eq_zero_iff.1 (Nat.le_zero.1 hle)
  subst hbefore
  have hmaximal := maximal_run hsubject hrun (fun run' after' h hP => hlongest run' after' h hP.2)
    (fun _ _ _ _ _ => Nat.zero_le _)
  exact ⟨hmatch, run, after, hsubject, hrun, hmaximal.2, hgroups⟩

/-- One or more characters are found where the first of them stand together. -/
theorem maximal (h : r.FindsRun subject (fun run => run ≠ [] ∧ ∀ c ∈ run, P c) groups) :
    ((r.find subject).isMatch = true ↔ ∃ c ∈ subject.toList, P c) ∧
    ((r.find subject).isMatch = true → ∃ before run after,
      subject.toList = before ++ run ++ after ∧ (∀ b ∈ before, ¬ P b) ∧ run ≠ [] ∧
      (∀ c ∈ run, P c) ∧ (∀ c ∈ after.head?, ¬ P c) ∧
      ∀ i ∈ groups, (r.find subject).get? i = some (Capture.behind before run)) := by
  refine ⟨h.isMatch_iff.trans ⟨fun h => ?_, fun h => ?_⟩, fun hmatch => ?_⟩
  · obtain ⟨before, run, after, hsubject, hne, hrun⟩ := h
    obtain ⟨c, hc⟩ := List.exists_mem_of_ne_nil run hne
    exact ⟨c, by simp [hsubject, hc], hrun c hc⟩
  · obtain ⟨c, hmem, hc⟩ := h
    obtain ⟨before, after, hsubject⟩ := List.append_of_mem hmem
    exact ⟨before, [c], after, by simp [hsubject], by simp, by simpa using hc⟩
  · obtain ⟨before, run, after, hsubject, ⟨hne, hrun⟩, hlongest, hleftmost, hgroups⟩ :=
      h.captured hmatch
    obtain ⟨hbefore, hafter⟩ := maximal_run hsubject hrun hlongest hleftmost
    exact ⟨before, run, after, hsubject, hbefore, hne, hrun, hafter, hgroups⟩

end Regex.FindsRun

/-! ## A draft with one call -/

variable {s : Settings}

/-- A draft with one call is rejected for its size only, unless the count in it is too large. -/
theorem compile_of_call [Sizing] {c : Call} (hc : c.Describes)
    (hcount : c.largest ≤ Syntax.maxCount) :
    (∃ r, ((Draft.withSettings s).call c).compile = .ok r) ∨ ∃ pattern limit,
      ((Draft.withSettings s).call c).compile = .error (.patternTooBig pattern limit) := by
  have hdescribes : ∀ x ∈ [c], x.Describes := by simpa using hc
  have hcounts : ∀ x ∈ [c], x.largest ≤ Syntax.maxCount := by simpa using hcount
  have hcompile := Draft.compile_of_expression (expression_of_calls (s := s) hdescribes hcounts)
  rw [show (Draft.withSettings s).call c = (Draft.withSettings s).calls [c] from rfl, hcompile]
  split
  · exact .inl ⟨_, rfl⟩
  · exact .inr ⟨_, _, rfl⟩

/-- A draft with one call has the parts of that call alone. -/
theorem program_of_call [Sizing] {c : Call} (hc : c.Describes) {r : Regex}
    (hr : ((Draft.withSettings s).call c).regex.value = .ok r) :
    r.program = (Part.inSequence (c.partsAfter s.modes [])).expr.program ∧
      r.groupNames.length = c.groups + 1 := by
  rw [Draft.value_regex] at hr
  have hdescribes : ∀ x ∈ [c], x.Describes := by simpa using hc
  constructor
  · rw [program_of_describes hdescribes hr, partsOf, partsOf, List.append_nil]
  · rw [length_groupNames s (fun x hx => (hdescribes x hx).notRaw)
      (fun x hx => (hdescribes x hx).noRepeat) hr,
      sinceClear_eq_self fun x hx => (hdescribes x hx).ne_clear, groupsOf_cons]
    rfl

/-- A capturing call finds the runs that its inside leads through, in its group as in the whole
match. -/
theorem findsRun_captured [Sizing] {subject : String} {P : List Char → Prop} {c : Call}
    (hraw : c.isRaw = false) (hc : c.captures? = some none) (hopt : c.isOptional = false)
    (hinside : ∀ p ≤ subject.toList.length,
      (marking subject.toList).Descends ((c.insideParts s.modes).map Part.expr) p
        fun n => p + n ≤ subject.toList.length ∧ P ((subject.toList.drop p).take n))
    {r : Regex} (hr : ((Draft.withSettings s).call c).regex.value = .ok r) :
    r.FindsRun subject P [0, 1] := by
  have hdescribes : c.Describes := by
    refine ⟨hraw, Call.repeats_of_captures hc, ?_⟩
    rintro rfl
    exact absurd hc (by simp [Call.captures?])
  obtain ⟨hprogram, hnames⟩ := program_of_call hdescribes hr
  have hparts : c.partsAfter s.modes [] = [Part.group 1 none (c.insideParts s.modes)] := by
    rw [Call.partsAfter, hc]
    show [c.capturedPart s.modes 1 none] = _
    rw [Call.capturedPart, hopt, if_neg Bool.false_ne_true]
  have hguarded := guarded_partsAfter s.modes [] c
  rw [hparts] at hprogram hguarded
  refine findsRun_of_offers (m := fun p n => noted 1 p n [(0, p)]) hguarded
    (fun p hp => ?_) hprogram fun i hi => ?_
  · rw [List.map_singleton, through_singleton]
    exact offers_group (hinside p hp) 1 none _
  · rw [hnames, Call.groups, hc, Option.isSome_some, if_pos rfl]
    rcases List.mem_pair.1 hi with rfl | rfl
    · exact ⟨by omega, fun p n => ⟨rfl, rfl⟩⟩
    · exact ⟨by omega, fun p n => ⟨rfl, rfl⟩⟩

/-! ## Texts -/

/-- A text is never rejected as no pattern, whatever it is made of, and is found in a subject
exactly if the subject has a run of characters each of which counts as the same as the one of the
text in its place. What is found, as the whole match and in the group of the text, is the leftmost
such run. In itself a text finds itself. -/
theorem find_text_exactly [Sizing] (s : Settings) (text : String) :
    let d := (Draft.withSettings s).call (.find text none)
    (∀ pattern report, d.regex.value ≠ .error (.invalidPattern pattern report)) ∧
    ∀ r, d.regex.value = .ok r →
      (∀ subject : String, ∃ f, (d.run subject).value = .ok f ∧
        (f.isMatch = true ↔ ∃ before run after, subject.toList = before ++ run ++ after ∧
          List.Forall₂ s.Same run text.toList) ∧
        (f.isMatch = true → ∃ before run after, subject.toList = before ++ run ++ after ∧
          List.Forall₂ s.Same run text.toList ∧
          (∀ before' run' after', subject.toList = before' ++ run' ++ after' →
            List.Forall₂ s.Same run' text.toList → before.length ≤ before'.length) ∧
          f.whole = some (Capture.behind before run) ∧
          f.get? 1 = some (Capture.behind before run))) ∧
      ∃ f c, (d.run text).value = .ok f ∧ f.get? 1 = some c ∧ c.text = text := by
  intro d
  refine ⟨fun pattern report => ?_, fun r hr => ?_⟩
  · have hdescribes : (Call.find text none).Describes := ⟨rfl, rfl, by simp⟩
    rw [Draft.value_regex]
    rcases compile_of_call hdescribes (Nat.zero_le _) with ⟨r, hr⟩ | ⟨pattern', limit, hr⟩
    · rw [hr]
      simp
    · rw [hr]
      simp
  · have hfinds : ∀ subject : String,
        r.FindsRun subject (fun run => List.Forall₂ s.Same run text.toList) [0, 1] := by
      intro subject
      refine findsRun_captured (c := .find text none) rfl rfl rfl (fun p hp => ?_) hr
      exact descends_literals hp text
    refine ⟨fun subject => ?_, ?_⟩
    · refine ⟨r.find subject, Draft.value_run hr subject, (hfinds subject).isMatch_iff, fun h => ?_⟩
      obtain ⟨before, run, after, hsubject, hsame, -, hleftmost, hgroups⟩ :=
        (hfinds subject).captured h
      exact ⟨before, run, after, hsubject, hsame, hleftmost, hgroups 0 (by simp),
        hgroups 1 (by simp)⟩
    · have hself : List.Forall₂ s.Same text.toList text.toList :=
        List.forall₂_same.2 fun c _ => Settings.same_refl c
      have hmatch := (hfinds text).isMatch_iff.2 ⟨[], text.toList, [], by simp, hself⟩
      obtain ⟨before, run, after, hsubject, hsame, -, -, hgroups⟩ := (hfinds text).captured hmatch
      refine ⟨_, _, Draft.value_run hr text, hgroups 1 (by simp), ?_⟩
      -- a run as long as the whole subject is the subject
      have hlen := congrArg List.length hsubject
      rw [List.length_append, List.length_append, hsame.length_eq] at hlen
      have hbefore : before = [] := List.length_eq_zero_iff.1 (by omega)
      have hafter : after = [] := List.length_eq_zero_iff.1 (by omega)
      rw [hbefore, hafter, List.nil_append, List.append_nil] at hsubject
      show String.ofList run = text
      rw [← hsubject, String.ofList_toList]

section

attribute [local instance] Sizing.estimate

/-- A text with brackets, a newline and a character of two bytes finds itself. -/
theorem find_brackets_exactly : ∃ f c, (((Draft.withDelimiter '#').call (.find "é]\n(?-#" none)).run
    "é]\n(?-#").value = .ok f ∧ f.get? 1 = some c ∧ c.text = "é]\n(?-#" := by
  obtain ⟨r, hr⟩ : ∃ r, ((Draft.withDelimiter '#').call (.find "é]\n(?-#" none)).regex.value =
    .ok r := ⟨_, rfl⟩
  exact ((find_text_exactly { delimiter := '#' } "é]\n(?-#").2 r hr).2

end

/-! ## Sets of characters -/

/-- One of the listed characters. -/
theorem findsRun_anyOf [Sizing] {chars : String} (hchars : chars ≠ "") {r : Regex}
    (hr : ((Draft.withSettings s).call (.anyOf chars)).regex.value = .ok r) (subject : String) :
    r.FindsRun subject (fun run => ∃ c, s.Lists chars c ∧ run = [c]) [0] := by
  obtain ⟨hprogram, hnames⟩ := program_of_call ⟨rfl, rfl, by simp⟩ hr
  have hne : ¬ chars.isEmpty = true := fun hempty => hchars (String.isEmpty_iff.1 hempty)
  have hparts : (Call.anyOf chars).partsAfter s.modes [] =
      [Part.ofChars s.modes false chars.toList] := if_neg hne
  rw [hparts] at hprogram
  refine findsRun_of_offers (m := fun p _ => [(0, p)]) (fun q hq => ?_) (fun p hp => ?_)
    hprogram fun i hi => ?_
  · rw [List.mem_singleton.1 hq]
    exact trivial
  · exact (descends_member hp fun c => mem_folded_listed (s := s)).offers _
  · rw [hnames, List.mem_singleton.1 hi]
    exact ⟨Nat.succ_pos _, fun p n => ⟨rfl, rfl⟩⟩

/-- Any characters other than the listed ones. -/
theorem findsRun_anythingBut [Sizing] {chars : String} (hchars : chars ≠ "") {r : Regex}
    (hr : ((Draft.withSettings s).call (.anythingBut chars none)).regex.value = .ok r)
    (subject : String) : r.FindsRun subject (fun run => ∀ c ∈ run, ¬ s.Lists chars c) [0, 1] := by
  obtain ⟨S, hexpr, hS⟩ := exists_notListed (s := s) hchars
  refine findsRun_captured (c := .anythingBut chars none) rfl rfl rfl (fun p hp => ?_) hr
  have h := (descends_run hp hS).1
  rw [← hexpr] at h
  exact h

/-- One or more characters other than the listed ones. -/
theorem findsRun_somethingBut [Sizing] {chars : String} (hchars : chars ≠ "") {r : Regex}
    (hr : ((Draft.withSettings s).call (.somethingBut chars none)).regex.value = .ok r)
    (subject : String) :
    r.FindsRun subject (fun run => run ≠ [] ∧ ∀ c ∈ run, ¬ s.Lists chars c) [0, 1] := by
  obtain ⟨S, hexpr, hS⟩ := exists_notListed (s := s) hchars
  refine findsRun_captured (c := .somethingBut chars none) rfl rfl rfl (fun p hp => ?_) hr
  have h := (descends_run hp hS).2
  rw [← hexpr] at h
  exact h

/-- Listed characters stand for themselves, whatever they are, and all others are their exact
complement. One of them is found at the first place of the subject that has one; any others are
found up to that place; and one or more others are found where the first of them stand together. -/
theorem find_sets_exactly [Sizing] (s : Settings) (chars : String) (hchars : chars ≠ "") :
    (let d := (Draft.withSettings s).call (.anyOf chars)
    ∀ r, d.regex.value = .ok r → ∀ subject : String, ∃ f, (d.run subject).value = .ok f ∧
      (f.isMatch = true ↔ ∃ c ∈ subject.toList, s.Lists chars c) ∧
      (f.isMatch = true → ∃ before c after, subject.toList = before ++ c :: after ∧
        (∀ b ∈ before, ¬ s.Lists chars b) ∧ s.Lists chars c ∧
        f.whole = some (Capture.behind before [c]))) ∧
    (let d := (Draft.withSettings s).call (.anythingBut chars none)
    ∀ r, d.regex.value = .ok r → ∀ subject : String, ∃ f, (d.run subject).value = .ok f ∧
      f.isMatch = true ∧ ∃ run after, subject.toList = run ++ after ∧
        (∀ c ∈ run, ¬ s.Lists chars c) ∧ (∀ c ∈ after.head?, s.Lists chars c) ∧
        f.whole = some (Capture.behind [] run) ∧ f.get? 1 = some (Capture.behind [] run)) ∧
    (let d := (Draft.withSettings s).call (.somethingBut chars none)
    ∀ r, d.regex.value = .ok r → ∀ subject : String, ∃ f, (d.run subject).value = .ok f ∧
      (f.isMatch = true ↔ ∃ c ∈ subject.toList, ¬ s.Lists chars c) ∧
      (f.isMatch = true → ∃ before run after, subject.toList = before ++ run ++ after ∧
        (∀ b ∈ before, s.Lists chars b) ∧ run ≠ [] ∧ (∀ c ∈ run, ¬ s.Lists chars c) ∧
        (∀ c ∈ after.head?, s.Lists chars c) ∧
        f.whole = some (Capture.behind before run) ∧
        f.get? 1 = some (Capture.behind before run))) := by
  refine ⟨fun r hr subject => ?_, fun r hr subject => ?_, fun r hr subject => ?_⟩
  · obtain ⟨hiff, hfirst⟩ := (findsRun_anyOf hchars hr subject).first
    refine ⟨r.find subject, Draft.value_run hr subject, hiff, fun hmatch => ?_⟩
    obtain ⟨before, c, after, hsubject, hbefore, hc, hgroups⟩ := hfirst hmatch
    exact ⟨before, c, after, hsubject, hbefore, hc, hgroups 0 (by simp)⟩
  · obtain ⟨hmatch, run, after, hsubject, hrun, hafter, hgroups⟩ :=
      (findsRun_anythingBut hchars hr subject).fromStart
    exact ⟨r.find subject, Draft.value_run hr subject, hmatch, run, after, hsubject, hrun,
      fun c hc => Classical.not_not.1 (hafter c hc), hgroups 0 (by simp), hgroups 1 (by simp)⟩
  · obtain ⟨hiff, hmaximal⟩ := (findsRun_somethingBut hchars hr subject).maximal
    refine ⟨r.find subject, Draft.value_run hr subject, hiff, fun hmatch => ?_⟩
    obtain ⟨before, run, after, hsubject, hbefore, hne, hrun, hafter, hgroups⟩ := hmaximal hmatch
    exact ⟨before, run, after, hsubject, fun b hb => Classical.not_not.1 (hbefore b hb), hne, hrun,
      fun c hc => Classical.not_not.1 (hafter c hc), hgroups 0 (by simp), hgroups 1 (by simp)⟩

section

attribute [local instance] Sizing.estimate

/-- A caret that is listed last, behind a bracket and a hyphen. -/
theorem find_caret_exactly : ∃ f, (((Draft.withDelimiter '#').call (.anyOf "]-^")).run
    "a^").value = .ok f ∧ f.whole = some ⟨1, 2, "^"⟩ := by
  obtain ⟨r, hr⟩ : ∃ r, ((Draft.withDelimiter '#').call (.anyOf "]-^")).regex.value = .ok r :=
    ⟨_, rfl⟩
  have hlists : ∀ c, ({ delimiter := '#' } : Settings).Lists "]-^" c ↔ c ∈ "]-^".toList :=
    fun c => Settings.lists_iff rfl
  obtain ⟨f, hf, hiff, hwhole⟩ :=
    (find_sets_exactly { delimiter := '#' } "]-^" (by simp)).1 r hr "a^"
  simp only [hlists] at hiff hwhole
  have hmatch := hiff.2 ⟨'^', by simp, by simp⟩
  obtain ⟨before, c, after, hsubject, hbefore, hc, hcapture⟩ := hwhole hmatch
  refine ⟨f, hf, ?_⟩
  match before, hsubject with
  | [], hsubject =>
    obtain ⟨rfl, -⟩ := List.cons.inj hsubject
    exact absurd hc (by decide)
  | [b], hsubject =>
    obtain ⟨rfl, htail⟩ := List.cons.inj hsubject
    obtain ⟨rfl, -⟩ := List.cons.inj htail
    exact hcapture
  | b :: b' :: before, hsubject =>
    have hlen := congrArg List.length hsubject
    simp at hlen

end

end FluentRegex
