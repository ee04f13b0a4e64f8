import FluentRegex.Machine.Estimate
import FluentRegex.Proofs.Chain.SingleCall
import FluentRegex.Proofs.Expr.Captures
import FluentRegex.Proofs.Syntax.Range

/-!
# What a range finds

The bounds of a range are taken as they are. Where neither has a meaning of its own, the range
stands for all characters from the one to the other, by code point, whatever they are: control
characters, characters of several bytes, or those on both sides of the gap that is left for
surrogates.

> `find_range_exactly`: one such character is found at the first place of the subject that has one,
> and so many of them, if a count follows, at the first place where so many stand together.

A range that runs backwards stands for nothing, and is rejected.
-/

namespace FluentRegex

open Machine Text

/-! ## Drafts that are read as one part -/

section

variable [Sizing] {d : Draft} {q : Part} {cond : Prop} [Decidable cond]
  (h : d.Reads (if cond then some ⟨[q], []⟩ else none))
include h

/-- A draft that is read as one part, if at all, is no pattern exactly if it is refused. -/
theorem invalidPattern_iff_of_reads (hdepth : q.depth ≤ Syntax.maxDepth) :
    (∃ pattern report, d.regex.value = .error (.invalidPattern pattern report)) ↔ ¬ cond := by
  by_cases hcond : cond
  · rw [if_pos hcond] at h
    refine ⟨fun hinvalid => ?_, fun hnot => absurd hcond hnot⟩
    obtain ⟨pattern, report, hinvalid⟩ := hinvalid
    exact absurd hinvalid (Draft.ReadsAs.ne_invalidPattern h hdepth pattern report)
  · rw [if_neg hcond] at h
    rw [Draft.value_regex]
    exact ⟨fun _ => hcond, fun _ => Draft.Unreadable.compile h⟩

/-- Such a draft finds the runs of characters that its part leads through. -/
theorem findsRun_of_reads (hguarded : q.expr.Guarded) {subject : String} {P : List Char → Prop}
    (hdescends : ∀ p ≤ subject.toList.length, (marking subject.toList).Descends [q.expr] p
      fun n => p + n ≤ subject.toList.length ∧ P ((subject.toList.drop p).take n))
    {r : Regex} (hr : d.regex.value = .ok r) : r.FindsRun subject P [0] := by
  rw [Draft.value_regex] at hr
  obtain ⟨a, ha, hnames, hprogram⟩ := h.of_compile hr
  split at ha
  · obtain rfl := Option.some.inj ha
    refine findsRun_of_offers (m := fun p _ => [(0, p)]) (fun q' hq' => ?_)
      (fun p hp => ?_) hprogram fun i hi => ?_
    · rw [List.mem_singleton.1 hq']
      exact hguarded
    · exact (hdescends p hp).offers _
    · rw [hnames, List.mem_singleton.1 hi]
      exact ⟨Expr.length_groupNames_pos _, fun p n => ⟨rfl, rfl⟩⟩
  · exact absurd ha (by simp)

end

/-- A count behind one part repeats it, unless the count is too large. -/
theorem Assembly.step_times_single (m : Modes) (q : Part) (names : List (Option String)) (n : Nat) :
    Assembly.step m ⟨[q], names⟩ (.times n) =
      if n ≤ Syntax.maxCount then some ⟨[q.repeated n (some n)], names⟩ else none := by
  rw [step, Call.largest, Call.repeats?]
  by_cases hn : n ≤ Syntax.maxCount
  · rw [if_pos hn, if_neg (Nat.not_lt_of_le hn)]
    rfl
  · rw [if_neg hn, if_pos (Nat.lt_of_not_le hn)]

/-! ## Drafts of a range -/

/-- A draft of a range alone. -/
def Draft.ofRange (s : Settings) (lo hi : Char) : Draft :=
  (Draft.withSettings s).call (.range (String.singleton lo) (some (String.singleton hi)))

section

variable {s : Settings} {lo hi : Char}

theorem text_ofRange (s : Settings) (lo hi : Char) :
    (Draft.ofRange s lo hi).text.toList = ['[', lo, '-', hi, ']'] := by
  have hsome : (String.singleton hi).isEmpty = false := by simp
  rw [Draft.ofRange, Draft.call_of_ne_clear (by simp), Call.addition, hsome]
  simp [Draft.withSettings, classOf]

/-- The characters of a range are those between its bounds. -/
theorem mem_range (hcase : s.caseInsensitive = false) (c : Char) :
    c ∈ Syntax.folded s.modes (CharSet.ofRange lo hi) ↔ lo ≤ c ∧ c ≤ hi := by
  rw [folded_eq hcase, CharSet.mem_ofRange]
  exact Iff.rfl

variable (hlo : isMeta lo = false) (hhi : isMeta hi = false)
include hlo hhi

/-- The range is one part if it runs forwards, and is refused otherwise. -/
theorem reads_ofRange : (Draft.ofRange s lo hi).Reads
    (if lo ≤ hi then some ⟨[Part.range s.modes lo hi], []⟩ else none) := by
  have hstart : ∀ rest : List Char,
      (Syntax.Progress.start ((Draft.ofRange s lo hi).text.toList ++ rest)).cursor.At
        ('[' :: lo :: '-' :: hi :: ']' :: rest) := by
    intro rest
    rw [text_ofRange]
    exact ⟨rfl, rfl⟩
  split
  · next hle =>
    refine ⟨fun rest _ => ?_, ?_⟩
    · obtain ⟨q, hq⟩ := Syntax.Progress.adds_range hlo hhi (hstart rest) (m := s.modes) rfl hle
      exact ⟨_, q, hq, rfl, fun n => ⟨fun h => absurd h List.not_mem_nil,
        fun h => absurd h List.not_mem_nil⟩⟩
    · -- neither bound is a parenthesis, so the text gives no name
      have hopen : openings (Draft.ofRange s lo hi).text.toList = [] := by
        have hlo' : '(' ≠ lo := (ne_of_isMeta hlo (by decide)).symm
        have hhi' : '(' ≠ hi := (ne_of_isMeta hhi (by decide)).symm
        exact openings_of_not_mem (by simp [text_ofRange, hlo', hhi'])
      refine ⟨fun o ho => ?_, fun n hn => absurd hn List.not_mem_nil,
        fun n hn => absurd hn List.not_mem_nil⟩
      rw [hopen] at ho
      exact absurd ho List.not_mem_nil
  · next hlt =>
    exact fun rest _ => Syntax.Progress.refuses_range hlo hhi (hstart rest) (Char.not_le.1 hlt)

/-- A count behind a range that runs forwards repeats it, unless the count is too large. -/
theorem reads_ofRange_times (n : Nat) : ((Draft.ofRange s lo hi).call (.times n)).Reads
    (if lo ≤ hi ∧ n ≤ Syntax.maxCount then
      some ⟨[(Part.range s.modes lo hi).repeated n (some n)], []⟩ else none) := by
  have hreads := reads_ofRange (s := s) hlo hhi
  by_cases hle : lo ≤ hi
  · rw [if_pos hle] at hreads
    have hcall := Draft.ReadsAs.call hreads (c := .times n) rfl (by simp)
    rw [Assembly.step_times_single] at hcall
    simpa only [hle, true_and] using hcall
  · rw [if_neg hle] at hreads
    rw [if_neg fun h => hle h.1]
    exact Draft.Unreadable.call hreads rfl (by simp)

/-! ## What is found -/

variable [Sizing] (hcase : s.caseInsensitive = false)
include hcase

/-- One character of the range. -/
theorem findsRun_ofRange {r : Regex} (hr : (Draft.ofRange s lo hi).regex.value = .ok r)
    (subject : String) :
    r.FindsRun subject (fun run => ∃ c, (lo ≤ c ∧ c ≤ hi) ∧ run = [c]) [0] := by
  refine findsRun_of_reads (reads_ofRange hlo hhi) trivial (fun p hp => ?_) hr
  exact descends_member hp (mem_range hcase)

/-- So many characters of the range, one after the other. -/
theorem findsRun_ofRange_times {n : Nat} {r : Regex}
    (hr : ((Draft.ofRange s lo hi).call (.times n)).regex.value = .ok r) (subject : String) :
    r.FindsRun subject (fun run => run.length = n ∧ ∀ c ∈ run, lo ≤ c ∧ c ≤ hi) [0] := by
  refine findsRun_of_reads (reads_ofRange_times hlo hhi n)
    (Expr.guarded_repeated trivial (by simp)) (fun p hp => ?_) hr
  exact descends_exactly_members hp (mem_range hcase) n

end

/-- A range with bounds that have no meaning of their own is no pattern exactly if it runs
backwards. Otherwise it finds the first character of the subject that is one of those from the lower
bound to the upper one. With a count behind it, it finds so many of them: the leftmost run of that
length, and one only if the subject has one. -/
theorem find_range_exactly [Sizing] (s : Settings) (hcase : s.caseInsensitive = false)
    (lo hi : Char) (hlo : isMeta lo = false) (hhi : isMeta hi = false) :
    (let d := Draft.ofRange s lo hi
    ((∃ pattern report, d.regex.value = .error (.invalidPattern pattern report)) ↔ hi < lo) ∧
    ∀ r, d.regex.value = .ok r → ∀ subject : String, ∃ f, (d.run subject).value = .ok f ∧
      (f.isMatch = true ↔ ∃ c ∈ subject.toList, lo ≤ c ∧ c ≤ hi) ∧
      (f.isMatch = true → ∃ before c after, subject.toList = before ++ c :: after ∧
        (∀ b ∈ before, ¬ (lo ≤ b ∧ b ≤ hi)) ∧ (lo ≤ c ∧ c ≤ hi) ∧
        f.whole = some (Capture.behind before [c]))) ∧
    ∀ n, let d := (Draft.ofRange s lo hi).call (.times n)
    ((∃ pattern report, d.regex.value = .error (.invalidPattern pattern report)) ↔
      hi < lo ∨ Syntax.maxCount < n) ∧
    ∀ r, d.regex.value = .ok r → ∀ subject : String, ∃ f, (d.run subject).value = .ok f ∧
      (f.isMatch = true ↔ ∃ before run after, subject.toList = before ++ run ++ after ∧
        run.length = n ∧ ∀ c ∈ run, lo ≤ c ∧ c ≤ hi) ∧
      (f.isMatch = true → ∃ before run after, subject.toList = before ++ run ++ after ∧
        (run.length = n ∧ ∀ c ∈ run, lo ≤ c ∧ c ≤ hi) ∧
        (∀ before' run' after', subject.toList = before' ++ run' ++ after' →
          (run'.length = n ∧ ∀ c ∈ run', lo ≤ c ∧ c ≤ hi) → before.length ≤ before'.length) ∧
        f.whole = some (Capture.behind before run)) := by
  have hdepth : 2 ≤ Syntax.maxDepth := by decide
  refine ⟨⟨?_, fun r hr subject => ?_⟩, fun n => ⟨?_, fun r hr subject => ?_⟩⟩
  · rw [invalidPattern_iff_of_reads (reads_ofRange hlo hhi) (Nat.le_of_succ_le hdepth), Char.not_le]
  · obtain ⟨hiff, hfirst⟩ := (findsRun_ofRange hlo hhi hcase hr subject).first
    refine ⟨r.find subject, Draft.value_run hr subject, hiff, fun hmatch => ?_⟩
    obtain ⟨before, c, after, hsubject, hbefore, hc, hgroups⟩ := hfirst hmatch
    exact ⟨before, c, after, hsubject, hbefore, hc, hgroups 0 (by simp)⟩
  · rw [invalidPattern_iff_of_reads (reads_ofRange_times hlo hhi n) hdepth, not_and_or,
      Char.not_le, Nat.not_le]
  · have hfinds := findsRun_ofRange_times hlo hhi hcase hr subject
    refine ⟨r.find subject, Draft.value_run hr subject, hfinds.isMatch_iff, fun hmatch => ?_⟩
    obtain ⟨before, run, after, hsubject, hrun, -, hleftmost, hgroups⟩ := hfinds.captured hmatch
    exact ⟨before, run, after, hsubject, hrun, hleftmost, hgroups 0 (by simp)⟩

section

attribute [local instance] Sizing.estimate

/-- Two characters of a range that goes on behind the gap for surrogates. -/
theorem find_across_surrogates :
    ∃ f, (((Draft.ofRange {} '\ud7ff' '\ue000').call (.times 2)).run
        "zé\ue000\ud7ff").value = .ok f ∧
      f.whole = some ⟨3, 9, "\ue000\ud7ff"⟩ := by
  obtain ⟨r, hr⟩ : ∃ r, ((Draft.ofRange {} '\ud7ff' '\ue000').call (.times 2)).regex.value =
    .ok r := ⟨_, rfl⟩
  obtain ⟨-, hfinds⟩ := (find_range_exactly {} rfl '\ud7ff' '\ue000' (by decide) (by decide)).2 2
  obtain ⟨f, hf, hiff, hwhole⟩ := hfinds r hr "zé\ue000\ud7ff"
  have hrange : ∀ c ∈ ['\ue000', '\ud7ff'], '\ud7ff' ≤ c ∧ c ≤ '\ue000' := by
    intro c hc
    rcases List.mem_pair.1 hc with rfl | rfl
    · exact ⟨by decide, Char.le_refl _⟩
    · exact ⟨Char.le_refl _, by decide⟩
  have hmatch := hiff.2 ⟨['z', 'é'], ['\ue000', '\ud7ff'], [], rfl, rfl, hrange⟩
  obtain ⟨before, run, after, hsubject, ⟨hlen, hrun⟩, -, hcapture⟩ := hwhole hmatch
  refine ⟨f, hf, ?_⟩
  obtain ⟨c, d, rfl⟩ := List.length_eq_two.1 hlen
  have hc := hrun c List.mem_cons_self
  match before, hsubject with
  | [], hsubject =>
    obtain ⟨rfl, -⟩ := List.cons.inj hsubject
    exact absurd hc (by decide)
  | [b], hsubject =>
    obtain ⟨-, htail⟩ := List.cons.inj hsubject
    obtain ⟨rfl, -⟩ := List.cons.inj htail
    exact absurd hc (by decide)
  | [b, b'], hsubject =>
    obtain ⟨rfl, rfl, rfl, rfl, -⟩ := by simpa using hsubject
    exact hcapture
  | b :: b' :: b'' :: before, hsubject =>
    have hlen := congrArg List.length hsubject
    simp at hlen
    omega

end

end FluentRegex
