import FluentRegex.Proofs.Machine.Records
import FluentRegex.Proofs.Rejections
import FluentRegex.Proofs.Representation

/-!
# The ways to run a draft agree

A draft can be made ready, run for its captures, and asked whether there is a match, as a Boolean or
as a status. Each way makes the regular expression anew, and the last two use a search that records
nothing. All of them give one account of a subject:

> `ways_to_run_agree`: they fail together, for one reason that names the text of the draft, and else
> all of them see a match or none does.
-/

namespace FluentRegex

/-- The test for a match sees one exactly if the search with captures finds one. -/
theorem Regex.isMatch_eq (r : Regex) (subject : String) :
    r.isMatch subject = (r.find subject).isMatch := by
  rw [Bool.eq_iff_iff, isMatch_find, isMatch, hasMatch_eq, Option.isSome_iff_ne_none]

/-- Findings of a match hold the whole match, and those without a match hold nothing at all. -/
theorem Findings.WellFormed.isMatch_iff {f : Findings} {r : Regex} {subject : String}
    (h : f.WellFormed r subject) : (f.isMatch = true ↔ f.whole ≠ Option.none) ∧
      (f.isMatch = true ↔ 0 < f.length) ∧ (f.isMatch = true ↔ f.toList ≠ []) := by
  cases hmatch : f.isMatch with
  | false =>
    obtain ⟨-, -, hwhole, hlength, -, hlist⟩ := h.noMatch hmatch
    rw [hwhole, hlength, hlist]
    simp
  | true =>
    obtain ⟨w, hwhole, -⟩ := h.whole hmatch
    have hmem : (Key.index 0, w.text) ∈ f.toList := (h.indexText 0 w.text).2 ⟨w, hwhole, rfl⟩
    have hlength : 0 < f.length := by
      refine List.length_pos_iff.2 fun hnil => ?_
      rw [Findings.whole, Findings.get?, hnil] at hwhole
      exact absurd hwhole (by simp)
    refine ⟨?_, ?_, ?_⟩
    · rw [hwhole]
      simp
    · exact iff_of_true rfl hlength
    · exact iff_of_true rfl (List.ne_nil_of_mem hmem)

namespace Draft

variable [Sizing] {d : Draft}

/-! ## One way to run a draft after the other -/

theorem value_status (d : Draft) (subject : String) :
    (d.status subject).value =
      (d.isMatch subject).value.map fun b => if b then .isMatch else .noMatch := rfl

/-- A draft that is rejected is rejected however it is run. -/
theorem values_of_error {e : Rejection} (h : d.regex.value = .error e) (subject : String) :
    (d.run subject).value = .error e ∧ (d.isMatch subject).value = .error e ∧
      (d.status subject).value = .error e := by
  rw [value_status, value_isMatch, h]
  refine ⟨?_, rfl, rfl⟩
  rw [run]
  dsimp only
  rw [h]

/-- A draft that can be run sees the same with and without captures. -/
theorem values_of_ok {r : Regex} (h : d.regex.value = .ok r) (subject : String) :
    (d.run subject).value = .ok (r.find subject) ∧
      (d.isMatch subject).value = .ok (r.find subject).isMatch ∧
      (d.status subject).value = .ok (r.find subject).status := by
  rw [value_status, value_isMatch, h, Except.map, Except.map, Regex.isMatch_eq]
  refine ⟨value_run h subject, rfl, ?_⟩
  rw [Findings.isMatch]
  cases (r.find subject).status <;> rfl

end Draft

/-- Making a draft ready, running it, and asking for a match or for a status, on any subjects, are
all rejected for the same reason or all succeed. The reason is a fault of the draft's text or a size
beyond the limit in force. On success the status, the answer and the findings agree on whether there
is a match: there is one exactly if a whole match, some capture and some entry are found. -/
theorem ways_to_run_agree [Sizing] (d : Draft) :
    (∃ e, ((∃ report, e = .invalidPattern d.text report) ∨
        e = .patternTooBig d.text (d.settings.sizeLimit.getD 10485760)) ∧
      d.regex.value = .error e ∧ ∀ subject, (d.run subject).value = .error e ∧
        (d.isMatch subject).value = .error e ∧ (d.status subject).value = .error e) ∨
    ∃ r, d.regex.value = .ok r ∧ ∀ subject, ∃ f b st, (d.run subject).value = .ok f ∧
      (d.isMatch subject).value = .ok b ∧ (d.status subject).value = .ok st ∧
      (st = .isMatch ↔ b = true) ∧ (b = true ↔ f.isMatch = true) ∧
      (f.isMatch = true ↔ f.whole ≠ none) ∧ (f.isMatch = true ↔ 0 < f.length) ∧
      (f.isMatch = true ↔ f.toList ≠ []) := by
  cases hvalue : d.regex.value with
  | error e =>
    refine .inl ⟨e, ?_, rfl, Draft.values_of_error hvalue⟩
    rw [Draft.value_regex] at hvalue
    rcases Draft.rejected_cases hvalue with ⟨fault, -, he⟩ | ⟨-, -, -, he⟩
    · exact .inl ⟨_, he⟩
    · exact .inr he
  | ok r =>
    refine .inr ⟨r, rfl, fun subject => ?_⟩
    obtain ⟨hrun, hmatch, hstatus⟩ := Draft.values_of_ok hvalue subject
    obtain ⟨_, -, hwell⟩ := wellFormed_of_run d subject hrun
    refine ⟨_, _, _, hrun, hmatch, hstatus, ?_, Iff.rfl, hwell.isMatch_iff⟩
    exact beq_iff_eq.symm

end FluentRegex
