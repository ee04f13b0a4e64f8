import FluentRegex.Draft.Regex
import FluentRegex.Proofs.Machine.Complete

/-!
# What becomes of a draft

What running a draft comes to depends on two things only, the expression that its text means under
its settings and the limit on the size of its program (`compile_of_expression`). So drafts with
different texts can be `Alike`: both are rejected for the same kind of reason, or both can be run,
with the same table of groups and the same findings in every subject.

> `alike_of_expression`: drafts that mean the same expression under the same limit are alike.
-/

namespace FluentRegex

/-- The same settings where lines count, or do not. -/
def Settings.withLines (s : Settings) (on : Bool) : Settings := { s with multiLine := on }

namespace Regex

/-- What is found depends on the table of groups and on the program. -/
theorem find_congr {r r' : Regex} (hnames : r.groupNames = r'.groupNames)
    (hprogram : r.program = r'.program) (subject : String) : r.find subject = r'.find subject := by
  rw [find, find, hnames, hprogram]

theorem isMatch_find (r : Regex) (subject : String) :
    (r.find subject).isMatch = true ↔ findMarks r.program subject.toList.toArray ≠ none := by
  rw [Regex.find]
  cases findMarks r.program subject.toList.toArray with
  | none => exact ⟨fun h => absurd h Bool.false_ne_true, fun h => absurd rfl h⟩
  | some marks => exact ⟨fun _ => by simp, fun _ => rfl⟩

end Regex

namespace Draft

variable [Sizing] {d d' : Draft} {e : Expr}

/-! ## Running one draft -/

theorem value_regex (d : Draft) : d.regex.value = d.compile := by
  rw [regex]
  cases h : d.compile with
  | ok r => rfl
  | error e => rfl

theorem value_isMatch (d : Draft) (subject : String) :
    (d.isMatch subject).value = d.regex.value.map (·.isMatch subject) := rfl

/-- A draft that can be run finds what its regular expression finds. -/
theorem value_run {r : Regex} (hr : d.regex.value = .ok r) (subject : String) :
    (d.run subject).value = .ok (r.find subject) := by
  rw [Draft.run]
  dsimp only
  rw [hr]

theorem find_of_run {subject : String} {f : Findings} (hf : (d.run subject).value = .ok f) :
    ∃ r, d.regex.value = .ok r ∧ r.find subject = f := by
  cases hr : d.regex.value with
  | ok r =>
    rw [value_run hr] at hf
    exact ⟨r, rfl, Except.ok.inj hf⟩
  | error e =>
    rw [Draft.run] at hf
    dsimp only at hf
    rw [hr] at hf
    exact absurd hf (by simp)

/-- A draft with a meaning is rejected only for its size. -/
theorem compile_of_expression (h : expression d.text.toList d.settings.modes = .ok e) :
    d.compile = if Sizing.bytes e.program ≤ d.settings.limit then
        .ok ⟨d.text, e.groupNames, e.program⟩
      else .error (.patternTooBig d.text d.settings.limit) := by
  rw [Draft.compile, Regex.compile, h, ← Sizing.bytesOf_eq]

/-- A draft without a meaning is rejected as no pattern. -/
theorem compile_of_fault {fault : Syntax.Fault}
    (h : expression d.text.toList d.settings.modes = .error fault) :
    d.compile = .error (.invalidPattern d.text (fault.report d.text.toList)) := by
  rw [Draft.compile, Regex.compile, h]

/-- A draft that can be run has a meaning, and its regular expression is made of that. -/
theorem expression_of_compile {r : Regex} (hr : d.compile = .ok r) :
    ∃ e, expression d.text.toList d.settings.modes = .ok e ∧
      r = ⟨d.text, e.groupNames, e.program⟩ := by
  cases h : expression d.text.toList d.settings.modes with
  | error fault =>
    rw [compile_of_fault h] at hr
    exact absurd hr (by simp)
  | ok e =>
    rw [compile_of_expression h] at hr
    split at hr
    · exact ⟨e, rfl, (Except.ok.inj hr).symm⟩
    · exact absurd hr (by simp)

/-- A draft that can be run has a match exactly if what it means can be passed somewhere. -/
theorem isMatch_iff_passes (he : expression d.text.toList d.settings.modes = .ok e) {r : Regex}
    (hr : d.regex.value = .ok r) {subject : String} : (d.isMatch subject).value = .ok true ↔
      ∃ p ≤ subject.toList.length, ∃ y, (testing subject.toList).Passes e (p, ()) y := by
  rw [value_isMatch, hr, Except.map]
  rw [value_regex] at hr
  obtain ⟨e', he', rfl⟩ := expression_of_compile hr
  obtain rfl : e = e' := Except.ok.inj (he.symm.trans he')
  rw [← hasMatch_iff, Except.ok.injEq]
  exact Iff.rfl

/-! ## Drafts that come to the same -/

/-- Two drafts are rejected for the same kind of reason, or can be run and find the same. -/
inductive Alike (d d' : Draft) : Prop
  | invalidPattern (h : ∃ report, d.regex.value = .error (.invalidPattern d.text report))
      (h' : ∃ report, d'.regex.value = .error (.invalidPattern d'.text report))
  | patternTooBig (limit : Nat) (h : d.regex.value = .error (.patternTooBig d.text limit))
      (h' : d'.regex.value = .error (.patternTooBig d'.text limit))
  | found (r r' : Regex) (h : d.regex.value = .ok r) (h' : d'.regex.value = .ok r')
      (count : r.groupCount = r'.groupCount) (names : r.groupNames = r'.groupNames)
      (same : ∀ subject, ∃ f, (d.run subject).value = .ok f ∧ (d'.run subject).value = .ok f)

/-- Drafts that mean the same under the same limit come to the same. -/
theorem alike_of_expression (hlimit : d.settings.limit = d'.settings.limit)
    (h : expression d.text.toList d.settings.modes = .ok e)
    (h' : expression d'.text.toList d'.settings.modes = .ok e) : d.Alike d' := by
  have hd := compile_of_expression h
  have hd' := compile_of_expression h'
  rw [← value_regex] at hd hd'
  rw [← hlimit] at hd'
  by_cases hfits : Sizing.bytes e.program ≤ d.settings.limit
  · rw [if_pos hfits] at hd hd'
    refine .found _ _ hd hd' rfl rfl fun subject => ?_
    refine ⟨_, value_run hd subject, ?_⟩
    rw [value_run hd']
    exact congrArg Except.ok (Regex.find_congr rfl rfl subject)
  · rw [if_neg hfits] at hd hd'
    exact .patternTooBig _ hd hd'

/-- Drafts without a meaning come to the same. -/
theorem alike_of_faults {fault fault' : Syntax.Fault}
    (h : expression d.text.toList d.settings.modes = .error fault)
    (h' : expression d'.text.toList d'.settings.modes = .error fault') : d.Alike d' := by
  have hd := compile_of_fault h
  have hd' := compile_of_fault h'
  rw [← value_regex] at hd hd'
  exact .invalidPattern ⟨_, hd⟩ ⟨_, hd'⟩

end Draft

end FluentRegex
