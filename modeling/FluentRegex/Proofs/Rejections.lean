import FluentRegex.Machine.Estimate
import FluentRegex.Proofs.Outcome
import FluentRegex.Proofs.Syntax.TwoModes

/-!
# What settings decide about rejections

Whether a text is a pattern, and if not where it is at fault, does not depend on the settings: no
setting switches Unicode off, and Unicode is the only mode that a fault depends on
(`fault_of_settings`). The limit on the size is held against a pattern that has no fault, and
changes nothing about what the pattern means:

> `rejections_under_settings`: faults are the same under all settings, and with a higher limit a
> draft that could be run can still be run and finds the same.
-/

namespace FluentRegex

open Syntax (Carries)

/-- A fault depends on no mode but Unicode. -/
theorem carries_unicode : Carries (fun m m' => m.unicode = m'.unicode) (fun _ _ => True)
    (fun _ _ => True) where
  unicode h := h
  put f on h := by cases f <;> first | exact h | rfl
  same _ := trivial
  folded _ _ := trivial
  compl _ := trivial
  union _ _ := trivial
  empty := trivial
  set _ := trivial
  dot _ := trivial
  look _ _ := trivial
  group _ _ _ _ _ := trivial
  repeated _ _ _ _ _ _ _ := trivial
  choice _ := trivial
  sequence _ := trivial

/-- A text has the same fault under all settings, or a meaning under all of them. -/
theorem fault_of_settings {pattern : List Char} {fault : Syntax.Fault} {s : Settings}
    (h : expression pattern s.modes = .error fault) (s' : Settings) :
    expression pattern s'.modes = .error fault := by
  rw [expression] at h ⊢
  cases hparse : Syntax.parse pattern with
  | error f =>
    rw [hparse] at h
    exact h
  | ok tree =>
    rw [hparse] at h
    dsimp only at h ⊢
    have hmodes : s.modes.unicode = s'.modes.unicode := rfl
    rcases (carries_unicode.expr hmodes tree).outcomes with ⟨f, hl, hr⟩ | ⟨a, b, hl, hr, -⟩
    · rw [hl] at h
      rw [hr]
      exact h
    · rw [hl] at h
      exact absurd h (by simp)

namespace Draft

/-- The same draft under another limit. -/
def withLimit (d : Draft) (limit : Option Nat) : Draft :=
  { d with settings := { d.settings with sizeLimit := limit } }

variable [Sizing] {d : Draft} {e : Rejection}

/-- Why a draft is rejected: its text has a fault, or it means an expression whose program is beyond
the limit in force. -/
theorem rejected_cases (h : d.compile = .error e) :
    (∃ fault, expression d.text.toList d.settings.modes = .error fault ∧
      e = .invalidPattern d.text (fault.report d.text.toList)) ∨
    ∃ expr, expression d.text.toList d.settings.modes = .ok expr ∧
      d.settings.limit < Sizing.bytes expr.program ∧
        e = .patternTooBig d.text d.settings.limit := by
  cases hexpr : expression d.text.toList d.settings.modes with
  | error fault =>
    rw [compile_of_fault hexpr] at h
    exact .inl ⟨fault, rfl, (Except.error.inj h).symm⟩
  | ok expr =>
    rw [compile_of_expression hexpr] at h
    split at h
    · exact absurd h (by simp)
    · next hsize => exact .inr ⟨expr, rfl, Nat.lt_of_not_le hsize, (Except.error.inj h).symm⟩

/-- A draft that is no pattern is none under other settings either, for the same reason. -/
theorem invalidPattern_of_settings {pattern report : String}
    (h : d.compile = .error (.invalidPattern pattern report)) (s : Settings) :
    ({ d with settings := s } : Draft).compile = .error (.invalidPattern pattern report) := by
  rcases rejected_cases h with ⟨fault, hfault, he⟩ | ⟨_, -, -, he⟩
  · rw [he]
    exact compile_of_fault (d := { d with settings := s }) (fault_of_settings hfault s)
  · exact absurd he (by simp)

/-- A draft that can be run can be run under a higher limit, as the same regular expression. -/
theorem compile_of_limit_le {l l' : Option Nat}
    (hle : l.getD Settings.defaultSizeLimit ≤ l'.getD Settings.defaultSizeLimit) {r : Regex}
    (h : (d.withLimit l).compile = .ok r) : (d.withLimit l').compile = .ok r := by
  obtain ⟨expr, hexpr, rfl⟩ := expression_of_compile h
  have hexpr' : expression (d.withLimit l').text.toList (d.withLimit l').settings.modes =
      .ok expr := hexpr
  rw [compile_of_expression hexpr] at h
  rw [compile_of_expression hexpr']
  split at h
  · next hsize => exact if_pos (Nat.le_trans hsize hle)
  · exact absurd h (by simp)

/-- A draft that is too big is so under a lower limit. -/
theorem patternTooBig_of_limit_le {l l' : Option Nat}
    (hle : l.getD Settings.defaultSizeLimit ≤ l'.getD Settings.defaultSizeLimit)
    {pattern : String} {limit : Nat}
    (h : (d.withLimit l').compile = .error (.patternTooBig pattern limit)) :
    (d.withLimit l).compile =
      .error (.patternTooBig d.text (l.getD Settings.defaultSizeLimit)) := by
  rcases rejected_cases h with ⟨_, -, he⟩ | ⟨expr, hexpr, hsize, -⟩
  · exact absurd he (by simp)
  · have hexpr' : expression (d.withLimit l).text.toList (d.withLimit l).settings.modes =
        .ok expr := hexpr
    rw [compile_of_expression hexpr']
    exact if_neg (Nat.not_le_of_lt (Nat.lt_of_le_of_lt hle hsize))

end Draft

/-- Settings have no part in what a fault is: a draft that is no pattern under some settings is none
under any others, with the same report. The limit only decides whether a pattern is too big: what
can be run under some limit can be run under a higher one, with the same groups and the same
findings, what is too big under some limit is too big under a lower one, and the rejection names the
limit in force. -/
theorem rejections_under_settings [Sizing] (d : Draft) :
    (∀ (s s' : Settings) (pattern report : String),
      ({ d with settings := s } : Draft).regex.value = .error (.invalidPattern pattern report) ↔
        ({ d with settings := s' } : Draft).regex.value =
          .error (.invalidPattern pattern report)) ∧
    (∀ l l' : Option Nat, l.getD 10485760 ≤ l'.getD 10485760 →
      (∀ r, (d.withLimit l).regex.value = .ok r →
        ∃ r', (d.withLimit l').regex.value = .ok r' ∧ r'.groupCount = r.groupCount ∧
          r'.groupNames = r.groupNames ∧ ∀ subject, ∃ f,
            ((d.withLimit l).run subject).value = .ok f ∧
              ((d.withLimit l').run subject).value = .ok f) ∧
      ∀ pattern limit, (d.withLimit l').regex.value = .error (.patternTooBig pattern limit) →
        ∃ limit', (d.withLimit l).regex.value = .error (.patternTooBig pattern limit')) ∧
    ∀ pattern limit, d.regex.value = .error (.patternTooBig pattern limit) →
      pattern = d.text ∧ limit = d.settings.sizeLimit.getD 10485760 := by
  refine ⟨fun s s' pattern report => ?_, fun l l' hle => ⟨fun r hr => ?_, ?_⟩, ?_⟩
  · rw [Draft.value_regex, Draft.value_regex]
    exact ⟨fun h => Draft.invalidPattern_of_settings h s',
      fun h => Draft.invalidPattern_of_settings h s⟩
  · have hr' : (d.withLimit l').regex.value = .ok r := by
      rw [Draft.value_regex] at hr ⊢
      exact Draft.compile_of_limit_le hle hr
    exact ⟨r, hr', rfl, rfl,
      fun subject => ⟨_, Draft.value_run hr subject, Draft.value_run hr' subject⟩⟩
  · intro pattern limit h
    rw [Draft.value_regex] at h ⊢
    have hpattern : pattern = d.text := by
      rcases Draft.rejected_cases h with ⟨_, -, he⟩ | ⟨_, -, -, he⟩
      · exact absurd he (by simp)
      · exact (Rejection.patternTooBig.inj he).1
    rw [hpattern]
    exact ⟨_, Draft.patternTooBig_of_limit_le hle h⟩
  · intro pattern limit h
    rw [Draft.value_regex] at h
    rcases Draft.rejected_cases h with ⟨_, -, he⟩ | ⟨_, -, -, he⟩
    · exact absurd he (by simp)
    · exact Rejection.patternTooBig.inj he

section

attribute [local instance] Sizing.estimate

/-- A pattern at fault under two settings, and one that fits under a generous limit and not in a few
bytes. -/
theorem rejections_around_limit :
    (∃ report, (Draft.mk "é)" { multiLine := true }).regex.value =
      .error (.invalidPattern "é)" report)) ∧
    (∃ r, ((Draft.mk "é$" {}).withLimit none).regex.value = .ok r) ∧
    ∃ pattern limit, ((Draft.mk "é$" {}).withLimit (some 1)).regex.value =
      .error (.patternTooBig pattern limit) := by
  have hfits : ∃ r, ((Draft.mk "é$" {}).withLimit (some 1000000)).regex.value = .ok r :=
    ⟨_, rfl⟩
  have hbig : ((Draft.mk "é$" {}).withLimit (some 10)).regex.value =
      .error (.patternTooBig "é$" 10) := rfl
  have hfault := (rejections_under_settings (Draft.mk "é)" {})).1 {} { multiLine := true }
  refine ⟨⟨_, (hfault _ _).1 rfl⟩, ?_, ?_⟩
  · obtain ⟨r, hr⟩ := hfits
    obtain ⟨r', hr', -⟩ :=
      ((rejections_under_settings (Draft.mk "é$" {})).2.1 (some 1000000) none (by decide)).1 r hr
    exact ⟨r', hr'⟩
  · exact ⟨_, ((rejections_under_settings (Draft.mk "é$" {})).2.1 (some 1) (some 10)
      (by decide)).2 _ _ hbig⟩

end

end FluentRegex
