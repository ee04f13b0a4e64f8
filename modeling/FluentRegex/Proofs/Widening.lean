import FluentRegex.Machine.Estimate
import FluentRegex.Proofs.Expr.Language
import FluentRegex.Proofs.Outcome
import FluentRegex.Proofs.Syntax.TwoModes

/-!
# Wider modes lose no match

Where lines count, the ends of the text still count as ends of lines, and a dot that takes in line
feeds still takes in all else. No part of a pattern asks that another should not match, so a pattern
that is read in wider modes can be passed wherever it could be before (`carries_widening`). Flags in
the pattern override both modes alike.

> `match_kept_when_widened`: a subject that matches still matches once lines count, or once the dot
> takes in line feeds.
-/

namespace FluentRegex

open Syntax (Carries)

/-- The second modes are the first ones, except that lines may count and that the dot may take in
line feeds. -/
structure Modes.Widens (m m' : Modes) : Prop where
  caseInsensitive : m.caseInsensitive = m'.caseInsensitive
  multiLine : m.multiLine = true → m'.multiLine = true
  dotAll : m.dotAll = true → m'.dotAll = true
  unicode : m.unicode = m'.unicode
  crlf : m.crlf = m'.crlf

/-- Wherever the first expression can be passed, the second one can be passed, too. -/
def Expr.Within (e e' : Expr) : Prop :=
  ∀ (m : Machine Unit) (x y : Nat × Unit), m.Passes e x y → m.Passes e' x y

namespace Modes.Widens

variable {m m' : Modes}

theorem put (h : m.Widens m') (f : Syntax.Flag) (on : Bool) :
    (m.put f on).Widens (m'.put f on) := by
  cases f with
  | caseInsensitive => exact { h with caseInsensitive := rfl }
  | multiLine => exact { h with multiLine := id }
  | dotAll => exact { h with dotAll := id }
  | swapGreed => exact ⟨h.caseInsensitive, h.multiLine, h.dotAll, h.unicode, h.crlf⟩
  | unicode => exact { h with unicode := rfl }
  | crlf => exact { h with crlf := rfl }
  | verbose => exact h

theorem folded (h : m.Widens m') (s : CharSet) : Syntax.folded m s = Syntax.folded m' s := by
  rw [Syntax.folded, Syntax.folded, h.caseInsensitive, h.unicode]

theorem dotSet (h : m.Widens m') {c : Char} (hc : c ∈ Syntax.dotSet m) : c ∈ Syntax.dotSet m' := by
  rw [Syntax.dotSet] at hc ⊢
  cases hall : m'.dotAll with
  | true => exact CharSet.mem_univ c
  | false =>
    have hdot : m.dotAll = false := by
      rw [← Bool.not_eq_true] at hall ⊢
      exact fun hdot => hall (h.dotAll hdot)
    rwa [hdot, h.crlf] at hc

/-- An anchor that holds in narrower modes holds in wider ones. -/
theorem look (h : m.Widens m') (a : Syntax.Anchor) {before after : Option Char}
    (ha : (a.look m).holds before after = true) : (a.look m').holds before after = true := by
  have hunicode := h.unicode
  cases a with
  | lineStart =>
    rw [Syntax.Anchor.look] at ha ⊢
    cases hlines : m.multiLine with
    | true =>
      rw [hlines, h.crlf] at ha
      rwa [h.multiLine hlines]
    | false =>
      -- no line starts before the text does
      rw [hlines] at ha
      have hnone : before.isNone = true := ha
      split
      · split <;> simp [Look.holds, hnone]
      · exact hnone
  | lineEnd =>
    rw [Syntax.Anchor.look] at ha ⊢
    cases hlines : m.multiLine with
    | true =>
      rw [hlines, h.crlf] at ha
      rwa [h.multiLine hlines]
    | false =>
      rw [hlines] at ha
      have hnone : after.isNone = true := ha
      split
      · split <;> simp [Look.holds, hnone]
      · exact hnone
  | textStart => exact ha
  | textEnd => exact ha
  | _ => rwa [Syntax.Anchor.look, hunicode] at ha

end Modes.Widens

namespace Machine

/-- Where the members of a list can be passed one after the other, those of a wider list can. -/
theorem PassesAll.mono {es es' : List Expr} (h : List.Forall₂ Expr.Within es es')
    {m : Machine Unit} {x y : Nat × Unit} (hxy : m.PassesAll es x y) : m.PassesAll es' x y := by
  induction h generalizing x with
  | nil => exact hxy
  | cons he _ ih =>
    obtain ⟨z, hz, hrest⟩ := hxy
    exact ⟨z, he m x z hz, ih hrest⟩

end Machine

theorem exists_of_forall₂ {α β : Type} {R : α → β → Prop} {as : List α} {bs : List β}
    (h : List.Forall₂ R as bs) {a : α} (ha : a ∈ as) : ∃ b ∈ bs, R a b := by
  induction h with
  | nil => exact absurd ha List.not_mem_nil
  | cons hab _ ih =>
    rcases List.mem_cons.1 ha with rfl | ha
    · exact ⟨_, List.mem_cons_self, hab⟩
    · obtain ⟨b, hb, hr⟩ := ih ha
      exact ⟨b, List.mem_cons_of_mem _ hb, hr⟩

/-- Trees can be passed in wider modes wherever they can be passed in narrower ones. -/
theorem carries_widening : Carries Modes.Widens Eq Expr.Within where
  unicode h := h.unicode
  put f on h := h.put f on
  same _ := rfl
  folded {m m' s s'} h hs := hs ▸ h.folded s
  compl hs := congrArg CharSet.compl hs
  union hs ht := congrArg₂ CharSet.union hs ht
  empty _ _ _ hxy := hxy
  set hs := hs ▸ fun _ _ _ hxy => hxy
  dot h _ _ _ hxy := by
    obtain ⟨⟨c, hc, hdot⟩, hy⟩ := hxy
    exact ⟨⟨c, hc, h.dotSet hdot⟩, hy⟩
  look a h _ _ _ hxy := ⟨h.look a hxy.1, hxy.2⟩
  group index name e e' he m x y hxy := by
    obtain ⟨z, hz, hy⟩ := hxy
    exact ⟨z, he m _ z hz, hy⟩
  repeated min max greedy greedy' e e' he m x y hxy := by
    obtain ⟨n, hmin, hmax, hrounds⟩ := (Machine.passes_repeated min max greedy e).1 hxy
    exact (Machine.passes_repeated min max greedy' e').2 ⟨n, hmin, hmax, hrounds.mono (he m)⟩
  choice {es es'} hes m x y hxy := by
    obtain ⟨e, he, hxy⟩ := (Machine.passes_choice es).1 hxy
    obtain ⟨e', he', hwithin⟩ := exists_of_forall₂ hes he
    exact (Machine.passes_choice es').2 ⟨e', he', hwithin m x y hxy⟩
  sequence {es es'} hes m x y hxy := by
    rw [Machine.passes_sequence] at hxy ⊢
    exact hxy.mono hes

/-- In wider modes a text means an expression that can be passed wherever it could be before. -/
theorem within_of_widens {pattern : List Char} {m m' : Modes} (h : m.Widens m') {e e' : Expr}
    (he : expression pattern m = .ok e) (he' : expression pattern m' = .ok e') : e.Within e' := by
  rw [expression] at he he'
  cases hparse : Syntax.parse pattern with
  | error f =>
    rw [hparse] at he
    exact absurd he (by simp)
  | ok tree =>
    rw [hparse] at he he'
    dsimp only at he he'
    rcases (carries_widening.expr h tree).outcomes with ⟨f, hl, -⟩ | ⟨a, b, hl, hr, hab⟩
    · rw [hl] at he
      exact absurd he (by simp)
    · rw [hl] at he
      rw [hr] at he'
      obtain rfl : a.1 = e := Except.ok.inj he
      obtain rfl : b.1 = e' := Except.ok.inj he'
      exact hab.1

namespace Draft

variable {d d' : Draft} {subject : String}

/-- A draft with the same text, but wider modes, has a match wherever the first one has, unless it
is rejected. -/
theorem isMatch_of_widens [Sizing] (htext : d.text = d'.text)
    (hmodes : d.settings.modes.Widens d'.settings.modes) {r' : Regex}
    (hr' : d'.regex.value = .ok r') (h : (d.isMatch subject).value = .ok true) :
    (d'.isMatch subject).value = .ok true := by
  cases hr : d.regex.value with
  | error e =>
    rw [Draft.isMatch] at h
    dsimp only at h
    rw [hr] at h
    exact absurd h (by simp [Except.map])
  | ok r =>
    obtain ⟨e, he, -⟩ := expression_of_compile ((value_regex d).symm.trans hr)
    obtain ⟨e', he', -⟩ := expression_of_compile ((value_regex d').symm.trans hr')
    obtain ⟨p, hp, y, hy⟩ := (isMatch_iff_passes he hr).1 h
    rw [← htext] at he'
    exact (isMatch_iff_passes (htext ▸ he') hr').2
      ⟨p, hp, y, within_of_widens hmodes he he' _ _ _ hy⟩

/-- The same draft where lines count, or do not. -/
def withLines (d : Draft) (on : Bool) : Draft :=
  { d with settings := d.settings.withLines on }

/-- The same draft where the dot takes in line feeds, or does not. -/
def withDots (d : Draft) (on : Bool) : Draft :=
  { d with settings := { d.settings with dotMatchesNewLine := on } }

end Draft

/-- A subject in which a draft has a match still has one once lines count, and once the dot takes
in line feeds, unless the draft is rejected then. -/
theorem match_kept_when_widened [Sizing] (d : Draft) (subject : String) :
    (((d.withLines false).isMatch subject).value = .ok true →
      (∃ r, (d.withLines true).regex.value = .ok r) →
        ((d.withLines true).isMatch subject).value = .ok true) ∧
    (((d.withDots false).isMatch subject).value = .ok true →
      (∃ r, (d.withDots true).regex.value = .ok r) →
        ((d.withDots true).isMatch subject).value = .ok true) := by
  constructor
  · intro h hr
    obtain ⟨r, hr⟩ := hr
    exact Draft.isMatch_of_widens (d := d.withLines false) rfl ⟨rfl, fun _ => rfl, id, rfl, rfl⟩
      hr h
  · intro h hr
    obtain ⟨r, hr⟩ := hr
    exact Draft.isMatch_of_widens (d := d.withDots false) rfl ⟨rfl, id, fun _ => rfl, rfl, rfl⟩ hr h

section

attribute [local instance] Sizing.estimate

/-- A line feed after the match, and a flag by which lines do not count from there on. -/
theorem match_kept_before_line_feed :
    (((Draft.mk "^c.(?-m)" {}).withLines true).isMatch "cd\n").value = .ok true ∧
    (((Draft.mk "^c.(?-m)" {}).withDots true).isMatch "cd\n").value = .ok true := by
  have hexpr : expression "^c.(?-m)".toList ({} : Settings).modes =
      .ok (.seq (.look .textStart) (.seq (.set (CharSet.singleton 'c'))
        (.set (CharSet.singleton '\n').compl))) := rfl
  have hpasses : (testing "cd\n".toList).Passes (.seq (.look .textStart)
      (.seq (.set (CharSet.singleton 'c')) (.set (CharSet.singleton '\n').compl)))
      (0, ()) (2, ()) :=
    ⟨(0, ()), ⟨rfl, rfl⟩, (1, ()), ⟨⟨'c', rfl, rfl⟩, rfl⟩, ⟨'d', rfl, rfl⟩, rfl⟩
  have h : ((Draft.mk "^c.(?-m)" {}).isMatch "cd\n").value = .ok true :=
    (Draft.isMatch_iff_passes hexpr rfl).2 ⟨0, Nat.zero_le _, _, hpasses⟩
  exact ⟨(match_kept_when_widened (Draft.mk "^c.(?-m)" {}) "cd\n").1 h ⟨_, rfl⟩,
    (match_kept_when_widened (Draft.mk "^c.(?-m)" {}) "cd\n").2 h ⟨_, rfl⟩⟩

end

end FluentRegex
