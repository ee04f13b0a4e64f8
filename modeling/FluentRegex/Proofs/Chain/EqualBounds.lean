import FluentRegex.Machine.Estimate
import FluentRegex.Proofs.Chain.Accepted
import FluentRegex.Proofs.Syntax.Extension.Counts

/-!
# A number and two equal bounds

`times n` writes its number once, and `between n n` twice. After any pattern that is accepted, or
after none, the two come to the same: whatever the pattern ends with, in whatever mode, both counts
are refused, or they put the same item under the same repetition. This holds of fragments that were
taken as they are, too, with their flags and comments.

> `times_alike_between`: the two are rejected alike, or have the same groups and find the same.
-/

namespace FluentRegex

open Syntax

variable {text text' : List Char} {m : Modes} {e : Expr}

theorem expression_of_agree (h : Progress.Agree
      (Progress.run (text.length + 1) (Progress.start text))
      (Progress.run (text'.length + 1) (Progress.start text'))) :
    expression text m = .ok e ↔ expression text' m = .ok e := by
  rw [expression_eq_ok_iff, expression_eq_ok_iff]
  generalize Progress.run (text.length + 1) (Progress.start text) = r at h
  generalize Progress.run (text'.length + 1) (Progress.start text') = r' at h
  cases h with
  | faults e e' => simp
  | @similar p p' hsimilar =>
    have htree := hsimilar.level.tree p.cursor.pos p'.cursor.pos
    simp only [Except.ok.injEq, exists_and_left, exists_eq_left', hsimilar.opened,
      htree.depth maxDepth, htree.expr m]

/-- Drafts that mean the same if one of them means something come to the same. -/
theorem Draft.alike_of_iff [Sizing] {d d' : Draft} (hlimit : d.settings.limit = d'.settings.limit)
    (h : ∀ e, expression d.text.toList d.settings.modes = .ok e ↔
      expression d'.text.toList d'.settings.modes = .ok e) : d.Alike d' := by
  cases he : expression d.text.toList d.settings.modes with
  | ok e => exact alike_of_expression hlimit he ((h e).1 he)
  | error f =>
    cases he' : expression d'.text.toList d'.settings.modes with
    | ok e => exact absurd ((h e).2 he') (by rw [he]; simp)
    | error f' => exact alike_of_faults he he'

/-- A count and two equal bounds come to the same after every pattern that is accepted and after an
empty one, whatever flags it sets and whatever it ends with. -/
theorem times_alike_between [Sizing] (d : Draft) (h : d.text = "" ∨ ∃ r, d.regex.value = .ok r)
    (n : Nat) :
    (d.call (.times n)).Alike (d.call (.between n n)) := by
  have hexpr : ∃ e, expression d.text.toList d.settings.modes = .ok e := by
    rcases h with hempty | ⟨r, hr⟩
    · exact ⟨.empty, by rw [hempty]; rfl⟩
    · rw [Draft.value_regex] at hr
      obtain ⟨e, he, -⟩ := Draft.expression_of_compile hr
      exact ⟨e, he⟩
  obtain ⟨e, he⟩ := hexpr
  obtain ⟨p, m', hrun, -⟩ := expression_eq_ok_iff.1 he
  refine Draft.alike_of_iff rfl fun e => ?_
  have htimes : (d.call (.times n)).text.toList = d.text.toList ++ (Text.counted n).toList := by
    rw [← String.toList_append]
    rfl
  have hbetween : (d.call (.between n n)).text.toList =
      d.text.toList ++ (Text.countedBetween n n).toList := by
    rw [← String.toList_append]
    show (d.text ++ Text.countedBetween (Nat.min n n) (Nat.max n n)).toList = _
    rw [show n.min n = n from Nat.min_self n, show n.max n = n from Nat.max_self n]
  rw [htimes, hbetween]
  refine expression_of_agree ?_
  exact Progress.run_exactCounts (Nat.lt_succ_self _) hrun (exactCount_counted n)
    (exactCount_countedBetween n) (Nat.lt_succ_self _) (Nat.lt_succ_self _)

section

attribute [local instance] Sizing.estimate

/-- A pattern in verbose mode that ends with a word boundary and a comment. -/
theorem alike_behind_comment :
    let d : Draft := Draft.mk "(?x) a\\b # c" {}
    (∃ r, d.regex.value = .ok r) ∧ (d.call (.times 2)).Alike (d.call (.between 2 2)) := by
  have hr : ∃ r, (Draft.mk "(?x) a\\b # c" {}).regex.value = .ok r := ⟨_, rfl⟩
  exact ⟨hr, times_alike_between _ (.inr hr) 2⟩

end

end FluentRegex
