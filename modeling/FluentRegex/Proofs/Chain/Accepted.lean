import FluentRegex.Machine.Estimate
import FluentRegex.Proofs.Chain.Matching
import FluentRegex.Proofs.Syntax.Extension.Flagless

/-!
# Structured calls after an accepted pattern

A pattern that is accepted ends outside of every token, class and group, so what a structured call
appends is read as if it stood alone. This holds of any pattern, also of one that was taken as it
is, as long as it sets no flags: flags could make blanks not count, or change what can be said in a
class. A name that the pattern gives to a group stands in its text, where the call sees it and does
without the name.

> `accepted_after_call`: after a structured call the pattern is still accepted, or it is too big, or
> nested too deep.
-/

namespace FluentRegex

open Text Syntax

/-! ## Names that stand in the text -/

namespace Draft

variable {d : Draft} {c : Call}

/-- A draft sees every name that stands behind the mark of a name. -/
theorem hasName_of_names {n : String} {rest : List Char} (hn : Progress.Names n rest)
    (hrest : rest <:+ d.text.toList) : d.hasName n = true := by
  have hlong : ("(?P<" ++ n ++ ">").toList = '(' :: '?' :: 'P' :: '<' :: (n.toList ++ ['>']) := by
    simp
  have hshort : ("(?<" ++ n ++ ">").toList = '(' :: '?' :: '<' :: (n.toList ++ ['>']) := by simp
  rw [hasName, Bool.or_eq_true, hlong, hshort, occursIn_iff, occursIn_iff]
  exact hn.imp (fun h => h.isInfix.trans hrest.isInfix) fun h => h.isInfix.trans hrest.isInfix

/-! ## What a call appends -/

theorem apart_addition (hc : c.Describes) (d : Draft) :
    Apart false (c.addition d).text.toList := by
  have hnil : ∀ d : Char, ([] : List Char).head? ≠ some d := fun d => by simp
  refine .plain ?_ ?_
  · have h := head_addition hc.notRaw d (hnil '?')
    rwa [List.append_nil] at h
  · cases hcaptures : c.captures? with
    | some asked =>
      rw [addition_of_captures hcaptures]
      cases d.granted asked <;> simp [openingText]
    | none =>
      rcases Call.plain_cases hc.notRaw hc.noRepeat hcaptures with
        ⟨text, rfl⟩ | ⟨chars, rfl⟩ | rfl | rfl | rfl
      · have h := head_escapeChars_ne d.settings.delimiter (d := '\x7b') rfl (by decide)
          text.toList [] (hnil _)
        rw [List.append_nil] at h
        rwa [Call.addition, escaped, escape, String.toList_ofList]
      · rw [Call.addition]
        dsimp only
        split
        · simp
        · simp [classOf]
      · simp [Call.addition]
      · simp [Call.addition]
      · simp [Call.addition]

/-- A name is granted if no group has it, as long as the draft sees all names in use. -/
theorem granted_free {g : Groups} (hnames : ∀ n ∈ g.names.map Prod.fst, d.hasName n = true)
    {asked : Option String} {n : String} (hn : n ∈ d.granted asked) :
    isName n.toList = true ∧ n ∉ g.names.map Prod.fst := by
  cases asked with
  | none => exact absurd hn (by simp [granted])
  | some n' =>
    rw [granted, Option.mem_def] at hn
    split at hn
    · next hgranted =>
      obtain rfl := Option.some.inj hn
      refine ⟨hgranted.1, fun hmem => ?_⟩
      rw [hnames n' hmem] at hgranted
      exact absurd hgranted.2 (by decide)
    · exact absurd hn (by simp)

/-- Wherever no other names are in use than those that the draft sees, what a structured call
appends is read to its end. -/
theorem adds_addition (hc : c.Describes) (hcount : c.largest ≤ maxCount) {p : Progress}
    (hp : p.cursor.At (c.addition d).text.toList)
    (hnames : ∀ n ∈ p.groups.names.map Prod.fst, d.hasName n = true) :
    ∃ ps g q, p.Adds d.settings.modes ps g [] q := by
  have hunicode : d.settings.modes.unicode = true := rfl
  have hgreed : d.settings.modes.swapGreed = false := rfl
  have hp' : p.cursor.At ((c.addition d).text.toList ++ []) := by rwa [List.append_nil]
  cases hcaptures : c.captures? with
  | none =>
    obtain ⟨q, hq⟩ := adds_plain hunicode hc.notRaw hc.noRepeat hcaptures d hp'
    exact ⟨_, _, q, hq⟩
  | some asked =>
    obtain ⟨span, q, hq⟩ := (adds_captured hunicode hgreed hcaptures
      (fun n hn => granted_free hnames hn) hp' (by simp)).1 hcount
    exact ⟨_, _, q, hq⟩

end Draft

/-! ## The pattern after the call -/

/-- A pattern means an expression if it can be read, every group is closed, and what was read means
it and is not nested too deep. -/
theorem expression_eq_ok_iff {text : List Char} {m : Modes} {e : Expr} :
    expression text m = .ok e ↔ ∃ p m',
    Progress.run (text.length + 1) (Progress.start text) = .ok p ∧ p.opened = [] ∧
      (p.level.tree p.cursor.pos).tooDeep? maxDepth = none ∧
      (p.level.tree p.cursor.pos).expr m = .ok (e, m') := by
  rw [expression, parse]
  constructor
  · intro h
    split at h
    · exact absurd h (by simp)
    · next tree hparse =>
      split at h
      · exact absurd h (by simp)
      · next e' m' hexpr =>
        obtain rfl := Except.ok.inj h
        split at hparse
        · exact absurd hparse (by simp)
        · next p hrun =>
          rw [Progress.finish] at hparse
          split at hparse
          · exact absurd hparse (by simp)
          · next hopened =>
            dsimp only at hparse
            split at hparse
            · exact absurd hparse (by simp)
            · next hdepth =>
              obtain rfl := Except.ok.inj hparse
              exact ⟨p, m', hrun, hopened, hdepth, hexpr⟩
  · rintro ⟨p, m', hrun, hopened, hdepth, hexpr⟩
    rw [hrun]
    dsimp only
    rw [Progress.finish, hopened]
    dsimp only
    rw [hdepth]
    dsimp only
    rw [hexpr]

/-- What is read in addition leaves a pattern without flags one that has a meaning, unless it is
nested too deep. -/
theorem expression_of_adds {text more : List Char} {m : Modes} {p q : Progress} {ps : List Part}
    {g : Groups} {e : Expr} {m' : Modes} (hp : Progress.ReadsUp more (Progress.start text) p)
    (hopened : p.opened = []) (hexpr : (p.level.tree p.cursor.pos).expr m = .ok (e, m'))
    (hadds : (p.extend more).Adds m ps g [] q) :
    (∃ e, expression (text ++ more) m = .ok e) ∨
      ∃ span, expression (text ++ more) m = .error ⟨.nestedTooDeep maxDepth, span, none⟩ := by
  have hleads : (Progress.start (text ++ more)).Leads q := hp.leads.trans hadds.leads
  rw [expression, parse_of_leads hleads hadds.cursor, Progress.finish,
    show q.opened = [] from hadds.opened.trans hopened]
  dsimp only
  cases hdeep : (q.level.tree q.cursor.pos).tooDeep? maxDepth with
  | some span => exact .inr ⟨span, rfl⟩
  | none =>
    -- the items before and those that were added have expressions under the same modes
    obtain ⟨hbranches, hitems⟩ := hp.flagless.level.hasExpr_of_tree hexpr
    obtain ⟨ts, hts, hparts⟩ := hadds.items
    have hnew : ∀ t ∈ ts, t.HasExpr m :=
      ((List.forall₂_and_left _ _).1 (hparts.imp fun t part ht => ⟨⟨part.expr, ht.expr⟩, ht⟩)).1
    have hbranches' : ∀ t ∈ q.level.branches, t.HasExpr m := by
      rw [hadds.branches]
      exact hbranches
    have hitems' : ∀ t ∈ q.level.items, t.HasExpr m := by
      rw [hts, List.forall_mem_append]
      exact ⟨hnew, hitems⟩
    obtain ⟨e', he'⟩ := hasExpr_tree hbranches' hitems' q.cursor.pos
    refine .inl ⟨e', ?_⟩
    dsimp only
    rw [he']

/-- What an accepted pattern without flags leaves behind, where a structured call appends more. The
draft sees all names in use. -/
theorem exists_readsUp {d : Draft} {e : Expr}
    (he : expression d.text.toList d.settings.modes = .ok e) (hfree : FreeOfFlags d.text.toList)
    {c : Call} (hc : c.Describes) : ∃ p m',
      Progress.ReadsUp (c.addition d).text.toList (Progress.start d.text.toList) p ∧
      p.opened = [] ∧ (p.level.tree p.cursor.pos).expr d.settings.modes = .ok (e, m') ∧
      (p.extend (c.addition d).text.toList).cursor.At (c.addition d).text.toList ∧
      ∀ n ∈ p.groups.names.map Prod.fst, d.hasName n = true := by
  obtain ⟨p, m', hrun, hopened, -, hexpr⟩ := expression_eq_ok_iff.1 he
  have hreads := Progress.readsUp_of_run (Draft.apart_addition hc d) (.start _) hfree
    (Nat.lt_succ_self _) hrun
  refine ⟨p, m', hreads, hopened, hexpr, ⟨?_, hreads.atEnd.plain⟩, fun n hn => ?_⟩
  · rw [Progress.extend, Cursor.extend, hreads.atEnd.rest]
    rfl
  · rcases hreads.names n hn with hn | ⟨rest, hrest, hn⟩
    · exact absurd hn List.not_mem_nil
    · exact Draft.hasName_of_names hn hrest

theorem Call.Describes.text_call {c : Call} (hc : c.Describes) (d : Draft) :
    (d.call c).text.toList = d.text.toList ++ (c.addition d).text.toList := by
  rw [Draft.call_of_ne_clear hc.ne_clear, ← String.toList_append]

/-- A structured call keeps an accepted pattern accepted, whatever is in it but flags, and whatever
text, characters, name and count the call is given. The only exceptions are that the pattern becomes
too big, or nested deeper than 250 levels. -/
theorem accepted_after_call [Sizing] (d : Draft) {r : Regex} (hr : d.regex.value = .ok r)
    (hfree : FreeOfFlags d.text.toList) {c : Call} (hc : c.Describes)
    (hcount : c.largest ≤ 4294967295) :
    (∃ r', (d.call c).regex.value = .ok r') ∨
      (∃ limit, (d.call c).regex.value = .error (.patternTooBig (d.call c).text limit)) ∨
      ∃ span, (d.call c).regex.value = .error (.invalidPattern (d.call c).text
        (Fault.report ⟨.nestedTooDeep 250, span, none⟩ (d.call c).text.toList)) := by
  rw [Draft.value_regex] at hr
  obtain ⟨e, he, -⟩ := Draft.expression_of_compile hr
  obtain ⟨p, m', hreads, hopened, hexpr, hat, hnames⟩ := exists_readsUp he hfree hc
  obtain ⟨ps, g, q, hadds⟩ := Draft.adds_addition hc hcount hat hnames
  have hmeans := expression_of_adds hreads hopened hexpr hadds
  rw [← hc.text_call, ← Draft.settings_call d c] at hmeans
  rw [Draft.value_regex]
  rcases hmeans with ⟨e', he'⟩ | ⟨span, hfault⟩
  · rw [Draft.compile_of_expression he']
    split
    · exact .inl ⟨_, rfl⟩
    · exact .inr (.inl ⟨_, rfl⟩)
  · exact .inr (.inr ⟨span, Draft.compile_of_fault hfault⟩)

section

attribute [local instance] Sizing.estimate

/-- A name that a fragment already gave to a group, and text with braces. -/
theorem accepted_with_name_taken :
    let d : Draft := Draft.mk "(?<_>[]a]|é)\\b" {}
    let after := d.call (.find "\x7b1\x7d?" (some "_"))
    (∃ r, d.regex.value = .ok r) ∧ FreeOfFlags d.text.toList ∧
      ((∃ r', after.regex.value = .ok r') ∨
        (∃ limit, after.regex.value = .error (.patternTooBig after.text limit)) ∨
        ∃ span, after.regex.value = .error (.invalidPattern after.text
          (Fault.report ⟨.nestedTooDeep 250, span, none⟩ after.text.toList))) := by
  obtain ⟨r, hr⟩ : ∃ r, (Draft.mk "(?<_>[]a]|é)\\b" {}).regex.value = .ok r := ⟨_, rfl⟩
  have hfree : FreeOfFlags "(?<_>[]a]|é)\\b".toList := by decide
  exact ⟨⟨r, hr⟩, hfree, accepted_after_call _ hr hfree ⟨rfl, rfl, by simp⟩ (by decide)⟩

end

end FluentRegex
