import FluentRegex.Machine.Estimate
import FluentRegex.Proofs.Chain.Accepted
import FluentRegex.Proofs.Syntax.Enclosed

/-!
# Names that are taken to be taken

A capturing call does without its name if the mark of that name stands anywhere in the text of the
draft, also where it opens no group: in brackets, say, or behind a backslash. So a group of an
accepted pattern may be left without a name that no other group has.

The group is looked for in the pattern that the call leaves behind, whatever was in the pattern
before: flags may make blanks not count, and the pattern may end with a comment. Then the comment
goes on with what the call appends, and either no group is opened at all or the closing parenthesis
is a fault. Everywhere else the new group is the last one (`last_name_of_captured`).

> `last_name_of_call`: the new group has its name unless the text has the mark of the name.
-/

namespace FluentRegex

open Text Syntax

/-! ## The expression of the latest item -/

theorem exprs_concat {ts : List Tree} {t : Tree} {m m' : Modes} {es : List Expr}
    (h : Tree.exprs m (ts ++ [t]) = .ok (es, m')) :
    ∃ before f between, es = before ++ [f] ∧ t.expr between = .ok (f, m') := by
  induction ts generalizing m es with
  | nil =>
    rw [List.nil_append, Tree.exprs] at h
    split at h
    · exact absurd h (by simp)
    · next f after ht =>
      obtain ⟨rfl, rfl⟩ := Prod.mk.inj (Except.ok.inj h)
      exact ⟨[], f, m, rfl, ht⟩
  | cons u ts ih =>
    rw [List.cons_append, Tree.exprs] at h
    split at h
    · exact absurd h (by simp)
    · next e between hu =>
      split at h
      · exact absurd h (by simp)
      · next es' after hrest =>
        obtain ⟨rfl, rfl⟩ := Prod.mk.inj (Except.ok.inj h)
        obtain ⟨before, f, between, rfl, ht⟩ := ih hrest
        exact ⟨e :: before, f, between, rfl, ht⟩

/-- What was read at a level has the groups of its latest item. -/
theorem captures_of_latest {l : Level} {t : Tree} {ts : List Tree} {stop : Nat} {m m' : Modes}
    {e : Expr} (hitems : l.items = t :: ts) (h : (l.tree stop).expr m = .ok (e, m')) :
    ∃ f between after, t.expr between = .ok (f, after) ∧ f.captures ⊆ e.captures := by
  have hbranch : ∀ {m e m'}, (l.branch stop).expr m = .ok (e, m') →
      ∃ f between after, t.expr between = .ok (f, after) ∧ f.captures ⊆ e.captures := by
    intro m e m' h
    rw [Level.branch, hitems] at h
    cases ts with
    | nil => exact ⟨e, m, m', h, List.Subset.refl _⟩
    | cons u us =>
      rw [Tree.expr] at h
      split at h
      · next es after hes =>
        obtain ⟨rfl, rfl⟩ := Prod.mk.inj (Except.ok.inj h)
        rw [List.reverse_cons] at hes
        obtain ⟨before, f, between, rfl, hf⟩ := exprs_concat hes
        refine ⟨f, between, _, hf, ?_⟩
        rw [Expr.captures_sequence, List.flatMap_append, List.flatMap_singleton]
        exact List.subset_append_right _ _
      · exact absurd h (by simp)
  unfold Level.tree at h
  split at h
  · exact hbranch h
  · rw [Tree.expr] at h
    split at h
    · next es after hes =>
      obtain ⟨rfl, rfl⟩ := Prod.mk.inj (Except.ok.inj h)
      rw [List.reverse_cons] at hes
      obtain ⟨before, f, between, rfl, hf⟩ := exprs_concat hes
      obtain ⟨g, between, after, hg, hsubset⟩ := hbranch hf
      refine ⟨g, between, after, hg, List.Subset.trans hsubset (List.Subset.trans ?_
        (Expr.captures_subset_choice _))⟩
      rw [List.flatMap_append, List.flatMap_singleton]
      exact List.subset_append_right _ _
    · exact absurd h (by simp)

/-! ## The numbers of groups -/

/-- Of a pattern whose groups are all closed, no group has a number that was not given out, and none
has the number of another. -/
theorem numbers_of_numbered {p : Progress} (hp : p.Numbered) (hopened : p.opened = []) {stop : Nat}
    {m m' : Modes} {e : Expr} (h : (p.level.tree stop).expr m = .ok (e, m')) :
    (∀ g ∈ e.captures, g.1 ≤ p.groups.count) ∧
      ∀ g ∈ e.captures, ∀ g' ∈ e.captures, g.1 = g'.1 → g = g' := by
  have hcaptures : e.captures ⊆ p.captures := by
    have hsubset := captures_expr _ h
    rwa [Level.captures_tree, show p.level.captures = p.captures by
      rw [Progress.captures, hopened]; rfl] at hsubset
  have hnodup : (p.captures.map Prod.fst).Nodup := by
    rw [hp.numbers]
    exact List.nodup_range'
  refine ⟨fun g hg => ?_, fun g hg g' hg' heq =>
    List.inj_on_of_nodup_map hnodup (hcaptures hg) (hcaptures hg') heq⟩
  have hmem : g.1 ∈ p.captures.map Prod.fst := List.mem_map_of_mem (hcaptures hg)
  rw [hp.numbers, List.mem_range'_1] at hmem
  omega

/-- The new group has the highest number, so it is the last one. -/
theorem last_name_of_captured {p q : Progress} {asked : Option String} (hp : p.Numbered)
    (hq : q.Numbered) (hopened : p.opened = []) (h : p.Captures asked q) {stop stop' : Nat}
    {m m' m'' : Modes} {e e' : Expr} (hexpr : (p.level.tree stop).expr m = .ok (e, m'))
    (hexpr' : (q.level.tree stop').expr m = .ok (e', m'')) :
    e.groupNames.length < e'.groupNames.length ∧ e'.groupNames.getLast? = some asked := by
  obtain ⟨t, hitems, ht⟩ := h.items
  obtain ⟨f, between, after, hf, hsubset⟩ := captures_of_latest hitems hexpr'
  obtain ⟨hbounds, -⟩ := numbers_of_numbered hp hopened hexpr
  obtain ⟨hbounds', hunique⟩ := numbers_of_numbered hq (h.opened.trans hopened) hexpr'
  rw [h.count] at hbounds'
  have hmem := hsubset (ht hf)
  have hone : ∀ k, ([none] : List (Option String)).length ≤ k + 1 := fun k =>
    Nat.succ_le_succ (Nat.zero_le k)
  obtain ⟨hlength, hlast⟩ := Expr.enterGroups_of_highest (hone _) hmem hbounds'
    fun other hother => (Prod.mk.inj (hunique _ hother _ hmem rfl)).2
  rw [Expr.groupNames, Expr.groupNames, Expr.enterGroups_eq_foldl, Expr.enterGroups_eq_foldl,
    hlength, hlast]
  exact ⟨Nat.lt_succ_of_le (Expr.length_enterGroups_le (hone _)
    fun g hg => Nat.lt_succ_of_le (hbounds g hg)), rfl⟩

/-! ## What a capturing call appends -/

theorem Call.describes_of_captures {c : Call} {asked : Option String}
    (h : c.captures? = some asked) : c.Describes := by
  cases c with
  | find _ _ | maybe _ _ | anything _ | anythingBut _ _ | something _ | somethingBut _ _
  | words _ _ | decimals _ _ => exact ⟨rfl, rfl, by simp⟩
  | _ => exact absurd h (by simp [Call.captures?])

theorem enclosed_of_forall {tail cs text : List Char} (h : Enclosed tail cs)
    (htext : ∀ d ∈ text, d ∉ groupSigns) : Enclosed tail (text ++ cs) := by
  induction text with
  | nil => exact h
  | cons d ds ih =>
    rw [List.forall_mem_cons] at htext
    exact .bare htext.1 (ih htext.2)

theorem enclosed_rounds {tail cs : List Char} (h : Enclosed tail cs) (count : Option Nat) :
    Enclosed tail ((rounds count).toList ++ cs) := by
  have hplus : Enclosed tail ("+".toList ++ cs) := .bare (by decide) h
  unfold rounds
  split
  · next n =>
    split
    · exact hplus
    · have hdigits : ∀ d ∈ Nat.toDigits 10 n, d ∉ groupSigns := by
        intro d hd hmem
        have hnone := List.all_eq_true.1
          (show groupSigns.all (fun e => !e.isDigit) = true by decide) d hmem
        have hdigit := Nat.isDigit_of_mem_toDigits (by omega) (Nat.le_refl 10) hd
        rw [hdigit] at hnone
        exact Bool.false_ne_true hnone
      have hlist : (counted n).toList ++ cs = '\x7b' :: (Nat.toDigits 10 n ++ '\x7d' :: cs) := by
        rw [counted, String.toList_append, String.toList_append, toList_toString]
        simp
      rw [hlist]
      exact .bare (by decide) (enclosed_of_forall (.bare (by decide) h) hdigits)
  · exact hplus

/-- What a capturing call writes between its parentheses is escaped. -/
theorem Call.enclosed_inside (c : Call) (delimiter : Char) (tail : List Char) :
    Enclosed tail ((c.inside delimiter).toList ++ ')' :: tail) := by
  have hforms := c.inside_cases delimiter
  generalize (c.inside delimiter).toList = text at hforms
  have hrepeated : ∀ {sign : Char}, sign = '*' ∨ sign = '+' →
      Enclosed tail (sign :: ')' :: tail) := by
    intro sign hsign
    rcases hsign with rfl | rfl
    · exact .bare (by decide) .close
    · exact .bare (by decide) .close
  cases hforms with
  | text text => exact .escapeChars .close delimiter text
  | dot hsign => exact .bare (by decide) (hrepeated hsign)
  | without chars hsign =>
    have hclose : Enclosed tail (']' :: _) := .bare (by decide) (hrepeated hsign)
    have hclass := hclose.escapeChars delimiter chars
    rw [List.cons_append, List.cons_append, List.append_assoc]
    exact .bare (by decide) (.bare (by decide) hclass)
  | letter hletter count =>
    exact .bare (by decide) (.pair (.inr hletter) (.bare (by decide)
      (enclosed_rounds .close count)))

/-- What a capturing call appends cannot change what is read before it, and if it goes on with a
comment, then the comment ends in escaped text or does not end. -/
theorem apart_opening {asked : Option String} {tail cs : List Char} (htail : Ends tail)
    (hname : ∀ n ∈ asked, isName n.toList = true) (h : Enclosed tail cs) :
    (∀ verbose, Apart verbose (openingText asked ++ cs)) ∧
      (behind (openingText asked ++ cs) = [] ∨
        Enclosed tail (behind (openingText asked ++ cs))) := by
  have hline : '\n' ∉ openingText asked := by
    cases asked with
    | none => decide
    | some n =>
      have hn := not_mem_name (hname n rfl) (d := '\n') (by decide) (by decide) (by decide)
      simp [openingText, hn]
  obtain ⟨ds, hds⟩ := exists_openingText asked
  have hbehind : behind (openingText asked ++ cs) = [] ∨
      Enclosed tail (behind (openingText asked ++ cs)) := by
    rw [Cursor.behind_append hline]
    exact h.behind htail
  refine ⟨fun verbose => ⟨?_, ?_, fun _ => ?_, fun _ => ?_⟩, hbehind⟩
  · rw [hds]
    simp
  · intro es hes
    rw [hds] at hes
    exact absurd hes (by simp)
  · rw [hds]
    exact solid_cons (.inl rfl) _
  · rcases hbehind with hnil | henclosed
    · rw [hnil]
      simp
    · exact henclosed.head?_ne

/-! ## The new group -/

/-- Behind a pattern that can be read the new group is there in the end, unless flags make what is
appended belong to a comment. Then nothing that was read before is changed. -/
theorem captured_or_similar {d : Draft} {c : Call} {asked : Option String}
    (hc : c.captures? = some asked) {p q : Progress}
    (hp : Progress.run (d.text.toList.length + 1) (Progress.start d.text.toList) = .ok p)
    (hopened : p.opened = [])
    (hq : Progress.run ((d.call c).text.toList.length + 1) (Progress.start (d.call c).text.toList) =
      .ok q) :
    p.Captures (d.granted asked) q ∨ ¬ FreeOfFlags d.text.toList ∧ q.Similar p := by
  have hname : ∀ n ∈ d.granted asked, isName n.toList = true := fun n hn =>
    Draft.isName_of_given (c := c) (by rw [Draft.given, hc]; exact hn)
  rw [(Call.describes_of_captures hc).text_call d] at hq
  generalize hmore : (c.addition d).text.toList = more at hq
  rw [Draft.addition_of_captures hc] at hmore
  generalize htail : (if c.isOptional = true then ['?'] else []) = tail at hmore
  have hends : Ends tail := by
    rw [← htail]
    split
    · exact .inr rfl
    · exact .inl rfl
  have henclosed := c.enclosed_inside d.settings.delimiter tail
  obtain ⟨hapart, hbehind⟩ := apart_opening hends hname henclosed
  rw [hmore] at hapart hbehind
  obtain ⟨hnil, hcontinues⟩ := Progress.run_extend (Nat.lt_succ_self _) hp
  have hrest : (p.extend more).cursor.rest = more := by
    rw [Progress.extend, Cursor.extend, hnil]
    rfl
  have hcaptured : ∀ left, more.length < left → Progress.run left (p.extend more) = .ok q →
      p.Captures (d.granted asked) q := by
    intro left hleft hrun
    obtain ⟨hqopened, hcount, hbranches, hitems⟩ := Progress.run_captured hends
      (hrest.trans hmore.symm) henclosed hname (by rwa [hrest]) hrun
    exact ⟨hqopened, hcount, hbranches, hitems⟩
  by_cases hfree : FreeOfFlags d.text.toList
  · obtain ⟨k, hk, hrun⟩ := (Progress.readsUp_of_run (hapart false) (.start _) hfree
      (Nat.lt_succ_self _) hp).leads
    have hlen : k + more.length ≤ (d.text.toList ++ more).length := by rwa [hrest] at hk
    rw [show (d.text.toList ++ more).length + 1 = k + ((d.text.toList ++ more).length + 1 - k) by
      omega] at hq
    exact .inl (hcaptured _ (by omega) ((hrun _).symm.trans hq))
  · cases hcontinues with
    | same h =>
      obtain ⟨left, hleft, hrun⟩ := h more hapart _ (Nat.lt_succ_self _)
      exact .inl (hcaptured left hleft (hrun.symm.trans hq))
    | commented h =>
      obtain ⟨left, r, hleft, hrun, hrrest, hsimilar⟩ := h more hapart _ (Nat.lt_succ_self _)
      have hq' := hrun.symm.trans hq
      rcases hbehind with hbehind | hbehind
      · rw [Progress.eq_of_run hq' (hrrest.trans hbehind)]
        exact .inr ⟨hfree, hsimilar.opened, hsimilar.level⟩
      · refine absurd hq' (Progress.run_unopened hends (by rwa [hrrest])
          (hsimilar.opened.trans hopened) ?_)
        rw [hrrest]
        exact Nat.lt_of_le_of_lt (Cursor.skipFrom_suffix true 0 more).length_le hleft

/-- A capturing call that asks for a valid name leaves a group without it if the text of the draft
has the mark of the name anywhere, and with it otherwise, whatever groups there are. Only behind
flags the call may leave the pattern with no new group. -/
theorem last_name_of_call [Sizing] (d : Draft) {r r' : Regex} (hr : d.regex.value = .ok r)
    {c : Call} {n : String} (hc : c.captures? = some (some n)) (hn : isName n.toList = true)
    (hr' : (d.call c).regex.value = .ok r') :
    (FreeOfFlags d.text.toList → r.groupCount < r'.groupCount) ∧
      (r.groupCount < r'.groupCount →
        r'.groupNames.getLast? = some (if d.hasName n then none else some n)) := by
  rw [Draft.value_regex] at hr hr'
  obtain ⟨e, he, rfl⟩ := Draft.expression_of_compile hr
  obtain ⟨e', he', rfl⟩ := Draft.expression_of_compile hr'
  obtain ⟨p, m', hrun, hopened, -, hexpr⟩ := expression_eq_ok_iff.1 he
  obtain ⟨q, m'', hrun', -, -, hexpr'⟩ := expression_eq_ok_iff.1 he'
  rw [Draft.settings_call] at hexpr'
  have hgranted : d.granted (some n) = if d.hasName n then none else some n := by
    rw [Draft.granted]
    cases d.hasName n <;> simp [hn]
  rw [← hgranted]
  rcases captured_or_similar hc hrun hopened hrun' with hcaptures | ⟨hflags, hsimilar⟩
  · have hp := (Progress.numbered_start _).run hrun
    have hq := (Progress.numbered_start _).run hrun'
    obtain ⟨hcount, hlast⟩ := last_name_of_captured hp hq hopened hcaptures hexpr hexpr'
    exact ⟨fun _ => hcount, fun _ => hlast⟩
  · refine ⟨fun hfree => absurd hfree hflags, fun hcount => ?_⟩
    rw [(hsimilar.level.tree _ p.cursor.pos).expr, hexpr] at hexpr'
    obtain ⟨rfl, -⟩ := Prod.mk.inj (Except.ok.inj hexpr')
    exact absurd hcount (Nat.lt_irrefl _)

section

attribute [local instance] Sizing.estimate

/-- A name that neither a fragment nor its class has for a group is kept. -/
theorem name_kept_behind_fragment :
    let d : Draft := Draft.mk "(?<__>[]a]|é)\\b" {}
    let after := d.call (.maybe "a" (some "_"))
    ∃ r r', d.regex.value = .ok r ∧ FreeOfFlags d.text.toList ∧ isName "_".toList = true ∧
      after.regex.value = .ok r' ∧ r.groupCount < r'.groupCount ∧
      r'.groupNames.getLast? = some (some "_") := by
  obtain ⟨r, hr⟩ : ∃ r, (Draft.mk "(?<__>[]a]|é)\\b" {}).regex.value = .ok r := ⟨_, rfl⟩
  obtain ⟨r', hr'⟩ : ∃ r', ((Draft.mk "(?<__>[]a]|é)\\b" {}).call
    (.maybe "a" (some "_"))).regex.value = .ok r' := ⟨_, rfl⟩
  have hfree : FreeOfFlags "(?<__>[]a]|é)\\b".toList := by decide
  obtain ⟨hcount, hlast⟩ := last_name_of_call _ hr rfl (by decide) hr'
  exact ⟨r, r', hr, hfree, by decide, hr', hcount hfree, hlast (hcount hfree)⟩

/-- A class with the mark of a name among its characters makes no group, and the name is not granted
to the group behind it, either. -/
theorem free_name_not_granted :
    let d : Draft := (Draft.withDelimiter '/').call (.range "(?P<_>" none)
    let after := d.call (.find "a" (some "_"))
    ∃ r r', d.regex.value = .ok r ∧ some "_" ∉ r.groupNames ∧ isName "_".toList = true ∧
      after.regex.value = .ok r' ∧ r'.groupNames = [none, none] :=
  ⟨_, _, rfl, by decide, by decide, rfl, rfl⟩

end

end FluentRegex
