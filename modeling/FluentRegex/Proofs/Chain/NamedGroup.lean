import FluentRegex.Proofs.Chain.GroupTable
import FluentRegex.Proofs.Chain.WellFormed
import FluentRegex.Proofs.Syntax.Numbering

/-!
# Which names a group gets

Whether a text can be the name of a group is asked twice, when a call asks for it as a name and when
the pattern is read, each time by going through its characters in a way of its own. The answers are
the same for every text.

> `read_as_name_iff`: a text is read as the name of a group exactly if it is granted as one.

What cannot be a name is refused by the reading or cut at its first angle bracket, and then the
group has a shorter name and the rest of the text in its body. So no call may write such a text, and
none does: a call that asks for it gets a group without a name.
-/

namespace FluentRegex

open Text Syntax

/-! ## The groups of a text that is read as an assembly -/

/-- The tree of such a text has the groups of the assembly, and no name that is not one of its
names. -/
theorem Draft.ReadsAs.captures {d : Draft} {a : Assembly} (h : d.ReadsAs a) {t : Tree}
    (ht : parse d.text.toList = .ok t) :
    t.captures.map Prod.fst = List.range' 1 a.names.length ∧
      ∀ n, some n ∈ t.captures.map Prod.snd ↔ some n ∈ a.names := by
  obtain ⟨g, q, hq, hcount, hnames⟩ := h.adds [] (by simp)
  rw [List.append_nil] at hq
  obtain ⟨p, hrun, hcaptures⟩ := captures_of_parse ht
  obtain rfl : q = p :=
    Except.ok.inj ((Progress.run_of_leads hq.leads hq.cursor).symm.trans hrun)
  have hnumbered := (Progress.numbered_start _).run hrun
  rw [hcaptures]
  refine ⟨?_, fun n => ?_⟩
  · rw [hnumbered.numbers, hq.groups, hcount]
  · have hgiven : n ∈ q.captures.filterMap Prod.snd ↔ n ∈ q.groups.names.map Prod.fst := by
      rw [hnumbered.names, List.mem_reverse]
    rw [← hnames n, ← hq.groups, ← hgiven, List.mem_filterMap, List.mem_map]

/-- A text that is read as a single group has a tree with that group alone. -/
theorem Draft.ReadsAs.single {d : Draft} {q : Part} {name : Option String}
    (h : d.ReadsAs ⟨[q], [name]⟩) (hdepth : q.depth ≤ maxDepth) :
    ∃ t, parse d.text.toList = .ok t ∧ t.captures = [(1, name)] := by
  have hexpr := h.expression.1 hdepth
  rw [FluentRegex.expression] at hexpr
  split at hexpr
  · exact absurd hexpr (by simp)
  · next t ht =>
    refine ⟨t, ht, ?_⟩
    obtain ⟨hnumbers, hnames⟩ := h.captures ht
    obtain ⟨⟨index, given⟩, hsingle⟩ : ∃ g, t.captures = [g] := by
      rw [← List.length_eq_one_iff, ← List.length_map Prod.fst, hnumbers]
      rfl
    rw [hsingle] at hnumbers hnames ⊢
    obtain rfl : index = 1 := by simpa using hnumbers
    -- the names are the same, since the one is some name exactly if the other is
    have hname : given = name := Option.ext fun n => by simpa [eq_comm] using hnames n
    rw [hname]

/-! ## A text under a name -/

/-- The part of a text that is asked for alone. -/
def foundPart (s : Settings) (text : String) (asked : Option String) : Part :=
  (Call.find text asked).capturedPart s.modes 1 (Assembly.grant [] asked)

section

variable (s : Settings) (text : String) (asked : Option String)

theorem readsAs_find : ((Draft.withSettings s).call (.find text asked)).ReadsAs
    ⟨[foundPart s text asked], [Assembly.grant [] asked]⟩ :=
  (Draft.readsAs_start s).call (c := .find text asked) rfl (by simp)

theorem depth_foundPart : (foundPart s text asked).depth ≤ maxDepth :=
  Nat.le_trans (depth_capturedPart s.modes 1 _ (.find text asked)) (by decide)

theorem groupNames_foundPart :
    (foundPart s text asked).expr.groupNames = [none, Assembly.grant [] asked] :=
  Call.enterGroups_capturedPart s.modes _ (.find text asked) [none]

/-- The name of a group is no instruction, so the program is the same under every name. -/
theorem program_foundPart :
    (foundPart s text asked).expr.program = (foundPart s text none).expr.program :=
  rfl

/-- A draft of a text alone is rejected for the size of its program only, and then under whatever
name. -/
theorem value_find [Sizing] : ((Draft.withSettings s).call (.find text asked)).regex.value =
    if Sizing.bytes (foundPart s text none).expr.program ≤ s.limit then
      .ok ⟨((Draft.withSettings s).call (.find text asked)).text,
        [none, Assembly.grant [] asked], (foundPart s text none).expr.program⟩
    else .error (.patternTooBig ((Draft.withSettings s).call (.find text asked)).text s.limit) := by
  rw [Draft.value_regex, ← program_foundPart s text asked, ← groupNames_foundPart s text asked]
  exact Draft.compile_of_expression
    ((readsAs_find s text asked).expression.1 (depth_foundPart s text asked))

theorem value_find_eq_ok_iff [Sizing] :
    (∃ r, ((Draft.withSettings s).call (.find text asked)).regex.value = .ok r) ↔
      Sizing.bytes (foundPart s text none).expr.program ≤ s.limit := by
  rw [value_find]
  split
  · next hfits => exact ⟨fun _ => hfits, fun _ => ⟨_, rfl⟩⟩
  · next hbig => simp [hbig]

theorem toList_find : ((Draft.withSettings s).call (.find text asked)).text.toList =
    openingText (Assembly.grant [] asked) ++ (escapeChars s.delimiter text.toList ++ [')']) := by
  have hgranted := (Draft.readsAs_start s).gives
  rw [Draft.call_of_ne_clear (by simp), String.toList_append,
    Draft.addition_of_captures (c := .find text asked) rfl, Draft.granted_eq_grant hgranted]
  simp [Draft.withSettings, Call.inside, Call.isOptional, escape]

end

/-! ## Names -/

theorem grant_nil (n : String) :
    Assembly.grant [] (some n) = if isName n.toList = true then some n else none := by
  simp [Assembly.grant]

/-- A text that can be a name is read as one. -/
theorem exists_tree_of_isName {n : String} (hn : isName n.toList = true) :
    ∃ t, parse ("(?P<" ++ n ++ ">x)").toList = .ok t ∧ t.captures = [(1, some n)] := by
  have hgrant : Assembly.grant [] (some n) = some n := by rw [grant_nil, if_pos hn]
  -- this is what is written for a character without a meaning of its own
  have htext : ((Draft.withSettings {}).call (.find "x" (some n))).text.toList =
      ("(?P<" ++ n ++ ">x)").toList := by
    have hplain : escapeChars ({} : Settings).delimiter "x".toList = ['x'] := by decide
    rw [toList_find, hgrant, openingText, hplain]
    simp
  have htree := (readsAs_find {} "x" (some n)).single (depth_foundPart {} "x" (some n))
  rwa [htext, hgrant] at htree

/-- A text is read as the name of a group exactly if it can be one, whatever it is made of. So a
call on an empty draft that asks for it as a name gets a group of that name if it can be one, and a
group without a name otherwise: the reading never refuses what the call has written, and the size of
the program does not depend on the name. -/
theorem read_as_name_iff [Sizing] (n : String) :
    ((∃ t, parse ("(?P<" ++ n ++ ">x)").toList = .ok t ∧ t.captures = [(1, some n)]) ↔
      isName n.toList = true) ∧
    ∀ (s : Settings) (text : String),
      let d := (Draft.withSettings s).call (.find text (some n))
      let name := if isName n.toList = true then some n else none
      (∃ t, parse d.text.toList = .ok t ∧ t.captures = [(1, name)]) ∧
      (∀ pattern report, d.regex.value ≠ .error (.invalidPattern pattern report)) ∧
      (∀ r, d.regex.value = .ok r → r.groupNames = [none, name]) ∧
      ((∃ r, d.regex.value = .ok r) ↔
        ∃ r, ((Draft.withSettings s).call (.find text none)).regex.value = .ok r) := by
  refine ⟨⟨fun h => ?_, exists_tree_of_isName⟩, fun s text => ?_⟩
  · obtain ⟨t, ht, hcaptures⟩ := h
    exact isName_of_parse ht (by simp [hcaptures])
  · intro d name
    have hgrant : Assembly.grant [] (some n) = name := grant_nil n
    have hreads := readsAs_find s text (some n)
    have hdepth := depth_foundPart s text (some n)
    refine ⟨?_, hreads.ne_invalidPattern hdepth, fun r hr => ?_, ?_⟩
    · rw [← hgrant]
      exact hreads.single hdepth
    · rw [value_find, hgrant] at hr
      split at hr
      · obtain rfl := Except.ok.inj hr
        rfl
      · exact absurd hr (by simp)
    · rw [value_find_eq_ok_iff, value_find_eq_ok_iff]

/-- The first angle bracket ends a name, and what is behind it is text. -/
example : (parse "(?P<_>_>x)".toList).map Tree.captures = .ok [(1, some "_")] := by rfl

end FluentRegex
