import FluentRegex.Proofs.Chain.Parts
import FluentRegex.Proofs.Outcome

/-!
# What a chain of calls is read as

An `Assembly` is what a chain of structured calls adds up to: the parts of the pattern and the
name of each group. A call adds parts of its own to it, or puts the last part under a repetition;
with nothing to repeat, or with a count beyond the largest one, there is no assembly
(`Assembly.step`).

> `reads_calls`: the text that the calls have written is read as their assembly, and where they
> have none it is refused.
> `ReadsAs.expression`: such a text means the parts of its assembly in sequence.

So no call is read as anything else because of the calls around it, or because of what its text
contains.
-/

namespace FluentRegex

/-! ## Assemblies -/

/-- What a chain of calls adds up to: parts, and the name of each group, the first one first. -/
structure Assembly where
  parts : List Part := []
  names : List (Option String) := []

namespace Assembly

/-- The name that a group gets when it is asked for, where some names are in use. -/
def grant (names : List (Option String)) : Option String → Option String
  | none => none
  | some name => if Syntax.isName name.toList ∧ some name ∉ names then some name else none

/-- The assembly after a call, if there is one. -/
def step (m : Modes) (a : Assembly) (c : Call) : Option Assembly :=
  if Syntax.maxCount < c.largest then none
  else match c.repeats? with
    | some (low, high) =>
      match a.parts.getLast? with
      | none => none
      | some p => some { a with parts := a.parts.dropLast ++ [p.repeated low (some high)] }
    | none =>
      match c.captures? with
      | none => some { a with parts := a.parts ++ c.plainParts m }
      | some asked =>
        let name := grant a.names asked
        some ⟨a.parts ++ [c.capturedPart m (a.names.length + 1) name], a.names ++ [name]⟩

/-- The assembly of a chain of calls, none of which is `clear`, if it has one. -/
def ofCalls (m : Modes) (cs : List Call) : Option Assembly := cs.foldlM (step m) {}

variable {m : Modes} {a b : Assembly} {c : Call} {cs : List Call}

/-- There is no step for a count that is too large, and none for a repetition of nothing. -/
theorem step_eq_none_iff : a.step m c = none ↔
    Syntax.maxCount < c.largest ∨ (c.repeats?.isSome ∧ a.parts = []) := by
  rw [step]
  by_cases hcount : Syntax.maxCount < c.largest
  · simp [hcount]
  · cases hrepeats : c.repeats? with
    | none =>
      cases hcaptures : c.captures? with
      | none => simp [hcount]
      | some asked => simp [hcount]
    | some bounds =>
      cases hlast : a.parts.getLast? with
      | none =>
        have hnil := List.getLast?_eq_none_iff.1 hlast
        simp [hcount, hnil]
      | some part =>
        have hne : a.parts ≠ [] := by
          intro hnil
          rw [hnil] at hlast
          exact absurd hlast (by simp)
        simp [hcount, hne]

/-- What a step can do: repeat the last part, add a group, or add other parts. -/
theorem step_cases (h : a.step m c = some b) :
    (∃ low high ps p, c.repeats? = some (low, high) ∧ a.parts = ps ++ [p] ∧
      b = ⟨ps ++ [p.repeated low (some high)], a.names⟩) ∨
    (∃ asked, c.captures? = some asked ∧
      b = ⟨a.parts ++ [c.capturedPart m (a.names.length + 1) (grant a.names asked)],
        a.names ++ [grant a.names asked]⟩) ∨
    (c.repeats? = none ∧ c.captures? = none ∧ b = ⟨a.parts ++ c.plainParts m, a.names⟩) := by
  rw [step] at h
  split at h
  · exact absurd h (by simp)
  · cases hrepeats : c.repeats? with
    | some bounds =>
      rw [hrepeats] at h
      dsimp only at h
      split at h
      · exact absurd h (by simp)
      · next part hlast =>
        exact .inl ⟨bounds.1, bounds.2, a.parts.dropLast, part, rfl,
          (List.dropLast_append_getLast? part hlast).symm, (Option.some.inj h).symm⟩
    | none =>
      rw [hrepeats] at h
      dsimp only at h
      split at h
      · next hcaptures => exact .inr (.inr ⟨rfl, hcaptures, (Option.some.inj h).symm⟩)
      · next asked hcaptures => exact .inr (.inl ⟨asked, hcaptures, (Option.some.inj h).symm⟩)

/-- A call that repeats does so with the last part, and with nothing before it. -/
theorem step_of_repeats {low high : Nat} (hc : c.repeats? = some (low, high))
    (h : a.step m c = some b) :
    ∃ ps p, a.parts = ps ++ [p] ∧ b = ⟨ps ++ [p.repeated low (some high)], a.names⟩ := by
  rcases step_cases h with ⟨_, _, ps, p, hrepeats, hparts, hb⟩ | ⟨asked, hcaptures, -⟩ |
    ⟨hrepeats, -, -⟩
  · rw [hc] at hrepeats
    obtain ⟨rfl, rfl⟩ := Prod.mk.inj (Option.some.inj hrepeats)
    exact ⟨ps, p, hparts, hb⟩
  · rw [Call.captures_of_repeats hc] at hcaptures
    exact absurd hcaptures (by simp)
  · rw [hc] at hrepeats
    exact absurd hrepeats (by simp)

/-- A single count is the same step as the two bounds that it stands for. -/
theorem step_times (m : Modes) (a : Assembly) (n : Nat) :
    a.step m (.times n) = a.step m (.between n n) := by
  have hmax : Nat.max n n = n := Nat.max_self n
  have hmin : Nat.min n n = n := Nat.min_self n
  rw [step, step, Call.largest, Call.largest, Call.repeats?, Call.repeats?, hmax, hmin]

theorem ofCalls_append (m : Modes) (cs : List Call) (c : Call) :
    ofCalls m (cs ++ [c]) = (ofCalls m cs).bind fun a => a.step m c := by
  rw [ofCalls, List.foldlM_append]
  cases h : cs.foldlM (step m) {} with
  | none =>
    rw [ofCalls, h]
    rfl
  | some a =>
    rw [ofCalls, h]
    show [c].foldlM (step m) a = a.step m c
    rw [List.foldlM_cons]
    exact bind_pure _

/-- A chain has an assembly if every call has a step from the assembly before it. -/
theorem ofCalls_eq_none_iff : ofCalls m cs = none ↔ ∃ pre c post a, cs = pre ++ c :: post ∧
    ofCalls m pre = some a ∧ a.step m c = none := by
  induction cs using List.reverseRecOn with
  | nil =>
    refine ⟨fun h => absurd h (by simp [ofCalls]), ?_⟩
    intro h
    obtain ⟨pre, c, post, a, h, -, -⟩ := h
    exact absurd h (by simp)
  | append_singleton cs c ih =>
    rw [ofCalls_append]
    constructor
    · intro h
      cases ha : ofCalls m cs with
      | none =>
        obtain ⟨pre, c', post, a, rfl, hpre, hstep⟩ := ih.1 ha
        exact ⟨pre, c', post ++ [c], a, by simp, hpre, hstep⟩
      | some a =>
        rw [ha] at h
        exact ⟨cs, c, [], a, rfl, ha, h⟩
    · intro h
      obtain ⟨pre, c', post, a, heq, hpre, hstep⟩ := h
      rcases List.eq_nil_or_concat post with rfl | ⟨post, x, rfl⟩
      · -- it is the last call that has no step
        obtain ⟨rfl, hc⟩ := List.append_inj' heq rfl
        rw [List.singleton_inj] at hc
        rw [hc, hpre]
        exact hstep
      · have hcs : cs = pre ++ c' :: post := by
          have h : cs ++ [c] = (pre ++ c' :: post) ++ [x] := by simpa using heq
          exact (List.append_inj' h rfl).1
        rw [ih.2 ⟨pre, c', post, a, hcs, hpre, hstep⟩]
        rfl

end Assembly

/-! ## Reading a chain of calls -/

namespace Draft

open Syntax (Progress)

/-- The text of a draft is read as an assembly, whatever comes after it, and gives its names. -/
structure ReadsAs (d : Draft) (a : Assembly) : Prop where
  adds : ∀ rest : List Char, rest.head? ≠ some '?' → ∃ g q,
    (Progress.start (d.text.toList ++ rest)).Adds d.settings.modes a.parts g rest q ∧
      g.count = a.names.length ∧ ∀ n, n ∈ g.names.map Prod.fst ↔ some n ∈ a.names
  gives : d.Gives a.names

/-- The text of a draft is refused, whatever comes after it. -/
def Unreadable (d : Draft) : Prop :=
  ∀ rest : List Char, rest.head? ≠ some '?' → (Progress.start (d.text.toList ++ rest)).Refuses

/-- The text of a draft is read as an assembly, or refused where there is none. -/
def Reads (d : Draft) : Option Assembly → Prop
  | some a => d.ReadsAs a
  | none => d.Unreadable

theorem readsAs_start (s : Settings) : (withSettings s).ReadsAs {} := by
  refine ⟨fun rest _ => ⟨{}, _, .nil ⟨rfl, rfl⟩, rfl, fun n => ?_⟩, gives_nil s⟩
  exact ⟨fun h => absurd h List.not_mem_nil, fun h => absurd h List.not_mem_nil⟩

theorem text_call {d : Draft} {c : Call} (hc : c ≠ .clear) (rest : List Char) :
    (d.call c).text.toList ++ rest = d.text.toList ++ ((c.addition d).text.toList ++ rest) := by
  rw [call_of_ne_clear hc, String.toList_append, List.append_assoc]

/-- What is refused stays so. -/
theorem Unreadable.call {d : Draft} (h : d.Unreadable) {c : Call} (hraw : c.isRaw = false)
    (hc : c ≠ .clear) : (d.call c).Unreadable := by
  intro rest hrest
  rw [text_call hc]
  exact h _ (head_addition hraw d hrest)

theorem granted_eq_grant {d : Draft} {a : Assembly} (h : d.Gives a.names)
    (asked : Option String) : d.granted asked = Assembly.grant a.names asked := by
  cases asked with
  | none => rfl
  | some n =>
    rw [granted, Assembly.grant]
    by_cases hvalid : Syntax.isName n.toList = true
    · have hiff := h.hasName_iff hvalid
      simp only [hvalid, true_and, ← hiff, Bool.not_eq_true]
    · simp [hvalid]

/-- Calls without a group leave the names as they are. -/
theorem Gives.call_of_captures {d : Draft} {names : List (Option String)} (h : d.Gives names)
    {c : Call} (hraw : c.isRaw = false) (hc : c ≠ .clear) (hcaptures : c.captures? = none) :
    (d.call c).Gives names := by
  have hgiven : d.given c = none := by rw [given, hcaptures]; rfl
  have hnone : ∀ n : String, some n ∈ names ++ [none] ↔ some n ∈ names := by simp
  have hcall := h.call hraw hc
  rw [hgiven] at hcall
  refine ⟨fun o ho => ?_, fun n hn => hcall.found n ((hnone n).2 hn),
    fun n hn => hcall.valid n ((hnone n).2 hn)⟩
  obtain ⟨n, hn, hpre⟩ := hcall.known o ho
  exact ⟨n, (hnone n).1 hn, hpre⟩

section

variable {d : Draft} {a : Assembly} {c : Call}

/-- A call that repeats. -/
theorem ReadsAs.call_of_repeats (h : d.ReadsAs a) (hraw : c.isRaw = false) (hc : c ≠ .clear)
    {low high : Nat} (hrepeats : c.repeats? = some (low, high)) :
    (d.call c).Reads (a.step d.settings.modes c) := by
  have hcaptures := Call.captures_of_repeats hrepeats
  -- without a last part there is no item before the count, which is a fault of its own
  have hrefuses : a.parts = [] ∨ Syntax.maxCount < c.largest → (d.call c).Unreadable := by
    intro hbad rest hrest
    rw [text_call hc]
    obtain ⟨g, q, hq, -⟩ := h.adds _ (head_addition hraw d hrest)
    refine hq.leads.refuses
      (refuses_repeats hrepeats hq.cursor hrest (hbad.imp_left fun hnil => ?_))
    obtain ⟨ts, hts, hitems⟩ := hq.items
    rw [hnil] at hitems
    cases hitems
    exact hts
  rw [Assembly.step]
  by_cases hcount : Syntax.maxCount < c.largest
  · rw [if_pos hcount]
    exact hrefuses (.inr hcount)
  · rw [if_neg hcount, hrepeats]
    dsimp only
    cases hlast : a.parts.getLast? with
    | none => exact hrefuses (.inl (List.getLast?_eq_none_iff.1 hlast))
    | some part =>
      refine ⟨fun rest hrest => ?_, h.gives.call_of_captures hraw hc hcaptures⟩
      obtain ⟨g, q, hq, hg⟩ := h.adds _ (head_addition hraw d hrest)
      rw [← List.dropLast_append_getLast? part hlast] at hq
      obtain ⟨q', hq'⟩ := adds_repeats rfl hrepeats (Nat.le_of_not_lt hcount) hq hrest
      rw [text_call hc, settings_call]
      exact ⟨g, q', hq', hg⟩

/-- A call that captures. -/
theorem ReadsAs.call_of_captures (h : d.ReadsAs a) (hraw : c.isRaw = false) (hc : c ≠ .clear)
    {asked : Option String} (hcaptures : c.captures? = some asked) :
    (d.call c).Reads (a.step d.settings.modes c) := by
  have hrepeats := Call.repeats_of_captures hcaptures
  have hgiven : d.given c = d.granted asked := by rw [given, hcaptures]; rfl
  have hgrant := granted_eq_grant h.gives asked
  -- the names are known to be free whatever comes after the call
  have hread : ∀ rest : List Char, rest.head? ≠ some '?' → ∃ g q,
      (Progress.start (d.text.toList ++ ((c.addition d).text.toList ++ rest))).Adds
        d.settings.modes a.parts g ((c.addition d).text.toList ++ rest) q ∧
      (g.count = a.names.length ∧ ∀ n, n ∈ g.names.map Prod.fst ↔ some n ∈ a.names) ∧
      ∀ n ∈ d.granted asked, Syntax.isName n.toList = true ∧ n ∉ q.groups.names.map Prod.fst := by
    intro rest hrest
    obtain ⟨g, q, hq, hg⟩ := h.adds _ (head_addition hraw d hrest)
    refine ⟨g, q, hq, hg, fun n hn => ⟨isName_of_given (hgiven.trans hn), ?_⟩⟩
    rw [hq.groups, hg.2 n]
    rw [hgrant, Option.mem_def] at hn
    cases asked with
    | none => exact absurd hn (by simp [Assembly.grant])
    | some n' =>
      rw [Assembly.grant] at hn
      split at hn
      · next hfree =>
        obtain rfl := Option.some.inj hn
        exact hfree.2
      · exact absurd hn (by simp)
  rw [Assembly.step]
  by_cases hcount : Syntax.maxCount < c.largest
  · rw [if_pos hcount]
    intro rest hrest
    obtain ⟨g, q, hq, -, hname⟩ := hread rest hrest
    have hcaptured :=
      adds_captured (m := d.settings.modes) rfl rfl hcaptures hname hq.cursor hrest
    rw [text_call hc]
    exact hq.leads.refuses (hcaptured.2 hcount)
  · rw [if_neg hcount, hrepeats, hcaptures]
    dsimp only
    rw [← hgrant]
    refine ⟨fun rest hrest => ?_, ?_⟩
    · obtain ⟨g, q, hq, hg, hname⟩ := hread rest hrest
      have hcaptured :=
        adds_captured (m := d.settings.modes) rfl rfl hcaptures hname hq.cursor hrest
      obtain ⟨span, q', hq'⟩ := hcaptured.1 (Nat.le_of_not_lt hcount)
      rw [hq.groups, hg.1] at hq'
      rw [text_call hc, settings_call]
      refine ⟨_, q', hq.trans hq', ?_, fun n => ?_⟩
      · rw [Syntax.Groups.count_enter, List.length_append, List.length_singleton, hg.1]
      · rw [Syntax.Groups.mem_enter, hg.2 n, List.mem_append, List.mem_singleton]
    · rw [← hgiven]
      exact h.gives.call hraw hc

/-- A call that does neither. -/
theorem ReadsAs.call_of_plain (h : d.ReadsAs a) (hraw : c.isRaw = false) (hc : c ≠ .clear)
    (hrepeats : c.repeats? = none) (hcaptures : c.captures? = none) :
    (d.call c).Reads (a.step d.settings.modes c) := by
  -- such a call gives no count at all
  have hcount : ¬ Syntax.maxCount < c.largest := by
    cases c with
    | times n => exact absurd hrepeats (by simp [Call.repeats?])
    | between m n => exact absurd hrepeats (by simp [Call.repeats?])
    | words name count => exact absurd hcaptures (by simp [Call.captures?])
    | decimals name count => exact absurd hcaptures (by simp [Call.captures?])
    | _ => exact Nat.not_lt_zero _
  rw [Assembly.step, if_neg hcount, hrepeats, hcaptures]
  refine ⟨fun rest hrest => ?_, h.gives.call_of_captures hraw hc hcaptures⟩
  obtain ⟨g, q, hq, hg⟩ := h.adds _ (head_addition hraw d hrest)
  obtain ⟨q', hq'⟩ := adds_plain (m := d.settings.modes) rfl hraw hrepeats hcaptures d hq.cursor
  rw [hq.groups] at hq'
  rw [text_call hc, settings_call]
  exact ⟨g, q', hq.trans hq', hg⟩

/-- A call takes the assembly of a draft one step on, or makes the draft unreadable. -/
theorem ReadsAs.call (h : d.ReadsAs a) (hraw : c.isRaw = false) (hc : c ≠ .clear) :
    (d.call c).Reads (a.step d.settings.modes c) := by
  cases hrepeats : c.repeats? with
  | some bounds => exact h.call_of_repeats hraw hc hrepeats
  | none =>
    cases hcaptures : c.captures? with
    | some asked => exact h.call_of_captures hraw hc hcaptures
    | none => exact h.call_of_plain hraw hc hrepeats hcaptures

end

theorem Unreadable.calls {d : Draft} (h : d.Unreadable) {cs : List Call}
    (hraw : ∀ c ∈ cs, c.isRaw = false) (hclear : ∀ c ∈ cs, c ≠ .clear) :
    (d.calls cs).Unreadable := by
  induction cs generalizing d with
  | nil => exact h
  | cons c cs ih =>
    rw [List.forall_mem_cons] at hraw hclear
    exact ih (h.call hraw.1 hclear.1) hraw.2 hclear.2

theorem ReadsAs.calls {d : Draft} {a : Assembly} (h : d.ReadsAs a) {cs : List Call}
    (hraw : ∀ c ∈ cs, c.isRaw = false) (hclear : ∀ c ∈ cs, c ≠ .clear) :
    (d.calls cs).Reads (cs.foldlM (Assembly.step d.settings.modes) a) := by
  induction cs generalizing d a with
  | nil => exact h
  | cons c cs ih =>
    rw [List.forall_mem_cons] at hraw hclear
    have hcall := h.call hraw.1 hclear.1
    rw [List.foldlM_cons]
    cases hstep : a.step d.settings.modes c with
    | none =>
      rw [hstep] at hcall
      exact Unreadable.calls hcall hraw.2 hclear.2
    | some b =>
      rw [hstep] at hcall
      have hrest := ih hcall hraw.2 hclear.2
      rwa [settings_call] at hrest

/-- What a chain of structured calls has written is read as the assembly of the calls since the
last `clear`, and refused where there is none. -/
theorem reads_calls (s : Settings) {cs : List Call} (hraw : ∀ c ∈ cs, c.isRaw = false) :
    ((withSettings s).calls cs).Reads (Assembly.ofCalls s.modes (sinceClear cs)) := by
  rw [calls_sinceClear]
  exact (readsAs_start s).calls (fun c hc => hraw c ((suffix_sinceClear cs).subset hc))
    fun c hc => ne_clear_of_mem hc

/-! ## The expression of a draft -/

/-- The text of a draft means the parts of its assembly in sequence, unless they are nested too
deep. -/
theorem ReadsAs.expression {d : Draft} {a : Assembly} (h : d.ReadsAs a) :
    ((Part.inSequence a.parts).depth ≤ Syntax.maxDepth →
      FluentRegex.expression d.text.toList d.settings.modes =
        .ok (Part.inSequence a.parts).expr) ∧
    (Syntax.maxDepth < (Part.inSequence a.parts).depth →
      ∃ e, FluentRegex.expression d.text.toList d.settings.modes = .error e) := by
  obtain ⟨g, q, hq, -⟩ := h.adds [] (by simp)
  rw [List.append_nil] at hq
  obtain ⟨ts, hts, hitems⟩ := hq.items
  -- nothing stood at the level before, so its items are those of the assembly
  have hlevel : List.Forall₂ (Syntax.Tree.IsItem d.settings.modes) q.level.items.reverse
      a.parts := by
    have hrev := List.rel_reverse hitems
    rw [List.reverse_reverse] at hrev
    rw [hts, show (Progress.start d.text.toList).level.items = [] from rfl, List.append_nil]
    exact hrev
  have hmeans := Syntax.means_tree (hq.branches.trans rfl) hlevel q.cursor.pos
  have hopened : q.opened = [] := hq.opened
  rw [FluentRegex.expression, Syntax.parse_of_leads hq.leads hq.cursor, Progress.finish, hopened]
  dsimp only
  cases hdeep : (q.level.tree q.cursor.pos).tooDeep? Syntax.maxDepth with
  | none =>
    have hle := (hmeans.depth _).1 hdeep
    refine ⟨fun _ => ?_, fun hlt => absurd hlt (Nat.not_lt_of_le hle)⟩
    dsimp only
    rw [hmeans.expr]
  | some span =>
    refine ⟨fun hle => ?_, fun _ => ⟨_, rfl⟩⟩
    rw [(hmeans.depth _).2 hle] at hdeep
    exact absurd hdeep (by simp)

/-- The text of an unreadable draft has no meaning. -/
theorem Unreadable.expression {d : Draft} (h : d.Unreadable) :
    ∃ e, FluentRegex.expression d.text.toList d.settings.modes = .error e := by
  have hrefuses := h [] (by simp)
  rw [List.append_nil] at hrefuses
  obtain ⟨e, he⟩ := Syntax.parse_of_refuses hrefuses
  exact ⟨e, by rw [FluentRegex.expression, he]⟩

/-! ### Under a limit on the size -/

section

variable [Sizing] {d : Draft} {a : Assembly} {a? : Option Assembly}

/-- An unreadable draft is rejected as no pattern. -/
theorem Unreadable.compile (h : d.Unreadable) :
    ∃ pattern report, d.compile = .error (.invalidPattern pattern report) := by
  obtain ⟨e, he⟩ := h.expression
  exact ⟨_, _, compile_of_fault he⟩

/-- A draft with an assembly that is not too deep is only rejected for its size. -/
theorem ReadsAs.compile (h : d.ReadsAs a)
    (hdepth : (Part.inSequence a.parts).depth ≤ Syntax.maxDepth) :
    (∃ r, d.compile = .ok r) ∨
      ∃ pattern limit, d.compile = .error (.patternTooBig pattern limit) := by
  rw [compile_of_expression (h.expression.1 hdepth)]
  split
  · exact .inl ⟨_, rfl⟩
  · exact .inr ⟨_, _, rfl⟩

/-- Such a draft is a pattern, even if it asks for too large a program. -/
theorem ReadsAs.ne_invalidPattern (h : d.ReadsAs a)
    (hdepth : (Part.inSequence a.parts).depth ≤ Syntax.maxDepth) (pattern report : String) :
    d.regex.value ≠ .error (.invalidPattern pattern report) := by
  rw [value_regex]
  rcases h.compile hdepth with ⟨r, hr⟩ | ⟨pattern', limit, hr⟩
  · rw [hr]
    simp
  · rw [hr]
    simp

/-- A draft that can be run has an assembly, whose parts in sequence are what is run. -/
theorem Reads.of_compile (h : d.Reads a?) {r : Regex} (hr : d.compile = .ok r) : ∃ a, a? = some a ∧
      r.groupNames = (Part.inSequence a.parts).expr.groupNames ∧
      r.program = (Part.inSequence a.parts).expr.program := by
  cases a? with
  | none =>
    obtain ⟨pattern, report, herror⟩ := Unreadable.compile h
    rw [herror] at hr
    exact absurd hr (by simp)
  | some a =>
    obtain ⟨e, he, rfl⟩ := expression_of_compile hr
    obtain ⟨hok, herror⟩ := ReadsAs.expression h
    rcases Nat.lt_or_ge Syntax.maxDepth (Part.inSequence a.parts).depth with hdeep | hdeep
    · obtain ⟨fault, hfault⟩ := herror hdeep
      rw [hfault] at he
      exact absurd he (by simp)
    · rw [hok hdeep] at he
      rw [← Except.ok.inj he]
      exact ⟨a, rfl, rfl, rfl⟩

/-- Two drafts that are read as the same assembly, or both refused, come to the same. -/
theorem Reads.alike {d' : Draft} (h : d.Reads a?) (h' : d'.Reads a?)
    (hlimit : d.settings.limit = d'.settings.limit) : d.Alike d' := by
  cases a? with
  | none =>
    obtain ⟨fault, hfault⟩ := Unreadable.expression h
    obtain ⟨fault', hfault'⟩ := Unreadable.expression h'
    exact alike_of_faults hfault hfault'
  | some a =>
    obtain ⟨hok, herror⟩ := ReadsAs.expression h
    obtain ⟨hok', herror'⟩ := ReadsAs.expression h'
    -- the parts are nested too deep for both or for neither
    rcases Nat.lt_or_ge Syntax.maxDepth (Part.inSequence a.parts).depth with hdeep | hdeep
    · obtain ⟨fault, hfault⟩ := herror hdeep
      obtain ⟨fault', hfault'⟩ := herror' hdeep
      exact alike_of_faults hfault hfault'
    · exact alike_of_expression hlimit (hok hdeep) (hok' hdeep)

end

end Draft

end FluentRegex
