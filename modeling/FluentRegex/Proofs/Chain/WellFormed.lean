import FluentRegex.Machine.Estimate
import FluentRegex.Proofs.Chain.Matching

/-!
# Which chains of calls are no pattern

Structured calls write a pattern that can be read, whatever texts, sets, names and bounds they are
given, but for two faults: to repeat where nothing was said yet, and to give a count beyond the
largest one that a pattern can have. Both are known from the calls alone (`Faulty`):

> `invalidPattern_iff_faulty`: a chain is rejected as no pattern if it has one of the two faults,
> and not otherwise, as long as something is said between any two calls that repeat.

Repetitions that follow one another directly are nested, and a pattern may be nested 250 levels
deep. With something said between them six levels are all that a chain can have
(`depth_of_ofCalls`).
-/

namespace FluentRegex

/-! ## Empty drafts -/

/-- A call that neither captures nor repeats has no parts if it writes nothing. -/
theorem plainParts_eq_nil_iff {m : Modes} {c : Call} (hraw : c.isRaw = false)
    (hrepeats : c.repeats? = none) (hcaptures : c.captures? = none) (d : Draft) :
    c.plainParts m = [] ↔ (c.addition d).text = "" := by
  rcases Call.plain_cases hraw hrepeats hcaptures with ⟨text, rfl⟩ | ⟨chars, rfl⟩ | rfl | rfl | rfl
  · cases htext : text.toList with
    | nil => simp [Call.plainParts, Call.addition, Draft.escaped, escape, htext, escapeChars]
    | cons x xs =>
      obtain ⟨y, ys, hy, -⟩ := head_escapeChars d.settings.delimiter x xs
      simp [Call.plainParts, Call.addition, Draft.escaped, escape, htext, hy]
  · rw [Call.plainParts, Call.addition]
    split
    · simp
    · simp [Text.classOf]
  · simp [Call.plainParts, Call.addition]
  · simp [Call.plainParts, Call.addition]
  · simp [Call.plainParts, Call.addition]

/-- The parts after a call are none if there were none before and the call wrote nothing. -/
theorem Assembly.parts_eq_nil_iff {m : Modes} {a b : Assembly} {c : Call} (hraw : c.isRaw = false)
    (h : a.step m c = some b) (d : Draft) :
    b.parts = [] ↔ a.parts = [] ∧ (c.addition d).text = "" := by
  rcases step_cases h with ⟨low, high, ps, p, hrepeats, hparts, rfl⟩ | ⟨asked, hcaptures, rfl⟩ |
    ⟨hrepeats, hcaptures, rfl⟩
  · simp [hparts]
  · simp only [List.append_eq_nil_iff, List.cons_ne_self, and_false, false_iff, not_and]
    intro _ htext
    have hlist := Draft.addition_of_captures hcaptures d
    rw [htext] at hlist
    have hlen := congrArg List.length hlist
    simp at hlen
  · rw [List.append_eq_nil_iff, plainParts_eq_nil_iff hraw hrepeats hcaptures d]

/-- A draft is empty if its assembly has no parts. -/
theorem isEmpty_iff_parts (s : Settings) {cs : List Call} (hraw : ∀ c ∈ cs, c.isRaw = false)
    (hclear : ∀ c ∈ cs, c ≠ .clear) {a : Assembly} (h : Assembly.ofCalls s.modes cs = some a) :
    ((Draft.withSettings s).calls cs).isEmpty = true ↔ a.parts = [] := by
  induction cs using List.reverseRecOn generalizing a with
  | nil =>
    cases h
    simp [Draft.calls, Draft.withSettings, Draft.isEmpty]
  | append_singleton cs c ih =>
    have hmem : c ∈ cs ++ [c] := List.mem_append_right _ (List.mem_singleton_self c)
    rw [Assembly.ofCalls_append] at h
    obtain ⟨a', ha', hstep⟩ := Option.bind_eq_some_iff.1 h
    have hbefore := ih (fun c hc => hraw c (List.mem_append_left _ hc))
      (fun c hc => hclear c (List.mem_append_left _ hc)) ha'
    rw [Draft.calls_append, Assembly.parts_eq_nil_iff (hraw c hmem) hstep
      ((Draft.withSettings s).calls cs), ← hbefore]
    show (((Draft.withSettings s).calls cs).call c).isEmpty = true ↔ _
    rw [Draft.call_of_ne_clear (hclear c hmem), Draft.isEmpty, Draft.isEmpty, String.isEmpty_iff,
      String.isEmpty_iff, String.append_eq_empty_iff]

/-! ## Faults -/

/-- Since the last `clear` a call repeats where nothing was said yet, or gives a count that is too
large. -/
def Faulty (s : Settings) (cs : List Call) : Prop :=
  (∃ pre c post, sinceClear cs = pre ++ c :: post ∧ c.repeats?.isSome ∧
    ((Draft.withSettings s).calls pre).isEmpty) ∨
  ∃ c ∈ sinceClear cs, 4294967295 < c.largest

/-- A chain has no assembly if it is faulty. -/
theorem ofCalls_eq_none_iff_faulty (s : Settings) {cs : List Call}
    (hraw : ∀ c ∈ cs, c.isRaw = false) :
    Assembly.ofCalls s.modes (sinceClear cs) = none ↔ Faulty s cs := by
  have hraw' : ∀ c ∈ sinceClear cs, c.isRaw = false :=
    fun c hc => hraw c ((suffix_sinceClear cs).subset hc)
  have hclear : ∀ c ∈ sinceClear cs, c ≠ .clear := fun c hc => ne_clear_of_mem hc
  rw [Faulty]
  generalize sinceClear cs = said at hraw' hclear
  -- before each of the calls, an empty draft and an assembly without parts are the same
  have hbefore : ∀ {pre c post a}, said = pre ++ c :: post →
      Assembly.ofCalls s.modes pre = some a →
      (((Draft.withSettings s).calls pre).isEmpty = true ↔ a.parts = []) := by
    intro pre c post a heq ha
    subst heq
    exact isEmpty_iff_parts s (fun c hc => hraw' c (List.mem_append_left _ hc))
      (fun c hc => hclear c (List.mem_append_left _ hc)) ha
  constructor
  · intro h
    obtain ⟨pre, c, post, a, heq, ha, hstep⟩ := Assembly.ofCalls_eq_none_iff.1 h
    rcases Assembly.step_eq_none_iff.1 hstep with hcount | ⟨hrepeats, hnil⟩
    · refine .inr ⟨c, ?_, hcount⟩
      rw [heq]
      exact List.mem_append_right _ List.mem_cons_self
    · exact .inl ⟨pre, c, post, heq, hrepeats, (hbefore heq ha).2 hnil⟩
  · intro h
    -- the call with the fault has no step, unless an earlier one had none already
    have hfault : ∀ pre c post, said = pre ++ c :: post → (∀ a,
        Assembly.ofCalls s.modes pre = some a → a.step s.modes c = none) →
        Assembly.ofCalls s.modes said = none := by
      intro pre c post heq hstep
      cases ha : Assembly.ofCalls s.modes pre with
      | some a => exact Assembly.ofCalls_eq_none_iff.2 ⟨pre, c, post, a, heq, ha, hstep a ha⟩
      | none =>
        obtain ⟨pre', c', post', a, rfl, ha', hstep'⟩ := Assembly.ofCalls_eq_none_iff.1 ha
        exact Assembly.ofCalls_eq_none_iff.2
          ⟨pre', c', post' ++ c :: post, a, by simp [heq], ha', hstep'⟩
    rcases h with ⟨pre, c, post, heq, hrepeats, hempty⟩ | ⟨c, hc, hcount⟩
    · refine hfault pre c post heq fun a ha => ?_
      exact Assembly.step_eq_none_iff.2 (.inr ⟨hrepeats, (hbefore heq ha).1 hempty⟩)
    · obtain ⟨pre, post, heq⟩ := List.append_of_mem hc
      exact hfault pre c post heq fun a ha => Assembly.step_eq_none_iff.2 (.inl hcount)

/-! ## Depth -/

/-- Between any two calls that repeat, some call writes something. -/
def Draft.Spaced (d : Draft) (cs : List Call) : Prop :=
  ∀ pre a mid b post, cs = pre ++ a :: (mid ++ b :: post) →
    a.repeats?.isSome → b.repeats?.isSome →
    ∃ mid₁ c mid₂, mid = mid₁ ++ c :: mid₂ ∧ (c.addition (d.calls (pre ++ a :: mid₁))).text ≠ ""

/-- After every call that repeats, some call writes something. -/
def Draft.Refreshed (d : Draft) (cs : List Call) : Prop :=
  ∀ pre a mid, cs = pre ++ a :: mid → a.repeats?.isSome →
    ∃ mid₁ c mid₂, mid = mid₁ ++ c :: mid₂ ∧ (c.addition (d.calls (pre ++ a :: mid₁))).text ≠ ""

namespace Draft

variable {d : Draft} {cs : List Call} {c : Call}

theorem Spaced.init (h : d.Spaced (cs ++ [c])) : d.Spaced cs := by
  intro pre a mid b post heq ha hb
  subst heq
  exact h pre a mid b (post ++ [c]) (by simp) ha hb

theorem Spaced.refreshed (h : d.Spaced (cs ++ [c])) (hc : c.repeats?.isSome) : d.Refreshed cs := by
  intro pre a mid heq ha
  subst heq
  exact h pre a mid c [] (by simp) ha hc

/-- A call that writes nothing does not help. -/
theorem Refreshed.init (h : d.Refreshed (cs ++ [c]))
    (hc : (c.addition (d.calls cs)).text = "") : d.Refreshed cs := by
  intro pre a mid heq ha
  subst heq
  obtain ⟨mid₁, x, mid₂, hmid, hx⟩ := h pre a (mid ++ [c]) (by simp) ha
  rcases List.eq_nil_or_concat mid₂ with rfl | ⟨mid₂, y, rfl⟩
  · obtain ⟨rfl, hlast⟩ := List.append_inj' hmid rfl
    rw [List.singleton_inj] at hlast
    exact absurd (hlast ▸ hc) hx
  · have h' : mid ++ [c] = (mid₁ ++ x :: mid₂) ++ [y] := by simpa using hmid
    exact ⟨mid₁, x, mid₂, (List.append_inj' h' rfl).1, hx⟩

end Draft

/-- A chain keeps something said between two repetitions when all before the last `clear` is
forgotten. -/
theorem Draft.Spaced.sinceClear {s : Settings} {cs : List Call}
    (h : (withSettings s).Spaced cs) : (withSettings s).Spaced (sinceClear cs) := by
  intro pre a mid b post heq ha hb
  have hcs : cs = (cs.rdropWhile (· ≠ .clear) ++ pre) ++ a :: (mid ++ b :: post) := by
    rw [List.append_assoc, ← heq]
    exact List.rdropWhile_append_rtakeWhile.symm
  obtain ⟨mid₁, c, mid₂, hmid, hc⟩ := h _ a mid b post hcs ha hb
  refine ⟨mid₁, c, mid₂, hmid, ?_⟩
  rwa [List.append_assoc, calls_append, calls_untilClear] at hc

namespace Part

theorem depth_inSequence {ps : List Part} {k : Nat} (h : ∀ p ∈ ps, p.depth ≤ k) :
    (inSequence ps).depth ≤ k + 1 := by
  match ps with
  | [] => exact Nat.zero_le _
  | [p] => exact Nat.le_succ_of_le (h p List.mem_cons_self)
  | p :: q :: ps => exact Nat.succ_le_succ (deepest_le.2 h)

theorem depth_ofChars (m : Modes) (negate : Bool) (chars : List Char) :
    (ofChars m negate chars).depth ≤ 2 := by
  rw [ofChars]
  dsimp only
  split
  · omega
  · omega

theorem depth_allBut (m : Modes) (chars : List Char) : (allBut m chars).depth ≤ 2 := by
  rw [allBut]
  split
  · exact Nat.zero_le _
  · exact depth_ofChars m true chars

end Part

theorem depth_literals {m : Modes} {chars : List Char} {p : Part}
    (h : p ∈ chars.map (Part.literal m)) : p.depth ≤ 0 := by
  obtain ⟨c, -, rfl⟩ := List.mem_map.1 h
  exact Nat.le_refl 0

theorem depth_plainParts (m : Modes) (c : Call) : ∀ p ∈ c.plainParts m, p.depth ≤ 4 := by
  intro p hp
  cases c with
  | search text => exact Nat.le_trans (depth_literals hp) (Nat.zero_le _)
  | anyOf chars =>
    rw [Call.plainParts] at hp
    split at hp
    · exact absurd hp List.not_mem_nil
    · rw [List.mem_singleton.1 hp]
      exact Nat.le_trans (Part.depth_ofChars m false _) (by omega)
  | startOfLine => rw [List.mem_singleton.1 hp]; exact Nat.zero_le _
  | endOfLine => rw [List.mem_singleton.1 hp]; exact Nat.zero_le _
  | _ => exact absurd hp List.not_mem_nil

theorem depth_capturedPart (m : Modes) (index : Nat) (name : Option String) (c : Call) :
    (c.capturedPart m index name).depth ≤ 4 := by
  have hinside : (Part.inSequence (c.insideParts m)).depth ≤ 3 ∧
      (c.isOptional = true → (Part.inSequence (c.insideParts m)).depth ≤ 1) := by
    have hliterals : ∀ text : String,
        (Part.inSequence (text.toList.map (Part.literal m))).depth ≤ 1 :=
      fun text => Part.depth_inSequence fun p hp => depth_literals hp
    have hone : ∀ {p : Part} {min max}, p.depth ≤ 2 →
        (Part.inSequence [p.repeated min max]).depth ≤ 3 := fun h => Nat.succ_le_succ h
    cases c with
    | find text n => exact ⟨Nat.le_trans (hliterals text) (by omega), fun _ => hliterals text⟩
    | maybe text n => exact ⟨Nat.le_trans (hliterals text) (by omega), fun _ => hliterals text⟩
    | anything n => exact ⟨hone (Nat.zero_le _), fun h => absurd h Bool.false_ne_true⟩
    | something n => exact ⟨hone (Nat.zero_le _), fun h => absurd h Bool.false_ne_true⟩
    | anythingBut chars n =>
      exact ⟨hone (Part.depth_allBut m _), fun h => absurd h Bool.false_ne_true⟩
    | somethingBut chars n =>
      exact ⟨hone (Part.depth_allBut m _), fun h => absurd h Bool.false_ne_true⟩
    | words n count =>
      exact ⟨hone (show 1 ≤ 2 by omega), fun h => absurd h Bool.false_ne_true⟩
    | decimals n count =>
      exact ⟨hone (show 1 ≤ 2 by omega), fun h => absurd h Bool.false_ne_true⟩
    | _ => exact ⟨Nat.zero_le _, fun h => absurd h Bool.false_ne_true⟩
  rw [Call.capturedPart]
  split
  · next hopt =>
    exact Nat.succ_le_succ (Nat.succ_le_succ (Nat.le_trans (hinside.2 hopt) (by omega)))
  · exact Nat.succ_le_succ hinside.1

/-- Only the last part can be deeper than four levels, and only if nothing was said after it was
repeated. -/
theorem depth_of_ofCalls (s : Settings) {cs : List Call} (hraw : ∀ c ∈ cs, c.isRaw = false)
    (hspaced : (Draft.withSettings s).Spaced cs) {a : Assembly}
    (h : Assembly.ofCalls s.modes cs = some a) :
    (∀ p ∈ a.parts, p.depth ≤ 5) ∧ ((Draft.withSettings s).Refreshed cs →
      ∀ ps p, a.parts = ps ++ [p] → p.depth ≤ 4) := by
  induction cs using List.reverseRecOn generalizing a with
  | nil =>
    cases h
    exact ⟨fun p hp => absurd hp List.not_mem_nil, fun _ ps p hps => absurd hps (by simp)⟩
  | append_singleton cs c ih =>
    rw [Assembly.ofCalls_append] at h
    obtain ⟨b, hb, hstep⟩ := Option.bind_eq_some_iff.1 h
    obtain ⟨hall, hlast⟩ :=
      ih (fun c hc => hraw c (List.mem_append_left _ hc)) hspaced.init hb
    rcases Assembly.step_cases hstep with ⟨low, high, ps, p, hrepeats, hparts, rfl⟩ |
      ⟨asked, hcaptures, rfl⟩ | ⟨hrepeats, hcaptures, rfl⟩
    · -- something was said before it is repeated, so the last part is not yet a repetition
      have hc : c.repeats?.isSome := by rw [hrepeats]; rfl
      have hdepth : p.depth ≤ 4 := hlast (hspaced.refreshed hc) ps p hparts
      refine ⟨fun q hq => ?_, fun hnew => ?_⟩
      · rcases List.mem_append.1 hq with hq | hq
        · exact hall q (by rw [hparts]; exact List.mem_append_left _ hq)
        · rw [List.mem_singleton.1 hq]
          exact Nat.succ_le_succ hdepth
      · -- after this call nothing was said yet
        obtain ⟨mid₁, x, mid₂, hmid, -⟩ := hnew cs c [] rfl hc
        exact absurd hmid (by simp)
    · have hdepth := depth_capturedPart s.modes (b.names.length + 1)
        (Assembly.grant b.names asked) c
      refine ⟨fun q hq => ?_, fun _ ps p hps => ?_⟩
      · rcases List.mem_append.1 hq with hq | hq
        · exact hall q hq
        · rw [List.mem_singleton.1 hq]
          exact Nat.le_succ_of_le hdepth
      · obtain ⟨-, hp⟩ := List.append_inj' hps rfl
        rw [List.singleton_inj] at hp
        exact hp ▸ hdepth
    · have hdepth := depth_plainParts s.modes c
      refine ⟨fun q hq => ?_, fun hnew ps p hps => ?_⟩
      · rcases List.mem_append.1 hq with hq | hq
        · exact hall q hq
        · exact Nat.le_succ_of_le (hdepth q hq)
      · -- a call that writes nothing leaves the last part what it was
        dsimp only at hps
        rcases List.eq_nil_or_concat (c.plainParts s.modes) with hnil | ⟨qs, q, hqs⟩
        · have hc := hraw c (List.mem_append_right _ (List.mem_singleton_self c))
          rw [hnil, List.append_nil] at hps
          exact hlast (hnew.init ((plainParts_eq_nil_iff hc hrepeats hcaptures _).1 hnil)) ps p hps
        · rw [hqs, List.concat_eq_append, ← List.append_assoc] at hps
          obtain ⟨-, hp⟩ := List.append_inj' hps rfl
          rw [List.singleton_inj] at hp
          refine hp ▸ hdepth q ?_
          rw [hqs, List.concat_eq_append]
          exact List.mem_append_right _ (List.mem_singleton_self q)

/-! ## Chains that repeat nothing -/

section

variable {s : Settings} {cs : List Call} (h : ∀ c ∈ cs, c.Describes)
include h

/-- A chain that repeats nothing has an assembly unless it gives a count that is too large. -/
theorem ofCalls_eq_none_iff_large :
    Assembly.ofCalls s.modes cs = none ↔ ∃ c ∈ cs, Syntax.maxCount < c.largest := by
  have hself : sinceClear cs = cs := sinceClear_eq_self fun c hc => (h c hc).ne_clear
  have hfaulty := ofCalls_eq_none_iff_faulty s fun c hc => (h c hc).notRaw
  rw [Faulty, hself] at hfaulty
  refine hfaulty.trans ⟨fun hbad => ?_, .inr⟩
  rcases hbad with ⟨pre, c, post, rfl, hrepeats, -⟩ | hbad
  · rw [(h c (List.mem_append_right _ List.mem_cons_self)).noRepeat] at hrepeats
    exact absurd hrepeats (by simp)
  · exact hbad

omit h in
theorem depth_partsOf (m : Modes) (names : List (Option String)) :
    ∀ q ∈ partsOf m names cs, q.depth ≤ 4 := by
  induction cs generalizing names with
  | nil => exact fun q hq => absurd hq List.not_mem_nil
  | cons c cs ih =>
    intro q hq
    rcases List.mem_append.1 hq with hq | hq
    · rw [Call.partsAfter] at hq
      split at hq
      · rw [List.mem_singleton.1 hq]
        exact depth_capturedPart m _ _ c
      · exact depth_plainParts m c q hq
    · exact ih _ q hq

/-- Such a chain means its parts in sequence. -/
theorem expression_of_calls (hcount : ∀ c ∈ cs, c.largest ≤ Syntax.maxCount) :
    expression ((Draft.withSettings s).calls cs).text.toList
        ((Draft.withSettings s).calls cs).settings.modes =
      .ok (Part.inSequence (partsOf s.modes [] cs)).expr := by
  have hreads := Draft.reads_calls s fun c hc => (h c hc).notRaw
  rw [sinceClear_eq_self fun c hc => (h c hc).ne_clear] at hreads
  cases ha : Assembly.ofCalls s.modes cs with
  | none =>
    obtain ⟨c, hc, hlarge⟩ := (ofCalls_eq_none_iff_large h).1 ha
    exact absurd (hcount c hc) (Nat.not_le_of_lt hlarge)
  | some a =>
    rw [ha] at hreads
    have hparts : a.parts = partsOf s.modes [] cs :=
      Assembly.parts_of_calls (fun c hc => (h c hc).noRepeat) ha
    have hdepth : (Part.inSequence (partsOf s.modes [] cs)).depth ≤ 5 :=
      Part.depth_inSequence (depth_partsOf s.modes [])
    rw [← hparts] at hdepth ⊢
    exact hreads.expression.1 (Nat.le_trans hdepth (by decide))

end

/-! ## Rejections -/

/-- A chain of structured calls is rejected as no pattern if it repeats nothing or gives a count
that is too large. Otherwise it can be run, or asks for too large a program. -/
theorem invalidPattern_iff_faulty [Sizing] (s : Settings) (cs : List Call)
    (hraw : ∀ c ∈ cs, c.isRaw = false) (hspaced : (Draft.withSettings s).Spaced cs) :
    ((∃ pattern report, ((Draft.withSettings s).calls cs).regex.value =
        .error (.invalidPattern pattern report)) ↔ Faulty s cs) ∧
      (¬ Faulty s cs → (∃ r, ((Draft.withSettings s).calls cs).regex.value = .ok r) ∨
        ∃ pattern limit, ((Draft.withSettings s).calls cs).regex.value =
          .error (.patternTooBig pattern limit)) := by
  have hreads := Draft.reads_calls s hraw
  rw [← ofCalls_eq_none_iff_faulty s hraw, Draft.value_regex]
  cases ha : Assembly.ofCalls s.modes (sinceClear cs) with
  | none =>
    rw [ha] at hreads
    exact ⟨⟨fun _ => rfl, fun _ => Draft.Unreadable.compile hreads⟩, fun h => absurd rfl h⟩
  | some a =>
    rw [ha] at hreads
    have hraw' : ∀ c ∈ sinceClear cs, c.isRaw = false :=
      fun c hc => hraw c ((suffix_sinceClear cs).subset hc)
    have hdepth := Part.depth_inSequence (depth_of_ofCalls s hraw' hspaced.sinceClear ha).1
    have hcompile := Draft.ReadsAs.compile hreads (Nat.le_trans hdepth (by decide))
    refine ⟨⟨?_, fun h => absurd h (by simp)⟩, fun _ => hcompile⟩
    intro h
    obtain ⟨pattern, report, herror⟩ := h
    rcases hcompile with ⟨r, hr⟩ | ⟨pattern', limit, hr⟩
    · rw [hr] at herror
      exact absurd herror (by simp)
    · rw [hr] at herror
      exact absurd herror (by simp)

section

attribute [local instance] Sizing.estimate

/-- After `clear`, and after empty text alone, there is nothing that could be repeated. -/
theorem invalidPattern_of_nothing_said : ∃ pattern report,
    ((Draft.withDelimiter '#').calls [.search "x", .times 2, .find "y" none, .clear, .search "",
      .between 1 2]).regex.value = .error (.invalidPattern pattern report) := by
  refine (invalidPattern_iff_faulty { delimiter := '#' } [.search "x", .times 2, .find "y" none,
    .clear, .search "", .between 1 2] (by decide) ?_).1.2 ?_
  · intro pre a mid b post heq ha hb
    simp only [List.cons_eq_append_iff, List.cons.injEq, List.nil_eq_append_iff, reduceCtorEq,
      and_false] at heq
    rcases heq with ⟨rfl, rfl, heq⟩ | ⟨_, rfl, ⟨rfl, rfl, heq⟩ | ⟨_, rfl, ⟨rfl, rfl, heq⟩ |
      ⟨_, rfl, ⟨rfl, rfl, heq⟩ | ⟨_, rfl, ⟨rfl, rfl, heq⟩ | ⟨_, rfl, heq⟩⟩⟩⟩⟩
    · exact absurd ha (by decide)
    · cases mid with
      | nil =>
        obtain ⟨rfl, -⟩ := List.cons.inj heq
        exact absurd hb (by decide)
      | cons x mid =>
        obtain ⟨rfl, -⟩ := List.cons.inj heq
        exact ⟨[], .find "y" none, mid, rfl, by decide⟩
    · exact absurd ha (by decide)
    · exact absurd ha (by decide)
    · exact absurd ha (by decide)
    · simp at heq
  · exact .inl ⟨[.search ""], .between 1 2, [], by decide, rfl, by decide⟩

end

end FluentRegex
