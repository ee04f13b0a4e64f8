import FluentRegex.Machine.Estimate
import FluentRegex.Proofs.Chain.GroupTable

/-!
# What is reported

A draft leaves out a name that it cannot give to a group, and the call that asked for it succeeds
all the same. The name is not lost silently, though: what a call reports is decided by the names
that were asked for since the last `clear` (`callEvents_concat`), and every name that is asked for
is either in the table of groups or in a report (`length_asked`).

> `every_name_granted_or_reported`: calls report nothing but the names that they leave out, so many
> that they add up with the named groups, and each way to run a draft reports how that went.
-/

namespace FluentRegex

/-! ## Names that are left out -/

namespace Call

/-- The name that a call asks for. An empty one asks for nothing. -/
def asks? (c : Call) : Option String :=
  c.captures?.bind fun asked => asked.filter (!·.isEmpty)

/-- What a call reports where some names were asked for before: a name that cannot be the name of a
group, or that is asked for again. -/
def reports (earlier : List String) (c : Call) : List Event :=
  match c.asks? with
  | none => []
  | some name =>
    if Syntax.isName name.toList then
      if name ∈ earlier then [.takenName name] else []
    else [.invalidName name]

theorem asks_eq_some_iff {c : Call} {n : String} :
    c.asks? = some n ↔ c.captures? = some (some n) ∧ n.isEmpty = false := by
  simp [asks?, Option.bind_eq_some_iff, Option.filter_eq_some_iff]

end Call

/-- Nothing is a name of a group if it is empty. -/
theorem isEmpty_of_isName {n : String} (h : Syntax.isName n.toList = true) : n.isEmpty = false := by
  refine Bool.eq_false_iff.2 fun hempty => ?_
  rw [String.isEmpty_iff] at hempty
  rw [hempty] at h
  exact absurd h (by decide)

/-- A name is asked for exactly if a group is to have it. -/
theorem mem_asks_iff {cs : List Call} {n : String} (hn : Syntax.isName n.toList = true) :
    n ∈ cs.filterMap Call.asks? ↔ some n ∈ cs.filterMap Call.captures? := by
  simp only [List.mem_filterMap, Call.asks_eq_some_iff, isEmpty_of_isName hn, and_true]

namespace Draft

variable {d : Draft} {names : List (Option String)}

/-- What a draft reports when a group is to have a name. -/
def remarks (d : Draft) (name : String) : List Event :=
  if Syntax.isName name.toList then
    if d.hasName name then [.takenName name] else []
  else [.invalidName name]

theorem events_captured (d : Draft) (fragment : String) (asked : Option String) :
    (d.captured fragment asked).events = (asked.filter (!·.isEmpty)).elim [] d.remarks := by
  cases asked with
  | none => rfl
  | some name =>
    rw [Option.filter_some]
    unfold captured remarks
    dsimp only
    by_cases hempty : name.isEmpty = true
    · simp [hempty]
    · by_cases hvalid : Syntax.isName name.toList = true
      · by_cases htaken : d.hasName name = true
        · simp [hempty, hvalid, htaken]
        · simp [hempty, hvalid, htaken]
      · simp [hempty, hvalid]

/-- Only a call that captures reports anything, whatever is to stand in its group. -/
theorem events_addition (d : Draft) (c : Call) :
    (c.addition d).events = c.asks?.elim [] d.remarks := by
  cases c with
  | find text name => exact events_captured d _ name
  | maybe text name => exact events_captured d _ name
  | anything name => exact events_captured d _ name
  | anythingBut chars name =>
    rw [Call.addition]
    split
    · exact events_captured d _ name
    · exact events_captured d _ name
  | something name => exact events_captured d _ name
  | somethingBut chars name =>
    rw [Call.addition]
    split
    · exact events_captured d _ name
    · exact events_captured d _ name
  | words name count => exact events_captured d _ name
  | decimals name count => exact events_captured d _ name
  | range lo hi => cases hi <;> rfl
  | _ => rfl

/-- What a call reports is decided by the names that the draft gives. -/
theorem Gives.events_addition (h : d.Gives names) {earlier : List String}
    (hnames : ∀ n : String, Syntax.isName n.toList = true → (some n ∈ names ↔ n ∈ earlier))
    (c : Call) : (c.addition d).events = c.reports earlier := by
  rw [Draft.events_addition, Call.reports]
  cases c.asks? with
  | none => rfl
  | some name =>
    show d.remarks name = _
    rw [remarks]
    dsimp only
    by_cases hvalid : Syntax.isName name.toList = true
    · have hiff : d.hasName name = true ↔ name ∈ earlier :=
        (h.hasName_iff hvalid).trans (hnames name hvalid)
      rw [if_pos hvalid, if_pos hvalid]
      exact if_congr hiff rfl rfl
    · rw [if_neg hvalid, if_neg hvalid]

/-! ## Along a chain of calls -/

theorem callEvents_append (d : Draft) (cs ds : List Call) :
    d.callEvents (cs ++ ds) = d.callEvents cs ++ (d.calls cs).callEvents ds := by
  induction cs generalizing d with
  | nil => rfl
  | cons c cs ih =>
    rw [List.cons_append, callEvents, callEvents, ih, List.append_assoc]
    rfl

/-- The text of a chain of calls gives the names that are granted, whether it can be read or not. -/
theorem gives_calls (s : Settings) {cs : List Call} (hraw : ∀ c ∈ cs, c.isRaw = false)
    (hclear : ∀ c ∈ cs, c ≠ .clear) :
    ((withSettings s).calls cs).Gives (grants (cs.filterMap Call.captures?)) := by
  induction cs using List.reverseRecOn with
  | nil => exact gives_nil s
  | append_singleton cs c ih =>
    rw [List.forall_mem_append] at hraw hclear
    have hbefore := ih hraw.1 hclear.1
    have hrawc := hraw.2 c (List.mem_singleton_self c)
    have hclearc := hclear.2 c (List.mem_singleton_self c)
    rw [calls_append, List.filterMap_append]
    show (((withSettings s).calls cs).call c).Gives _
    cases hcaptures : c.captures? with
    | none =>
      rw [List.filterMap_cons_none hcaptures, List.filterMap_nil, List.append_nil]
      exact hbefore.call_of_captures hrawc hclearc hcaptures
    | some asked =>
      have hgiven : ((withSettings s).calls cs).given c =
          Assembly.grant (grants (cs.filterMap Call.captures?)) asked := by
        rw [given, hcaptures]
        exact granted_eq_grant (a := ⟨[], _⟩) hbefore asked
      rw [List.filterMap_cons_some hcaptures, List.filterMap_nil, grants_append, ← hgiven]
      exact hbefore.call hrawc hclearc

/-- Each call of a chain adds to the reports what the names asked for since the last `clear`
decide. -/
theorem callEvents_concat (s : Settings) {cs : List Call} (hraw : ∀ c ∈ cs, c.isRaw = false)
    (c : Call) : (withSettings s).callEvents (cs ++ [c]) =
      (withSettings s).callEvents cs ++ c.reports ((sinceClear cs).filterMap Call.asks?) := by
  have hgives := gives_calls s (fun c hc => hraw c ((suffix_sinceClear cs).subset hc))
    fun c hc => ne_clear_of_mem hc
  rw [← calls_sinceClear] at hgives
  rw [callEvents_append]
  show _ ++ ((c.addition _).events ++ []) = _
  rw [List.append_nil, hgives.events_addition (fun n hn => ?_) c]
  rw [mem_asks_iff hn, mem_grants, and_iff_left hn]

/-- Calls report nothing but warnings. -/
theorem severity_of_mem_callEvents {cs : List Call} {e : Event} (h : e ∈ d.callEvents cs) :
    e.severity = .warn := by
  induction cs generalizing d with
  | nil => exact absurd h List.not_mem_nil
  | cons c cs ih =>
    rw [callEvents, List.mem_append] at h
    rcases h with h | h
    · rw [events_addition] at h
      cases hasks : c.asks? with
      | none =>
        rw [hasks] at h
        exact absurd h List.not_mem_nil
      | some name =>
        rw [hasks, Option.elim, remarks] at h
        split at h
        · split at h
          · rw [List.mem_singleton.1 h]
            rfl
          · exact absurd h List.not_mem_nil
        · rw [List.mem_singleton.1 h]
          rfl
    · exact ih h

end Draft

/-! ## The account of the names -/

/-- A name that a call asks for is granted, or it is reported. -/
theorem length_asks {names : List (Option String)} {earlier : List String}
    (hnames : ∀ n : String, Syntax.isName n.toList = true → (some n ∈ names ↔ n ∈ earlier))
    {c : Call} {asked : Option String} (hcaptures : c.captures? = some asked) :
    c.asks?.toList.length =
      (Assembly.grant names asked).toList.length + (c.reports earlier).length := by
  unfold Call.reports
  cases hasks : c.asks? with
  | none =>
    -- an empty name, or none at all, is not granted either
    have hgrant : Assembly.grant names asked = none := by
      refine Option.eq_none_iff_forall_ne_some.2 fun n hn => ?_
      obtain ⟨rfl, hvalid, -⟩ := grant_eq_some.1 hn
      have hsome := Call.asks_eq_some_iff.2 ⟨hcaptures, isEmpty_of_isName hvalid⟩
      rw [hasks] at hsome
      exact absurd hsome (by simp)
    rw [hgrant]
    rfl
  | some name =>
    obtain ⟨heq, -⟩ := Call.asks_eq_some_iff.1 hasks
    obtain rfl : asked = some name := Option.some.inj (hcaptures.symm.trans heq)
    dsimp only
    rw [Assembly.grant]
    by_cases hvalid : Syntax.isName name.toList = true
    · rw [if_pos hvalid]
      by_cases htaken : name ∈ earlier
      · rw [if_pos htaken, if_neg fun h => h.2 ((hnames name hvalid).2 htaken)]
        rfl
      · rw [if_neg htaken, if_pos ⟨hvalid, fun h => htaken ((hnames name hvalid).1 h)⟩]
        rfl
    · rw [if_neg hvalid, if_neg fun h => hvalid h.1]
      rfl

/-- The names that a chain of calls asks for are granted or reported, one by one. -/
theorem length_asked (s : Settings) {cs : List Call} (hraw : ∀ c ∈ cs, c.isRaw = false)
    (hclear : ∀ c ∈ cs, c ≠ .clear) : (cs.filterMap Call.asks?).length =
      ((grants (cs.filterMap Call.captures?)).filterMap id).length +
        ((Draft.withSettings s).callEvents cs).length := by
  induction cs using List.reverseRecOn with
  | nil => rfl
  | append_singleton cs c ih =>
    rw [List.forall_mem_append] at hraw hclear
    have hbefore := ih hraw.1 hclear.1
    have hnames : ∀ n : String, Syntax.isName n.toList = true →
        (some n ∈ grants (cs.filterMap Call.captures?) ↔ n ∈ cs.filterMap Call.asks?) := by
      intro n hn
      rw [mem_asks_iff hn, mem_grants, and_iff_left hn]
    have hsingle : ∀ {α β : Type} (f : α → Option β) (x : α), [x].filterMap f = (f x).toList := by
      intro α β f x
      cases h : f x <;> simp [h]
    rw [Draft.callEvents_concat s hraw.1, sinceClear_eq_self hclear.1, List.filterMap_append,
      List.filterMap_append, hsingle, hsingle, List.length_append, List.length_append]
    cases hcaptures : c.captures? with
    | none =>
      have hasks : c.asks? = none := by
        rw [Call.asks?, hcaptures]
        rfl
      rw [Call.reports, hasks, Option.toList_none, Option.toList_none, List.append_nil]
      exact hbefore
    | some asked =>
      have hstep := length_asks hnames hcaptures
      rw [Option.toList_some, grants_append, List.filterMap_append, hsingle, List.length_append, id]
      omega

/-! ## What running a draft reports -/

/-- An event, and how much it matters. -/
def Event.weighed (e : Event) : Severity × Event := (e.severity, e)

namespace Draft

/-- What is to be reported when a draft is made ready and that comes to some outcome. -/
def making {α : Type} (d : Draft) (outcome : Except Rejection α) : List (Severity × Event) :=
  (.debug, .building d.written d.settings.modeLetters) ::
    match outcome with
    | .ok _ => []
    | .error e => [(.warn, .rejected e.text)]

/-- What is to be reported besides when a draft is run. -/
def finishing (outcome : Except Rejection Findings) : List (Severity × Event) :=
  match outcome with
  | .ok f => [(.trace, .finished f.status.code f.length)]
  | .error _ => []

theorem making_map {α β : Type} (d : Draft) (f : α → β) (outcome : Except Rejection α) :
    d.making (outcome.map f) = d.making outcome := by
  cases outcome <;> rfl

variable [Sizing] (d : Draft) (subject : String)

theorem events_regex :
    d.regex.events.map Event.weighed = d.making d.regex.value := by
  rw [regex]
  cases d.compile <;> rfl

theorem events_isMatch :
    (d.isMatch subject).events.map Event.weighed = d.making (d.isMatch subject).value :=
  (events_regex d).trans (making_map d _ _).symm

theorem events_status :
    (d.status subject).events.map Event.weighed = d.making (d.status subject).value :=
  (events_isMatch d subject).trans (making_map d _ _).symm

theorem events_run :
    (d.run subject).events.map Event.weighed =
      d.making (d.run subject).value ++ finishing (d.run subject).value := by
  have hregex := events_regex d
  rw [run]
  dsimp only
  cases hvalue : d.regex.value with
  | error e =>
    rw [hvalue] at hregex
    rw [hregex]
    exact (List.append_nil _).symm
  | ok r =>
    rw [hvalue] at hregex
    rw [List.map_append, hregex]
    rfl

end Draft

/-- A structured call reports nothing unless it asks for a name that cannot be the name of a group,
or that was asked for since the last `clear`: then it warns of that name, once. If the draft can be
run, the names that were asked for since the last `clear` are as many as the named groups and these
warnings together. To make any draft ready, or to run it in one way or another, reports its text and
its modes, and then why it was rejected, if it was; a run that succeeds reports what it came to. -/
theorem every_name_granted_or_reported [Sizing] (s : Settings) (cs : List Call)
    (hraw : ∀ c ∈ cs, c.isRaw = false) :
    (∀ c, (Draft.withSettings s).callEvents (cs ++ [c]) =
      (Draft.withSettings s).callEvents cs ++ c.reports ((sinceClear cs).filterMap Call.asks?)) ∧
    (∀ e ∈ (Draft.withSettings s).callEvents cs, e.severity = .warn) ∧
    (RepeatsSome cs → ∀ r, ((Draft.withSettings s).calls cs).regex.value = .ok r →
      ∃ late, (Draft.withSettings s).callEvents cs =
          (Draft.withSettings s).callEvents (cs.rdropWhile (· ≠ .clear)) ++ late ∧
        ((sinceClear cs).filterMap Call.asks?).length =
          (r.groupNames.filterMap id).length + late.length) ∧
    ∀ (d : Draft) (subject : String),
      d.regex.events.map Event.weighed = d.making d.regex.value ∧
      (d.status subject).events.map Event.weighed = d.making (d.status subject).value ∧
      (d.isMatch subject).events.map Event.weighed = d.making (d.isMatch subject).value ∧
      (d.run subject).events.map Event.weighed =
        d.making (d.run subject).value ++ Draft.finishing (d.run subject).value := by
  refine ⟨Draft.callEvents_concat s hraw, fun e he => Draft.severity_of_mem_callEvents he,
    fun hpos r hr => ⟨(Draft.withSettings s).callEvents (sinceClear cs), ?_, ?_⟩,
    fun d subject => ⟨Draft.events_regex d, Draft.events_status d subject,
      Draft.events_isMatch d subject, Draft.events_run d subject⟩⟩
  · -- the calls up to the last `clear` leave an empty draft behind
    conv => lhs; rw [← List.rdropWhile_append_rtakeWhile (p := (· ≠ .clear)) (l := cs)]
    rw [Draft.callEvents_append, Draft.calls_untilClear]
    rfl
  · rw [Draft.value_regex] at hr
    rw [groupNames_of_calls s hraw hpos hr]
    exact length_asked s (fun c hc => hraw c ((suffix_sinceClear cs).subset hc))
      fun c hc => ne_clear_of_mem hc

section

attribute [local instance] Sizing.estimate

/-- A name from before the last `clear` is free again, and then taken. -/
theorem one_name_of_two_granted :
    let cs : List Call := [.find "a" (some "_"), .clear, .maybe "b" (some "_"),
      .anythingBut "" (some "_"), .something (some "")]
    ∃ r, ((Draft.withSettings {}).calls cs).regex.value = .ok r ∧
      (Draft.withSettings {}).callEvents cs = [.takenName "_"] ∧
      (r.groupNames.filterMap id).length = 1 := by
  generalize hcalls : [Call.find "a" (some "_"), .clear, .maybe "b" (some "_"),
    .anythingBut "" (some "_"), .something (some "")] = cs
  dsimp only
  obtain ⟨r, hvalue⟩ : ∃ r, ((Draft.withSettings {}).calls cs).regex.value = .ok r := by
    rw [← hcalls]
    exact ⟨_, rfl⟩
  have hpos : RepeatsSome cs := by
    rw [← hcalls]
    intro c hc bounds hbounds
    simp only [List.mem_cons, List.not_mem_nil, or_false] at hc
    rcases hc with rfl | rfl | rfl | rfl | rfl
    all_goals exact absurd hbounds (by simp [Call.repeats?])
  obtain ⟨-, -, hcount, -⟩ := every_name_granted_or_reported {} cs (by rw [← hcalls]; decide)
  obtain ⟨late, hlate, hlength⟩ := hcount hpos r hvalue
  have hevents : (Draft.withSettings {}).callEvents cs = [Event.takenName "_"] := by
    rw [← hcalls]
    decide
  have hearly : (Draft.withSettings {}).callEvents (cs.rdropWhile (· ≠ .clear)) = [] := by
    rw [← hcalls]
    decide
  have hasked : ((sinceClear cs).filterMap Call.asks?).length = 2 := by
    rw [← hcalls]
    rfl
  rw [hevents, hearly] at hlate
  obtain rfl : [Event.takenName "_"] = late := hlate
  rw [hasked] at hlength
  exact ⟨r, hvalue, hevents, Nat.succ.inj hlength.symm⟩

end

end FluentRegex
