import FluentRegex.Machine.Estimate
import FluentRegex.Proofs.Chain.Assembly
import FluentRegex.Proofs.Machine.Sequence

/-!
# The table of groups of a chain of calls

Nothing counts the groups of a draft: their numbers and names come out of the parentheses that end
up in its text. Still every capturing call since the last `clear` has the group that one would
count for it, under the name it asked for if that is a name and no earlier call asked for it
(`groupTable_of_calls`). Texts and sets of characters have no part in that, whatever parentheses
stand in them.

A repetition that may go round no times at all and at most no times takes its group out of the
table, so the upper bounds have to be positive.
-/

namespace FluentRegex

/-! ## The groups of parts in sequence -/

namespace Expr

/-- Enters the groups of expressions one after the other. -/
def enterAll (table : List (Option String)) (es : List Expr) : List (Option String) :=
  es.foldl (fun t e => e.enterGroups t) table

theorem enterAll_cons (table : List (Option String)) (e : Expr) (es : List Expr) :
    enterAll table (e :: es) = enterAll (e.enterGroups table) es := rfl

theorem enterAll_append (table : List (Option String)) (es fs : List Expr) :
    enterAll table (es ++ fs) = enterAll (enterAll table es) fs := List.foldl_append

theorem enterAll_factors (e : Expr) (table : List (Option String)) :
    enterAll table e.factors = e.enterGroups table := by
  induction e generalizing table with
  | seq a b iha ihb => rw [factors, enterAll_append, iha, ihb, enterGroups]
  | _ => rfl

theorem enterGroups_join (es : List Expr) (table : List (Option String)) :
    (join es).enterGroups table = enterAll table es := by
  induction es generalizing table with
  | nil => rfl
  | cons e es ih =>
    cases es with
    | nil => rfl
    | cons f fs => rw [join, enterGroups, ih, ← enterAll_cons]; simp

theorem enterGroups_sequence (es : List Expr) (table : List (Option String)) :
    (sequence es).enterGroups table = enterAll table es := by
  rw [sequence, enterGroups_join]
  induction es generalizing table with
  | nil => rfl
  | cons e es ih =>
    rw [List.flatMap_cons, enterAll_append, enterAll_factors, ih, enterAll_cons]

/-- A repetition that may go round at least once has the groups of its body. -/
theorem enterGroups_repeated {min : Nat} {max : Option Nat} (hmax : max ≠ some 0) (greedy : Bool)
    (e : Expr) (table : List (Option String)) :
    (repeated min max greedy e).enterGroups table = e.enterGroups table := by
  rcases repeated_cases min max greedy e with ⟨hzero, -⟩ | h | ⟨low, high, h, -⟩
  · exact absurd hzero hmax
  · rw [h]
  · rw [h]
    rfl

end Expr

namespace Part

/-- Enters the groups of parts one after the other. -/
def enterAll (table : List (Option String)) (ps : List Part) : List (Option String) :=
  Expr.enterAll table (ps.map Part.expr)

theorem enterAll_append (table : List (Option String)) (ps qs : List Part) :
    enterAll table (ps ++ qs) = enterAll (enterAll table ps) qs := by
  rw [enterAll, List.map_append, Expr.enterAll_append]
  rfl

theorem enterGroups_inSequence (ps : List Part) (table : List (Option String)) :
    (inSequence ps).expr.enterGroups table = enterAll table ps := by
  match ps with
  | [] => rfl
  | [p] => rfl
  | p :: q :: ps => exact Expr.enterGroups_sequence _ table

/-- Parts without groups leave the table as it is. -/
theorem enterAll_eq_self {ps : List Part} (h : ∀ p ∈ ps, ∀ t, p.expr.enterGroups t = t)
    (table : List (Option String)) : enterAll table ps = table := by
  induction ps with
  | nil => rfl
  | cons p ps ih =>
    rw [List.forall_mem_cons] at h
    show enterAll (p.expr.enterGroups table) ps = table
    rw [h.1, ih h.2]

end Part

/-! ## The groups of calls -/

namespace Call

theorem enterGroups_insideParts (m : Modes) (c : Call) :
    ∀ p ∈ c.insideParts m, ∀ t, p.expr.enterGroups t = t := by
  intro p hp t
  obtain ⟨S, h | ⟨min, max, hmax, h⟩⟩ := c.insideParts_cases m p hp
  · rw [h]
    rfl
  · rw [h, Expr.enterGroups_repeated hmax]
    rfl

theorem enterGroups_plainParts (m : Modes) (c : Call) :
    ∀ p ∈ c.plainParts m, ∀ t, p.expr.enterGroups t = t := by
  intro p hp t
  rcases c.plainParts_cases m p hp with ⟨S, h⟩ | ⟨l, h⟩
  · rw [h]
    rfl
  · rw [h]
    rfl

/-- A capturing call enters its name behind the names that are there. -/
theorem enterGroups_capturedPart (m : Modes) (name : Option String) (c : Call)
    (table : List (Option String)) :
    (c.capturedPart m table.length name).expr.enterGroups table = table ++ [name] := by
  have hgroup : (Part.group table.length name (c.insideParts m)).expr.enterGroups table =
      table ++ [name] := by
    rw [Part.group, Expr.enterGroups, Part.enterGroups_inSequence,
      Part.enterAll_eq_self (enterGroups_insideParts m c), enterGroup,
      if_neg (Nat.lt_irrefl _), Nat.sub_self]
    simp
  rw [capturedPart]
  split
  · rw [Part.repeated, Expr.enterGroups_repeated (by simp), hgroup]
  · exact hgroup

end Call

/-- No call repeats anything at most no times. -/
def RepeatsSome (cs : List Call) : Prop := ∀ c ∈ cs, ∀ bounds ∈ c.repeats?, 0 < bounds.2

/-- The parts of an assembly have its names for a table, after the whole match. -/
theorem Assembly.enterAll_parts {m : Modes} {cs : List Call} (hpos : RepeatsSome cs)
    {a : Assembly} (h : ofCalls m cs = some a) :
    Part.enterAll [none] a.parts = none :: a.names := by
  induction cs using List.reverseRecOn generalizing a with
  | nil =>
    cases h
    rfl
  | append_singleton cs c ih =>
    rw [ofCalls_append] at h
    obtain ⟨b, hb, hstep⟩ := Option.bind_eq_some_iff.1 h
    have hbefore := ih (fun c hc => hpos c (List.mem_append_left _ hc)) hb
    have hmem : c ∈ cs ++ [c] := List.mem_append_right _ (List.mem_singleton_self c)
    rcases step_cases hstep with ⟨low, high, ps, p, hrepeats, hparts, rfl⟩ |
      ⟨asked, hcaptures, rfl⟩ | ⟨hrepeats, hcaptures, rfl⟩
    · have hhigh : 0 < high := hpos c hmem (low, high) hrepeats
      have hmax : some high ≠ some 0 := fun h => by
        rw [Option.some.inj h] at hhigh
        exact Nat.lt_irrefl 0 hhigh
      rw [hparts, Part.enterAll_append] at hbefore
      rw [Part.enterAll_append, ← hbefore]
      exact Expr.enterGroups_repeated hmax true p.expr _
    · rw [Part.enterAll_append, hbefore]
      exact c.enterGroups_capturedPart m _ (none :: b.names)
    · rw [Part.enterAll_append, hbefore]
      exact Part.enterAll_eq_self (c.enterGroups_plainParts m) _

/-! ## The names that are granted -/

/-- The names that are granted when names are asked for one after the other. -/
def grants (asked : List (Option String)) : List (Option String) :=
  asked.foldl (fun names name => names ++ [Assembly.grant names name]) []

theorem grants_append (asked : List (Option String)) (name : Option String) :
    grants (asked ++ [name]) = grants asked ++ [Assembly.grant (grants asked) name] :=
  List.foldl_append

theorem length_grants (asked : List (Option String)) : (grants asked).length = asked.length := by
  induction asked using List.reverseRecOn with
  | nil => rfl
  | append_singleton asked name ih =>
    rw [grants_append, List.length_append, List.length_append, ih]
    rfl

theorem grant_eq_some {names : List (Option String)} {name : Option String} {n : String} :
    Assembly.grant names name = some n ↔
      name = some n ∧ Syntax.isName n.toList = true ∧ some n ∉ names := by
  cases name with
  | none => simp [Assembly.grant]
  | some n' =>
    rw [Assembly.grant]
    constructor
    · intro h
      split at h
      · next hfree =>
        obtain rfl := Option.some.inj h
        exact ⟨rfl, hfree⟩
      · exact absurd h (by simp)
    · intro h
      obtain ⟨heq, hfree⟩ := h
      obtain rfl := Option.some.inj heq
      rw [if_pos hfree]

/-- A name is granted to one group if it is a name and was asked for. -/
theorem mem_grants {asked : List (Option String)} {n : String} :
    some n ∈ grants asked ↔ some n ∈ asked ∧ Syntax.isName n.toList = true := by
  induction asked using List.reverseRecOn with
  | nil => simp [grants]
  | append_singleton asked name ih =>
    rw [grants_append, List.mem_append, List.mem_append, List.mem_singleton, List.mem_singleton,
      eq_comm (a := some n) (b := Assembly.grant _ _), grant_eq_some, ih]
    constructor
    · intro h
      rcases h with ⟨h, hn⟩ | ⟨rfl, hn, -⟩
      · exact ⟨.inl h, hn⟩
      · exact ⟨.inr rfl, hn⟩
    · intro h
      obtain ⟨h | rfl, hn⟩ := h
      · exact .inl ⟨h, hn⟩
      · by_cases hearlier : some n ∈ asked
        · exact .inl ⟨hearlier, hn⟩
        · exact .inr ⟨rfl, hn, fun h => hearlier h.1⟩

/-- A name is granted where it is asked for first. -/
theorem getElem?_grants {asked : List (Option String)} {k : Nat} {n : String} :
    (grants asked)[k]? = some (some n) ↔
      asked[k]? = some (some n) ∧ Syntax.isName n.toList = true ∧ some n ∉ asked.take k := by
  induction asked using List.reverseRecOn with
  | nil => simp [grants]
  | append_singleton asked name ih =>
    rw [grants_append]
    rcases Nat.lt_trichotomy k asked.length with hlt | rfl | hgt
    · rw [List.getElem?_append_left (by rwa [length_grants]), List.getElem?_append_left hlt, ih,
        List.take_append_of_le_length (Nat.le_of_lt hlt)]
    · -- the last name is granted if no earlier group has it, that is if it was not asked for
      have hlast : (grants asked ++ [Assembly.grant (grants asked) name])[asked.length]? =
          some (Assembly.grant (grants asked) name) := by
        rw [← length_grants asked, List.getElem?_concat_length]
      rw [hlast, List.getElem?_concat_length, List.take_left, Option.some.injEq, grant_eq_some,
        Option.some.injEq]
      refine and_congr_right fun _ => and_congr_right fun hn => ?_
      rw [mem_grants, not_and_or, or_iff_left (fun h => h hn)]
    · rw [List.getElem?_eq_none (by rw [List.length_append, length_grants]; exact hgt),
        List.getElem?_eq_none (by rw [List.length_append]; exact hgt)]
      simp

/-- No name is granted twice. -/
theorem grants_unique {asked : List (Option String)} {j k : Nat} {n : String}
    (hj : (grants asked)[j]? = some (some n)) (hk : (grants asked)[k]? = some (some n)) :
    j = k := by
  have hnot : ∀ {i l : Nat}, (grants asked)[i]? = some (some n) →
      (grants asked)[l]? = some (some n) → ¬ i < l := by
    intro i l hi hl hlt
    refine (getElem?_grants.1 hl).2.2 (List.mem_of_getElem? (i := i) ?_)
    rw [List.getElem?_take_of_lt hlt]
    exact (getElem?_grants.1 hi).1
  exact Nat.le_antisymm (Nat.le_of_not_lt (hnot hk hj)) (Nat.le_of_not_lt (hnot hj hk))

theorem Assembly.names_eq_grants {m : Modes} {cs : List Call} {a : Assembly}
    (h : ofCalls m cs = some a) : a.names = grants (cs.filterMap Call.captures?) := by
  induction cs using List.reverseRecOn generalizing a with
  | nil =>
    cases h
    rfl
  | append_singleton cs c ih =>
    rw [ofCalls_append] at h
    obtain ⟨b, hb, hstep⟩ := Option.bind_eq_some_iff.1 h
    have hbefore := ih hb
    rw [List.filterMap_append]
    rcases step_cases hstep with ⟨low, high, ps, p, hrepeats, hparts, rfl⟩ |
      ⟨asked, hcaptures, rfl⟩ | ⟨hrepeats, hcaptures, rfl⟩
    · have hcaptures : c.captures? = none := Call.captures_of_repeats hrepeats
      simp [hcaptures, hbefore]
    · simp [hcaptures, grants_append, hbefore]
    · simp [hcaptures, hbefore]

/-! ## The table of groups -/

/-- The table of a chain of calls has what they are granted behind the whole match. -/
theorem groupNames_of_calls [Sizing] (s : Settings) {cs : List Call}
    (hraw : ∀ c ∈ cs, c.isRaw = false) (hpos : RepeatsSome cs) {r : Regex} (hr : ((Draft.withSettings s).calls cs).compile = .ok r) :
    r.groupNames = none :: grants ((sinceClear cs).filterMap Call.captures?) := by
  have hpos' : RepeatsSome (sinceClear cs) :=
    fun c hc => hpos c ((suffix_sinceClear cs).subset hc)
  obtain ⟨a, ha, hnames, -⟩ := (Draft.reads_calls s hraw).of_compile hr
  rw [hnames, Expr.groupNames, Part.enterGroups_inSequence, Assembly.enterAll_parts hpos' ha,
    Assembly.names_eq_grants ha]

/-- Group 0 is the whole match and has no name. The others belong to the capturing calls since the
last `clear`, and each has the name that its call asked for, if that is the name of a group and no
earlier one of them asked for it. -/
theorem groupTable_of_calls [Sizing] (s : Settings) (cs : List Call)
    (hraw : ∀ c ∈ cs, c.isRaw = false) (hpos : RepeatsSome cs) {r : Regex}
    (hr : ((Draft.withSettings s).calls cs).regex.value = .ok r) :
    let asked := (sinceClear cs).filterMap Call.captures?
    r.groupCount = 1 + asked.length ∧ r.groupNames[0]? = some none ∧
      ∀ k < asked.length, ∃ name, r.groupNames[k + 1]? = some name ∧
        ∀ n, name = some n ↔ n ≠ "" ∧ asked[k]? = some (some n) ∧
          Syntax.isName n.toList = true ∧ some n ∉ asked.take k := by
  intro asked
  rw [Draft.value_regex] at hr
  rw [Regex.groupCount, groupNames_of_calls s hraw hpos hr]
  refine ⟨?_, rfl, fun k hk => ?_⟩
  · rw [List.length_cons, length_grants, Nat.add_comm]
  · have hk' : k < (grants asked).length := by rwa [length_grants]
    refine ⟨(grants asked)[k], ?_, fun n => ?_⟩
    · rw [List.getElem?_cons_succ, List.getElem?_eq_getElem hk']
    · have hsome : (grants asked)[k] = some n ↔ (grants asked)[k]? = some (some n) := by
        rw [List.getElem?_eq_getElem hk', Option.some.injEq]
      rw [hsome, getElem?_grants]
      constructor
      · intro h
        refine ⟨?_, h⟩
        intro heq
        subst heq
        exact absurd h.2.1 (by decide)
      · exact fun h => h.2

section

attribute [local instance] Sizing.estimate

/-- Parentheses in texts and in sets open no groups and give no names. -/
theorem groupTable_with_parentheses : ∃ r, ((Draft.withDelimiter '#').calls
    [.find "(" (some "_"), .times 2, .search "(?P<_>", .maybe ")" (some "_"),
      .anythingBut "(" none]).regex.value = .ok r ∧
    r.groupCount = 4 ∧ r.groupNames[1]? = some (some "_") ∧ r.groupNames[2]? ≠ some (some "_") := by
  generalize hcalls : [Call.find "(" (some "_"), .times 2, .search "(?P<_>", .maybe ")" (some "_"),
    .anythingBut "(" none] = cs
  obtain ⟨r, hvalue⟩ : ∃ r, ((Draft.withDelimiter '#').calls cs).regex.value = .ok r := by
    rw [← hcalls]
    exact ⟨_, rfl⟩
  have hpos : RepeatsSome cs := by
    rw [← hcalls]
    intro c hc bounds hbounds
    simp only [List.mem_cons, List.not_mem_nil, or_false] at hc
    rcases hc with rfl | rfl | rfl | rfl | rfl
    all_goals simp [Call.repeats?] at hbounds
    rw [← hbounds]
    decide
  obtain ⟨hcount, -, hnames⟩ := groupTable_of_calls { delimiter := '#' } cs
    (by rw [← hcalls]; decide) hpos hvalue
  have hasked : (sinceClear cs).filterMap Call.captures? = [some "_", some "_", none] := by
    rw [← hcalls]
    decide
  rw [hasked] at hcount hnames
  refine ⟨r, hvalue, hcount, ?_, ?_⟩
  · obtain ⟨name, hname, hiff⟩ := hnames 0 (by decide)
    rw [hname, (hiff "_").2 ⟨by decide, rfl, by decide, by decide⟩]
  · obtain ⟨name, hname, hiff⟩ := hnames 1 (by decide)
    rw [hname]
    intro h
    exact absurd ((hiff "_").1 (Option.some.inj h)).2.2.2 (by decide)

end

end FluentRegex
