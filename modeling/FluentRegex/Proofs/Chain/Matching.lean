import FluentRegex.Machine.Estimate
import FluentRegex.Proofs.Chain.Assembly
import FluentRegex.Proofs.Chain.Lengths

/-!
# What a chain of calls matches

A chain in which no call repeats has an assembly to which each call adds parts of its own, so the
ways through its parts are those through the parts of one call after the other. The parts of each
call offer the lengths that it allows, the greatest first, and by induction on the chain the first
way through all of them is the greatest split from its place (`ways_calls`).

> `findMarks_calls`: a search finds the greatest split from the leftmost place that has one.
> `isMatch_iff_splits`: there is a match exactly if some stretch of the subject splits into pieces
> which the calls since the last `clear` allow.
-/

namespace FluentRegex

open Machine

/-! ## The parts of a chain without repetitions -/

namespace Call

/-- The call describes a piece of a subject, without a raw fragment. -/
structure Describes (c : Call) : Prop where
  notRaw : c.isRaw = false
  noRepeat : c.repeats? = none
  ne_clear : c ≠ .clear

/-- The number of groups of a call. -/
def groups (c : Call) : Nat := if c.captures?.isSome then 1 else 0

/-- The parts that a call adds where some names are in use. -/
def partsAfter (m : Modes) (names : List (Option String)) (c : Call) : List Part :=
  match c.captures? with
  | some asked => [c.capturedPart m (names.length + 1) (Assembly.grant names asked)]
  | none => c.plainParts m

/-- The names in use after a call. -/
def namesAfter (names : List (Option String)) (c : Call) : List (Option String) :=
  match c.captures? with
  | some asked => names ++ [Assembly.grant names asked]
  | none => names

theorem length_namesAfter (names : List (Option String)) (c : Call) :
    (c.namesAfter names).length = names.length + c.groups := by
  rw [namesAfter, groups]
  cases c.captures? with
  | none => rfl
  | some asked => rw [List.length_append, List.length_singleton, Option.isSome_some, if_pos rfl]

/-- The marks after a piece of a call, whose group has the given number if it has one. -/
def marksAfter (index p n : Nat) (marks : Marks) (c : Call) : Marks :=
  if c.captures?.isSome ∧ c.leavesOut n = false then noted index p n marks else marks

end Call

/-- The parts of a chain of calls of which none repeats. -/
def partsOf (m : Modes) (names : List (Option String)) : List Call → List Part
  | [] => []
  | c :: cs => c.partsAfter m names ++ partsOf m (c.namesAfter names) cs

theorem Assembly.step_of_noRepeat {m : Modes} {c : Call} (hc : c.repeats? = none) {a b : Assembly}
    (h : a.step m c = some b) : b = ⟨a.parts ++ c.partsAfter m a.names, c.namesAfter a.names⟩ := by
  rw [Call.partsAfter, Call.namesAfter]
  rcases step_cases h with ⟨low, high, ps, p, hrepeats, -⟩ | ⟨asked, hcaptures, hb⟩ |
    ⟨-, hcaptures, hb⟩
  · rw [hc] at hrepeats
    exact absurd hrepeats (by simp)
  · rw [hcaptures]
    exact hb
  · rw [hcaptures]
    exact hb

theorem Assembly.parts_of_calls {m : Modes} {cs : List Call} (h : ∀ c ∈ cs, c.repeats? = none)
    {a b : Assembly} (hb : cs.foldlM (Assembly.step m) a = some b) :
    b.parts = a.parts ++ partsOf m a.names cs := by
  induction cs generalizing a with
  | nil =>
    obtain rfl : a = b := Option.some.inj hb
    exact (List.append_nil _).symm
  | cons c cs ih =>
    rw [List.forall_mem_cons] at h
    rw [List.foldlM_cons] at hb
    obtain ⟨a', hstep, hb⟩ := Option.bind_eq_some_iff.1 hb
    rw [ih h.2 hb, step_of_noRepeat h.1 hstep, partsOf, List.append_assoc]

/-! ## Rounds take up characters -/

/-- What holds of nothing, and of two expressions one after the other exactly if it holds of both,
holds of parts one after the other if it holds of all of them. -/
theorem inSequence_of_forall {P : Expr → Prop} (hempty : P .empty)
    (hseq : ∀ a b, P (.seq a b) ↔ P a ∧ P b) {ps : List Part} (h : ∀ q ∈ ps, P q.expr) :
    P (Part.inSequence ps).expr := by
  match ps with
  | [] => exact hempty
  | [q] => exact h q (List.mem_singleton_self q)
  | q :: r :: ps => exact Expr.sequence_of_forall hempty hseq (List.forall_mem_map.2 h)

theorem guarded_inSequence {ps : List Part} (h : ∀ q ∈ ps, q.expr.Guarded) :
    (Part.inSequence ps).expr.Guarded :=
  inSequence_of_forall trivial (fun _ _ => Iff.rfl) h

/-- Only sets are repeated without a bound, and a set takes up a character. -/
theorem guarded_insideParts (m : Modes) (c : Call) :
    ∀ q ∈ c.insideParts m, q.expr.Guarded := by
  intro q hq
  obtain ⟨S, h | ⟨min, max, -, h⟩⟩ := c.insideParts_cases m q hq
  · rw [h]
    exact trivial
  · rw [h]
    exact Expr.guarded_repeated trivial fun _ => rfl

theorem guarded_plainParts (m : Modes) (c : Call) : ∀ q ∈ c.plainParts m, q.expr.Guarded := by
  intro q hq
  rcases c.plainParts_cases m q hq with ⟨S, h⟩ | ⟨l, h⟩
  · rw [h]
    exact trivial
  · rw [h]
    exact trivial

theorem guarded_partsAfter (m : Modes) (names : List (Option String)) (c : Call) :
    ∀ q ∈ c.partsAfter m names, q.expr.Guarded := by
  rw [Call.partsAfter]
  split
  · intro q hq
    rw [List.mem_singleton.1 hq, Call.capturedPart]
    have hinside := guarded_inSequence (guarded_insideParts m c)
    split
    · exact Expr.guarded_repeated hinside fun h => absurd h (by simp)
    · exact hinside
  · exact guarded_plainParts m c

theorem guarded_partsOf (m : Modes) (names : List (Option String)) (cs : List Call) :
    ∀ q ∈ partsOf m names cs, q.expr.Guarded := by
  induction cs generalizing names with
  | nil => exact fun q hq => absurd hq List.not_mem_nil
  | cons c cs ih =>
    intro q hq
    rcases List.mem_append.1 hq with hq | hq
    · exact guarded_partsAfter m names c q hq
    · exact ih _ q hq

/-! ## The ways through a chain -/

/-- The marks after the pieces of a chain of calls, with so many groups before it. -/
def records (groups place : Nat) : List Call → List (List Char) → Marks → Marks
  | c :: cs, piece :: pieces, marks =>
    records (groups + c.groups) (place + piece.length) cs pieces
      (c.marksAfter (groups + 1) place piece.length marks)
  | _, _, marks => marks

/-- The marks of a whole match with the given pieces. -/
def marksOf (cs : List Call) (start : Nat) (pieces : List (List Char)) : Marks :=
  (1, start + pieces.flatten.length) :: records 0 start cs pieces [(0, start)]

/-- The greatest split from a place: in every other the first piece that has another length is the
shorter one. -/
def GreatestFrom (s : Settings) (subject : List Char) (place : Nat) (cs : List Call)
    (pieces : List (List Char)) : Prop :=
  SplitsFrom s subject place cs pieces ∧ ∀ others, SplitsFrom s subject place cs others →
    others = pieces ∨ List.Lex (· < ·) (others.map List.length) (pieces.map List.length)

variable {s : Settings} {subject : List Char} {p : Nat}

/-- A longest first piece that can be continued, and the greatest split behind it. -/
theorem greatestFrom_cons (hp : p ≤ subject.length) {c : Call} {cs : List Call} {n : Nat}
    {rest : List (List Char)} (hn : c.AllowsAt s subject p n)
    (hmax : ∀ k, c.AllowsAt s subject p k → (∃ rest', SplitsFrom s subject (p + k) cs rest') →
      k ≤ n)
    (hrest : GreatestFrom s subject (p + n) cs rest) :
    GreatestFrom s subject p (c :: cs) ((subject.drop p).take n :: rest) := by
  refine ⟨(splitsFrom_cons hp).2 ⟨n, rest, rfl, hn, hrest.1⟩, fun others hothers => ?_⟩
  obtain ⟨k, rest', rfl, hk, hrest'⟩ := (splitsFrom_cons hp).1 hothers
  rw [List.map_cons, List.map_cons, length_piece hk.1, length_piece hn.1]
  rcases Nat.lt_or_eq_of_le (hmax k hk ⟨rest', hrest'⟩) with hlt | rfl
  · exact .inr (.rel hlt)
  · rcases hrest.2 rest' hrest' with rfl | hlex
    · exact .inl rfl
    · exact .inr (.cons hlex)

/-- The parts of one call offer the lengths that it allows. -/
theorem offers_partsAfter (hcase : s.caseInsensitive = false) (hp : p ≤ subject.length) {c : Call}
    (hc : c.Describes) (names : List (Option String)) (marks : Marks) :
    Offers ((marking subject).through ((c.partsAfter s.modes names).map Part.expr) (p, marks)) p
      (c.AllowsAt s subject p) fun n => c.marksAfter (names.length + 1) p n marks := by
  rw [Call.partsAfter]
  cases hcaptures : c.captures? with
  | some asked =>
    dsimp only
    rw [List.map_singleton, through_singleton]
    have hmarks : (fun n => c.marksAfter (names.length + 1) p n marks) =
        fun n => if c.leavesOut n then marks else noted (names.length + 1) p n marks := by
      funext n
      rw [Call.marksAfter, hcaptures]
      cases c.leavesOut n with
      | true => rfl
      | false => rfl
    rw [hmarks]
    exact offers_capturedPart hcase hp hcaptures _ _ marks
  | none =>
    have hmarks : (fun n => c.marksAfter (names.length + 1) p n marks) = fun _ => marks := by
      funext n
      rw [Call.marksAfter, hcaptures, if_neg (by simp)]
    rw [hmarks]
    exact (descends_plainParts hcase hp hc.notRaw hc.ne_clear hc.noRepeat hcaptures).offers marks

/-- There is a way through the parts of a chain exactly if there is a split, and the first way is
that of the greatest split. -/
theorem ways_calls (hcase : s.caseInsensitive = false) {cs : List Call}
    (h : ∀ c ∈ cs, c.Describes) (names : List (Option String)) (hp : p ≤ subject.length)
    (marks : Marks) :
    ((marking subject).through ((partsOf s.modes names cs).map Part.expr) (p, marks) ≠ [] ↔
      ∃ pieces, SplitsFrom s subject p cs pieces) ∧
    ∀ z, ((marking subject).through ((partsOf s.modes names cs).map Part.expr)
        (p, marks)).head? = some z → ∃ pieces, GreatestFrom s subject p cs pieces ∧
      z = (p + pieces.flatten.length, records names.length p cs pieces marks) := by
  induction cs generalizing names p marks with
  | nil =>
    refine ⟨⟨fun _ => ⟨[], splitsFrom_nil.2 rfl⟩, fun _ => List.cons_ne_nil _ _⟩, fun z hz => ?_⟩
    refine ⟨[], ⟨splitsFrom_nil.2 rfl, fun others hothers => ?_⟩, (Option.some.inj hz).symm⟩
    exact .inl (splitsFrom_nil.1 hothers)
  | cons c cs ih =>
    rw [List.forall_mem_cons] at h
    rw [partsOf, List.map_append, through_append]
    obtain ⟨hiff, hfirst⟩ := (offers_partsAfter hcase hp h.1 names marks).head_flatMap
      (fun n marks' hn => (ih h.2 (c.namesAfter names) hn.1 marks').1)
    refine ⟨hiff.trans ⟨fun hsome => ?_, fun hsome => ?_⟩, fun z hz => ?_⟩
    · obtain ⟨n, hn, rest, hrest⟩ := hsome
      exact ⟨_, (splitsFrom_cons hp).2 ⟨n, rest, rfl, hn, hrest⟩⟩
    · obtain ⟨pieces, hpieces⟩ := hsome
      obtain ⟨n, rest, -, hn, hrest⟩ := (splitsFrom_cons hp).1 hpieces
      exact ⟨n, hn, rest, hrest⟩
    · -- the first call takes the longest piece that the others can go on from
      obtain ⟨n, hn, -, hmax, hhead⟩ := hfirst z hz
      obtain ⟨rest, hrest, rfl⟩ := (ih h.2 (c.namesAfter names) hn.1 _).2 z hhead
      refine ⟨_, greatestFrom_cons hp hn hmax hrest, ?_⟩
      rw [records, length_piece hn.1, Call.length_namesAfter, List.flatten_cons,
        List.length_append, length_piece hn.1, Nat.add_assoc]

/-! ## Searches -/

/-- What comes first over some places comes from the first of them that leads anywhere. -/
theorem exists_of_head_flatMap {α : Type} {f : Nat → List α} {n : Nat} {z : α}
    (hz : ((List.range n).flatMap f).head? = some z) :
    ∃ k < n, (f k).head? = some z ∧ ∀ j < k, f j = [] := by
  induction n with
  | zero => exact absurd hz (by simp)
  | succ n ih =>
    rw [List.range_succ, List.flatMap_append, List.flatMap_singleton] at hz
    by_cases hnil : (List.range n).flatMap f = []
    · rw [hnil, List.nil_append] at hz
      refine ⟨n, Nat.lt_succ_self n, hz, fun j hj => ?_⟩
      exact List.flatMap_eq_nil_iff.1 hnil j (List.mem_range.2 hj)
    · rw [List.head?_append_of_ne_nil _ hnil] at hz
      obtain ⟨k, hk, h⟩ := ih hz
      exact ⟨k, Nat.lt_succ_of_lt hk, h⟩

/-- A search with the program of parts in sequence finds nothing where they have no way from any
place, and else their first way from the leftmost place that has one. -/
theorem findMarks_inSequence {ps : List Part} (hguarded : ∀ q ∈ ps, q.expr.Guarded)
    (subject : List Char) :
    (findMarks (Part.inSequence ps).expr.program subject.toArray = none ↔
      ∀ p ≤ subject.length, (marking subject).through (ps.map Part.expr) (p, [(0, p)]) = []) ∧
    ∀ marks, findMarks (Part.inSequence ps).expr.program subject.toArray = some marks →
      ∃ p y, p ≤ subject.length ∧
        ((marking subject).through (ps.map Part.expr) (p, [(0, p)])).head? = some y ∧
        (∀ q < p, (marking subject).through (ps.map Part.expr) (q, [(0, q)]) = []) ∧
        marks = (1, y.1) :: y.2 := by
  rw [findMarks_program (guarded_inSequence hguarded)]
  -- at one place, the group of the whole match only notes where it begins and ends
  have hwhole : ∀ p, (marking subject).ways (.group 0 none (Part.inSequence ps).expr) (p, []) =
      ((marking subject).through (ps.map Part.expr) (p, [(0, p)])).map
        fun y => (y.1, (1, y.1) :: y.2) := by
    intro p
    rw [ways, ways_inSequence]
    rfl
  refine ⟨?_, fun marks hmarks => ?_⟩
  · rw [Option.map_eq_none_iff, List.head?_eq_none_iff, List.flatMap_eq_nil_iff]
    refine forall_congr' fun p => ?_
    rw [List.mem_range, Nat.lt_succ_iff, hwhole, List.map_eq_nil_iff]
  · obtain ⟨z, hz, rfl⟩ := Option.map_eq_some_iff.1 hmarks
    obtain ⟨p, hp, hhead, hearlier⟩ := exists_of_head_flatMap hz
    rw [hwhole, List.head?_map] at hhead
    obtain ⟨y, hy, rfl⟩ := Option.map_eq_some_iff.1 hhead
    refine ⟨p, y, Nat.le_of_lt_succ hp, hy, fun q hq => ?_, rfl⟩
    have hnil := hearlier q hq
    rwa [hwhole, List.map_eq_nil_iff] at hnil

section

variable [Sizing] {cs : List Call} (hraw : ∀ c ∈ cs, c.isRaw = false)
  (hrepeats : ∀ c ∈ cs, c.repeats? = none) {r : Regex}
  (hr : ((Draft.withSettings s).calls cs).compile = .ok r)

include hraw hrepeats hr

/-- A chain of calls of which none repeats has the program of their parts, one call after the
other. -/
theorem program_of_calls :
    r.program = (Part.inSequence (partsOf s.modes [] (sinceClear cs))).expr.program := by
  obtain ⟨a, ha, -, hprogram⟩ := (Draft.reads_calls s hraw).of_compile hr
  have hparts : a.parts = partsOf s.modes [] (sinceClear cs) :=
    Assembly.parts_of_calls (fun c hc => hrepeats c ((suffix_sinceClear cs).subset hc)) ha
  rw [hprogram, hparts]

/-- A search with the program of a chain of calls finds nothing where there is no split of the
subject at any place, and else the greatest split from the leftmost place that has one. -/
theorem findMarks_calls (hcase : s.caseInsensitive = false) (subject : List Char) :
    (findMarks r.program subject.toArray = none ↔
      ∀ p ≤ subject.length, ¬ ∃ pieces, SplitsFrom s subject p (sinceClear cs) pieces) ∧
    ∀ marks, findMarks r.program subject.toArray = some marks → ∃ p pieces,
      p ≤ subject.length ∧ GreatestFrom s subject p (sinceClear cs) pieces ∧
      (∀ q < p, ¬ ∃ others, SplitsFrom s subject q (sinceClear cs) others) ∧
      marks = marksOf (sinceClear cs) p pieces := by
  have hdescribes : ∀ c ∈ sinceClear cs, c.Describes := fun c hc =>
    have hmem := (suffix_sinceClear cs).subset hc
    ⟨hraw c hmem, hrepeats c hmem, ne_clear_of_mem hc⟩
  rw [program_of_calls hraw hrepeats hr]
  obtain ⟨hnone, hsome⟩ := findMarks_inSequence (guarded_partsOf s.modes [] (sinceClear cs)) subject
  have hplace : ∀ p ≤ subject.length, (marking subject).through
      ((partsOf s.modes [] (sinceClear cs)).map Part.expr) (p, [(0, p)]) = [] ↔
      ¬ ∃ pieces, SplitsFrom s subject p (sinceClear cs) pieces := by
    intro p hp
    rw [← (ways_calls hcase hdescribes [] hp [(0, p)]).1, not_not]
  refine ⟨hnone.trans (forall_congr' fun p => forall_congr' (hplace p)), fun marks hmarks => ?_⟩
  obtain ⟨p, y, hp, hhead, hearlier, rfl⟩ := hsome marks hmarks
  obtain ⟨pieces, hpieces, rfl⟩ := (ways_calls hcase hdescribes [] hp [(0, p)]).2 y hhead
  refine ⟨p, pieces, hp, hpieces, fun q hq => ?_, rfl⟩
  exact (hplace q (by omega)).1 (hearlier q hq)

end

/-- If none of the calls is `clear` either, these are the parts of the whole chain. -/
theorem program_of_describes [Sizing] {cs : List Call} (h : ∀ c ∈ cs, c.Describes) {r : Regex}
    (hr : ((Draft.withSettings s).calls cs).compile = .ok r) :
    r.program = (Part.inSequence (partsOf s.modes [] cs)).expr.program := by
  rw [program_of_calls (fun c hc => (h c hc).notRaw) (fun c hc => (h c hc).noRepeat) hr,
    sinceClear_eq_self fun c hc => (h c hc).ne_clear]

/-- A chain of calls of which none repeats has a match in a subject exactly if some stretch of the
subject splits into one piece for each call since the last `clear`, each of them allowed by its
call. -/
theorem isMatch_iff_splits [Sizing] (s : Settings) (hcase : s.caseInsensitive = false)
    (cs : List Call) (hraw : ∀ c ∈ cs, c.isRaw = false) (hrepeats : ∀ c ∈ cs, c.repeats? = none)
    {r : Regex} (hr : ((Draft.withSettings s).calls cs).regex.value = .ok r) (subject : String) :
    ∃ f, (((Draft.withSettings s).calls cs).run subject).value = .ok f ∧
      (f.isMatch = true ↔ ∃ before pieces after,
        subject.toList = before ++ pieces.flatten ++ after ∧
          Splits s before (sinceClear cs) pieces after) := by
  refine ⟨r.find subject, Draft.value_run hr subject, ?_⟩
  rw [Draft.value_regex] at hr
  have hnone := (findMarks_calls hraw hrepeats hr hcase subject.toList).1
  rw [Regex.isMatch_find, exists_splits_iff, Ne, hnone]
  constructor
  · intro h
    refine Classical.byContradiction fun hnot => h fun p hp hpieces => ?_
    exact hnot ⟨p, hp, hpieces⟩
  · intro h hall
    obtain ⟨p, hp, hpieces⟩ := h
    exact hall p hp hpieces

section

attribute [local instance] Sizing.estimate

/-- A match that does not begin with the subject, and in which a text is left out. -/
theorem isMatch_with_text_left_out : ∃ f, (((Draft.withDelimiter '#').calls
    [.search "z", .clear, .find "." none, .anything none, .maybe "b" none, .endOfLine]).run
      "a.b").value = .ok f ∧ f.isMatch = true := by
  obtain ⟨r, hr⟩ : ∃ r, ((Draft.withDelimiter '#').calls [.search "z", .clear, .find "." none,
      .anything none, .maybe "b" none, .endOfLine]).regex.value = .ok r := ⟨_, rfl⟩
  obtain ⟨f, hf, hiff⟩ := isMatch_iff_splits { delimiter := '#' } rfl _ (by decide) (by decide) hr
    "a.b"
  refine ⟨f, hf, hiff.2 ⟨['a'], [['.'], ['b'], [], []], [], by decide, ?_⟩⟩
  have hsince : sinceClear [.search "z", .clear, .find "." none, .anything none, .maybe "b" none,
      .endOfLine] = [.find "." none, .anything none, .maybe "b" none, .endOfLine] := by decide
  rw [hsince]
  refine ⟨rfl, fun c hc => .inr ?_, .inr rfl, ⟨rfl, .inl rfl⟩, trivial⟩
  rw [List.mem_singleton.1 hc]
  decide

end

end FluentRegex
