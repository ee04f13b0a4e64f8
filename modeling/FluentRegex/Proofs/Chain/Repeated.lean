import FluentRegex.Machine.Estimate
import FluentRegex.Proofs.Chain.Matching
import FluentRegex.Proofs.Expr.Words

/-!
# Repeating what was said last

A count goes behind the text of a draft, and only reading the text again decides what it repeats. If
the call before it says a single thing (`Call.isUnit`), it is that thing: between the beginning and
the end of a line, the chain with the count matches what is put together from as many pieces as the
bounds allow, each of which the chain without the count matches.

> `matches_in_rounds`: this is so for both kinds of counts, and for bounds in either order.

Such a call puts no condition on places, so what it says has a language (`Expr.words`), in which a
match of the whole subject is membership (`hasMatch_onLine`).
-/

namespace FluentRegex

open Machine

/-! ## Calls that say a single thing -/

namespace Call

/-- Whether the call says a single thing, all of which a count behind it repeats. -/
def isUnit : Call → Bool
  | .find _ _ | .maybe _ _ | .anything _ | .anythingBut _ _ | .something _ | .somethingBut _ _
  | .words _ _ | .decimals _ _ => true
  | .anyOf chars => !chars.isEmpty
  | .search text => text.length == 1
  | _ => false

theorem lookless_inSequence {ps : List Part} (h : ∀ q ∈ ps, q.expr.lookless = true) :
    (Part.inSequence ps).expr.lookless = true :=
  inSequence_of_forall (P := fun e => e.lookless = true) rfl
    (fun _ _ => by rw [Expr.lookless, Bool.and_eq_true]) h

theorem lookless_capturedPart (m : Modes) (index : Nat) (name : Option String) (c : Call) :
    (c.capturedPart m index name).expr.lookless = true := by
  have hinside : (Part.inSequence (c.insideParts m)).expr.lookless = true := by
    refine lookless_inSequence fun q hq => ?_
    obtain ⟨S, h | ⟨min, max, -, h⟩⟩ := c.insideParts_cases m q hq
    · rw [h]
      rfl
    · rw [h]
      exact Expr.lookless_repeated min max true rfl
  rw [capturedPart]
  split
  · exact Expr.lookless_repeated 0 (some 1) true hinside
  · exact hinside

/-- A call that says a single thing is read as one part, which puts no condition on places. -/
theorem partsAfter_of_isUnit {c : Call} (hc : c.isUnit = true) (m : Modes)
    (names : List (Option String)) : ∃ q, c.partsAfter m names = [q] ∧ q.expr.lookless = true := by
  rw [partsAfter]
  cases hcaptures : c.captures? with
  | some asked => exact ⟨_, rfl, lookless_capturedPart m _ _ c⟩
  | none =>
    cases c with
    | search text =>
      rw [isUnit, beq_iff_eq, ← String.length_toList] at hc
      obtain ⟨d, hd⟩ := List.length_eq_one_iff.1 hc
      refine ⟨Part.literal m d, ?_, rfl⟩
      show text.toList.map (Part.literal m) = _
      rw [hd]
      rfl
    | anyOf chars =>
      have hempty : chars.isEmpty = false := by simpa [isUnit] using hc
      refine ⟨Part.ofChars m false chars.toList, ?_, rfl⟩
      show plainParts m (.anyOf chars) = _
      rw [plainParts, hempty]
      rfl
    | _ => simp [isUnit, captures?] at hc hcaptures

theorem describes_of_isUnit {c : Call} (hc : c.isUnit = true) : c.Describes := by
  cases c
  all_goals first
    | exact absurd hc Bool.false_ne_true
    | exact ⟨rfl, rfl, by simp⟩

end Call

/-! ## Matches of a whole subject -/

/-- The part between the beginning and the end of a line. -/
def Part.onLine (m : Modes) (q : Part) : Part :=
  inSequence [anchor m .lineStart, q, anchor m .lineEnd]

/-- Parts in sequence can be passed one after the other. -/
theorem passes_inSequence {ρ : Type} {m : Machine ρ} (ps : List Part) {x y : Nat × ρ} :
    m.Passes (Part.inSequence ps).expr x y ↔ m.PassesAll (ps.map Part.expr) x y := by
  match ps with
  | [] => exact Iff.rfl
  | [q] => exact passesAll_singleton.symm
  | q :: r :: ps => exact passes_sequence _

section

variable {s : Settings} (hlines : s.multiLine = false)

include hlines

/-- Parts between the beginning and the end of a line match what they can be passed over, one after
the other. -/
theorem hasMatch_between (ps : List Part) (subject : List Char) :
    hasMatch (Part.inSequence (Part.anchor s.modes .lineStart :: ps ++
        [Part.anchor s.modes .lineEnd])).expr.program subject.toArray = true ↔
      (testing subject).PassesAll (ps.map Part.expr) (0, ()) (subject.length, ()) := by
  -- where lines do not count, the two ends of a line are those of the subject
  have hstart : ∀ p ≤ subject.length,
      (Syntax.Anchor.look s.modes .lineStart).holds ((testing subject).before? p)
        ((testing subject).after? p) = true ↔ p = 0 := by
    intro p hp
    have hbefore : (testing subject).before? p = (subject.take p).getLast? := before?_eq hp
    rw [hbefore, holds_lineStart, hlines]
    simp only [Bool.false_eq_true, false_and, or_false, List.take_eq_nil_iff]
    refine ⟨fun h => ?_, .inl⟩
    rcases h with h | h
    · exact h
    · rw [h] at hp
      exact Nat.le_zero.1 hp
  have hstop : ∀ p ≤ subject.length,
      (Syntax.Anchor.look s.modes .lineEnd).holds ((testing subject).before? p)
        ((testing subject).after? p) = true ↔ p = subject.length := by
    intro p hp
    have hafter : (testing subject).after? p = (subject.drop p).head? := after?_eq p
    rw [hafter, holds_lineEnd, hlines]
    simp only [Bool.false_eq_true, false_and, or_false, List.drop_eq_nil_iff]
    exact ⟨fun h => Nat.le_antisymm hp h, fun h => Nat.le_of_eq h.symm⟩
  rw [hasMatch_iff]
  simp only [passes_inSequence, List.map_append, List.map_cons, List.map_nil, List.cons_append,
    PassesAll, passesAll_append]
  constructor
  · rintro ⟨p, hp, y, _, ⟨hlook, rfl⟩, z, hz, _, ⟨hlook', -⟩, -⟩
    obtain rfl := (hstart p hp).1 hlook
    have hle : z.1 ≤ subject.length := ((passes_sequence _).2 hz).forward.2 hp
    rwa [← (hstop z.1 hle).1 hlook']
  · intro h
    exact ⟨0, Nat.zero_le _, _, _, ⟨(hstart 0 (Nat.zero_le _)).2 rfl, rfl⟩, _, h, _,
      ⟨(hstop _ (Nat.le_refl _)).2 rfl, rfl⟩, rfl⟩

theorem hasMatch_onLine (q : Part) (subject : List Char) :
    hasMatch (q.onLine s.modes).expr.program subject.toArray = true ↔
      (testing subject).Passes q.expr (0, ()) (subject.length, ()) :=
  (hasMatch_between hlines [q] subject).trans passesAll_singleton

/-- A part without conditions on places matches its words. -/
theorem hasMatch_onLine_iff {q : Part} (hq : q.expr.lookless = true) (subject : List Char) :
    hasMatch (q.onLine s.modes).expr.program subject.toArray = true ↔ subject ∈ q.expr.words :=
  (hasMatch_onLine hlines q subject).trans (passes_whole_iff hq)

/-- So many rounds of it are so many of its words in a row. -/
theorem hasMatch_onLine_repeated_iff {q : Part} (hq : q.expr.lookless = true) {low high : Nat}
    (hle : low ≤ high) (subject : List Char) :
    hasMatch ((q.repeated low (some high)).onLine s.modes).expr.program subject.toArray = true ↔
      ∃ pieces : List (List Char), subject = pieces.flatten ∧ low ≤ pieces.length ∧
        pieces.length ≤ high ∧ ∀ w ∈ pieces, w ∈ q.expr.words := by
  have hpasses : (testing subject).Passes (.rep low (some high) true q.expr) (0, ())
      (subject.length, ()) ↔ subject ∈ (Expr.rep low (some high) true q.expr).words :=
    passes_whole_iff hq
  rw [hasMatch_onLine hlines, Part.repeated, passes_repeated, hpasses]
  constructor
  · rintro ⟨n, hlow, hhigh, hn⟩
    obtain ⟨pieces, hsubject, rfl, hpieces⟩ := Language.mem_pow.1 hn
    have hmost := hhigh high rfl
    exact ⟨pieces, hsubject, hlow, by omega, hpieces⟩
  · rintro ⟨pieces, hsubject, hlow, hhigh, hpieces⟩
    refine ⟨pieces.length, hlow, fun k hk => ?_,
      Language.mem_pow.2 ⟨pieces, hsubject, rfl, hpieces⟩⟩
    obtain rfl : high = k := Option.some.inj hk
    omega

end

/-! ## The chain with the count and the chain without -/

/-- The chain of calls between the beginning and the end of a line. -/
def Draft.line (s : Settings) (calls : List Call) : Draft :=
  (Draft.withSettings s).calls (.startOfLine :: calls ++ [.endOfLine])

/-- What holds of the calls and of the two ends of the line holds of the whole chain. -/
theorem forall_line {P : Call → Prop} {cs : List Call} (hstart : P .startOfLine)
    (hend : P .endOfLine) (h : ∀ c ∈ cs, P c) : ∀ c ∈ .startOfLine :: cs ++ [.endOfLine], P c := by
  rw [List.forall_mem_append, List.forall_mem_cons, List.forall_mem_singleton]
  exact ⟨⟨hstart, h⟩, hend⟩

/-- A call that repeats is neither a raw fragment nor `clear`. -/
theorem Call.structured_of_repeats {c : Call} {bounds : Nat × Nat}
    (hc : c.repeats? = some bounds) : c.isRaw = false ∧ c ≠ .clear := by
  cases c with
  | times n => exact ⟨rfl, by simp⟩
  | between k n => exact ⟨rfl, by simp⟩
  | _ => exact absurd hc (by simp [repeats?])

section

variable {s : Settings} {o c : Call} {low high : Nat} {ps : List Part} {q : Part}
  (ho : o.Describes)

include ho

/-- The chain without the count has the program of the parts of the call. -/
theorem program_without_count [Sizing] {r : Regex} (hr : (Draft.line s [o]).compile = .ok r) :
    r.program = (Part.inSequence (Part.anchor s.modes .lineStart :: o.partsAfter s.modes [] ++
      [Part.anchor s.modes .lineEnd])).expr.program := by
  have hdescribes : ∀ d ∈ [Call.startOfLine, o, .endOfLine], d.Describes :=
    forall_line ⟨rfl, rfl, by simp⟩ ⟨rfl, rfl, by simp⟩ (List.forall_mem_singleton.2 ho)
  exact program_of_describes hdescribes hr

variable (hq : o.partsAfter s.modes [] = ps ++ [q]) (hc : c.repeats? = some (low, high))

include hq hc

/-- A count behind a call repeats the last of its parts, and nothing before that. -/
theorem parts_of_count {a : Assembly}
    (ha : Assembly.ofCalls s.modes ([.startOfLine, o] ++ [c]) = some a) :
    a.parts = Part.anchor s.modes .lineStart :: ps ++ [q.repeated low (some high)] := by
  have hdescribes : ∀ d ∈ [Call.startOfLine, o], d.Describes :=
    List.forall_mem_cons.2 ⟨⟨rfl, rfl, by simp⟩, List.forall_mem_singleton.2 ho⟩
  rw [Assembly.ofCalls_append] at ha
  obtain ⟨b, hb, hcount⟩ := Option.bind_eq_some_iff.1 ha
  have hparts : b.parts = (Part.anchor s.modes .lineStart :: ps) ++ [q] := by
    rw [Assembly.parts_of_calls (fun d hd => (hdescribes d hd).noRepeat) hb, partsOf, partsOf]
    show [] ++ ([Part.anchor s.modes .lineStart] ++ (o.partsAfter s.modes [] ++ [])) = _
    rw [hq, List.append_nil]
    rfl
  -- the last part before the count is the last one of the call, and only that is repeated
  obtain ⟨before, p, hlast, rfl⟩ := Assembly.step_of_repeats hc hcount
  obtain ⟨rfl, hp⟩ := List.append_inj' (hparts.symm.trans hlast) rfl
  obtain rfl : q = p := List.singleton_inj.1 hp
  rfl

/-- The chain with the count has the program of the parts of the call, of which the last is
repeated. -/
theorem program_of_count [Sizing] {r : Regex} (hr : (Draft.line s [o, c]).compile = .ok r) :
    r.program = (Part.inSequence (Part.anchor s.modes .lineStart ::
      (ps ++ [q.repeated low (some high)]) ++ [Part.anchor s.modes .lineEnd])).expr.program := by
  have hstructured : ∀ d ∈ [Call.startOfLine, o, c, .endOfLine], d.isRaw = false ∧ d ≠ .clear :=
    forall_line ⟨rfl, by simp⟩ ⟨rfl, by simp⟩ (List.forall_mem_cons.2
      ⟨⟨ho.notRaw, ho.ne_clear⟩, List.forall_mem_singleton.2 (Call.structured_of_repeats hc)⟩)
  have hreads := Draft.reads_calls s fun d hd => (hstructured d hd).1
  rw [sinceClear_eq_self fun d hd => (hstructured d hd).2] at hreads
  obtain ⟨a, ha, -, hprogram⟩ := hreads.of_compile hr
  obtain ⟨b, hb, hend⟩ := Option.bind_eq_some_iff.1
    ((Assembly.ofCalls_append s.modes ([.startOfLine, o] ++ [c]) .endOfLine).symm.trans ha)
  rw [Assembly.step_of_noRepeat rfl hend] at hprogram
  dsimp only at hprogram
  rw [parts_of_count ho hq hc hb] at hprogram
  exact hprogram

end

/-! ## Subjects in pieces -/

/-- Whether the subject is put together from as many pieces as the bounds allow, each of which the
draft matches. -/
def Draft.MatchesInPieces [Sizing] (d : Draft) (low high : Nat) (subject : String) : Prop :=
  ∃ pieces : List String, subject = String.join pieces ∧ low ≤ pieces.length ∧
    pieces.length ≤ high ∧ ∀ piece ∈ pieces, (d.isMatch piece).value = .ok true

/-- The pieces of a subject are those of its characters. -/
theorem exists_pieces_iff {low high : Nat} {subject : String} {P : List Char → Prop} :
    (∃ pieces : List String, subject = String.join pieces ∧ low ≤ pieces.length ∧
        pieces.length ≤ high ∧ ∀ piece ∈ pieces, P piece.toList) ↔
      ∃ pieces : List (List Char), subject.toList = pieces.flatten ∧ low ≤ pieces.length ∧
        pieces.length ≤ high ∧ ∀ w ∈ pieces, P w := by
  constructor
  · rintro ⟨pieces, rfl, hlow, hhigh, hpieces⟩
    refine ⟨pieces.map String.toList, ?_, by simpa using hlow, by simpa using hhigh, ?_⟩
    · rw [String.toList_join, List.flatMap_def]
    · intro w hw
      obtain ⟨piece, hpiece, rfl⟩ := List.mem_map.1 hw
      exact hpieces piece hpiece
  · rintro ⟨pieces, hsubject, hlow, hhigh, hpieces⟩
    refine ⟨pieces.map String.ofList, ?_, by simpa using hlow, by simpa using hhigh, ?_⟩
    · rw [← String.toList_inj, hsubject, String.toList_join, List.flatMap_map]
      simp
    · intro piece hpiece
      obtain ⟨w, hw, rfl⟩ := List.mem_map.1 hpiece
      simpa using hpieces w hw

/-- A count behind a call that says a single thing matches what is in as many pieces. -/
theorem matches_of_count [Sizing] {s : Settings} {o c : Call} {low high : Nat} {r : Regex}
    (hlines : s.multiLine = false) (ho : o.isUnit = true) (hc : c.repeats? = some (low, high))
    (hle : low ≤ high) (hr : (Draft.line s [o, c]).regex.value = .ok r)
    (halone : 0 < high → ∃ r', (Draft.line s [o]).regex.value = .ok r') (subject : String) :
    ∃ b, ((Draft.line s [o, c]).isMatch subject).value = .ok b ∧
      (b = true ↔ (Draft.line s [o]).MatchesInPieces low high subject) := by
  obtain ⟨q, hq, hlookless⟩ := Call.partsAfter_of_isUnit ho s.modes []
  have hdescribes := Call.describes_of_isUnit ho
  have hlast : o.partsAfter s.modes [] = [] ++ [q] := hq
  have hprogram := program_of_count hdescribes hlast hc ((Draft.value_regex _).symm.trans hr)
  refine ⟨r.isMatch subject, by rw [Draft.value_isMatch, hr]; rfl, ?_⟩
  rw [Regex.isMatch, hprogram]
  refine (hasMatch_onLine_repeated_iff hlines hlookless hle subject.toList).trans ?_
  rw [← exists_pieces_iff]
  refine exists_congr fun pieces => and_congr_right fun _ => and_congr_right fun _ =>
    and_congr_right fun hlength => forall₂_congr fun piece hpiece => ?_
  -- as there is a piece, there is a chance for the call to match it
  obtain ⟨r', hr'⟩ := halone (Nat.lt_of_lt_of_le (List.length_pos_of_mem hpiece) hlength)
  have hprogram' : r'.program = (q.onLine s.modes).expr.program := by
    rw [program_without_count hdescribes ((Draft.value_regex _).symm.trans hr'), hq]
    rfl
  have hvalue : ((Draft.line s [o]).isMatch piece).value = .ok (r'.isMatch piece) := by
    rw [Draft.value_isMatch, hr']
    rfl
  rw [hvalue, Except.ok.injEq, Regex.isMatch, hprogram', hasMatch_onLine_iff hlines hlookless]

/-- Between the beginning and the end of a line, a count behind a call that says a single thing
matches a subject exactly if that is put together from as many pieces as the count allows, each of
which the call matches without it. The bounds may come in either order. The chain with the count is
one that can be run, and so is the one without it if the count allows for any piece. -/
theorem matches_in_rounds [Sizing] (s : Settings) (hlines : s.multiLine = false) (o : Call)
    (ho : o.isUnit = true) :
    (∀ (x y : Nat) (r : Regex), (Draft.line s [o, .between x y]).regex.value = .ok r →
      (0 < max x y → ∃ r', (Draft.line s [o]).regex.value = .ok r') →
      ∀ subject : String, ∃ b, ((Draft.line s [o, .between x y]).isMatch subject).value = .ok b ∧
        (b = true ↔ (Draft.line s [o]).MatchesInPieces (min x y) (max x y) subject)) ∧
    ∀ (n : Nat) (r : Regex), (Draft.line s [o, .times n]).regex.value = .ok r →
      (0 < n → ∃ r', (Draft.line s [o]).regex.value = .ok r') →
      ∀ subject : String, ∃ b, ((Draft.line s [o, .times n]).isMatch subject).value = .ok b ∧
        (b = true ↔ (Draft.line s [o]).MatchesInPieces n n subject) := by
  constructor
  · intro x y r hr halone
    have hle : min x y ≤ max x y := Nat.le_trans (Nat.min_le_left x y) (Nat.le_max_left x y)
    exact matches_of_count hlines ho rfl hle hr halone
  · intro n r hr halone
    exact matches_of_count hlines ho rfl (Nat.le_refl n) hr halone

section

attribute [local instance] Sizing.estimate

/-- Two rounds with the bounds the wrong way round. The second is empty, as the repeated call may
leave out its text. -/
theorem matches_optional_twice : (Call.maybe "ab" none).isUnit = true ∧
    ((Draft.line {} [.maybe "ab" none, .between 3 2]).isMatch "ab").value = .ok true := by
  obtain ⟨r, hr⟩ : ∃ r, (Draft.line {} [.maybe "ab" none, .between 3 2]).regex.value = .ok r :=
    ⟨_, rfl⟩
  obtain ⟨b, hb, hiff⟩ := (matches_in_rounds {} rfl (.maybe "ab" none) rfl).1 3 2 r hr
    (fun _ => ⟨_, rfl⟩) "ab"
  have hexpr : expression (Draft.line {} [.maybe "ab" none]).text.toList ({} : Settings).modes =
      .ok (.seq (.look .textStart) (.seq (.rep 0 (some 1) true (.group 1 none
        (.seq (.set (CharSet.singleton 'a')) (.set (CharSet.singleton 'b'))))) (.look .textEnd))) :=
    rfl
  have hinner : (testing "ab".toList).Passes
      (.seq (.set (CharSet.singleton 'a')) (.set (CharSet.singleton 'b'))) (0, ()) (2, ()) :=
    ⟨(1, ()), ⟨⟨'a', rfl, rfl⟩, rfl⟩, ⟨'b', rfl, rfl⟩, rfl⟩
  have hfirst : ((Draft.line {} [.maybe "ab" none]).isMatch "ab").value = .ok true :=
    (Draft.isMatch_iff_passes hexpr rfl).2 ⟨0, Nat.zero_le _, (2, ()), (0, ()), ⟨rfl, rfl⟩, (2, ()),
      ⟨1, by decide, by simp, (2, ()), ⟨(2, ()), hinner, rfl⟩, rfl⟩, rfl, rfl⟩
  have hsecond : ((Draft.line {} [.maybe "ab" none]).isMatch "").value = .ok true :=
    (Draft.isMatch_iff_passes hexpr rfl).2 ⟨0, Nat.zero_le _, (0, ()), (0, ()), ⟨rfl, rfl⟩, (0, ()),
      ⟨0, by decide, by simp, rfl⟩, rfl, rfl⟩
  have hpieces : (Draft.line {} [.maybe "ab" none]).MatchesInPieces (min 3 2) (max 3 2) "ab" :=
    ⟨["ab", ""], rfl, by decide, by decide, by simp [hfirst, hsecond]⟩
  exact ⟨rfl, hb.trans (congrArg Except.ok (hiff.2 hpieces))⟩

end

end FluentRegex
