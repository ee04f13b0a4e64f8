import FluentRegex.Proofs.Chain.CaseVariants
import FluentRegex.Proofs.Chain.Parts
import FluentRegex.Proofs.Chain.Splits
import FluentRegex.Proofs.Machine.Code
import FluentRegex.Proofs.Machine.Offers

/-!
# The parts of a call find the pieces that it allows

From a place in a subject the parts of a call lead to the lengths that the call allows there, and
to greater ones first (`offers_capturedPart`, `descends_plainParts`). The marks of a group are
noted on the way, except where a text that may be left out is left out.
-/

namespace FluentRegex

open Machine

variable {s : Settings} {subject : List Char} {p : Nat}

/-! ## Pieces and lengths -/

theorem le_takeWhile_iff {test : Char → Bool} {text : List Char} {n : Nat} :
    n ≤ (text.takeWhile test).length ↔ n ≤ text.length ∧ ∀ c ∈ text.take n, test c = true := by
  induction text generalizing n with
  | nil => simp
  | cons c cs ih =>
    cases n with
    | zero => simp
    | succ n =>
      rw [List.takeWhile_cons, List.take_succ_cons, List.length_cons, List.forall_mem_cons]
      cases h : test c with
      | true =>
        rw [if_pos rfl, List.length_cons, Nat.succ_le_succ_iff, Nat.succ_le_succ_iff, ih]
        simp
      | false => simp

theorem le_reach_iff (hp : p ≤ subject.length) {S : CharSet} {n : Nat} :
    n ≤ (marking subject).reach S p ↔
      p + n ≤ subject.length ∧ ∀ c ∈ (subject.drop p).take n, c ∈ S := by
  show n ≤ ((subject.drop p).takeWhile S.contains).length ↔ _
  rw [le_takeWhile_iff, List.length_drop]
  refine and_congr ?_ Iff.rfl
  omega

/-- A piece of the subject is as long as it should be. -/
theorem length_piece {n : Nat} (h : p + n ≤ subject.length) :
    ((subject.drop p).take n).length = n := by
  rw [List.length_take, List.length_drop]
  omega

theorem piece_eq_nil_iff {n : Nat} (h : p + n ≤ subject.length) :
    (subject.drop p).take n = [] ↔ n = 0 := by
  rw [← List.length_eq_zero_iff, length_piece h]

/-! ## Sets and conditions -/

theorem folded_eq {m : Modes} (hm : m.caseInsensitive = false) (S : CharSet) :
    Syntax.folded m S = S := by
  rw [Syntax.folded, hm, if_neg Bool.false_ne_true]

theorem mem_dotSet {c : Char} : c ∈ Syntax.dotSet s.modes ↔ s.AllowsAny c := by
  rw [Syntax.dotSet, Settings.AllowsAny]
  cases h : s.dotMatchesNewLine with
  | true => simp [Settings.modes, h]
  | false => simp [Settings.modes, h]

/-- The characters that a class of others stands for. -/
theorem exists_allBut (hcase : s.caseInsensitive = false) (chars : String) :
    ∃ S, (Part.allBut s.modes chars.toList).expr = .set S ∧
      ∀ c, c ∈ S ↔ s.AllowsOther chars c := by
  by_cases h : chars = ""
  · refine ⟨Syntax.dotSet s.modes, ?_, fun c => ?_⟩
    · rw [h]
      rfl
    · rw [mem_dotSet, Settings.AllowsOther, if_pos h]
  · obtain ⟨S, hexpr, hS⟩ := exists_notListed (s := s) h
    refine ⟨S, hexpr, fun c => ?_⟩
    rw [hS, Settings.lists_iff hcase, Settings.AllowsOther, if_neg h]

theorem holds_lineStart {before : List Char} {after : Option Char} :
    (Syntax.Anchor.look s.modes .lineStart).holds before.getLast? after = true ↔
      before = [] ∨ (s.multiLine = true ∧ before.getLast? = some '\n') := by
  rw [Syntax.Anchor.look]
  cases h : s.multiLine with
  | true => simp [Settings.modes, h, Look.holds]
  | false => simp [Settings.modes, h, Look.holds]

theorem holds_lineEnd {before : Option Char} {after : List Char} :
    (Syntax.Anchor.look s.modes .lineEnd).holds before after.head? = true ↔
      after = [] ∨ (s.multiLine = true ∧ after.head? = some '\n') := by
  rw [Syntax.Anchor.look]
  cases h : s.multiLine with
  | true => simp [Settings.modes, h, Look.holds]
  | false => simp [Settings.modes, h, Look.holds]

/-! ## The parts of calls -/

section

variable (hcase : s.caseInsensitive = false) (hp : p ≤ subject.length)
include hcase hp

omit hcase in
/-- Characters that count as the same as those of a text. -/
theorem descends_literals (text : String) :
    (marking subject).Descends ((text.toList.map (Part.literal s.modes)).map Part.expr) p
      fun n => p + n ≤ subject.length ∧
        List.Forall₂ s.Same ((subject.drop p).take n) text.toList := by
  have hexprs : (text.toList.map (Part.literal s.modes)).map Part.expr =
      (text.toList.map fun c => Syntax.folded s.modes (CharSet.singleton c)).map Expr.set := by
    rw [List.map_map, List.map_map]
    rfl
  rw [hexprs]
  refine (descends_sets _ p).congr fun n => ?_
  have hsubject : (marking subject).subject.toList = subject := rfl
  rw [List.length_map, List.forall₂_map_right_iff, hsubject]
  simp only [mem_folded_singleton]
  constructor
  · intro h
    obtain ⟨rfl, hsame⟩ := h
    have hlen := hsame.length_eq
    rw [List.length_take, List.length_drop] at hlen
    exact ⟨by omega, hsame⟩
  · intro h
    obtain ⟨hn, hsame⟩ := h
    have hlen : n = text.toList.length := by rw [← hsame.length_eq, length_piece hn]
    exact ⟨hlen, hlen ▸ hsame⟩

theorem descends_text (text : String) :
    (marking subject).Descends ((text.toList.map (Part.literal s.modes)).map Part.expr) p
      fun n => p + n ≤ subject.length ∧ (subject.drop p).take n = text.toList := by
  have hsame : s.Same = Eq := funext fun c => funext fun d => propext (Settings.same_iff hcase)
  refine (descends_literals hp text).congr fun n => ?_
  rw [hsame, List.forall₂_eq_eq_eq]

omit hcase in
/-- A run of characters, of any length or of any length but none. -/
theorem descends_run {S : CharSet} {allowed : Char → Prop} (hS : ∀ c, c ∈ S ↔ allowed c) :
    (marking subject).Descends [Expr.repeated 0 none true (.set S)] p
      (fun n => p + n ≤ subject.length ∧ ∀ c ∈ (subject.drop p).take n, allowed c) ∧
    (marking subject).Descends [Expr.repeated 1 none true (.set S)] p
      (fun n => p + n ≤ subject.length ∧
        ((subject.drop p).take n ≠ [] ∧ ∀ c ∈ (subject.drop p).take n, allowed c)) := by
  have hreach : ∀ n, n ≤ (marking subject).reach S p ↔
      p + n ≤ subject.length ∧ ∀ c ∈ (subject.drop p).take n, allowed c := by
    intro n
    rw [le_reach_iff hp]
    simp only [hS]
  refine ⟨(descends_any S p).congr hreach, (descends_some S p).congr fun n => ?_⟩
  rw [hreach]
  constructor
  · intro h
    obtain ⟨hpos, hn, hall⟩ := h
    exact ⟨hn, fun hnil => Nat.ne_of_gt hpos ((piece_eq_nil_iff hn).1 hnil), hall⟩
  · intro h
    obtain ⟨hn, hne, hall⟩ := h
    exact ⟨Nat.pos_of_ne_zero fun h0 => hne ((piece_eq_nil_iff hn).2 h0), hn, hall⟩

omit hcase in
/-- A single character. -/
theorem descends_member {S : CharSet} {allowed : Char → Prop} (hS : ∀ c, c ∈ S ↔ allowed c) :
    (marking subject).Descends [.set S] p
      (fun n => p + n ≤ subject.length ∧ ∃ c, allowed c ∧ (subject.drop p).take n = [c]) := by
  refine (descends_set S p).congr fun n => ?_
  rw [le_reach_iff hp]
  constructor
  · intro h
    obtain ⟨rfl, hlen, hall⟩ := h
    obtain ⟨c, hc⟩ := List.length_eq_one_iff.1 (length_piece hlen)
    rw [hc, List.forall_mem_singleton, hS] at hall
    exact ⟨hlen, c, hall, hc⟩
  · intro h
    obtain ⟨hlen, c, hallowed, hc⟩ := h
    have hone : n = 1 := by rw [← length_piece hlen, hc, List.length_singleton]
    subst hone
    refine ⟨rfl, hlen, ?_⟩
    rw [hc, List.forall_mem_singleton, hS]
    exact hallowed

omit hcase in
/-- So many characters, one after the other. -/
theorem descends_exactly_members {S : CharSet} {allowed : Char → Prop}
    (hS : ∀ c, c ∈ S ↔ allowed c) (k : Nat) :
    (marking subject).Descends [Expr.repeated k (some k) true (.set S)] p
      (fun n => p + n ≤ subject.length ∧ (((subject.drop p).take n).length = k ∧
        ∀ c ∈ (subject.drop p).take n, allowed c)) := by
  refine (descends_exactly S k p).congr fun n => ?_
  simp only [← hS]
  constructor
  · intro h
    obtain ⟨rfl, hreach⟩ := h
    obtain ⟨hn, hall⟩ := (le_reach_iff hp).1 hreach
    exact ⟨hn, length_piece hn, hall⟩
  · intro h
    obtain ⟨hn, hlen, hall⟩ := h
    have hlen' : n = k := (length_piece hn).symm.trans hlen
    refine ⟨hlen', ?_⟩
    rw [← hlen']
    exact (le_reach_iff hp).2 ⟨hn, hall⟩

omit hcase in
/-- A run of characters under a count. -/
theorem descends_count (S : CharSet) (count : Option Nat) :
    (marking subject).Descends
      [Expr.repeated (Syntax.Progress.bounds count).1 (Syntax.Progress.bounds count).2 true
        (.set S)] p
      (fun n => p + n ≤ subject.length ∧ (AllowsLength count ((subject.drop p).take n).length ∧
        ∀ c ∈ (subject.drop p).take n, c ∈ S)) := by
  have hsome : ∀ n, (0 < n ∧ n ≤ (marking subject).reach S p) ↔ p + n ≤ subject.length ∧
      (0 < ((subject.drop p).take n).length ∧ ∀ c ∈ (subject.drop p).take n, c ∈ S) := by
    intro n
    rw [le_reach_iff hp]
    constructor
    · intro h
      obtain ⟨hpos, hn, hall⟩ := h
      exact ⟨hn, by rwa [length_piece hn], hall⟩
    · intro h
      obtain ⟨hn, hpos, hall⟩ := h
      exact ⟨by rwa [length_piece hn] at hpos, hn, hall⟩
  -- a count of zero is no count
  match count with
  | none => exact (descends_some S p).congr hsome
  | some 0 => exact (descends_some S p).congr hsome
  | some (k + 1) => exact descends_exactly_members hp (fun _ => Iff.rfl) (k + 1)

/-- The parts between the parentheses of a call whose text may not be left out. -/
theorem descends_insideParts {c : Call} {name : Option String} (hc : c.captures? = some name)
    (hopt : c.isOptional = false) :
    (marking subject).Descends ((c.insideParts s.modes).map Part.expr) p
      (c.AllowsAt s subject p) := by
  cases c with
  | find text n => exact descends_text hcase hp text
  | anything n => exact (descends_run hp fun c => mem_dotSet).1
  | something n => exact (descends_run hp fun c => mem_dotSet).2
  | anythingBut chars n =>
    obtain ⟨S, hexpr, hS⟩ := exists_allBut hcase chars
    have h := (descends_run hp hS).1
    rw [← hexpr] at h
    exact h
  | somethingBut chars n =>
    obtain ⟨S, hexpr, hS⟩ := exists_allBut hcase chars
    have h := (descends_run hp hS).2
    rw [← hexpr] at h
    exact h
  | words n count =>
    refine (descends_count hp (Syntax.folded s.modes CharSet.wordChars) count).congr fun k => ?_
    rw [folded_eq hcase]
    rfl
  | decimals n count =>
    refine (descends_count hp (Syntax.folded s.modes CharSet.digits) count).congr fun k => ?_
    rw [folded_eq hcase]
    rfl
  | maybe text n => exact absurd hopt (by simp [Call.isOptional])
  | _ => exact absurd hc (by simp [Call.captures?])

omit hcase in
theorem nothing_iff {n : Nat} : n = 0 ↔ p + n ≤ subject.length ∧ (subject.drop p).take n = [] := by
  constructor
  · intro h
    rw [h]
    exact ⟨hp, rfl⟩
  · intro h
    exact (piece_eq_nil_iff h.1).1 h.2

/-- One of the listed characters, or nothing where none is listed. -/
theorem descends_anyOf (chars : String) :
    (marking subject).Descends (((Call.anyOf chars).plainParts s.modes).map Part.expr) p
      ((Call.anyOf chars).AllowsAt s subject p) := by
  by_cases h : chars = ""
  · refine ⟨[0], List.pairwise_singleton _ 0, fun n => ?_, fun r => ?_⟩
    · rw [List.mem_singleton, Call.AllowsAt, Call.Allows, if_pos h]
      exact nothing_iff hp
    · rw [Call.plainParts, if_pos (String.isEmpty_iff.2 h)]
      rfl
  · have hne : ¬ chars.isEmpty = true := fun hempty => h (String.isEmpty_iff.1 hempty)
    rw [Call.plainParts, if_neg hne]
    refine (descends_member hp fun c => mem_folded_listed (s := s)).congr fun n => ?_
    simp only [Settings.lists_iff hcase]
    rw [Call.AllowsAt, Call.Allows, if_neg h]

omit hcase in
theorem descends_startOfLine :
    (marking subject).Descends ((Call.startOfLine.plainParts s.modes).map Part.expr) p
      (Call.startOfLine.AllowsAt s subject p) := by
  refine (descends_look _ p).congr fun n => ?_
  have hbefore : (marking subject).before? p = (subject.take p).getLast? := before?_eq hp
  rw [hbefore, holds_lineStart, nothing_iff hp, and_assoc]
  rfl

omit hcase in
theorem descends_endOfLine :
    (marking subject).Descends ((Call.endOfLine.plainParts s.modes).map Part.expr) p
      (Call.endOfLine.AllowsAt s subject p) := by
  refine (descends_look _ p).congr fun n => ?_
  have hafter : (marking subject).after? p = (subject.drop p).head? := after?_eq p
  rw [hafter, holds_lineEnd, nothing_iff hp, and_assoc, Call.AllowsAt, Call.Allows]
  refine and_congr_right fun hn => and_congr_right fun hpiece => ?_
  rw [(piece_eq_nil_iff hn).1 hpiece, Nat.add_zero]

/-- The parts of a call without a group. -/
theorem descends_plainParts {c : Call} (hraw : c.isRaw = false) (hclear : c ≠ .clear)
    (hrepeats : c.repeats? = none) (hcaptures : c.captures? = none) :
    (marking subject).Descends ((c.plainParts s.modes).map Part.expr) p
      (c.AllowsAt s subject p) := by
  rcases Call.plain_cases hraw hrepeats hcaptures with ⟨text, rfl⟩ | ⟨chars, rfl⟩ | rfl | rfl | rfl
  · exact descends_text hcase hp text
  · exact descends_anyOf hcase hp chars
  · exact descends_startOfLine hp
  · exact descends_endOfLine hp
  · exact absurd rfl hclear

end

/-! ## Groups -/

/-- Whether a call leaves its text out where its piece has the given length. -/
def Call.leavesOut (n : Nat) : Call → Bool
  | .maybe text _ => !text.isEmpty && n == 0
  | _ => false

/-- The marks after a group with a piece of the given length. -/
def noted (index p n : Nat) (marks : Marks) : Marks :=
  (2 * index + 1, p + n) :: (2 * index, p) :: marks

theorem ways_inSequence (m : Machine Marks) (ps : List Part) (x : Nat × Marks) :
    m.ways (Part.inSequence ps).expr x = m.through (ps.map Part.expr) x := by
  match ps with
  | [] => rfl
  | [q] => exact (through_singleton q.expr x).symm
  | q :: r :: ps => exact ways_sequence _ x

/-- A group leads where its inside leads, and notes its ends. -/
theorem offers_group {ps : List Part} {allowed : Nat → Prop}
    (h : (marking subject).Descends (ps.map Part.expr) p allowed) (index : Nat)
    (name : Option String) (marks : Marks) :
    Offers ((marking subject).ways (Part.group index name ps).expr (p, marks)) p allowed
      fun n => noted index p n marks := by
  obtain ⟨lens, hlens, hmem, hways⟩ := h
  have heq : (marking subject).ways (Part.group index name ps).expr (p, marks) =
      lens.map fun n => (p + n, noted index p n marks) := by
    rw [Part.group, ways, ways_inSequence, hways, List.map_map]
    rfl
  rw [heq]
  exact offers_map hlens hmem p _

/-- Text that may be left out is left out only after all else, and then its group notes nothing. -/
theorem offers_maybe (hcase : s.caseInsensitive = false) (hp : p ≤ subject.length)
    (text : String) (asked : Option String) (index : Nat) (name : Option String) (marks : Marks) :
    Offers ((marking subject).ways
        ((Call.maybe text asked).capturedPart s.modes index name).expr (p, marks)) p
      ((Call.maybe text asked).AllowsAt s subject p)
      fun n => if (Call.maybe text asked).leavesOut n then marks else noted index p n marks := by
  have hgroup := offers_group (descends_text hcase hp text) index name marks
  have hopt : (Call.maybe text asked).isOptional = true := rfl
  rw [Call.capturedPart, if_pos hopt, Part.repeated, ways_optional]
  refine (hgroup.append_start (fun k hk => ?_) (fun hnot => ?_)).congr fun k => ?_
  · -- text of length zero is empty, so it is not left out
    have hkept : (Call.maybe text asked).leavesOut k = false := by
      rw [Call.leavesOut, Bool.and_eq_false_iff]
      by_cases hzero : k = 0
      · have hempty : text.toList = [] := by
          rw [← hk.2, hzero, List.take_zero]
        refine .inl ?_
        rw [Bool.not_eq_false', String.isEmpty_iff, ← String.toList_eq_nil_iff]
        exact hempty
      · exact .inr (beq_eq_false_iff_ne.2 hzero)
    rw [hkept, if_neg Bool.false_ne_true]
  · have hleft : (Call.maybe text asked).leavesOut 0 = true := by
      rw [Call.leavesOut, beq_self_eq_true, Bool.and_true, Bool.not_eq_true']
      refine Bool.not_eq_true _ ▸ fun hempty => hnot ⟨hp, ?_⟩
      rw [List.take_zero, String.isEmpty_iff.1 hempty]
      rfl
    rw [hleft, if_pos rfl]
  · constructor
    · intro h
      rcases h with h | rfl
      · exact ⟨h.1, .inl h.2⟩
      · exact ⟨hp, .inr rfl⟩
    · intro h
      obtain ⟨hk, hpiece⟩ := h
      rcases hpiece with hpiece | hpiece
      · exact .inl ⟨hk, hpiece⟩
      · exact .inr ((piece_eq_nil_iff hk).1 hpiece)

/-- A capturing call offers the lengths that it allows. -/
theorem offers_capturedPart (hcase : s.caseInsensitive = false) (hp : p ≤ subject.length)
    {c : Call} {asked : Option String} (hc : c.captures? = some asked) (index : Nat)
    (name : Option String) (marks : Marks) :
    Offers ((marking subject).ways (c.capturedPart s.modes index name).expr (p, marks)) p
      (c.AllowsAt s subject p)
      fun n => if c.leavesOut n then marks else noted index p n marks := by
  by_cases hopt : c.isOptional = true
  · cases c with
    | maybe text asked => exact offers_maybe hcase hp text asked index name marks
    | _ => exact absurd hopt (by simp [Call.isOptional])
  · -- no other call leaves its text out
    have hkept : ∀ n, c.leavesOut n = false := by
      intro n
      cases c with
      | maybe text name => exact absurd rfl hopt
      | _ => rfl
    have hinside := descends_insideParts hcase hp hc (Bool.eq_false_iff.2 hopt)
    rw [Call.capturedPart, if_neg hopt]
    simp only [hkept, Bool.false_eq_true, if_false]
    exact offers_group hinside index name marks

end FluentRegex
