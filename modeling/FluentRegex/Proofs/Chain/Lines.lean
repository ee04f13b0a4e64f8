import FluentRegex.Machine.Estimate
import FluentRegex.Proofs.Chain.SingleCall
import FluentRegex.Proofs.Machine.Lines
import FluentRegex.Proofs.Representation
import FluentRegex.Proofs.Text.Lines

/-!
# Matches on a line

Where lines count, a chain of calls of which none takes up line feeds is looked for line by line:

> `first_line_with_match`: it has a match in a subject exactly if it has one in a line alone, read
> where lines do not count, and what is found is what is found in the first such line, moved to
> where that line begins.
-/

namespace FluentRegex

open Machine Text

/-! ## Findings that are moved -/

/-- The capture, so many bytes later. -/
def Capture.moved (bytes : Nat) (c : Capture) : Capture :=
  { c with start := bytes + c.start, stop := bytes + c.stop }

/-- The findings, so many bytes later. -/
def Findings.moved (bytes : Nat) (f : Findings) : Findings :=
  { f with
    positional := f.positional.map fun e => (e.1, e.2.moved bytes)
    named := f.named.map fun e => (e.1, e.2.moved bytes) }

theorem lookup_map {α β γ : Type} [BEq α] (f : β → γ) (l : List (α × β)) (k : α) :
    (l.map fun e => (e.1, f e.2)).lookup k = (l.lookup k).map f := by
  induction l with
  | nil => rfl
  | cons e l ih =>
    rw [List.map_cons, List.lookup_cons, List.lookup_cons, ih]
    cases k == e.1 <;> rfl

variable {before line after : List Char} {marks : Marks}

/-- A stretch of a line. -/
theorem ofPlaces_moved {first last : Nat} (hle : first ≤ last) (hlast : last ≤ line.length) :
    Capture.ofPlaces (before ++ line ++ after) (before.length + first) (before.length + last) =
      (Capture.ofPlaces line first last).moved (byteLength before) := by
  have htake : ∀ p ≤ line.length,
      (before ++ line ++ after).take (before.length + p) = before ++ line.take p := by
    intro p hp
    rw [List.append_assoc, List.take_length_add_append, List.take_append_of_le_length hp]
  rw [Capture.ofPlaces, Capture.ofPlaces, Capture.moved, byteOffset, byteOffset, byteOffset,
    byteOffset, htake _ (Nat.le_trans hle hlast), htake _ hlast, byteLength_append,
    byteLength_append, List.drop_length_add_append]

theorem captureOf_moved (hmarks : marks.Within 0 line.length) (index : Nat) :
    Findings.captureOf (before ++ line ++ after) (marks.moved before.length) index =
      (Findings.captureOf line marks index).map (Capture.moved (byteLength before)) := by
  have hlookup : ∀ slot, (marks.moved before.length).lookup slot =
      (marks.lookup slot).map (before.length + ·) := lookup_map _ marks
  rcases hmarks index with ⟨hfirst, -⟩ | ⟨first, last, -, hle, hlast, hends⟩
  · have hnone : (marks.moved before.length).lookup (2 * index) = none := by
      rw [hlookup, hfirst]
      rfl
    rw [Findings.captureOf_eq_none hfirst, Findings.captureOf_eq_none hnone]
    rfl
  · rw [Findings.captureOf_eq_some hends.1 hends.2, Option.map_some, ← ofPlaces_moved hle hlast]
    refine Findings.captureOf_eq_some ?_ ?_
    · rw [hlookup, hends.1]
      rfl
    · rw [hlookup, hends.2]
      rfl

namespace Findings

theorem capturesFrom_moved (hmarks : marks.Within 0 line.length) (index : Nat)
    (names : List (Option String)) :
    capturesFrom (before ++ line ++ after) (marks.moved before.length) index names =
      (capturesFrom line marks index names).map
        fun e => (e.1, e.2.1, e.2.2.moved (byteLength before)) := by
  induction names generalizing index with
  | nil => rfl
  | cons name names ih =>
    rw [capturesFrom, capturesFrom, captureOf_moved hmarks, ih]
    cases captureOf line marks index <;> rfl

theorem insertByName_moved (bytes : Nat) (name : String) (c : Capture)
    (es : List (String × Capture)) :
    insertByName name (c.moved bytes) (es.map fun e => (e.1, e.2.moved bytes)) =
      (insertByName name c es).map fun e => (e.1, e.2.moved bytes) := by
  induction es with
  | nil => rfl
  | cons e es ih =>
    rw [List.map_cons, insertByName, insertByName, ih]
    split <;> rfl

theorem byName_moved (bytes : Nat) (all : List (Nat × Option String × Capture)) :
    byName (all.map fun e => (e.1, e.2.1, e.2.2.moved bytes)) =
      (byName all).map fun e => (e.1, e.2.moved bytes) := by
  induction all with
  | nil => rfl
  | cons e all ih =>
    rw [byName, byName, List.map_cons, List.foldr_cons, List.foldr_cons, ← byName, ← byName, ih]
    cases e.2.1 with
    | none => rfl
    | some name => exact insertByName_moved bytes name e.2.2 _

/-- Marks that are moved along a subject give findings that are moved. -/
theorem ofMarks_moved (hmarks : marks.Within 0 line.length) (groups : List (Option String)) :
    ofMarks (before ++ line ++ after) groups (marks.moved before.length) =
      (ofMarks line groups marks).moved (byteLength before) := by
  rw [ofMarks, ofMarks, capturesFrom_moved hmarks, Findings.moved]
  dsimp only
  rw [List.map_map, List.map_map]
  exact congrArg _ (byName_moved (byteLength before) _)

end Findings

/-- The marks that a search finds are in the subject. -/
theorem within_of_compile [Sizing] {d : Draft} {r : Regex} (hr : d.compile = .ok r)
    (hmarks : findMarks r.program line.toArray = some marks) : marks.Within 0 line.length := by
  obtain ⟨e, he, rfl⟩ := Draft.expression_of_compile hr
  obtain ⟨p, q, -, hq, -, hwithin⟩ := marks_of_findMarks (captures_of_expression he).1 hmarks
  intro i
  refine (hwithin i).imp_right fun ⟨first, last, _, hle, hlast, hends⟩ => ?_
  exact ⟨first, last, Nat.zero_le _, hle, Nat.le_trans hlast hq, hends⟩

/-! ## Searches -/

/-- The first parts have on each line the ways that the second ones have in the line alone. -/
structure LineByLine (on off : List Part) : Prop where
  guarded : ∀ q ∈ on, q.expr.Guarded
  guarded_alone : ∀ q ∈ off, q.expr.Guarded
  along {before line after : List Char} : IsLine before line after →
    List.Forall₂ (Along before line after) (on.map Part.expr) (off.map Part.expr)

namespace LineByLine

variable {on off : List Part} {subject : List Char} {lines later : List (List Char)}

theorem through_line (h : LineByLine on off)
    (hlines : subject.splitOn '\n' = lines ++ line :: later) {p : Nat} (hp : p ≤ line.length) :
    (marking subject).through (on.map Part.expr)
        ((ended lines).length + p, [(0, (ended lines).length + p)]) =
      ((marking line).through (off.map Part.expr) (p, [(0, p)])).map
        (moved (ended lines).length) := by
  obtain ⟨rest, hsubject, hrest, -⟩ := text_of_lines hlines
  have hline : line ∈ subject.splitOn '\n' := by
    rw [hlines]
    exact List.mem_append_right _ List.mem_cons_self
  rw [hsubject]
  have halong := h.along ⟨not_mem_of_mem_lines hline, ended_cases lines, hrest⟩
  exact (parallel_through halong).step (p, [(0, p)]) hp

theorem through_line_eq_nil (h : LineByLine on off)
    (hlines : subject.splitOn '\n' = lines ++ line :: later) {p : Nat} (hp : p ≤ line.length) :
    (marking subject).through (on.map Part.expr)
        ((ended lines).length + p, [(0, (ended lines).length + p)]) = [] ↔
      (marking line).through (off.map Part.expr) (p, [(0, p)]) = [] := by
  rw [h.through_line hlines hp, List.map_eq_nil_iff]

/-- Nothing is found where there is nothing to be found in any line. -/
theorem findMarks_eq_none_iff (h : LineByLine on off) :
    findMarks (Part.inSequence on).expr.program subject.toArray = none ↔
      ∀ line ∈ subject.splitOn '\n',
        findMarks (Part.inSequence off).expr.program line.toArray = none := by
  rw [(findMarks_inSequence h.guarded subject).1]
  constructor
  · intro hnone line hline
    obtain ⟨lines, later, hlines⟩ := List.append_of_mem hline
    refine (findMarks_inSequence h.guarded_alone line).1.2 fun p hp => ?_
    refine (h.through_line_eq_nil hlines hp).1 (hnone _ ?_)
    obtain ⟨rest, hsubject, -⟩ := text_of_lines hlines
    rw [hsubject, List.length_append, List.length_append]
    omega
  · intro hnone place hplace
    obtain ⟨lines, line, later, p, hlines, hp, rfl⟩ := exists_line_of_le hplace
    have hline : line ∈ subject.splitOn '\n' := by
      rw [hlines]
      exact List.mem_append_right _ List.mem_cons_self
    exact (h.through_line_eq_nil hlines hp).2
      ((findMarks_inSequence h.guarded_alone line).1.1 (hnone line hline) p hp)

/-- What is found in the first line that has something to be found in it is found in the subject,
moved to where the line begins. -/
theorem findMarks_first (h : LineByLine on off)
    (hlines : subject.splitOn '\n' = lines ++ line :: later)
    (hearlier : ∀ l ∈ lines, findMarks (Part.inSequence off).expr.program l.toArray = none)
    (hmarks : findMarks (Part.inSequence off).expr.program line.toArray = some marks) :
    findMarks (Part.inSequence on).expr.program subject.toArray =
      some (marks.moved (ended lines).length) := by
  obtain ⟨p, y, hp, hhead, hleftmost, rfl⟩ :=
    (findMarks_inSequence h.guarded_alone line).2 marks hmarks
  have hline : line ∈ subject.splitOn '\n' := by
    rw [hlines]
    exact List.mem_append_right _ List.mem_cons_self
  have hsome : findMarks (Part.inSequence on).expr.program subject.toArray ≠ none := by
    intro hnone
    rw [h.findMarks_eq_none_iff.1 hnone line hline] at hmarks
    exact absurd hmarks (by simp)
  obtain ⟨marks', hmarks'⟩ := Option.ne_none_iff_exists'.1 hsome
  obtain ⟨place, z, hplace, hhead', hleftmost', rfl⟩ :=
    (findMarks_inSequence h.guarded subject).2 marks' hmarks'
  -- no place before the one on the line has a way, and that one has
  have hbefore : ∀ q < (ended lines).length + p,
      (marking subject).through (on.map Part.expr) (q, [(0, q)]) = [] := by
    intro q hq
    rcases Nat.lt_or_ge q (ended lines).length with hlt | hge
    · obtain ⟨earlier, other, between, k, rfl, hk, rfl⟩ := exists_line_of_lt hlt
      have hother : subject.splitOn '\n' = earlier ++ other :: (between ++ line :: later) := by
        rw [hlines, List.append_assoc, List.cons_append]
      have hnone := hearlier other (List.mem_append_right _ List.mem_cons_self)
      exact (h.through_line_eq_nil hother hk).2
        ((findMarks_inSequence h.guarded_alone other).1.1 hnone k hk)
    · obtain ⟨k, rfl⟩ := Nat.exists_eq_add_of_le hge
      have hk : k < p := by omega
      exact (h.through_line_eq_nil hlines (by omega)).2 (hleftmost k hk)
  have hway := h.through_line hlines hp
  have heq : place = (ended lines).length + p := by
    rcases Nat.lt_trichotomy place ((ended lines).length + p) with hlt | heq | hgt
    · rw [hbefore place hlt] at hhead'
      exact absurd hhead' (by simp)
    · exact heq
    · rw [hleftmost' _ hgt] at hway
      rw [List.map_eq_nil_iff.1 hway.symm] at hhead
      exact absurd hhead (by simp)
  subst heq
  rw [hway, List.head?_map, hhead, Option.map_some, Option.some.injEq] at hhead'
  rw [hmarks', ← hhead']
  rfl

end LineByLine

/-! ## Calls that stay on a line -/

/-- Whether nothing that the call stands for has a line feed in it, as long as the dot does not. -/
def Call.staysInLine : Call → Bool
  | .find text _ | .maybe text _ | .search text | .anyOf text => '\n' ∉ text.toList
  | .anything _ | .something _ | .words _ _ | .decimals _ _ | .startOfLine | .endOfLine => true
  | .anythingBut chars _ | .somethingBut chars _ => '\n' ∈ chars.toList
  | _ => false

namespace Call

variable {c : Call}

theorem describes_of_staysInLine (hc : c.staysInLine = true) : c.Describes := by
  refine ⟨?_, ?_, ?_⟩
  · cases c <;> first | rfl | exact absurd hc Bool.false_ne_true
  · cases c <;> first | rfl | exact absurd hc Bool.false_ne_true
  · rintro rfl
    exact absurd hc Bool.false_ne_true

end Call

/-! ### Sets without a line feed -/

theorem not_mem_variants {g : List Char} (hg : g ∈ CaseFolding.variants) : '\n' ∉ g := by
  intro hmem
  obtain ⟨ns, -, rfl⟩ := List.mem_map.1 hg
  obtain ⟨n, hn, hfeed⟩ := List.mem_map.1 hmem
  have hconcerns := (List.mem_filter.1 hn).2
  unfold Char.ofNat at hfeed
  by_cases hvalid : n.isValidChar
  · rw [dif_pos hvalid] at hfeed
    obtain rfl : n = 10 := congrArg Char.toNat hfeed
    exact absurd hconcerns (by decide)
  · rw [dif_neg hvalid] at hfeed
    exact absurd hfeed (by decide)

/-- Only a line feed counts as the same as a line feed. -/
theorem Settings.Same.eq_lineFeed {s : Settings} {c : Char} (h : s.Same '\n' c) : c = '\n' := by
  rcases h with h | ⟨-, g, hg, hmem, -⟩
  · exact h.symm
  · exact absurd hmem (not_mem_variants hg)

section

variable {s : Settings}

theorem not_mem_folded {S : CharSet} (hS : '\n' ∉ S) : '\n' ∉ Syntax.folded s.modes S := by
  rw [mem_folded]
  rintro ⟨c, hc, hsame⟩
  exact hS (hsame.eq_lineFeed ▸ hc)

theorem not_mem_shorthand (k : Syntax.Shorthand) (hk : k = .word ∨ k = .digit) :
    '\n' ∉ Syntax.folded s.modes (k.members true) := by
  have hcode : '\n'.toNat = 10 := rfl
  refine not_mem_folded ?_
  rcases hk with rfl | rfl
  · show '\n' ∉ CharSet.wordChars
    rw [CharSet.wordChars, CharSet.mem_pinned_ascii (by decide), hcode]
    decide
  · show '\n' ∉ CharSet.digits
    rw [CharSet.digits, CharSet.mem_pinned_ascii (by decide), hcode]
    decide

theorem not_mem_dotSet (hdot : s.dotMatchesNewLine = false) : '\n' ∉ Syntax.dotSet s.modes := by
  rw [mem_dotSet, Settings.AllowsAny, hdot]
  simp

/-- All characters but some, a line feed among them. -/
theorem exists_allBut_lineFeed {chars : String} (h : '\n' ∈ chars.toList) :
    ∃ S, (Part.allBut s.modes chars.toList).expr = .set S ∧ '\n' ∉ S := by
  have hne : chars ≠ "" := by
    rintro rfl
    exact absurd h List.not_mem_nil
  obtain ⟨S, hexpr, hS⟩ := exists_notListed (s := s) hne
  exact ⟨S, hexpr, fun hmem => (hS _).1 hmem ⟨_, h, .inl rfl⟩⟩

end

/-! ### Parts -/

section

variable {s : Settings} {c : Call} (h : IsLine before line after)
include h

omit h in
theorem along_inSequence {ps : List Part}
    (hps : ∀ q ∈ ps, Along before line after q.expr q.expr) :
    Along before line after (Part.inSequence ps).expr (Part.inSequence ps).expr := by
  have hall : List.Forall₂ (Along before line after) (ps.map Part.expr) (ps.map Part.expr) := by
    rw [List.forall₂_same, List.forall_mem_map]
    exact hps
  have hways : ∀ subject, (marking subject).ways (Part.inSequence ps).expr =
      (marking subject).through (ps.map Part.expr) :=
    fun subject => funext fun x => ways_inSequence _ ps x
  rw [Along, hways, hways]
  exact parallel_through hall

theorem along_run {q : Part} (hq : ∃ S, q.expr = .set S ∧ '\n' ∉ S) (min : Nat)
    (max : Option Nat) :
    ∀ r ∈ [q.repeated min max], Along before line after r.expr r.expr := by
  obtain ⟨S, hexpr, hS⟩ := hq
  intro r hr
  rw [List.mem_singleton.1 hr, Part.repeated, hexpr]
  exact (along_set h hS).repeated min (fun _ => rfl) true

theorem along_literals {text : String} (htext : '\n' ∉ text.toList) :
    ∀ q ∈ text.toList.map (Part.literal s.modes), Along before line after q.expr q.expr := by
  intro q hq
  obtain ⟨d, hd, rfl⟩ := List.mem_map.1 hq
  refine along_set h (not_mem_folded ?_)
  rw [CharSet.mem_singleton]
  rintro rfl
  exact htext hd

theorem along_insideParts (hdot : s.dotMatchesNewLine = false) (hc : c.staysInLine = true) :
    ∀ q ∈ c.insideParts s.modes, Along before line after q.expr q.expr := by
  cases c with
  | find text n => exact along_literals h (of_decide_eq_true hc)
  | maybe text n => exact along_literals h (of_decide_eq_true hc)
  | anything n => exact along_run h ⟨_, rfl, not_mem_dotSet hdot⟩ _ _
  | something n => exact along_run h ⟨_, rfl, not_mem_dotSet hdot⟩ _ _
  | anythingBut chars n => exact along_run h (exists_allBut_lineFeed (of_decide_eq_true hc)) _ _
  | somethingBut chars n => exact along_run h (exists_allBut_lineFeed (of_decide_eq_true hc)) _ _
  | words n count => exact along_run h ⟨_, rfl, not_mem_shorthand _ (.inl rfl)⟩ _ _
  | decimals n count => exact along_run h ⟨_, rfl, not_mem_shorthand _ (.inr rfl)⟩ _ _
  | _ => exact fun q hq => absurd hq List.not_mem_nil

theorem along_capturedPart (hdot : s.dotMatchesNewLine = false) (hc : c.staysInLine = true)
    (index : Nat) (name : Option String) :
    Along before line after (c.capturedPart s.modes index name).expr
      (c.capturedPart s.modes index name).expr := by
  have hgroup := (along_inSequence (along_insideParts h hdot hc)).group index name
  rw [Call.capturedPart]
  split
  · exact hgroup.repeated 0 (fun hmax => absurd hmax (by simp)) true
  · exact hgroup

omit h in
/-- Only the ends of lines depend on whether lines count. -/
theorem partsAfter_lines (hstart : c ≠ .startOfLine) (hend : c ≠ .endOfLine)
    (names : List (Option String)) :
    c.partsAfter (s.withLines true).modes names = c.partsAfter (s.withLines false).modes names := by
  cases c with
  | startOfLine => exact absurd rfl hstart
  | endOfLine => exact absurd rfl hend
  | _ => rfl

/-- What a call adds that tests no places. -/
theorem along_partsAfter_self (hdot : s.dotMatchesNewLine = false) (hc : c.staysInLine = true)
    (hstart : c ≠ .startOfLine) (hend : c ≠ .endOfLine) (names : List (Option String)) :
    ∀ q ∈ c.partsAfter s.modes names, Along before line after q.expr q.expr := by
  rw [Call.partsAfter]
  cases hcaptures : c.captures? with
  | some asked =>
    intro q hq
    rw [List.mem_singleton.1 hq]
    exact along_capturedPart h hdot hc _ _
  | none =>
    have hdescribes := Call.describes_of_staysInLine hc
    rcases Call.plain_cases hdescribes.notRaw hdescribes.noRepeat hcaptures with
      ⟨text, rfl⟩ | ⟨chars, rfl⟩ | rfl | rfl | rfl
    · exact along_literals h (of_decide_eq_true hc)
    · dsimp only
      rw [Call.plainParts]
      split
      · exact fun q hq => absurd hq List.not_mem_nil
      · intro q hq
        rw [List.mem_singleton.1 hq]
        refine along_set h (not_mem_folded ?_)
        rw [Part.mem_listed]
        exact of_decide_eq_true hc
    · exact absurd rfl hstart
    · exact absurd rfl hend
    · exact absurd rfl hdescribes.ne_clear

theorem along_partsAfter (hdot : s.dotMatchesNewLine = false) (hc : c.staysInLine = true)
    (names : List (Option String)) :
    List.Forall₂ (Along before line after)
      ((c.partsAfter (s.withLines true).modes names).map Part.expr)
      ((c.partsAfter (s.withLines false).modes names).map Part.expr) := by
  by_cases hstart : c = .startOfLine
  · rw [hstart]
    exact .cons (along_lineStart h) .nil
  · by_cases hend : c = .endOfLine
    · rw [hend]
      exact .cons (along_lineEnd h) .nil
    · rw [partsAfter_lines hstart hend, List.forall₂_same, List.forall_mem_map]
      exact along_partsAfter_self (s := s.withLines false) h hdot hc hstart hend names

end

section

variable {s : Settings} {cs : List Call}

/-- Chains of such calls are looked for line by line. -/
theorem lineByLine_partsOf (hdot : s.dotMatchesNewLine = false)
    (hcs : ∀ c ∈ cs, c.staysInLine = true) (names : List (Option String)) :
    LineByLine (partsOf (s.withLines true).modes names cs)
      (partsOf (s.withLines false).modes names cs) := by
  refine ⟨guarded_partsOf _ names cs, guarded_partsOf _ names cs, fun {before line after} h => ?_⟩
  induction cs generalizing names with
  | nil => exact .nil
  | cons c cs ih =>
    rw [List.forall_mem_cons] at hcs
    rw [partsOf, partsOf, List.map_append, List.map_append]
    exact List.rel_append (along_partsAfter h hdot hcs.1 names) (ih hcs.2 _)

end

/-! ## Drafts -/

section

variable {s : Settings} {cs : List Call}

theorem describes_of_staysInLine (hcs : ∀ c ∈ cs, c.staysInLine = true) :
    ∀ c ∈ cs, c.Describes :=
  fun c hc => Call.describes_of_staysInLine (hcs c hc)

/-- The groups of such a chain do not depend on whether lines count. -/
theorem groupNames_withLines [Sizing] (hcs : ∀ c ∈ cs, c.staysInLine = true) {r r' : Regex}
    (hr : ((Draft.withSettings (s.withLines true)).calls cs).compile = .ok r)
    (hr' : ((Draft.withSettings (s.withLines false)).calls cs).compile = .ok r') :
    r.groupNames = r'.groupNames := by
  have hraw : ∀ c ∈ cs, c.isRaw = false := fun c hc => (describes_of_staysInLine hcs c hc).notRaw
  have hrepeats : ∀ c ∈ cs, c.repeats? = none :=
    fun c hc => (describes_of_staysInLine hcs c hc).noRepeat
  rw [groupNames_without_repetitions _ hraw hrepeats hr,
    groupNames_without_repetitions _ hraw hrepeats hr']

end

/-- Where lines count, a chain of calls of which none takes up line feeds has a match in a subject
exactly if the same chain has one in some line alone, where lines do not count. What it finds is
then what that chain finds in the first such line, moved by the bytes of the lines before it. Both
chains are ones that can be run. -/
theorem first_line_with_match [Sizing] (s : Settings) (hdot : s.dotMatchesNewLine = false)
    (cs : List Call) (hcs : ∀ c ∈ cs, c.staysInLine = true) {r' : Regex}
    (hr' : ((Draft.withSettings (s.withLines false)).calls cs).regex.value = .ok r')
    (subject : String) {f : Findings}
    (hf : (((Draft.withSettings (s.withLines true)).calls cs).run subject).value = .ok f) :
    ∃ alone : List Char → Findings,
      (∀ line, (((Draft.withSettings (s.withLines false)).calls cs).run
        (String.ofList line)).value = .ok (alone line)) ∧
      (f.isMatch = true ↔ ∃ line ∈ subject.toList.splitOn '\n', (alone line).isMatch = true) ∧
      ∀ before line after, subject.toList.splitOn '\n' = before ++ line :: after →
        (∀ l ∈ before, (alone l).isMatch = false) → (alone line).isMatch = true →
          f = (alone line).moved (before.map fun l => byteLength l + 1).sum := by
  obtain ⟨r, hr, rfl⟩ := Draft.find_of_run hf
  have halone := fun line => Draft.value_run hr' (String.ofList line)
  rw [Draft.value_regex] at hr hr'
  have hnames := groupNames_withLines hcs hr hr'
  have hprogram := program_of_describes (describes_of_staysInLine hcs) hr
  have hprogram' := program_of_describes (describes_of_staysInLine hcs) hr'
  have hlines := lineByLine_partsOf hdot hcs []
  have hfound : ∀ line, (r'.find (String.ofList line)).isMatch = true ↔
      findMarks r'.program line.toArray ≠ none := by
    intro line
    rw [Regex.isMatch_find, String.toList_ofList]
  refine ⟨fun line => r'.find (String.ofList line), halone, ?_, ?_⟩
  · rw [Regex.isMatch_find, hprogram, Ne, hlines.findMarks_eq_none_iff, ← hprogram']
    constructor
    · intro h
      refine Classical.byContradiction fun hnot => h fun line hline => ?_
      exact Classical.byContradiction fun hsome => hnot ⟨line, hline, (hfound line).2 hsome⟩
    · intro h hnone
      obtain ⟨line, hline, hmatch⟩ := h
      exact (hfound line).1 hmatch (hnone line hline)
  · intro before line after hsubject hearlier hmatch
    obtain ⟨marks, hmarks⟩ := Option.ne_none_iff_exists'.1 ((hfound line).1 hmatch)
    have hbefore : ∀ l ∈ before, findMarks r'.program l.toArray = none := by
      intro l hl
      refine Classical.byContradiction fun hsome => ?_
      exact absurd ((hfound l).2 hsome) (Bool.eq_false_iff.1 (hearlier l hl))
    have hmoved := hlines.findMarks_first hsubject (hprogram' ▸ hbefore) (hprogram' ▸ hmarks)
    rw [← hprogram] at hmoved
    obtain ⟨rest, htext, -⟩ := text_of_lines hsubject
    dsimp only
    rw [Regex.find, hmoved, htext, Regex.find, String.toList_ofList, hmarks, ← hnames,
      ← byteLength_ended]
    exact Findings.ofMarks_moved (within_of_compile hr' hmarks) r.groupNames

section

attribute [local instance] Sizing.estimate

/-- The second line, behind an empty one. -/
theorem first_line_behind_empty_line : ∃ f g,
    (((Draft.withSettings { multiLine := true }).calls
      [.startOfLine, .find "b" (some "_"), .endOfLine]).run "\nb").value = .ok f ∧
    (((Draft.withSettings {}).calls
      [.startOfLine, .find "b" (some "_"), .endOfLine]).run "b").value = .ok g ∧
    g.isMatch = true ∧ f = g.moved 1 := by
  generalize hcs : [Call.startOfLine, .find "b" (some "_"), .endOfLine] = cs
  have hlines : ∀ c ∈ cs, c.staysInLine = true := by
    rw [← hcs]
    decide
  obtain ⟨r, hr⟩ : ∃ r,
      ((Draft.withSettings (({} : Settings).withLines true)).calls cs).regex.value = .ok r := by
    rw [← hcs]
    exact ⟨_, rfl⟩
  obtain ⟨r', hr'⟩ : ∃ r',
      ((Draft.withSettings (({} : Settings).withLines false)).calls cs).regex.value = .ok r' := by
    rw [← hcs]
    exact ⟨_, rfl⟩
  obtain ⟨alone, hrun, -, hfirst⟩ :=
    first_line_with_match {} rfl cs hlines hr' "\nb" (Draft.value_run hr "\nb")
  have hsince : sinceClear cs = [.startOfLine, .find "b" (some "_"), .endOfLine] := by
    rw [← hcs]
    decide
  have hdescribes := describes_of_staysInLine hlines
  have hsplits := fun line => (findMarks_calls (fun c hc => (hdescribes c hc).notRaw)
    (fun c hc => (hdescribes c hc).noRepeat) ((Draft.value_regex _).symm.trans hr') rfl line).1
  rw [hsince] at hsplits
  have halone : ∀ line, alone line = r'.find (String.ofList line) := by
    intro line
    have hvalue := Draft.value_run hr' (String.ofList line)
    exact Except.ok.inj ((hrun line).symm.trans hvalue)
  have hfound : ∀ line, (alone line).isMatch = true ↔ findMarks r'.program line.toArray ≠ none := by
    intro line
    rw [halone, Regex.isMatch_find, String.toList_ofList]
  have hempty : (alone []).isMatch = false := by
    refine Bool.eq_false_iff.2 fun hmatch => (hfound []).1 hmatch ?_
    refine (hsplits []).2 fun p _ hsplit => ?_
    obtain ⟨pieces, after, htail, hpieces⟩ := hsplit
    match pieces, hpieces with
    | [first, second, third], hpieces =>
      rw [List.drop_nil, List.flatten_cons, List.flatten_cons, hpieces.2.1] at htail
      exact absurd htail (by simp)
  have hline : (alone ['b']).isMatch = true := by
    refine (hfound ['b']).2 fun hnone => (hsplits ['b']).1 hnone 0 (Nat.zero_le _) ?_
    exact ⟨[[], ['b'], []], [], rfl, ⟨rfl, .inl rfl⟩, rfl, ⟨rfl, .inl rfl⟩, trivial⟩
  have hmoved := hfirst [[]] ['b'] [] (by decide) (by simpa using hempty) hline
  exact ⟨_, _, Draft.value_run hr "\nb", hrun ['b'], hline, hmoved⟩

end

end FluentRegex
