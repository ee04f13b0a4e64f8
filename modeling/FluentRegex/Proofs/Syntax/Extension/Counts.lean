import FluentRegex.Proofs.Syntax.Extension.Steps
import FluentRegex.Proofs.Syntax.Repetition

/-!
# Counts behind a pattern

A count is written without blanks, so it is read in verbose mode as it is read outside of it
(`countedQuantifier_under`). One number in braces and the same number twice are read as the same
repetition, or both are too large. So behind any pattern that can be read, both are faults, or what
they leave behind differs in places only (`run_exactCounts`): the pattern may end with an item,
which is put under the repetition, with nothing that can be repeated, or with a comment, to which
the count belongs.
-/

namespace FluentRegex.Syntax

open Cursor

/-! ## Verbose mode without blanks -/

section

variable {c : Cursor} {v : Bool}

/-- The same place in another mode. -/
def Cursor.under (c : Cursor) (verbose : Bool) : Cursor := { c with verbose := verbose }

/-- Nothing in a text is skipped in verbose mode. -/
def Solid (text : List Char) : Prop := ∀ d ∈ text, isBlank d = false ∧ d ≠ '#'

theorem Solid.suffix {text rest : List Char} (h : Solid text) (hrest : rest <:+ text) :
    Solid rest := fun d hd => h d (hrest.subset hd)

theorem skipBlanks_of_solid (h : Solid c.rest) : c.skipBlanks = c :=
  skipBlanks_of_head fun d hd => h d (List.mem_of_mem_head? hd)

theorem next_of_solid (h : Solid c.rest) : c.next = c.advance :=
  skipBlanks_of_solid (h.suffix (later_advanceBy c 1).suffix)

theorem next_under (h : Solid c.rest) : (c.under v).next = c.next.under v := by
  rw [next_of_solid h, next_of_solid (show Solid (c.under v).rest from h)]
  rfl

theorem takeWhile_under (p : Char → Bool) (fuel : Nat) (h : Solid c.rest) :
    takeWhile p fuel (c.under v) = ((takeWhile p fuel c).1, (takeWhile p fuel c).2.under v) := by
  induction fuel generalizing c with
  | zero => rfl
  | succ fuel ih =>
    rw [takeWhile, takeWhile, show (c.under v).peek? = c.peek? from rfl]
    split
    · split
      · rw [next_under h, ih (h.suffix (later_next c).suffix)]
      · rfl
    · rfl

theorem count_under (h : Solid c.rest) :
    count (c.under v) = ((count c).1, (count c).2.under v) := by
  have hfirst : c.Later c.dropBlanks := later_advanceBy c _
  have hdigits := takeWhile_under (v := v) Char.isDigit c.dropBlanks.rest.length
    (h.suffix hfirst.suffix)
  have hafter := hfirst.trans (later_takeWhile_fuel Char.isDigit c.dropBlanks.rest.length _)
  have hblanks := takeWhile_under (v := v) isBlank
    (takeWhile Char.isDigit c.dropBlanks.rest.length c.dropBlanks).2.rest.length
    (h.suffix hafter.suffix)
  rw [count, show (c.under v).dropBlanks = c.dropBlanks.under v from rfl]
  rw [show (c.dropBlanks.under v).rest.length = c.dropBlanks.rest.length from rfl, hdigits]
  dsimp only
  rw [show ∀ x : Cursor, (x.under v).rest.length = x.rest.length from fun _ => rfl, hblanks]
  rfl

theorem closeCount_under {start min : Nat} {max : Option Nat} (h : Solid c.rest) :
    closeCount start min max (c.under v) =
      (closeCount start min max c).map fun r => (r.1, r.2.under v) := by
  have hpeek : ∀ x : Cursor, (x.under v).peek? = x.peek? := fun _ => rfl
  rw [closeCount, closeCount, next_under h]
  simp only [hpeek]
  split
  · rfl
  · by_cases hlazily : c.next.peek? = some '?'
    · simp only [if_pos hlazily]
      cases max with
      | none => rfl
      | some m =>
        dsimp only
        split <;> rfl
    · simp only [if_neg hlazily]
      cases max with
      | none => rfl
      | some m =>
        dsimp only
        split <;> rfl

theorem countedQuantifier_under (h : Solid c.rest) :
    countedQuantifier (c.under v) = (countedQuantifier c).map fun r => (r.1, r.2.under v) := by
  have hfirst : Solid c.next.rest := h.suffix (later_next c).suffix
  have hafter : Solid (count c.next).2.rest := hfirst.suffix (later_count c.next).suffix
  have hsecond : Solid (count c.next).2.next.rest := hafter.suffix (later_next _).suffix
  have hthird : Solid (count (count c.next).2.next).2.rest :=
    hsecond.suffix (later_count _).suffix
  have hpeek : ∀ x : Cursor, (x.under v).peek? = x.peek? := fun _ => rfl
  have hatEnd : ∀ x : Cursor, (x.under v).atEnd = x.atEnd := fun _ => rfl
  have hpos : ∀ x : Cursor, (x.under v).pos = x.pos := fun _ => rfl
  unfold countedQuantifier
  dsimp only
  simp only [next_under h, count_under hfirst, hpeek, hatEnd, hpos, next_under hafter,
    count_under hsecond, closeCount_under hafter, closeCount_under hsecond,
    closeCount_under hthird]
  split
  · rfl
  · split
    · rfl
    · split
      · rfl
      · split
        · rfl
        · split
          · rfl
          · split <;> rfl
    · split <;> rfl

end

/-! ## Two ways to write a count -/

/-- A comment goes on to the end of a text without blanks. -/
theorem behind_of_solid {text : List Char} (h : Solid text) : behind text = [] := by
  rw [behind]
  generalize 0 = pos
  induction text generalizing pos with
  | nil => rfl
  | cons d ds ih =>
    obtain ⟨⟨hblank, -⟩, hrest⟩ := List.forall_mem_cons.1 h
    have hline : d ≠ '\n' := fun hline => by
      rw [hline, isBlank_newline] at hblank
      exact Bool.false_ne_true hblank.symm
    rw [skipFrom, bne_iff_ne.2 hline]
    exact ih hrest _

/-- A text in braces that stands for exactly so many rounds, in any mode. -/
structure ExactCount (n : Nat) (text : List Char) : Prop where
  brace : text.head? = some '\x7b'
  solid : Solid text
  apart : ∀ verbose, Apart verbose text
  reads : ∀ c : Cursor, c.rest = text →
    (n ≤ maxCount → ∃ c', countedQuantifier c = .ok (⟨n, some n, false⟩, c') ∧ c'.rest = []) ∧
      (maxCount < n → ∃ e, countedQuantifier c = .error e)

/-- It is enough to read it where blanks count. -/
theorem exactCount_of_at {n : Nat} {d : Char} {ds text : List Char}
    (htext : text = '\x7b' :: d :: ds) (hd : d.isDigit = true) (hsolid : Solid text)
    (h : ∀ c : Cursor, c.At (text ++ []) →
      (n ≤ maxCount → ∃ c', countedQuantifier c = .ok (⟨n, some n, false⟩, c') ∧ c'.At []) ∧
        (maxCount < n → ∃ e, countedQuantifier c = .error e)) : ExactCount n text where
  brace := by rw [htext]; rfl
  solid := hsolid
  apart verbose :=
    { no_question := by rw [htext]; simp
      brace := fun es hes => ⟨d, by rw [← (List.cons.inj (htext.symm.trans hes)).2]; rfl, hd,
        (hsolid d (by rw [htext]; simp)).1⟩
      solid := fun _ e he => hsolid e (List.mem_of_mem_head? he)
      behind := fun _ => by rw [behind_of_solid hsolid]; simp }
  reads c hc := by
    have hplain : Cursor.At (c.under false) (text ++ []) := ⟨by rw [List.append_nil]; exact hc, rfl⟩
    have hunder : countedQuantifier c =
        (countedQuantifier (c.under false)).map fun r => (r.1, r.2.under c.verbose) :=
      countedQuantifier_under (c := c.under false) (v := c.verbose) (hc.symm ▸ hsolid)
    obtain ⟨hok, herror⟩ := h _ hplain
    rw [hunder]
    refine ⟨fun hn => ?_, fun hn => ?_⟩
    · obtain ⟨c', hc', hat⟩ := hok hn
      rw [hc']
      exact ⟨c'.under c.verbose, rfl, hat.rest⟩
    · obtain ⟨e, he⟩ := herror hn
      rw [he]
      exact ⟨e, rfl⟩

theorem solid_digits (n : Nat) : Solid (Nat.toDigits 10 n) := by
  intro d hd
  have hdigit := Nat.isDigit_of_mem_toDigits (by omega) (Nat.le_refl 10) hd
  obtain ⟨hlow, hhigh⟩ := Char.isDigit_iff_toNat.1 hdigit
  refine ⟨isBlank_eq_false (Nat.lt_of_lt_of_le (by decide) hlow)
    (Nat.lt_of_le_of_lt hhigh (by decide)), fun hsign => ?_⟩
  rw [hsign] at hdigit
  exact absurd hdigit (by decide)

theorem Solid.append {s t : List Char} (hs : Solid s) (ht : Solid t) : Solid (s ++ t) :=
  List.forall_mem_append.2 ⟨hs, ht⟩

theorem Solid.cons {d : Char} {text : List Char} (hlow : 0x20 < d.toNat) (hhigh : d.toNat < 0x80)
    (hd : d ≠ '#') (h : Solid text) : Solid (d :: text) :=
  List.forall_mem_cons.2 ⟨⟨isBlank_eq_false hlow hhigh, hd⟩, h⟩

theorem Solid.nil : Solid [] := fun _ hd => absurd hd List.not_mem_nil

theorem exactCount_counted (n : Nat) : ExactCount n (Text.counted n).toList := by
  obtain ⟨d, ds, hds, hd⟩ := exists_digit n
  have htext : (Text.counted n).toList = '\x7b' :: (Nat.toDigits 10 n ++ ['\x7d']) := by
    rw [Text.counted, String.toList_append, String.toList_append, toList_toString]
    rfl
  refine exactCount_of_at (show _ = '\x7b' :: d :: (ds ++ ['\x7d']) by rw [htext, hds]; rfl) hd ?_
    fun c hc => countedQuantifier_counted hc (by simp)
  rw [htext]
  exact .cons (by decide) (by decide) (by decide)
    ((solid_digits n).append (.cons (by decide) (by decide) (by decide) .nil))

theorem exactCount_countedBetween (n : Nat) : ExactCount n (Text.countedBetween n n).toList := by
  obtain ⟨d, ds, hds, hd⟩ := exists_digit n
  have htext : (Text.countedBetween n n).toList =
      '\x7b' :: (Nat.toDigits 10 n ++ ',' :: (Nat.toDigits 10 n ++ ['\x7d'])) := by
    rw [Text.countedBetween]
    simp only [String.toList_append, toList_toString]
    simp
  refine exactCount_of_at (show _ = '\x7b' :: d :: (ds ++ ',' :: (d :: ds ++ ['\x7d'])) by
    rw [htext, hds]; rfl) hd ?_
    fun c hc => countedQuantifier_countedBetween (Nat.le_refl n) hc (by simp)
  rw [htext]
  exact .cons (by decide) (by decide) (by decide) ((solid_digits n).append
    (.cons (by decide) (by decide) (by decide) ((solid_digits n).append
      (.cons (by decide) (by decide) (by decide) .nil))))

/-! ## Behind a pattern -/

namespace Progress

variable {q : Progress} {n : Nat}

theorem quantify_error (p : Progress) (f : Fault) : ∃ e, p.quantify (.error f) = .error e := by
  rw [quantify]
  split <;> exact ⟨_, rfl⟩

theorem run_count {text : List Char} (hq : q.cursor.rest = []) (h : ExactCount n text)
    {left : Nat} :
    run (left + 1) (q.extend text) =
      match (q.extend text).quantify (countedQuantifier (q.extend text).cursor) with
      | .error e => .error e
      | .ok p => run left p := by
  have hrest : (q.extend text).cursor.rest = text := by
    rw [extend, Cursor.extend, hq]
    rfl
  have hpeek : (q.extend text).cursor.peek? = some '\x7b' := by
    rw [peek?, hrest]
    exact h.brace
  have hskip : (q.extend text).cursor.skipBlanks = (q.extend text).cursor := by
    cases hv : (q.extend text).cursor.verbose with
    | false => exact skipBlanks_eq hv
    | true => exact skipBlanks_of_solid (by rw [hrest]; exact h.solid)
  rw [run]
  dsimp only
  rw [hskip, hpeek]
  rfl

/-- What has been read can be put under no repetition, or its latest item can, wherever it
stands. -/
theorem quantify_cases (q : Progress) :
    (∀ place r, ∃ e, { q with cursor := place }.quantify r = .error e) ∨
      ∃ t ts, q.level.items = t :: ts ∧ ∀ place x c,
        { q with cursor := place }.quantify (.ok (x, c)) = .ok { q with
          cursor := c
          level := { q.level with
            items := .repetition (c.since t.start) x.min x.max x.lazily t :: ts } } := by
  unfold quantify
  dsimp only
  split
  · exact .inl fun place r => ⟨_, rfl⟩
  · exact .inl fun place r => ⟨_, rfl⟩
  · exact .inl fun place r => ⟨_, rfl⟩
  · next t ts _ _ hitems => exact .inr ⟨t, ts, hitems, fun place x c => rfl⟩

/-- Behind a pattern a count is refused, or it puts the latest item under a repetition, however it
is written. -/
theorem run_exactCount (hq : q.cursor.rest = []) (n : Nat) :
    (∀ text left, ExactCount n text → ∃ e, run (left + 1) (q.extend text) = .error e) ∨
      ∃ t ts, q.level.items = t :: ts ∧ ∀ text left, ExactCount n text → ∃ span c,
        run (left + 1) (q.extend text) = .ok { q with
          cursor := c
          level := { q.level with items := .repetition span n (some n) false t :: ts } } := by
  have hreads : ∀ text, ExactCount n text → _ := fun text h =>
    h.reads (q.extend text).cursor (by rw [extend, Cursor.extend, hq]; rfl)
  by_cases hn : n ≤ maxCount
  · rcases q.quantify_cases with hrefused | ⟨t, ts, hitems, hrepeated⟩
    · refine .inl fun text left h => ?_
      obtain ⟨e, he⟩ := hrefused (q.cursor.extend text)
        (countedQuantifier (q.extend text).cursor)
      rw [run_count hq h, show (q.extend text).quantify _ = _ from he]
      exact ⟨e, rfl⟩
    · refine .inr ⟨t, ts, hitems, fun text left h => ?_⟩
      obtain ⟨c, hc, hrest⟩ := (hreads text h).1 hn
      obtain ⟨c', hc', -⟩ := run_of_rest_nil (p := { q with
        cursor := c
        level := { q.level with
          items := .repetition (c.since t.start) n (some n) false t :: ts } }) hrest left
      rw [run_count hq h, hc, show (q.extend text).quantify _ = _ from
        hrepeated (q.cursor.extend text) ⟨n, some n, false⟩ c]
      exact ⟨_, c', hc'⟩
  · refine .inl fun text left h => ?_
    obtain ⟨e, he⟩ := (hreads text h).2 (Nat.lt_of_not_le hn)
    obtain ⟨e', he'⟩ := (q.extend text).quantify_error e
    rw [run_count hq h, he, he']
    exact ⟨e', rfl⟩

/-- Two ways to read on come to faults, or to what differs in places only. -/
inductive Agree : Except Fault Progress → Except Fault Progress → Prop
  | faults (e e' : Fault) : Agree (.error e) (.error e')
  | similar {p p' : Progress} (h : p.Similar p') : Agree (.ok p) (.ok p')

/-- Two ways to write a count come to the same behind a pattern that can be read. -/
theorem run_exactCounts {p : Progress} {fuel : Nat} (hfuel : p.cursor.rest.length < fuel)
    (h : run fuel p = .ok q) {text text' : List Char} (htext : ExactCount n text)
    (htext' : ExactCount n text') {left left' : Nat}
    (hleft : (p.extend text).cursor.rest.length < left)
    (hleft' : (p.extend text').cursor.rest.length < left') :
    Agree (run left (p.extend text)) (run left' (p.extend text')) := by
  obtain ⟨hnil, hcontinues⟩ := run_extend hfuel h
  cases hcontinues with
  | same hsame =>
    obtain ⟨k, hk, hrun⟩ := hsame text htext.apart left hleft
    obtain ⟨k', hk', hrun'⟩ := hsame text' htext'.apart left' hleft'
    obtain ⟨k, rfl⟩ : ∃ j, k = j + 1 := ⟨k - 1, by omega⟩
    obtain ⟨k', rfl⟩ : ∃ j, k' = j + 1 := ⟨k' - 1, by omega⟩
    rw [hrun, hrun']
    rcases run_exactCount hnil n with hfault | ⟨t, ts, hitems, hok⟩
    · obtain ⟨e, he⟩ := hfault text k htext
      obtain ⟨e', he'⟩ := hfault text' k' htext'
      rw [he, he']
      exact .faults e e'
    · obtain ⟨span, c, hc⟩ := hok text k htext
      obtain ⟨span', c', hc'⟩ := hok text' k' htext'
      rw [hc, hc']
      exact .similar ⟨rfl, .latest ((Tree.Similar.refl t).repetition _ _ _ _ _) _ _ _ _ _ _⟩
  | commented hcommented =>
    obtain ⟨k, r, -, hrun, hr, hsimilar⟩ := hcommented text htext.apart left hleft
    obtain ⟨k', r', -, hrun', hr', hsimilar'⟩ := hcommented text' htext'.apart left' hleft'
    rw [behind_of_solid htext.solid] at hr
    rw [behind_of_solid htext'.solid] at hr'
    obtain ⟨c, hc, -⟩ := run_of_rest_nil hr k
    obtain ⟨c', hc', -⟩ := run_of_rest_nil hr' k'
    have hboth := hsimilar.trans hsimilar'.symm
    rw [hrun, hrun', hc, hc']
    exact .similar ⟨hboth.opened, hboth.level⟩

end Progress

end FluentRegex.Syntax
