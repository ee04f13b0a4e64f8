import FluentRegex.Proofs.Syntax.Reading
import FluentRegex.Text.Fragment

/-!
# Reading repetitions

A repetition puts the last item under it. The signs `?`, `*` and `+` and counts in braces are read
as they are written, as long as no question mark follows; a count reads back as the number that was
written (`count_digits`), and is refused beyond the largest one.
-/

namespace FluentRegex

/-- The printed ASCII characters are not blank. -/
theorem isBlank_eq_false {c : Char} (hlow : 0x20 < c.toNat) (hhigh : c.toNat < 0x80) :
    isBlank c = false := by
  rw [← Bool.not_eq_true, isBlank, ← CharSet.mem_iff, CharSet.blanks,
    CharSet.mem_pinned_ascii hhigh]
  intro h
  obtain ⟨r, hr, h1, h2⟩ := h
  simp only [List.mem_cons, List.not_mem_nil, or_false] at hr
  rcases hr with rfl | rfl
  · simp only at h1 h2
    omega
  · simp only at h1 h2
    omega

theorem toList_toString (n : Nat) : (toString n).toList = Nat.toDigits 10 n := by
  rw [Nat.toString_eq_ofList_toDigits, String.toList_ofList]

/-- The digits of a number begin with a digit. -/
theorem exists_digit (n : Nat) : ∃ d ds, Nat.toDigits 10 n = d :: ds ∧ d.isDigit = true := by
  cases h : Nat.toDigits 10 n with
  | nil => exact absurd h Nat.toDigits_ne_nil
  | cons d ds =>
    refine ⟨d, ds, rfl, Nat.isDigit_of_mem_toDigits (by omega) (Nat.le_refl 10) (n := n) ?_⟩
    rw [h]
    exact List.mem_cons_self

namespace Syntax

/-! ## Counts -/

/-- Characters that pass a test are taken up to the first one that does not. -/
theorem takeWhile_of_at {test : Char → Bool} (text : List Char) {x : Char} {rest : List Char}
    (htext : ∀ d ∈ text, test d = true) (hx : test x = false) (fuel : Nat)
    (hfuel : text.length ≤ fuel) {c : Cursor} (hc : c.At (text ++ x :: rest)) :
    ∃ c', Cursor.takeWhile test fuel c = (text, c') ∧ c'.At (x :: rest) := by
  induction text generalizing fuel c with
  | nil =>
    refine ⟨c, ?_, hc⟩
    cases fuel with
    | zero => rfl
    | succ fuel =>
      rw [Cursor.takeWhile, hc.peek?]
      simp only [List.nil_append, List.head?_cons, hx, Bool.false_eq_true, if_false]
  | cons d ds ih =>
    cases fuel with
    | zero => exact absurd hfuel (Nat.not_succ_le_zero _)
    | succ fuel =>
      rw [List.cons_append] at hc
      obtain ⟨c', hc', hat⟩ := ih (fun e he => htext e (List.mem_cons_of_mem _ he))
        fuel (Nat.le_of_succ_le_succ hfuel) hc.advance
      refine ⟨c', ?_, hat⟩
      rw [Cursor.takeWhile, hc.peek?, hc.next, hc']
      simp only [List.head?_cons, htext d List.mem_cons_self, if_true]

theorem decimalValue_toDigits (n : Nat) : decimalValue (Nat.toDigits 10 n) = n := by
  rw [decimalValue, ← Nat.ofDigitChars_eq_foldl, Nat.ofDigitChars_ten_toDigits]

/-- The digits of a number are read as the number, up to the largest count. -/
theorem count_digits {n : Nat} {x : Char} {rest : List Char} (hx : x.isDigit = false)
    (hblank : isBlank x = false) {c : Cursor} (hc : c.At (Nat.toDigits 10 n ++ x :: rest)) :
    (count c).2.At (x :: rest) ∧
      (n ≤ maxCount → (count c).1 = .ok n) ∧ (maxCount < n → ∃ e, (count c).1 = .error e) := by
  obtain ⟨d, ds, hds, hd⟩ := exists_digit n
  -- blanks may stand around a number, but neither a digit nor what follows here is one
  have hnoblank : c.dropBlanks = c := by
    have hdblank : isBlank d = false := by
      obtain ⟨hlow, hhigh⟩ := Char.isDigit_iff_toNat.1 hd
      exact isBlank_eq_false (Nat.lt_of_lt_of_le (by decide) hlow)
        (Nat.lt_of_le_of_lt hhigh (by decide))
    rw [Cursor.dropBlanks, hc.rest, hds, List.cons_append,
      List.takeWhile_cons_of_neg (by rw [hdblank]; exact Bool.false_ne_true)]
    rfl
  have hdigits : ∀ d ∈ Nat.toDigits 10 n, d.isDigit = true :=
    fun d hd => Nat.isDigit_of_mem_toDigits (by omega) (Nat.le_refl 10) hd
  obtain ⟨c', hc', hat⟩ := takeWhile_of_at _ hdigits hx c.rest.length
    (by rw [hc.rest, List.length_append]; omega) hc
  obtain ⟨c'', hc'', hat'⟩ := takeWhile_of_at [] (by simp) hblank c'.rest.length
    (Nat.zero_le _) hat
  have hne : (Nat.toDigits 10 n).isEmpty = false := by rw [hds]; rfl
  rw [count, hnoblank]
  dsimp only
  rw [hc']
  dsimp only
  rw [hc'', hne, decimalValue_toDigits]
  refine ⟨hat', fun h => ?_, fun h => ?_⟩
  · rw [if_neg Bool.false_ne_true, if_pos h]
  · rw [if_neg Bool.false_ne_true, if_neg (by omega)]
    exact ⟨_, rfl⟩

theorem closeCount_at {c : Cursor} {rest : List Char} (hc : c.At ('\x7d' :: rest))
    (hrest : rest.head? ≠ some '?') (start : Nat) {min max : Nat} (h : min ≤ max) :
    closeCount start min (some max) c = .ok (⟨min, some max, false⟩, c.advance) := by
  have hpeek := hc.advance.peek?
  rw [closeCount, hc.peek?, if_neg (by simp), hc.next]
  simp only [hpeek]
  simp only [hrest, decide_false, if_false, h, if_true]

/-- A count in braces is read as its number. -/
theorem countedQuantifier_counted {n : Nat} {c : Cursor} {rest : List Char}
    (hc : c.At ((Text.counted n).toList ++ rest)) (hrest : rest.head? ≠ some '?') :
    (n ≤ maxCount → ∃ c', countedQuantifier c = .ok (⟨n, some n, false⟩, c') ∧ c'.At rest) ∧
      (maxCount < n → ∃ e, countedQuantifier c = .error e) := by
  have hc' : c.At ('\x7b' :: (Nat.toDigits 10 n ++ '\x7d' :: rest)) := by
    rw [Text.counted, String.toList_append, String.toList_append, toList_toString] at hc
    simpa using hc
  obtain ⟨hat, hok, herror⟩ := count_digits (n := n) (x := '\x7d') rfl
    (isBlank_eq_false (by decide) (by decide)) hc'.advance
  have hmore : c.advance.atEnd = false := by
    rw [hc'.advance.atEnd]
    cases Nat.toDigits 10 n <;> rfl
  rw [countedQuantifier, hc'.next]
  dsimp only
  rw [hmore, hat.peek?]
  simp only [Bool.false_eq_true, if_false, List.head?_cons]
  refine ⟨fun h => ⟨_, ?_, hat.advance⟩, fun h => ?_⟩
  · rw [hok h]
    dsimp only
    exact closeCount_at hat hrest _ (Nat.le_refl n)
  · obtain ⟨e, he⟩ := herror h
    rw [he]
    exact ⟨e, rfl⟩

/-- Two counts in braces are read as their numbers. -/
theorem countedQuantifier_countedBetween {low high : Nat} (hle : low ≤ high) {c : Cursor}
    {rest : List Char} (hc : c.At ((Text.countedBetween low high).toList ++ rest))
    (hrest : rest.head? ≠ some '?') :
    (high ≤ maxCount →
        ∃ c', countedQuantifier c = .ok (⟨low, some high, false⟩, c') ∧ c'.At rest) ∧
      (maxCount < high → ∃ e, countedQuantifier c = .error e) := by
  have hc' : c.At ('\x7b' :: (Nat.toDigits 10 low ++ ',' ::
      (Nat.toDigits 10 high ++ '\x7d' :: rest))) := by
    rw [Text.countedBetween] at hc
    simp only [String.toList_append, toList_toString] at hc
    simpa using hc
  obtain ⟨hat, hok, herror⟩ := count_digits (n := low) (x := ',') rfl
    (isBlank_eq_false (by decide) (by decide)) hc'.advance
  obtain ⟨hat', hok', herror'⟩ := count_digits (n := high) (x := '\x7d') rfl
    (isBlank_eq_false (by decide) (by decide)) hat.advance
  -- behind the comma stands a digit, so this is not a count without an upper bound
  have hdigit : (Nat.toDigits 10 high ++ '\x7d' :: rest).head? ≠ some '\x7d' := by
    obtain ⟨d, ds, hds, hd⟩ := exists_digit high
    rw [hds]
    intro h
    rw [Option.some.inj h] at hd
    exact Bool.false_ne_true hd
  have hsecond : (Nat.toDigits 10 high ++ '\x7d' :: rest).isEmpty = false := by
    cases Nat.toDigits 10 high <;> rfl
  have hmore : c.advance.atEnd = false := by
    rw [hc'.advance.atEnd]
    cases Nat.toDigits 10 low <;> rfl
  rw [countedQuantifier, hc'.next]
  dsimp only
  rw [hmore, hat.peek?]
  simp only [Bool.false_eq_true, if_false, List.head?_cons]
  rw [hat.next, hat.advance.atEnd, hat.advance.peek?, hsecond]
  simp only [Bool.false_eq_true, if_false]
  refine ⟨fun h => ⟨_, ?_, hat'.advance⟩, fun h => ?_⟩
  · rw [hok (Nat.le_trans hle h)]
    dsimp only
    rw [if_neg hdigit, hok' h]
    dsimp only
    exact closeCount_at hat' hrest _ hle
  · -- the first count may be too large already
    obtain ⟨e, he⟩ := herror' h
    rcases Nat.lt_or_ge maxCount low with hlow | hlow
    · obtain ⟨e', he'⟩ := herror hlow
      rw [he']
      exact ⟨e', rfl⟩
    · rw [hok hlow]
      dsimp only
      rw [if_neg hdigit, he]
      exact ⟨e, rfl⟩

theorem simpleQuantifier_at {c : Cursor} {d : Char} {rest : List Char} (hc : c.At (d :: rest))
    (hrest : rest.head? ≠ some '?') (min : Nat) (max : Option Nat) :
    simpleQuantifier c min max = (⟨min, max, false⟩, c.advance) := by
  rw [simpleQuantifier, hc.advance.peek?, if_neg hrest]

/-! ## The item that is repeated -/

namespace Progress

variable {m : Modes}

theorem isItem_repetition (hm : m.swapGreed = false) {t : Tree} {part : Part}
    (ht : t.IsItem m part) (span : Span) (min : Nat) (max : Option Nat) :
    (Tree.repetition span min max false t).IsItem m (part.repeated min max) where
  expr := by
    rw [Tree.expr, ht.expr]
    dsimp only
    rw [hm]
    rfl
  depth := fun room => by
    cases room with
    | zero => simp [Tree.tooDeep?, Part.repeated]
    | succ room =>
      rw [Tree.tooDeep?, ht.depth]
      exact Nat.succ_le_succ_iff.symm
  solid := rfl

theorem quantify_of_solid {p : Progress} {t : Tree} {ts : List Tree}
    (hitems : p.level.items = t :: ts) (ht : t.isSolid = true) (q : Reading Quantifier) :
    p.quantify q = match q with
      | .error e => .error e
      | .ok (q, c) => .ok { p with
          cursor := c
          level := { p.level with
            items := .repetition (c.since t.start) q.min q.max q.lazily t :: ts } } := by
  rw [quantify, hitems]
  cases t with
  | empty span => exact absurd ht (by simp [Tree.isSolid])
  | flags span items => exact absurd ht (by simp [Tree.isSolid])
  | _ => rfl

/-- A quantifier puts the last part under a repetition. -/
theorem Adds.repeated (hm : m.swapGreed = false) {p q : Progress} {ps : List Part} {part : Part}
    {g : Groups} {d : Char} {r rest : List Char} (h : p.Adds m (ps ++ [part]) g (d :: r) q)
    {min : Nat} {max : Option Nat} {c : Cursor}
    (hstep : q.step d = q.quantify (.ok (⟨min, max, false⟩, c))) (hc : c.At rest)
    (hlen : rest.length ≤ r.length) :
    ∃ q', p.Adds m (ps ++ [part.repeated min max]) g rest q' := by
  obtain ⟨ts, hts, hitems⟩ := h.items
  rw [List.reverse_append, List.reverse_singleton, List.singleton_append] at hitems
  cases hitems with
  | @cons t _ ts _ ht hitems =>
    rw [List.cons_append] at hts
    rw [quantify_of_solid hts ht.solid] at hstep
    dsimp only at hstep
    refine ⟨_, h.leads.trans (leads_step h.cursor hstep ?_), hc, h.opened, h.branches,
      ⟨_ :: ts, rfl, ?_⟩, h.groups⟩
    · show c.rest.length ≤ r.length
      rw [hc.rest]
      exact hlen
    · rw [List.reverse_append, List.reverse_singleton, List.singleton_append]
      exact .cons (isItem_repetition hm ht _ min max) hitems

/-- A quantifier that is refused, or that has nothing to repeat. -/
theorem refuses_of_quantify (reading : Reading Quantifier) {q : Progress} {d : Char}
    {r : List Char} (hq : q.cursor.At (d :: r)) (hstep : q.step d = q.quantify reading)
    (h : q.level.items = [] ∨ ∃ e, reading = .error e) : q.Refuses := by
  have herror : ∃ e, q.quantify reading = .error e := by
    unfold quantify
    split
    · exact ⟨_, rfl⟩
    · exact ⟨_, rfl⟩
    · exact ⟨_, rfl⟩
    · next hitems =>
      rcases h with h | ⟨e, rfl⟩
      · rw [h] at hitems
        exact absurd hitems (by simp)
      · exact ⟨e, rfl⟩
  obtain ⟨e, he⟩ := herror
  exact refuses_of_step hq (hstep.trans he)

/-! ## The spellings of repetitions -/

section

variable {p q : Progress} {ps : List Part} {part : Part} {g : Groups} {rest : List Char}

/-- A sign for a repetition. -/
theorem Adds.sign (hm : m.swapGreed = false) {d : Char} {min : Nat} {max : Option Nat}
    (hd : (d = '?' ∧ min = 0 ∧ max = some 1) ∨ (d = '*' ∧ min = 0 ∧ max = none) ∨
      (d = '+' ∧ min = 1 ∧ max = none))
    (h : p.Adds m (ps ++ [part]) g (d :: rest) q) (hrest : rest.head? ≠ some '?') :
    ∃ q', p.Adds m (ps ++ [part.repeated min max]) g rest q' := by
  have hread := simpleQuantifier_at h.cursor hrest min max
  have hstep : q.step d = q.quantify (.ok (⟨min, max, false⟩, q.cursor.advance)) := by
    rw [← hread]
    rcases hd with ⟨rfl, rfl, rfl⟩ | ⟨rfl, rfl, rfl⟩ | ⟨rfl, rfl, rfl⟩
    · rfl
    · rfl
    · rfl
  exact h.repeated hm hstep h.cursor.advance (Nat.le_refl _)

/-- A count in braces that is not too large. -/
theorem Adds.counted (hm : m.swapGreed = false) {n : Nat} (hn : n ≤ maxCount)
    (h : p.Adds m (ps ++ [part]) g ((Text.counted n).toList ++ rest) q)
    (hrest : rest.head? ≠ some '?') :
    ∃ q', p.Adds m (ps ++ [part.repeated n (some n)]) g rest q' := by
  obtain ⟨c, hread, hc⟩ := (countedQuantifier_counted h.cursor hrest).1 hn
  obtain ⟨r, hr, hlen⟩ : ∃ r, (Text.counted n).toList ++ rest = '\x7b' :: r ∧
      rest.length ≤ r.length := by
    refine ⟨Nat.toDigits 10 n ++ '\x7d' :: rest, by simp [Text.counted], ?_⟩
    rw [List.length_append, List.length_cons]
    omega
  rw [hr] at h
  refine h.repeated hm ?_ hc hlen
  rw [← hread]
  rfl

/-- Two counts in braces that are not too large. -/
theorem Adds.countedBetween (hm : m.swapGreed = false) {low high : Nat} (hle : low ≤ high)
    (hhigh : high ≤ maxCount)
    (h : p.Adds m (ps ++ [part]) g ((Text.countedBetween low high).toList ++ rest) q)
    (hrest : rest.head? ≠ some '?') :
    ∃ q', p.Adds m (ps ++ [part.repeated low (some high)]) g rest q' := by
  obtain ⟨c, hread, hc⟩ := (countedQuantifier_countedBetween hle h.cursor hrest).1 hhigh
  obtain ⟨r, hr, hlen⟩ : ∃ r, (Text.countedBetween low high).toList ++ rest = '\x7b' :: r ∧
      rest.length ≤ r.length := by
    refine ⟨Nat.toDigits 10 low ++ ',' :: (Nat.toDigits 10 high ++ '\x7d' :: rest),
      by simp [Text.countedBetween], ?_⟩
    rw [List.length_append, List.length_cons, List.length_append, List.length_cons]
    omega
  rw [hr] at h
  refine h.repeated hm ?_ hc hlen
  rw [← hread]
  rfl

/-- A count in braces is refused where there is nothing to repeat, and if it is too large. -/
theorem refuses_counted {n : Nat} (hq : q.cursor.At ((Text.counted n).toList ++ rest))
    (hrest : rest.head? ≠ some '?') (h : q.level.items = [] ∨ maxCount < n) : q.Refuses := by
  have hat : q.cursor.At ('\x7b' :: (Nat.toDigits 10 n ++ '\x7d' :: rest)) := by
    simpa [Text.counted] using hq
  refine refuses_of_quantify (countedQuantifier q.cursor) hat rfl ?_
  exact h.imp id fun hn => (countedQuantifier_counted hq hrest).2 hn

theorem refuses_countedBetween {low high : Nat} (hle : low ≤ high)
    (hq : q.cursor.At ((Text.countedBetween low high).toList ++ rest))
    (hrest : rest.head? ≠ some '?') (h : q.level.items = [] ∨ maxCount < high) : q.Refuses := by
  have hat : q.cursor.At ('\x7b' :: (Nat.toDigits 10 low ++ ',' ::
      (Nat.toDigits 10 high ++ '\x7d' :: rest))) := by
    simpa [Text.countedBetween] using hq
  refine refuses_of_quantify (countedQuantifier q.cursor) hat rfl ?_
  exact h.imp id fun hn => (countedQuantifier_countedBetween hle hq hrest).2 hn

/-- The bounds of a repetition that goes round so many times, or one or more times. -/
def bounds : Option Nat → Nat × Option Nat
  | none | some 0 => (1, none)
  | some (n + 1) => (n + 1, some (n + 1))

theorem Adds.rounds (hm : m.swapGreed = false) {count : Option Nat}
    (hcount : count.getD 0 ≤ maxCount)
    (h : p.Adds m (ps ++ [part]) g ((Text.rounds count).toList ++ rest) q)
    (hrest : rest.head? ≠ some '?') :
    ∃ q', p.Adds m (ps ++ [part.repeated (bounds count).1 (bounds count).2]) g rest q' := by
  cases count with
  | none => exact Adds.sign hm (.inr (.inr ⟨rfl, rfl, rfl⟩)) h hrest
  | some n =>
    cases n with
    | zero => exact Adds.sign hm (.inr (.inr ⟨rfl, rfl, rfl⟩)) h hrest
    | succ n => exact Adds.counted hm hcount h hrest

end

end Progress

end Syntax

end FluentRegex
