import FluentRegex.Proofs.Syntax.Class

/-!
# Reading ranges

Two characters with a hyphen between them, in brackets, are read as a range where neither has a
meaning of its own (`adds_range`). Such characters cannot be taken for a sign of negation, for the
end of the class or for a part of an operator, and nothing is asked of them but their order: a range
that runs backwards is a fault (`refuses_range`).
-/

namespace FluentRegex

/-- The characters from one to another, in brackets. -/
def Part.range (m : Modes) (lo hi : Char) : Part :=
  ⟨.set (Syntax.folded m (CharSet.ofRange lo hi)), 1⟩

namespace Syntax

variable {lo hi : Char} (hlo : isMeta lo = false) (hhi : isMeta hi = false)

include hlo hhi

/-! ## The item -/

/-- The item is the range if its boundaries stand in order, and a fault otherwise. -/
theorem bracketItem_range (unclosed : Fault) {c : Cursor} {rest : List Char}
    (hc : c.At (lo :: '-' :: hi :: rest)) :
    (lo ≤ hi → ∃ span slo shi c', bracketItem unclosed c =
      .ok (.range span ⟨slo, lo, false⟩ ⟨shi, hi, false⟩, c') ∧ c'.At rest) ∧
    (hi < lo → ∃ e, bracketItem unclosed c = .error e) := by
  have hsep : c.advance.At ('-' :: hi :: rest) := hc.advance
  have hsecond : c.advance.advance.At (hi :: rest) := hsep.advance
  have hfirst := bracketAtom_of_ne (ne_of_isMeta hlo (d := '\\') (by decide)) hc.peek?
  have hlast := bracketAtom_of_ne (ne_of_isMeta hhi (d := '\\') (by decide)) hsecond.peek?
  -- what follows the hyphen neither ends the class nor begins an operator
  have hpast : c.advance.peekPast? = some hi := by
    rw [Cursor.peekPast?, hsep.plain, if_neg Bool.false_ne_true, hsep.rest]
    rfl
  have hclose : hi ≠ ']' := ne_of_isMeta hhi (by decide)
  have hhyphen : hi ≠ '-' := ne_of_isMeta hhi (by decide)
  rw [bracketItem, hfirst]
  dsimp only
  rw [hsep.skipBlanks, hsep.atEnd, hsep.peek?, hpast, hsep.next, hsecond.atEnd, hlast]
  simp only [List.isEmpty_cons, Bool.false_eq_true, if_false, List.head?_cons, ne_eq,
    not_true_eq_false, Option.some.injEq, hclose, hhyphen, or_self, rangeBoundary]
  refine ⟨fun hle => ?_, fun hlt => ?_⟩
  · rw [if_pos hle]
    exact ⟨_, _, _, _, rfl, hsecond.advance⟩
  · rw [if_neg (Char.not_le.2 hlt)]
    exact ⟨_, rfl⟩

/-! ## The class -/

/-- The class is the range alone, and a fault where that is one. -/
theorem bracketClass_range {c : Cursor} {rest : List Char}
    (hc : c.At ('[' :: lo :: '-' :: hi :: ']' :: rest)) :
    (lo ≤ hi → ∃ span span' slo shi c', bracketClass c = .ok
      (.bracket span false (.range span' ⟨slo, lo, false⟩ ⟨shi, hi, false⟩), c') ∧ c'.At rest) ∧
    (hi < lo → ∃ e, bracketClass c = .error e) := by
  have hstart : StartsItem lo := .inr hlo
  obtain ⟨b, first, hb, hfirst, hnegated, hpending, hitems⟩ := start_class false hc hstart
  obtain ⟨hread, hfault⟩ := bracketItem_range hlo hhi ⟨.classUnclosed, b.opening, none⟩ hfirst
  have hfuel : first.rest.length + 1 = (first.rest.length - 1) + 1 + 1 := by
    rw [hfirst.rest, List.length_cons]
    omega
  rw [bracketClass, hb]
  dsimp only
  refine ⟨fun hle => ?_, fun hlt => ?_⟩
  · obtain ⟨span, slo, shi, second, hitem, hsecond⟩ := hread hle
    refine ⟨second.advance.since b.opening.start, span, slo, shi, second.advance, ?_,
      hsecond.advance⟩
    rw [hfuel, bracketItems_item hfirst hstart hitem, bracketItems_close hsecond, Bracket.inner,
      Bracket.push, Bracket.current]
    dsimp only
    rw [hpending, hitems, hnegated]
  · obtain ⟨e, he⟩ := hfault hlt
    rw [bracketItems_of_startsItem hfirst hstart, he]
    exact ⟨e, rfl⟩

namespace Progress

variable {m : Modes} {p : Progress} {rest : List Char}
  (hp : p.cursor.At ('[' :: lo :: '-' :: hi :: ']' :: rest))

include hp

/-- A range whose boundaries stand in order. -/
theorem adds_range (hm : m.unicode = true) (hle : lo ≤ hi) :
    ∃ q, p.Adds m [Part.range m lo hi] p.groups rest q := by
  obtain ⟨span, span', slo, shi, c, hclass, hc⟩ := (bracketClass_range hlo hhi hp).1 hle
  have hstep : p.step '[' = .ok
      (p.push (.bracket span false (.range span' ⟨slo, lo, false⟩ ⟨shi, hi, false⟩)) c) := by
    rw [step, hclass]
  have hmembers : (ClassTree.range span' ⟨slo, lo, false⟩ ⟨shi, hi, false⟩).members m =
      .ok (CharSet.ofRange lo hi) := by
    rw [ClassTree.members, Literal.resolve, Literal.resolve, hm]
    rfl
  refine ⟨_, adds_push hp hstep hc ?_
    (isItem_bracket hm hmembers (k := 0) (fun room => ?_) span false)⟩
  · simp only [List.length_cons]
    omega
  · simp [ClassTree.tooDeep?]

/-- A range that runs backwards. -/
theorem refuses_range (hlt : hi < lo) : p.Refuses := by
  obtain ⟨e, he⟩ := (bracketClass_range hlo hhi hp).2 hlt
  refine refuses_of_step hp (e := e) ?_
  rw [step, he]

end Progress

end Syntax

end FluentRegex
