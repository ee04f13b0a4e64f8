import FluentRegex.Proofs.Chain.Names
import FluentRegex.Proofs.Syntax.Class
import FluentRegex.Proofs.Syntax.Repetition

/-!
# What one call is read as

A structured call is read as parts of its own, whatever stands before it and whatever comes after
it, as long as that does not begin with a question mark: a capturing call as one part with the next
number (`adds_captured`), a call that repeats as a repetition of the last part (`adds_repeats`), and
any other as the parts that it names (`adds_plain`). A count beyond the largest one is refused.
-/

namespace FluentRegex

open Text

/-! ## The parts of calls -/

namespace Call

/-- The parts between the parentheses of a capturing call. -/
def insideParts (m : Modes) : Call → List Part
  | .find text _ | .maybe text _ => text.toList.map (Part.literal m)
  | .anything _ => [(Part.dot m).repeated 0 none]
  | .anythingBut chars _ => [(Part.allBut m chars.toList).repeated 0 none]
  | .something _ => [(Part.dot m).repeated 1 none]
  | .somethingBut chars _ => [(Part.allBut m chars.toList).repeated 1 none]
  | .words _ count =>
    [(Part.shorthand m .word).repeated (Syntax.Progress.bounds count).1
      (Syntax.Progress.bounds count).2]
  | .decimals _ count =>
    [(Part.shorthand m .digit).repeated (Syntax.Progress.bounds count).1
      (Syntax.Progress.bounds count).2]
  | _ => []

/-- The parts of a call that neither captures nor repeats. -/
def plainParts (m : Modes) : Call → List Part
  | .search text => text.toList.map (Part.literal m)
  | .anyOf chars => if chars.isEmpty then [] else [Part.ofChars m false chars.toList]
  | .startOfLine => [Part.anchor m .lineStart]
  | .endOfLine => [Part.anchor m .lineEnd]
  | _ => []

/-- The part of a capturing call, whose group has a number and perhaps a name. -/
def capturedPart (m : Modes) (index : Nat) (name : Option String) (c : Call) : Part :=
  let group := Part.group index name (c.insideParts m)
  if c.isOptional then group.repeated 0 (some 1) else group

/-- Between the parentheses of a call stand sets of characters, which may be repeated. -/
theorem insideParts_cases (m : Modes) (c : Call) : ∀ q ∈ c.insideParts m, ∃ S : CharSet,
    q.expr = .set S ∨
      ∃ min max, max ≠ some 0 ∧ q.expr = Expr.repeated min max true (.set S) := by
  have htext : ∀ text : String, ∀ q ∈ text.toList.map (Part.literal m), ∃ S : CharSet,
      q.expr = .set S ∨
        ∃ min max, max ≠ some 0 ∧ q.expr = Expr.repeated min max true (.set S) := by
    intro text q hq
    obtain ⟨ch, -, rfl⟩ := List.mem_map.1 hq
    exact ⟨_, .inl rfl⟩
  have hrep : ∀ {part : Part} {S : CharSet} (min : Nat) {max : Option Nat}, part.expr = .set S →
      max ≠ some 0 → ∀ q ∈ [part.repeated min max], ∃ S : CharSet, q.expr = .set S ∨
        ∃ min max, max ≠ some 0 ∧ q.expr = Expr.repeated min max true (.set S) := by
    intro part S min max hpart hmax q hq
    rw [List.mem_singleton.1 hq, Part.repeated, hpart]
    exact ⟨S, .inr ⟨min, max, hmax, rfl⟩⟩
  have hallBut : ∀ chars, ∃ S, (Part.allBut m chars).expr = .set S := by
    intro chars
    rw [Part.allBut]
    split
    · exact ⟨_, rfl⟩
    · exact ⟨_, rfl⟩
  have hbounds : ∀ count : Option Nat, (Syntax.Progress.bounds count).2 ≠ some 0 := by
    intro count
    cases count with
    | none => simp [Syntax.Progress.bounds]
    | some n =>
      cases n with
      | zero => simp [Syntax.Progress.bounds]
      | succ n => simp [Syntax.Progress.bounds]
  cases c with
  | find text n => exact htext text
  | maybe text n => exact htext text
  | anything n => exact hrep 0 rfl (by simp)
  | something n => exact hrep 1 rfl (by simp)
  | anythingBut chars n =>
    obtain ⟨S, hS⟩ := hallBut chars.toList
    exact hrep 0 hS (by simp)
  | somethingBut chars n =>
    obtain ⟨S, hS⟩ := hallBut chars.toList
    exact hrep 1 hS (by simp)
  | words n count => exact hrep _ rfl (hbounds count)
  | decimals n count => exact hrep _ rfl (hbounds count)
  | _ => exact fun q hq => absurd hq List.not_mem_nil

/-- Other calls say sets of characters, or put conditions on a place. -/
theorem plainParts_cases (m : Modes) (c : Call) : ∀ q ∈ c.plainParts m,
    (∃ S, q.expr = .set S) ∨ ∃ l, q.expr = .look l := by
  intro q hq
  cases c with
  | search text =>
    obtain ⟨ch, -, rfl⟩ := List.mem_map.1 hq
    exact .inl ⟨_, rfl⟩
  | anyOf chars =>
    rw [plainParts] at hq
    split at hq
    · exact absurd hq List.not_mem_nil
    · rw [List.mem_singleton.1 hq]
      exact .inl ⟨_, rfl⟩
  | startOfLine =>
    rw [List.mem_singleton.1 hq]
    exact .inr ⟨_, rfl⟩
  | endOfLine =>
    rw [List.mem_singleton.1 hq]
    exact .inr ⟨_, rfl⟩
  | _ => exact absurd hq List.not_mem_nil

end Call

/-! ## Reading one call -/

section

open Syntax Progress

variable {m : Modes} {p : Progress} {rest : List Char}

/-- A dot, or a class of all but some characters. -/
theorem adds_allBut (hm : m.unicode = true) (delimiter : Char) (chars : String)
    (hp : p.cursor.At
      ((if chars.isEmpty then "." else classWithout (escape chars delimiter)).toList ++ rest)) :
    ∃ q, p.Adds m [Part.allBut m chars.toList] p.groups rest q := by
  rw [Part.allBut]
  cases h : chars.isEmpty with
  | true =>
    have hlist : chars.toList.isEmpty = true := by simpa using h
    rw [h, if_pos rfl] at hp
    rw [hlist, if_pos rfl]
    exact adds_dot hm (by simpa using hp)
  | false =>
    have hlist : chars.toList.isEmpty = false := by simpa using h
    rw [h, if_neg Bool.false_ne_true] at hp
    rw [hlist, if_neg Bool.false_ne_true]
    refine adds_class hm delimiter true (List.isEmpty_eq_false_iff.1 hlist) ?_
    simpa [classWithout, classOf, escape] using hp

/-- A single part under a sign of repetition. -/
theorem adds_rep (hg : m.swapGreed = false) {part : Part} {d : Char} {min : Nat}
    (hd : (d = '*' ∧ min = 0) ∨ (d = '+' ∧ min = 1))
    (h : ∃ q, p.Adds m [part] p.groups (d :: rest) q) (hrest : rest.head? ≠ some '?') :
    ∃ q, p.Adds m [part.repeated min none] p.groups rest q := by
  obtain ⟨q, hq⟩ := h
  have hq' : p.Adds m ([] ++ [part]) p.groups (d :: rest) q := hq
  refine Adds.sign hg (.inr ?_) hq' hrest
  rcases hd with ⟨rfl, rfl⟩ | ⟨rfl, rfl⟩
  · exact .inl ⟨rfl, rfl, rfl⟩
  · exact .inr ⟨rfl, rfl, rfl⟩

/-- A class of one letter under a count. -/
theorem adds_rounds (hm : m.unicode = true) (hg : m.swapGreed = false) {letter : Char}
    {s : Shorthand} (hs : shorthand? letter = some (false, s)) {count : Option Nat}
    (hp : p.cursor.At ('[' :: '\\' :: letter :: ']' :: ((rounds count).toList ++ rest)))
    (hrest : rest.head? ≠ some '?') :
    (count.getD 0 ≤ maxCount → ∃ q, p.Adds m
      [(Part.shorthand m s).repeated (bounds count).1 (bounds count).2] p.groups rest q) ∧
    (maxCount < count.getD 0 → p.Refuses) := by
  obtain ⟨q, hq⟩ := adds_shorthand hm hs hp
  have hq' : p.Adds m ([] ++ [Part.shorthand m s]) p.groups ((rounds count).toList ++ rest) q := hq
  refine ⟨fun h => Adds.rounds hg h hq' hrest, fun h => ?_⟩
  cases count with
  | none => exact absurd h (Nat.not_lt_zero _)
  | some n =>
    cases n with
    | zero => exact absurd h (Nat.not_lt_zero _)
    | succ n => exact hq.leads.refuses (refuses_counted hq.cursor hrest (.inr h))

/-- What a capturing call writes between its parentheses. -/
theorem adds_inside (hm : m.unicode = true) (hg : m.swapGreed = false) {c : Call}
    {name : Option String} (hc : c.captures? = some name) {delimiter : Char}
    (hp : p.cursor.At ((c.inside delimiter).toList ++ rest)) (hrest : rest.head? ≠ some '?') :
    (c.largest ≤ maxCount → ∃ q, p.Adds m (c.insideParts m) p.groups rest q) ∧
    (maxCount < c.largest → p.Refuses) := by
  have htext : ∀ text : String, p.cursor.At ((escape text delimiter).toList ++ rest) →
      ∃ q, p.Adds m (text.toList.map (Part.literal m)) p.groups rest q := by
    intro text h
    rw [escape, String.toList_ofList] at h
    exact adds_text hm delimiter text.toList h
  have hnone : ¬ maxCount < 0 := Nat.not_lt_zero _
  cases c with
  | find text n => exact ⟨fun _ => htext text hp, fun h => absurd h hnone⟩
  | maybe text n => exact ⟨fun _ => htext text hp, fun h => absurd h hnone⟩
  | anything n =>
    have hdot : ∃ q, p.Adds m [Part.dot m] p.groups ('*' :: rest) q :=
      adds_dot hm (by simpa [Call.inside] using hp)
    exact ⟨fun _ => adds_rep hg (.inl ⟨rfl, rfl⟩) hdot hrest, fun h => absurd h hnone⟩
  | something n =>
    have hdot : ∃ q, p.Adds m [Part.dot m] p.groups ('+' :: rest) q :=
      adds_dot hm (by simpa [Call.inside] using hp)
    exact ⟨fun _ => adds_rep hg (.inr ⟨rfl, rfl⟩) hdot hrest, fun h => absurd h hnone⟩
  | anythingBut chars n =>
    have hclass : p.cursor.At ((if chars.isEmpty then "." else
        classWithout (escape chars delimiter)).toList ++ '*' :: rest) := by
      rw [Call.inside] at hp
      split at hp
      · next h => simpa [h] using hp
      · next h => simpa [h] using hp
    exact ⟨fun _ => adds_rep hg (.inl ⟨rfl, rfl⟩) (adds_allBut hm delimiter chars hclass) hrest,
      fun h => absurd h hnone⟩
  | somethingBut chars n =>
    have hclass : p.cursor.At ((if chars.isEmpty then "." else
        classWithout (escape chars delimiter)).toList ++ '+' :: rest) := by
      rw [Call.inside] at hp
      split at hp
      · next h => simpa [h] using hp
      · next h => simpa [h] using hp
    exact ⟨fun _ => adds_rep hg (.inr ⟨rfl, rfl⟩) (adds_allBut hm delimiter chars hclass) hrest,
      fun h => absurd h hnone⟩
  | words n count =>
    have hp' : p.cursor.At ('[' :: '\\' :: 'w' :: ']' :: ((rounds count).toList ++ rest)) := by
      simpa [Call.inside, classOf] using hp
    cases count with
    | none => exact adds_rounds hm hg rfl hp' hrest
    | some k => exact adds_rounds hm hg rfl hp' hrest
  | decimals n count =>
    have hp' : p.cursor.At ('[' :: '\\' :: 'd' :: ']' :: ((rounds count).toList ++ rest)) := by
      simpa [Call.inside, classOf] using hp
    cases count with
    | none => exact adds_rounds hm hg rfl hp' hrest
    | some k => exact adds_rounds hm hg rfl hp' hrest
  | _ => exact absurd hc (by simp [Call.captures?])

/-- What a call writes that neither captures nor repeats. -/
theorem adds_plain (hm : m.unicode = true) {c : Call} (hraw : c.isRaw = false)
    (hrepeats : c.repeats? = none) (hcaptures : c.captures? = none) (d : Draft)
    (hp : p.cursor.At ((c.addition d).text.toList ++ rest)) :
    ∃ q, p.Adds m (c.plainParts m) p.groups rest q := by
  rcases Call.plain_cases hraw hrepeats hcaptures with ⟨text, rfl⟩ | ⟨chars, rfl⟩ | rfl | rfl | rfl
  · rw [Call.addition, Draft.escaped, escape, String.toList_ofList] at hp
    exact adds_text hm d.settings.delimiter text.toList hp
  · rw [Call.addition] at hp
    rw [Call.plainParts]
    cases h : chars.isEmpty with
    | true =>
      rw [h] at hp
      exact ⟨p, .nil (by simpa using hp)⟩
    | false =>
      have hlist : chars.toList.isEmpty = false := by simpa using h
      rw [h] at hp
      refine adds_class hm d.settings.delimiter false (List.isEmpty_eq_false_iff.1 hlist) ?_
      simpa [classOf, Draft.escaped, escape] using hp
  · exact adds_anchor (.inl ⟨rfl, rfl⟩) (by simpa [Call.addition] using hp)
  · exact adds_anchor (.inr ⟨rfl, rfl⟩) (by simpa [Call.addition] using hp)
  · exact ⟨p, .nil (by simpa [Call.addition] using hp)⟩

/-- What a capturing call writes, where its name is free. -/
theorem adds_captured (hm : m.unicode = true) (hg : m.swapGreed = false) {c : Call}
    {asked : Option String} (hc : c.captures? = some asked) {d : Draft}
    (hname : ∀ n ∈ d.granted asked,
      isName n.toList = true ∧ n ∉ p.groups.names.map Prod.fst)
    (hp : p.cursor.At ((c.addition d).text.toList ++ rest)) (hrest : rest.head? ≠ some '?') :
    (c.largest ≤ maxCount → ∃ span q, p.Adds m
      [c.capturedPart m (p.groups.count + 1) (d.granted asked)]
      (p.groups.enter (d.granted asked) span) rest q) ∧
    (maxCount < c.largest → p.Refuses) := by
  rw [Draft.addition_of_captures hc, List.append_assoc, List.append_assoc, List.cons_append] at hp
  generalize hafter : (if c.isOptional = true then ['?'] else []) ++ rest = after at hp
  obtain ⟨-, hhead⟩ := openings_inside c d.settings.delimiter
  have hinside : ((c.inside d.settings.delimiter).toList ++ ')' :: after).head? ≠ some '?' := by
    cases h : (c.inside d.settings.delimiter).toList with
    | nil => simp
    | cons x xs =>
      rw [h] at hhead
      exact hhead
  -- between the parentheses the text is read at a level of its own
  obtain ⟨span, k, hk, hstep⟩ := step_opening hp hinside hname
  obtain ⟨r, hr, hlen⟩ : ∃ r, openingText (d.granted asked) ++
      ((c.inside d.settings.delimiter).toList ++ ')' :: after) = '(' :: r ∧
      ((c.inside d.settings.delimiter).toList ++ ')' :: after).length ≤ r.length := by
    cases d.granted asked with
    | none => exact ⟨_, rfl, Nat.le_refl _⟩
    | some n => exact ⟨_, rfl, by simp; omega⟩
  rw [hr] at hp
  obtain ⟨hadds, hrefuses⟩ := adds_inside (p := p.within _ _ k) hm hg hc hk (by simp)
  refine ⟨fun hcount => ?_, fun hcount => ?_⟩
  · obtain ⟨q, hq⟩ := hadds hcount
    obtain ⟨q', hq'⟩ := Adds.group hp hk hlen hstep hq
    refine ⟨span, ?_⟩
    rw [Call.capturedPart]
    cases hopt : c.isOptional with
    | false =>
      rw [hopt, if_neg Bool.false_ne_true, List.nil_append] at hafter
      rw [if_neg Bool.false_ne_true, hafter]
      exact ⟨q', hq'⟩
    | true =>
      rw [hopt, if_pos rfl] at hafter
      have hq'' : p.Adds m ([] ++ [Part.group (p.groups.count + 1) (d.granted asked)
          (c.insideParts m)]) (p.groups.enter (d.granted asked) span) ('?' :: rest) q' := by
        rw [show '?' :: rest = after from hafter]
        exact hq'
      rw [if_pos rfl]
      exact Adds.sign hg (.inl ⟨rfl, rfl, rfl⟩) hq'' hrest
  · -- a count that is too large is refused inside, which reading from before leads to
    have hlead : p.Leads (p.within (.capturing (p.groups.count + 1) (d.granted asked))
        (p.groups.enter (d.granted asked) span) k) := by
      refine leads_step hp hstep ?_
      show k.rest.length ≤ r.length
      rw [hk.rest]
      exact hlen
    exact hlead.refuses (hrefuses hcount)

/-- The count of a call that repeats puts the last part under a repetition. -/
theorem adds_repeats (hg : m.swapGreed = false) {c : Call} {low high : Nat}
    (hc : c.repeats? = some (low, high)) (hcount : c.largest ≤ maxCount) {d : Draft}
    {ps : List Part} {part : Part} {g : Groups} {q : Progress}
    (h : p.Adds m (ps ++ [part]) g ((c.addition d).text.toList ++ rest) q)
    (hrest : rest.head? ≠ some '?') :
    ∃ q', p.Adds m (ps ++ [part.repeated low (some high)]) g rest q' := by
  cases c with
  | times n =>
    cases hc
    exact Adds.counted hg hcount h hrest
  | between k n =>
    cases hc
    have hle : Nat.min k n ≤ Nat.max k n := Nat.le_trans (Nat.min_le_left k n) (Nat.le_max_left k n)
    exact Adds.countedBetween hg hle hcount h hrest
  | _ => exact absurd hc (by simp [Call.repeats?])

theorem refuses_repeats {c : Call} {bounds : Nat × Nat} (hc : c.repeats? = some bounds)
    {d : Draft} {q : Progress} (hq : q.cursor.At ((c.addition d).text.toList ++ rest))
    (hrest : rest.head? ≠ some '?') (h : q.level.items = [] ∨ maxCount < c.largest) :
    q.Refuses := by
  cases c with
  | times n => exact refuses_counted hq hrest h
  | between k n =>
    have hle : Nat.min k n ≤ Nat.max k n := Nat.le_trans (Nat.min_le_left k n) (Nat.le_max_left k n)
    exact refuses_countedBetween hle hq hrest h
  | _ => exact absurd hc (by simp [Call.repeats?])

end

end FluentRegex
