import FluentRegex.Proofs.Expr.Language
import FluentRegex.Proofs.Machine.Marks
import Mathlib.Computability.Language

/-!
# The words of an expression

An expression that puts no condition on places has a language, made up along its constructors
(`Expr.words`): a repetition has the words of its body in a row, as many of them as its bounds allow.
Passing such an expression takes up one of its words, wherever in a subject that is:

> `passes_iff_takes`: an expression can be passed exactly over its words.
> `passes_whole_iff`: so it can be passed from the beginning of a subject to its end exactly if the
> subject is one of them.
-/

namespace FluentRegex

namespace Expr

/-! ## Languages -/

/-- Whether the expression puts no condition on any place. -/
def lookless : Expr → Bool
  | .empty => true
  | .set _ => true
  | .look _ => false
  | .group _ _ e => e.lookless
  | .rep _ _ _ e => e.lookless
  | .seq a b => a.lookless && b.lookless
  | .alt a b => a.lookless && b.lookless

theorem lookless_repeated (min : Nat) (max : Option Nat) (greedy : Bool) {e : Expr}
    (he : e.lookless = true) : (repeated min max greedy e).lookless = true := by
  rcases repeated_cases min max greedy e with ⟨-, h⟩ | h | ⟨low, high, h, -⟩
  · rw [h]
    rfl
  · rw [h]
    exact he
  · rw [h]
    exact he

/-- The words that an expression stands for. A condition on a place stands for none. -/
def words : Expr → Language Char
  | .empty => 1
  | .set s => {w | ∃ c ∈ s, w = [c]}
  | .look _ => 0
  | .group _ _ e => e.words
  | .rep min max _ e => {w | ∃ n, min ≤ n ∧ (∀ k ∈ max, n ≤ min + (k - min)) ∧ w ∈ e.words ^ n}
  | .seq a b => a.words * b.words
  | .alt a b => a.words + b.words

end Expr

namespace Machine

open FluentRegex.Expr

variable {subject : List Char} {x y : Nat × Unit} {L K : Language Char}

/-- Some word of a language stands in the subject between two places. -/
def Takes (subject : List Char) (L : Language Char) (x y : Nat × Unit) : Prop :=
  ∃ w ∈ L, w <+: subject.drop x.1 ∧ y = (x.1 + w.length, x.2)

theorem takes_one : Takes subject 1 x y ↔ y = x := by
  constructor
  · rintro ⟨w, hw, -, rfl⟩
    rw [(Language.mem_one w).1 hw]
    rfl
  · rintro rfl
    exact ⟨[], Language.nil_mem_one, List.nil_prefix, rfl⟩

theorem takes_mul : Takes subject (L * K) x y ↔
    ∃ z, Takes subject L x z ∧ Takes subject K z y := by
  constructor
  · rintro ⟨w, hw, hprefix, rfl⟩
    obtain ⟨u, hu, v, hv, rfl⟩ := Language.mem_mul.1 hw
    obtain ⟨rest, hrest⟩ := hprefix
    -- the second word stands where the first one ends
    refine ⟨_, ⟨u, hu, ⟨v ++ rest, by rw [← hrest, List.append_assoc]⟩, rfl⟩, v, hv, ?_, ?_⟩
    · rw [← List.drop_drop, ← hrest, List.append_assoc, List.drop_left]
      exact List.prefix_append v rest
    · rw [List.length_append, Nat.add_assoc]
  · rintro ⟨z, ⟨u, hu, ⟨rest, hrest⟩, rfl⟩, v, hv, ⟨rest', hrest'⟩, rfl⟩
    refine ⟨u ++ v, Language.append_mem_mul hu hv, ⟨rest', ?_⟩, ?_⟩
    · rw [← List.drop_drop, ← hrest, List.drop_left] at hrest'
      rw [List.append_assoc, hrest', hrest]
    · rw [List.length_append, Nat.add_assoc]

theorem takes_add : Takes subject (L + K) x y ↔ Takes subject L x y ∨ Takes subject K x y := by
  simp only [Takes, Language.mem_add, or_and_right, exists_or]

theorem rounds_iff_takes {R : Nat × Unit → Nat × Unit → Prop}
    (h : ∀ x y, R x y ↔ Takes subject L x y) (n : Nat) :
    Rounds R n x y ↔ Takes subject (L ^ n) x y := by
  induction n generalizing x with
  | zero => rw [pow_zero, takes_one, Rounds]
  | succ n ih =>
    rw [pow_succ', takes_mul]
    exact exists_congr fun z => and_congr (h x z) ih

/-- An expression without conditions on places can be passed exactly over its words. -/
theorem passes_iff_takes {e : Expr} (he : e.lookless = true) :
    (testing subject).Passes e x y ↔ Takes subject e.words x y := by
  induction e generalizing x y with
  | empty => exact takes_one.symm
  | set s =>
    have hafter : (testing subject).after? x.1 = (subject.drop x.1).head? := after?_eq x.1
    constructor
    · rintro ⟨⟨c, hc, hs⟩, rfl⟩
      rw [hafter] at hc
      obtain ⟨rest, hrest⟩ := List.head?_eq_some_iff.1 hc
      exact ⟨[c], ⟨c, hs, rfl⟩, ⟨rest, hrest.symm⟩, rfl⟩
    · rintro ⟨w, ⟨c, hs, rfl⟩, ⟨rest, hrest⟩, rfl⟩
      refine ⟨⟨c, ?_, hs⟩, rfl⟩
      rw [hafter, ← hrest]
      rfl
  | look l => exact absurd he Bool.false_ne_true
  | group index name e ih =>
    -- a machine that tests records nothing, so a group is passed as its body is
    have hbody := ih (x := x) (y := y) he
    refine Iff.trans ⟨?_, fun h => ⟨y, h, rfl⟩⟩ hbody
    rintro ⟨z, hz, rfl⟩
    exact hz
  | rep min max greedy e ih =>
    have hrounds := fun n => rounds_iff_takes (fun x y => ih (x := x) (y := y) he) (x := x) (y := y) n
    constructor
    · rintro ⟨n, hmin, hmax, h⟩
      obtain ⟨w, hw, h⟩ := (hrounds n).1 h
      exact ⟨w, ⟨n, hmin, hmax, hw⟩, h⟩
    · rintro ⟨w, ⟨n, hmin, hmax, hw⟩, h⟩
      exact ⟨n, hmin, hmax, (hrounds n).2 ⟨w, hw, h⟩⟩
  | seq a b iha ihb =>
    rw [lookless, Bool.and_eq_true] at he
    refine Iff.trans ?_ takes_mul.symm
    exact exists_congr fun z => and_congr (iha he.1) (ihb he.2)
  | alt a b iha ihb =>
    rw [lookless, Bool.and_eq_true] at he
    exact (or_congr (iha he.1) (ihb he.2)).trans takes_add.symm

/-- Expressions one after the other can be passed over their words in a row. -/
theorem passesAll_iff_takes {es : List Expr} (hes : ∀ e ∈ es, e.lookless = true) :
    (testing subject).PassesAll es x y ↔ Takes subject (es.map words).prod x y := by
  induction es generalizing x with
  | nil => exact takes_one.symm
  | cons e es ih =>
    rw [List.forall_mem_cons] at hes
    rw [List.map_cons, List.prod_cons, takes_mul]
    exact exists_congr fun z => and_congr (passes_iff_takes hes.1) (ih hes.2)

/-- What stands between the beginning and the end of a subject is the subject. -/
theorem takes_whole_iff : Takes subject L (0, ()) (subject.length, ()) ↔ subject ∈ L := by
  constructor
  · rintro ⟨w, hw, hprefix, hlength⟩
    have hlen : subject.length = w.length := by simpa using hlength
    have hword : w = subject := hprefix.eq_of_length hlen.symm
    rwa [← hword]
  · intro h
    exact ⟨subject, h, List.prefix_rfl, by rw [Nat.zero_add]⟩

/-- Such an expression can be passed over all of a subject exactly if the subject is one of its
words. -/
theorem passes_whole_iff {e : Expr} (he : e.lookless = true) :
    (testing subject).Passes e (0, ()) (subject.length, ()) ↔ subject ∈ e.words :=
  (passes_iff_takes he).trans takes_whole_iff

end Machine

end FluentRegex
