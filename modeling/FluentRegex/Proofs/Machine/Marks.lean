import FluentRegex.Proofs.Expr.Captures
import FluentRegex.Proofs.Machine.Passes

/-!
# What is noted on the way through an expression

The two marks of a group are noted in pairs: on the way through an expression those of a group stay
as they are, or both of them are noted anew, between the places where the way begins and ends and
the first one not behind the second (`Notes`). So the latest marks of a group are those of one and
the same round, whatever was noted in the rounds before it.

> `Passes.notes`: this holds of all expressions.
> `marks_of_findMarks`: so it holds of what a search finds, and the marks of the whole match are the
> outermost ones if no group of the pattern has its number.
-/

namespace FluentRegex

namespace Marks

/-- The marks of a group are the same. -/
def Same (i : Nat) (marks marks' : Marks) : Prop :=
  marks'.lookup (2 * i) = marks.lookup (2 * i) ∧
    marks'.lookup (2 * i + 1) = marks.lookup (2 * i + 1)

/-- The marks of a group stand at two places. -/
def Ends (i first last : Nat) (marks : Marks) : Prop :=
  marks.lookup (2 * i) = some first ∧ marks.lookup (2 * i + 1) = some last

/-- The marks of each group are missing, or stand between two places and in their order. -/
def Within (p q : Nat) (marks : Marks) : Prop := ∀ i,
  (marks.lookup (2 * i) = none ∧ marks.lookup (2 * i + 1) = none) ∨
    ∃ first last, p ≤ first ∧ first ≤ last ∧ last ≤ q ∧ Ends i first last marks

variable {i p : Nat} {marks marks' : Marks}

theorem Same.refl (i : Nat) (marks : Marks) : Same i marks marks := ⟨rfl, rfl⟩

theorem Same.trans {marks'' : Marks} (h : Same i marks marks') (h' : Same i marks' marks'') :
    Same i marks marks'' :=
  ⟨h'.1.trans h.1, h'.2.trans h.2⟩

theorem Same.ends {first last : Nat} (h : Same i marks marks') (hends : Ends i first last marks) :
    Ends i first last marks' :=
  ⟨h.1.trans hends.1, h.2.trans hends.2⟩

/-- A mark of another group. -/
theorem same_cons {slot : Nat} (h : slot / 2 ≠ i) : Same i marks ((slot, p) :: marks) := by
  have hfirst : (2 * i == slot) = false := beq_eq_false_iff_ne.2 (by omega)
  have hlast : (2 * i + 1 == slot) = false := beq_eq_false_iff_ne.2 (by omega)
  constructor
  · rw [List.lookup_cons, hfirst]
  · rw [List.lookup_cons, hlast]

theorem lookup_first : ((2 * i, p) :: marks).lookup (2 * i) = some p := List.lookup_cons_self

theorem lookup_last : ((2 * i + 1, p) :: marks).lookup (2 * i + 1) = some p :=
  List.lookup_cons_self

/-- The last mark of a group leaves its first one. -/
theorem lookup_first_cons_last :
    ((2 * i + 1, p) :: marks).lookup (2 * i) = marks.lookup (2 * i) := by
  rw [List.lookup_cons, beq_eq_false_iff_ne.2 (by omega)]

end Marks

/-- On the way from one place to another the marks of each group stay the same, or both of them are
noted in their order. -/
structure Notes (x y : Nat × Marks) : Prop where
  forward : x.1 ≤ y.1
  group : ∀ i, Marks.Same i x.2 y.2 ∨
    ∃ first last, x.1 ≤ first ∧ first ≤ last ∧ last ≤ y.1 ∧ Marks.Ends i first last y.2

namespace Notes

theorem refl (x : Nat × Marks) : Notes x x := ⟨Nat.le_refl _, fun i => .inl (.refl i _)⟩

theorem trans {x y z : Nat × Marks} (h : Notes x y) (h' : Notes y z) : Notes x z := by
  refine ⟨Nat.le_trans h.forward h'.forward, fun i => ?_⟩
  rcases h'.group i with hsame | ⟨first, last, hfirst, hle, hlast, hends⟩
  · rcases h.group i with hsame' | ⟨first, last, hfirst, hle, hlast, hends⟩
    · exact .inl (hsame'.trans hsame)
    · exact .inr ⟨first, last, hfirst, hle, Nat.le_trans hlast h'.forward, hsame.ends hends⟩
  · exact .inr ⟨first, last, Nat.le_trans h.forward hfirst, hle, hlast, hends⟩

/-- A group notes its marks around what is noted inside. -/
theorem enclose {index : Nat} {x z : Nat × Marks}
    (h : Notes (x.1, (2 * index, x.1) :: x.2) z) :
    Notes x (z.1, (2 * index + 1, z.1) :: z.2) := by
  refine ⟨h.forward, fun i => ?_⟩
  by_cases hi : i = index
  · -- the first mark is the one noted here, or that of a group of the same number further in
    subst hi
    have hlast : ((2 * i + 1, z.1) :: z.2).lookup (2 * i + 1) = some z.1 := Marks.lookup_last
    rcases h.group i with hsame | ⟨first, last, hfirst, hle, hlast', hends⟩
    · refine .inr ⟨x.1, z.1, Nat.le_refl _, h.forward, Nat.le_refl _, ?_, hlast⟩
      rw [Marks.lookup_first_cons_last, hsame.1]
      exact Marks.lookup_first
    · refine .inr ⟨first, z.1, hfirst, Nat.le_trans hle hlast', Nat.le_refl _, ?_, hlast⟩
      rw [Marks.lookup_first_cons_last]
      exact hends.1
  · have hopening : Marks.Same i x.2 ((2 * index, x.1) :: x.2) := Marks.same_cons (by omega)
    have hclosing : Marks.Same i z.2 ((2 * index + 1, z.1) :: z.2) := Marks.same_cons (by omega)
    rcases h.group i with hsame | ⟨first, last, hfirst, hle, hlast, hends⟩
    · exact .inl ((hopening.trans hsame).trans hclosing)
    · exact .inr ⟨first, last, hfirst, hle, hlast, hclosing.ends hends⟩

end Notes

namespace Machine

/-- What holds of a character that is taken, of a group around what it holds of, and of one way
after another holds of every way through an expression. -/
theorem Passes.induction {ρ : Type} {m : Machine ρ} {Q : Nat × ρ → Nat × ρ → Prop}
    (hrefl : ∀ x, Q x x) (htrans : ∀ {x y z}, Q x y → Q y z → Q x z)
    (hset : ∀ {x c}, m.after? x.1 = some c → Q x (x.1 + 1, x.2)) {e : Expr}
    (hgroup : ∀ {index name x z}, (index, name) ∈ e.captures →
      Q (x.1, m.note (2 * index) x.1 x.2) z → Q x (z.1, m.note (2 * index + 1) z.1 z.2))
    {x y : Nat × ρ} (h : m.Passes e x y) : Q x y := by
  induction e generalizing x y with
  | empty =>
    obtain rfl : y = x := h
    exact hrefl y
  | set s =>
    obtain ⟨⟨c, hc, -⟩, rfl⟩ := h
    exact hset hc
  | look l =>
    obtain ⟨-, rfl⟩ := h
    exact hrefl y
  | group index name e ih =>
    obtain ⟨z, hz, rfl⟩ := h
    exact hgroup List.mem_cons_self
      (ih (fun hmem hQ => hgroup (List.mem_cons_of_mem _ hmem) hQ) hz)
  | rep min max greedy e ih =>
    obtain ⟨n, -, -, hrounds⟩ := h
    exact hrounds.lift hrefl htrans (fun hround => ih hgroup hround)
  | seq a b iha ihb =>
    obtain ⟨z, hz, hy⟩ := h
    exact htrans (iha (fun hmem hQ => hgroup (List.mem_append_left _ hmem) hQ) hz)
      (ihb (fun hmem hQ => hgroup (List.mem_append_right _ hmem) hQ) hy)
  | alt a b iha ihb =>
    rcases h with h | h
    · exact iha (fun hmem hQ => hgroup (List.mem_append_left _ hmem) hQ) h
    · exact ihb (fun hmem hQ => hgroup (List.mem_append_right _ hmem) hQ) h

theorem Passes.forward {ρ : Type} {m : Machine ρ} {e : Expr} {x y : Nat × ρ}
    (h : m.Passes e x y) : Forward m x y := by
  refine Passes.induction Forward.refl Forward.trans (fun {x c} hc => ?_) (fun _ hQ => hQ) h
  have hlt : x.1 < m.subject.size := (Array.getElem?_eq_some_iff.1 hc).1
  exact ⟨Nat.le_succ _, fun _ => hlt⟩

variable {subject : List Char} {e : Expr} {x y : Nat × Marks}

/-- On every way through an expression the marks of a group are noted in pairs. -/
theorem Passes.notes (h : (marking subject).Passes e x y) : Notes x y :=
  Passes.induction Notes.refl Notes.trans
    (fun {x _} _ => ⟨Nat.le_succ _, fun i => .inl (.refl i x.2)⟩)
    (fun _ hQ => hQ.enclose) h

/-- The marks of a number that no group of an expression has stay the same. -/
theorem Passes.same {i : Nat} (hi : ∀ name, (i, name) ∉ e.captures)
    (h : (marking subject).Passes e x y) : Marks.Same i x.2 y.2 := by
  refine Passes.induction (Q := fun x y => Marks.Same i x.2 y.2) (fun x => .refl i x.2)
    Marks.Same.trans (fun {x _} _ => .refl i x.2) (fun {index name x z} hmem hQ => ?_) h
  have hne : index ≠ i := by
    rintro rfl
    exact hi name hmem
  have hopening : Marks.Same i x.2 ((2 * index, x.1) :: x.2) := Marks.same_cons (by omega)
  exact (hopening.trans hQ).trans (Marks.same_cons (by omega))

end Machine

/-- The marks that a search finds: those of the whole match are in the subject, and those of each
group that took part are between them and in their order. -/
theorem marks_of_findMarks {e : Expr} {subject : List Char} {marks : Marks}
    (hzero : ∀ name, (0, name) ∉ e.captures)
    (h : findMarks e.program subject.toArray = some marks) :
    ∃ p q, p ≤ q ∧ q ≤ subject.length ∧ Marks.Ends 0 p q marks ∧ Marks.Within p q marks := by
  obtain ⟨p, hp, y, hpasses, rfl⟩ := passes_of_findMarks h
  obtain ⟨hle, hsize⟩ := hpasses.forward
  have hnotes := hpasses.notes
  refine ⟨p, y.1, hle, hsize hp, ?_, fun i => ?_⟩
  · -- nothing inside the whole match notes its marks again
    obtain ⟨z, hz, rfl⟩ := hpasses
    have hsame := hz.same hzero
    refine ⟨?_, Marks.lookup_last⟩
    exact Marks.lookup_first_cons_last.trans hsame.1
  · rcases hnotes.group i with hsame | hends
    · exact .inl hsame
    · exact .inr hends

end FluentRegex
