import FluentRegex.Proofs.Syntax.Cursor
import FluentRegex.Proofs.Syntax.Part

/-!
# Reading on

The reading of a pattern is a chain of steps, and what a prefix leaves behind is one `Progress`.
`Progress.Leads p q` says that reading on from `p` is reading on from `q`, whatever the fuel, and
`Progress.Refuses p` that reading on from `p` ends with a fault:

> `parse_of_leads`: a pattern that leads to its end has the tree that its end has.
> `parse_of_refuses`: a pattern that is refused on the way has none.

`Progress.Adds` is the form in which the pieces of a pattern are read: some parts more at the
current level, and nothing else changed but the groups in use. Pieces follow one another by
`Adds.trans`.
-/

namespace FluentRegex.Syntax

namespace Progress

/-! ## From one progress to another -/

/-- Reading on from the first progress is reading on from the second. The steps between are at
most as many as the characters that they take up. -/
def Leads (p q : Progress) : Prop :=
  ∃ k, k + q.cursor.rest.length ≤ p.cursor.rest.length ∧ ∀ fuel, run (k + fuel) p = run fuel q

/-- Reading on comes to a fault. -/
def Refuses (p : Progress) : Prop :=
  ∃ e, ∀ fuel, p.cursor.rest.length < fuel → run fuel p = .error e

theorem Leads.refl (p : Progress) : p.Leads p :=
  ⟨0, by omega, fun fuel => by rw [Nat.zero_add]⟩

theorem Leads.trans {p q r : Progress} (h1 : p.Leads q) (h2 : q.Leads r) : p.Leads r := by
  obtain ⟨k, hk, hrun⟩ := h1
  obtain ⟨l, hl, hrun'⟩ := h2
  refine ⟨k + l, by omega, fun fuel => ?_⟩
  rw [Nat.add_assoc, hrun, hrun']

theorem Leads.refuses {p q : Progress} (h : p.Leads q) (hq : q.Refuses) : p.Refuses := by
  obtain ⟨k, hk, hrun⟩ := h
  obtain ⟨e, he⟩ := hq
  refine ⟨e, fun fuel hfuel => ?_⟩
  -- the steps up to `q` use up no more fuel than they take up characters
  obtain ⟨more, rfl⟩ : ∃ more, fuel = k + more := ⟨fuel - k, by omega⟩
  rw [hrun]
  exact he more (by omega)

theorem run_succ {p : Progress} {d : Char} {rest : List Char} (hp : p.cursor.At (d :: rest))
    (fuel : Nat) : run (fuel + 1) p = match p.step d with
      | .error e => .error e
      | .ok q => run fuel q := by
  rw [run, hp.skipBlanks]
  dsimp only
  rw [hp.peek?]
  rfl

theorem leads_step {p q : Progress} {d : Char} {rest : List Char} (hp : p.cursor.At (d :: rest))
    (hstep : p.step d = .ok q) (hlen : q.cursor.rest.length ≤ rest.length) : p.Leads q := by
  refine ⟨1, ?_, fun fuel => ?_⟩
  · rw [hp.rest, List.length_cons]
    omega
  · rw [Nat.add_comm, run_succ hp, hstep]

theorem refuses_of_step {p : Progress} {d : Char} {rest : List Char} {e : Fault}
    (hp : p.cursor.At (d :: rest)) (hstep : p.step d = .error e) : p.Refuses := by
  refine ⟨e, fun fuel hfuel => ?_⟩
  obtain ⟨more, rfl⟩ : ∃ more, fuel = more + 1 := ⟨fuel - 1, by omega⟩
  rw [run_succ hp, hstep]

/-! ## Pieces of a pattern -/

/-- Reading on from the first progress comes to the second, which stands before `rest` and has the
given parts more at its level, and the given groups. -/
structure Adds (m : Modes) (p : Progress) (ps : List Part) (groups : Groups) (rest : List Char)
    (q : Progress) : Prop where
  leads : p.Leads q
  cursor : q.cursor.At rest
  opened : q.opened = p.opened
  branches : q.level.branches = p.level.branches
  items : ∃ ts, q.level.items = ts ++ p.level.items ∧
    List.Forall₂ (Tree.IsItem m) ts ps.reverse
  groups : q.groups = groups

variable {m : Modes}

theorem Adds.nil {p : Progress} {rest : List Char} (hp : p.cursor.At rest) :
    p.Adds m [] p.groups rest p :=
  ⟨.refl p, hp, rfl, rfl, ⟨[], rfl, .nil⟩, rfl⟩

theorem Adds.trans {p q r : Progress} {ps qs : List Part} {g g' : Groups} {rest rest' : List Char}
    (h1 : p.Adds m ps g rest q) (h2 : q.Adds m qs g' rest' r) :
    p.Adds m (ps ++ qs) g' rest' r := by
  obtain ⟨ts, hts, hmeans⟩ := h1.items
  obtain ⟨us, hus, hmeans'⟩ := h2.items
  refine ⟨h1.leads.trans h2.leads, h2.cursor, h2.opened.trans h1.opened,
    h2.branches.trans h1.branches, ⟨us ++ ts, ?_, ?_⟩, h2.groups⟩
  · rw [hus, hts, List.append_assoc]
  · rw [List.reverse_append]
    exact List.rel_append hmeans' hmeans

/-- A step that adds one item. -/
theorem adds_push {p : Progress} {d : Char} {r rest : List Char} {t : Tree} {c : Cursor}
    {part : Part} (hp : p.cursor.At (d :: r)) (hstep : p.step d = .ok (p.push t c))
    (hc : c.At rest) (hlen : rest.length ≤ r.length) (ht : t.IsItem m part) :
    p.Adds m [part] p.groups rest (p.push t c) := by
  refine ⟨leads_step hp hstep ?_, hc, rfl, rfl, ⟨[t], rfl, .cons ht .nil⟩, rfl⟩
  show c.rest.length ≤ r.length
  rw [hc.rest]
  exact hlen

/-! ## Whole patterns -/

theorem run_of_leads {pattern : List Char} {q : Progress} (h : (start pattern).Leads q)
    (hq : q.cursor.At []) : run (pattern.length + 1) (start pattern) = .ok q := by
  obtain ⟨k, hk, hrun⟩ := h
  have hk' : k ≤ pattern.length := Nat.le_trans (Nat.le_add_right _ _) hk
  obtain ⟨more, hmore⟩ : ∃ more, pattern.length + 1 = k + (more + 1) :=
    ⟨pattern.length - k, by omega⟩
  rw [hmore, hrun, run, hq.skipBlanks]
  dsimp only
  rw [hq.peek?]
  rfl

end Progress

theorem parse_of_leads {pattern : List Char} {q : Progress}
    (h : (Progress.start pattern).Leads q) (hq : q.cursor.At []) :
    parse pattern = q.finish := by
  rw [parse, Progress.run_of_leads h hq]

theorem parse_of_refuses {pattern : List Char} (h : (Progress.start pattern).Refuses) :
    ∃ e, parse pattern = .error e := by
  obtain ⟨e, he⟩ := h
  refine ⟨e, ?_⟩
  rw [parse, he (pattern.length + 1) (Nat.lt_succ_self _)]

end FluentRegex.Syntax
