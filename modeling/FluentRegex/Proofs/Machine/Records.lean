import FluentRegex.Machine.Search

/-!
# Records decide nothing

A machine records what its parameter says, and no step looks at a record. So where threads lead, and
whether one of them stops, is the same for two machines that run the same program on the same
subject (`Twin`), whatever each of them records:

> `hasMatch_eq`: the plain test and the search with captures come to the same answer.
-/

namespace FluentRegex

/-- The address and the place of a thread: all that decides where it leads. -/
def Thread.spot {ρ : Type} (t : Thread ρ) : Nat × Nat := (t.address, t.place)

namespace Machine

variable {ρ σ : Type} {m : Machine ρ} {m' : Machine σ}

/-- Two machines that differ at most in what they record. -/
structure Twin (m : Machine ρ) (m' : Machine σ) : Prop where
  program : m.program = m'.program
  subject : m.subject = m'.subject

theorem Twin.refl (m : Machine ρ) : Twin m m := ⟨rfl, rfl⟩

namespace Twin

section

variable (h : Twin m m')

include h

theorem instr? (address : Nat) : m.instr? address = m'.instr? address :=
  congrArg (·[address]?) h.program

theorem after? (place : Nat) : m.after? place = m'.after? place :=
  congrArg (·[place]?) h.subject

theorem before? (place : Nat) : m.before? place = m'.before? place := by
  cases place with
  | zero => rfl
  | succ place => exact h.after? place

/-- One step leads to the same spots, whatever was recorded. -/
theorem spots_next {t : Thread ρ} {u : Thread σ} (hspot : t.spot = u.spot) :
    (m.next t).map Thread.spot = (m'.next u).map Thread.spot := by
  obtain ⟨a, p, r⟩ := t
  obtain ⟨b, q, r'⟩ := u
  obtain ⟨rfl, rfl⟩ : a = b ∧ p = q := by simpa [Thread.spot] using hspot
  unfold next
  dsimp only
  rw [h.instr?, h.after?, h.before?]
  cases m'.instr? a with
  | none => rfl
  | some i =>
    cases i with
    | char s =>
      cases m'.after? p with
      | none => rfl
      | some c =>
        dsimp only
        split <;> rfl
    | look l =>
      dsimp only
      split <;> rfl
    | mark slot => rfl
    | split first second => rfl
    | jump target => rfl
    | stop => rfl

/-- A whole run makes the same steps, and stops where the other one does. -/
theorem isSome_run {ts : List (Thread ρ)} {us : List (Thread σ)}
    (hspots : ts.map Thread.spot = us.map Thread.spot) (fuel : Nat)
    (seen : Std.HashSet (Nat × Nat)) :
    (m.run fuel ts seen).isSome = (m'.run fuel us seen).isSome := by
  induction fuel generalizing ts us seen with
  | zero => rfl
  | succ fuel ih =>
    cases ts with
    | nil =>
      obtain rfl : us = [] := List.map_eq_nil_iff.1 hspots.symm
      rfl
    | cons t ts =>
      obtain ⟨u, us, rfl, hspot, hrest⟩ := List.map_eq_cons_iff.1 hspots.symm
      have hmark : (u.address, u.place) = (t.address, t.place) := hspot
      have haddress : u.address = t.address := congrArg Prod.fst hspot
      -- what was seen are spots, not records, so both runs skip the same threads
      rw [run, run, hmark, haddress, h.instr?]
      by_cases hseen : seen.contains (t.address, t.place) = true
      · rw [if_pos hseen, if_pos hseen]
        exact ih hrest.symm seen
      · rw [if_neg hseen, if_neg hseen]
        by_cases hstop : m'.instr? t.address = some .stop
        · rw [if_pos hstop, if_pos hstop]
          rfl
        · rw [if_neg hstop, if_neg hstop]
          refine ih ?_ _
          rw [List.map_append, List.map_append, h.spots_next hspot.symm, hrest]

theorem isSome_search (blank : ρ) (blank' : σ) :
    (m.search blank).isSome = (m'.search blank').isSome := by
  have hbound : m.stepBound = m'.stepBound := by
    rw [stepBound, stepBound, h.program, h.subject]
  unfold search
  rw [hbound]
  refine h.isSome_run ?_ _ _
  unfold starts
  rw [List.map_map, List.map_map, h.subject]
  rfl

end

end Twin

end Machine

/-- The plain test answers whether the search with captures finds a match. -/
theorem hasMatch_eq (program : Array Instr) (subject : Array Char) :
    hasMatch program subject = (findMarks program subject).isSome := by
  have htwin : Machine.Twin (⟨program, subject, fun _ _ u => u⟩ : Machine Unit)
      (⟨program, subject, fun slot place marks => (slot, place) :: marks⟩ : Machine Marks) :=
    ⟨rfl, rfl⟩
  exact htwin.isSome_search () []

end FluentRegex
