import FluentRegex.Machine.Program
import Std.Data.HashSet

/-!
# Running a program

A run keeps a list of threads, each at an address and at a place in the subject, in order of
preference. The first thread makes one step, and what it leads to takes its place at the front. A
pair of address and place is entered only once: whatever it leads to was already tried with a
higher preference. The first thread that reaches `stop` has won.

A search begins with one thread per place of the subject, from left to right, so the leftmost
match wins, and among the matches there the preferred one.

What a run records at its marks is a parameter of the machine: all marks for a search with
captures, nothing for a plain test.
-/

namespace FluentRegex

/-- A program, the subject that it runs on, and what it records at a mark: from the slot, the place
and the record so far it makes the new record. -/
structure Machine (ρ : Type) where
  program : Array Instr
  subject : Array Char
  note : Nat → Nat → ρ → ρ

/-- An instruction about to run: its address, the place in the subject, and what was recorded. -/
structure Thread (ρ : Type) where
  address : Nat
  place : Nat
  record : ρ

namespace Machine

variable {ρ : Type}

/-- The instruction at an address. -/
def instr? (m : Machine ρ) (address : Nat) : Option Instr := m.program[address]?

/-- The character after a place. -/
def after? (m : Machine ρ) (place : Nat) : Option Char := m.subject[place]?

/-- The character before a place. -/
def before? (m : Machine ρ) (place : Nat) : Option Char :=
  match place with
  | 0 => none
  | place + 1 => m.subject[place]?

/-- Where a thread leads, in order of preference. -/
def next (m : Machine ρ) (t : Thread ρ) : List (Thread ρ) :=
  match m.instr? t.address with
  | some (.char s) =>
    match m.after? t.place with
    | some c => if s.contains c then [⟨t.address + 1, t.place + 1, t.record⟩] else []
    | none => []
  | some (.look l) =>
    if l.holds (m.before? t.place) (m.after? t.place) then [⟨t.address + 1, t.place, t.record⟩]
    else []
  | some (.mark slot) => [⟨t.address + 1, t.place, m.note slot t.place t.record⟩]
  | some (.split first second) => [⟨first, t.place, t.record⟩, ⟨second, t.place, t.record⟩]
  | some (.jump target) => [⟨target, t.place, t.record⟩]
  | some .stop => []
  | none => []

/-- Runs threads in order of preference until one stops, and gives its record. `seen` holds the
addresses and places that have been entered. Each pair is entered once and leads to two threads at
most, which bounds the steps that `fuel` counts. -/
def run (m : Machine ρ) : (fuel : Nat) → List (Thread ρ) → (seen : Std.HashSet (Nat × Nat)) →
    Option ρ
  | 0, _, _ => none
  | _ + 1, [], _ => none
  | fuel + 1, t :: ts, seen =>
    if seen.contains (t.address, t.place) then m.run fuel ts seen
    else if m.instr? t.address = some .stop then some t.record
    else m.run fuel (m.next t ++ ts) (seen.insert (t.address, t.place))

/-- The threads with which a search begins, one per place. -/
def starts (m : Machine ρ) (blank : ρ) : List (Thread ρ) :=
  (List.range (m.subject.size + 1)).map fun place => ⟨0, place, blank⟩

/-- A bound on the steps of a search. -/
def stepBound (m : Machine ρ) : Nat := (2 * m.program.size + 1) * (m.subject.size + 1) + 1

/-- What the preferred match at the leftmost place records. -/
def search (m : Machine ρ) (blank : ρ) : Option ρ := m.run m.stepBound (m.starts blank) ∅

end Machine

/-- The places noted for each slot, the latest first. -/
abbrev Marks := List (Nat × Nat)

/-- The marks of the first match of a program in a subject. -/
def findMarks (program : Array Instr) (subject : Array Char) : Option Marks :=
  (Machine.mk program subject fun slot place marks => (slot, place) :: marks).search []

/-- Whether a program has a match in a subject. -/
def hasMatch (program : Array Instr) (subject : Array Char) : Bool :=
  ((Machine.mk program subject fun _ _ u => u).search ()).isSome

end FluentRegex
