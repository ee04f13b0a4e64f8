import FluentRegex.Expr.Basic

/-!
# Programs

An expression becomes a list of instructions that run from the top. `char` takes a character,
`look` tests the place, `mark` notes it, and `split` leaves two ways to go on, the first one
preferred. The instructions of an expression end where those of the next begin, so the only
addresses are those of splits and jumps; `Expr.width` tells how far they go
(`length_code : (e.code base).length = e.width`).

A repetition is written out round by round. Without an upper bound its last round can go back to
its own beginning. The body of a repetition that may go round no times and may match nothing is
entered through a split of its own: `e*` is then run as `(e+)?`, so that a round which takes up no
characters does not lose the preference for leaving.
-/

namespace FluentRegex

/-- An instruction. Addresses count instructions from the top of the program. -/
inductive Instr
  | char (s : CharSet)
  | look (l : Look)
  | mark (slot : Nat)
  | split (first second : Nat)
  | jump (target : Nat)
  | stop
deriving DecidableEq, Inhabited

/-- A split that prefers `inside` where the repetition is greedy. -/
def Instr.choose (greedy : Bool) (inside outside : Nat) : Instr :=
  if greedy then .split inside outside else .split outside inside

namespace Expr

/-- The number of instructions of an expression. -/
def width : Expr → Nat
  | .empty => 0
  | .set _ => 1
  | .look _ => 1
  | .group _ _ e => e.width + 2
  | .rep min max _ e =>
    match max with
    | some max => min * e.width + (max - min) * (e.width + 1)
    | none => if min = 0 then e.width + 2 else min * e.width + 1
  | .seq a b => a.width + b.width
  | .alt a b => a.width + b.width + 2

/-- The instructions of an expression whose first one stands at `base`. -/
def code : Expr → (base : Nat) → List Instr
  | .empty, _ => []
  | .set s, _ => [.char s]
  | .look l, _ => [.look l]
  | .group index _ e, base => .mark (2 * index) :: e.code (base + 1) ++ [.mark (2 * index + 1)]
  | .rep min max greedy e, base =>
    -- The rounds that have to be made, one after the other.
    let rounds := fun n => (List.range n).flatMap fun i => e.code (base + i * e.width)
    match max with
    | some max =>
      -- Then the rounds that may be made; leaving one out leaves out all that follow.
      let top := base + min * e.width
      let exit := top + (max - min) * (e.width + 1)
      rounds min ++ (List.range (max - min)).flatMap fun i =>
        .choose greedy (top + i * (e.width + 1) + 1) exit :: e.code (top + i * (e.width + 1) + 1)
    | none =>
      if min = 0 then
        let exit := base + e.width + 2
        .choose greedy (base + 1) exit :: e.code (base + 1) ++
          [if e.neverEmpty then .jump base else .choose greedy (base + 1) exit]
      else
        let last := base + (min - 1) * e.width
        rounds min ++ [.choose greedy last (last + e.width + 1)]
  | .seq a b, base => a.code base ++ b.code (base + a.width)
  | .alt a b, base =>
    let second := base + a.width + 2
    .split (base + 1) second :: a.code (base + 1) ++
      .jump (second + b.width) :: b.code second

/-- The program of an expression. Slots 0 and 1 hold the ends of the whole match. -/
def program (e : Expr) : Array Instr := ((Expr.group 0 none e).code 0 ++ [Instr.stop]).toArray

theorem length_flatMap_range (f : Nat → List Instr) (w : Nat) (h : ∀ i, (f i).length = w)
    (n : Nat) : ((List.range n).flatMap f).length = n * w := by
  induction n with
  | zero => simp
  | succ n ih => simp [List.range_succ, ih, h, Nat.succ_mul]

/-- An expression takes up as many instructions as its width says. -/
theorem length_code (e : Expr) (base : Nat) : (e.code base).length = e.width := by
  induction e generalizing base with
  | empty => rfl
  | set s => rfl
  | look l => rfl
  | group index name e ih => simp [code, width, ih]
  | rep min max greedy e ih =>
    have hrounds := length_flatMap_range (fun i => e.code (base + i * e.width)) e.width
      (fun i => ih _)
    cases max with
    | some max =>
      have hoptions := fun top exit => length_flatMap_range
        (fun i => Instr.choose greedy (top + i * (e.width + 1) + 1) exit ::
          e.code (top + i * (e.width + 1) + 1)) (e.width + 1) (fun i => by simp [ih])
      simp only [code, width, List.length_append, hrounds, hoptions]
    | none =>
      by_cases h : min = 0
      · simp [code, width, h, ih]
      · simp [code, width, h, hrounds]
  | seq a b iha ihb => simp [code, width, iha, ihb]
  | alt a b iha ihb => simp [code, width, iha, ihb]; omega

end Expr

end FluentRegex
