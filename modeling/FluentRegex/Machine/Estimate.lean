import FluentRegex.Machine.Size

/-!
# An estimate of the size of programs

A measure to run patterns with. It adds up what the instructions of a program take up, which for a
test of a character is the more the more ranges its set has. The rounds of a repetition are written
out in the program one by one, so its body counts once for each of them (`codeBytes_code`).

The estimate is in the right order of magnitude and no more than that: nothing that is said of all
patterns rests on it.
-/

namespace FluentRegex

/-- The bytes of an instruction. -/
def instrBytes : Nat := 24

/-- The bytes of one range of characters. -/
def rangeBytes : Nat := 64

def Instr.bytes : Instr → Nat
  | .char s => instrBytes + s.ranges.length * rangeBytes
  | _ => instrBytes

/-- The bytes of instructions one after the other. -/
def codeBytes : List Instr → Nat
  | [] => 0
  | i :: is => i.bytes + codeBytes is

@[simp] theorem codeBytes_nil : codeBytes [] = 0 := rfl

@[simp] theorem codeBytes_cons (i : Instr) (is : List Instr) :
    codeBytes (i :: is) = i.bytes + codeBytes is := rfl

@[simp] theorem codeBytes_append (is js : List Instr) :
    codeBytes (is ++ js) = codeBytes is + codeBytes js := by
  induction is with
  | nil => simp
  | cons i is ih => simp [ih, Nat.add_assoc]

namespace Expr

/-- The bytes of the instructions of an expression. -/
def bytes : Expr → Nat
  | .empty => 0
  | .set s => (Instr.char s).bytes
  | .look _ => instrBytes
  | .group _ _ e => e.bytes + 2 * instrBytes
  | .rep min max _ e =>
    match max with
    | some max => min * e.bytes + (max - min) * (e.bytes + instrBytes)
    | none => if min = 0 then e.bytes + 2 * instrBytes else min * e.bytes + instrBytes
  | .seq a b => a.bytes + b.bytes
  | .alt a b => a.bytes + b.bytes + 2 * instrBytes

theorem bytes_choose (greedy : Bool) (inside outside : Nat) :
    (Instr.choose greedy inside outside).bytes = instrBytes := by
  cases greedy <;> rfl

theorem codeBytes_flatMap_range (f : Nat → List Instr) (k : Nat) (h : ∀ i, codeBytes (f i) = k)
    (n : Nat) : codeBytes ((List.range n).flatMap f) = n * k := by
  induction n with
  | zero => simp
  | succ n ih => simp [List.range_succ, ih, h, Nat.succ_mul]

/-- The instructions of an expression take up what is said of them without writing them out. -/
theorem codeBytes_code (e : Expr) (base : Nat) : codeBytes (e.code base) = e.bytes := by
  induction e generalizing base with
  | empty => rfl
  | set s => rfl
  | look l => rfl
  | group index name e ih =>
    simp [code, bytes, ih, Instr.bytes]
    omega
  | rep min max greedy e ih =>
    have hrounds := codeBytes_flatMap_range (fun i => e.code (base + i * e.width)) e.bytes
      (fun i => ih _)
    cases max with
    | some max =>
      have hoptions := fun top exit => codeBytes_flatMap_range
        (fun i => Instr.choose greedy (top + i * (e.width + 1) + 1) exit ::
          e.code (top + i * (e.width + 1) + 1)) (e.bytes + instrBytes)
        (fun i => by simp [ih, bytes_choose, Nat.add_comm])
      simp only [code, bytes, codeBytes_append, hrounds, hoptions]
    | none =>
      by_cases h : min = 0
      · have hlast : (if e.neverEmpty then Instr.jump base
            else .choose greedy (base + 1) (base + e.width + 2)).bytes = instrBytes := by
          split
          · rfl
          · exact bytes_choose _ _ _
        simp [code, bytes, h, ih, bytes_choose, hlast]
        omega
      · simp [code, bytes, h, hrounds, bytes_choose]
  | seq a b iha ihb => simp [code, bytes, iha, ihb]
  | alt a b iha ihb =>
    simp [code, bytes, iha, ihb, Instr.bytes]
    omega

end Expr

/-- The bytes of its instructions, for the bytes of a program. -/
@[reducible] def Sizing.estimate : Sizing where
  bytes p := codeBytes p.toList
  bytesOf e := (Expr.group 0 none e).bytes + instrBytes
  bytesOf_eq e := by simp [Expr.program, Expr.codeBytes_code, Instr.bytes]

end FluentRegex
