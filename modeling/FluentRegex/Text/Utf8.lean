/-!
# Places in a text, in bytes

A place between two characters of a text is the number of bytes that the characters before it take
up in UTF-8.
-/

namespace FluentRegex.Text

/-- The bytes that characters take up in UTF-8. -/
def byteLength : List Char → Nat
  | [] => 0
  | c :: cs => c.utf8Size + byteLength cs

/-- The place after the first `n` characters, in bytes. -/
def byteOffset (text : List Char) (n : Nat) : Nat := byteLength (text.take n)

@[simp] theorem byteLength_nil : byteLength [] = 0 := rfl

@[simp] theorem byteLength_cons (c : Char) (cs : List Char) :
    byteLength (c :: cs) = c.utf8Size + byteLength cs := rfl

@[simp] theorem byteLength_append (a b : List Char) :
    byteLength (a ++ b) = byteLength a + byteLength b := by
  induction a with
  | nil => simp
  | cons c cs ih => simp [ih, Nat.add_assoc]

/-- Later places are at higher offsets. -/
theorem byteOffset_mono (text : List Char) {m n : Nat} (h : m ≤ n) :
    byteOffset text m ≤ byteOffset text n := by
  induction text generalizing m n with
  | nil => simp [byteOffset]
  | cons c cs ih =>
    cases m with
    | zero => simp [byteOffset]
    | succ m =>
      cases n with
      | zero => omega
      | succ n =>
        have := ih (m := m) (n := n) (by omega)
        simp only [byteOffset, List.take_succ_cons, byteLength_cons] at this ⊢
        omega

end FluentRegex.Text
