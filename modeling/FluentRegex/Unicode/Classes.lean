import FluentRegex.Unicode.Derived

/-!
# The everyday classes of characters

Word characters, digits, blanks, letters and numerals, each as one set. The ASCII part of each is
written out here and only the rest is read from the tables, so what the classes say about ASCII
can be seen without reading a table (`mem_pinned_ascii`).
-/

namespace FluentRegex

namespace CharSet

/-- The given ASCII ranges, and of `s` the characters beyond ASCII. -/
def pinned (ascii : List (Nat × Nat)) (s : CharSet) : CharSet :=
  (ofCodes ascii).union (s.fromCode 0x80)

theorem mem_pinned {ascii : List (Nat × Nat)} {s : CharSet} {c : Char} :
    c ∈ pinned ascii s ↔
      (∃ r ∈ ascii, r.1 ≤ c.toNat ∧ c.toNat ≤ r.2) ∨ (0x80 ≤ c.toNat ∧ c ∈ s) := by
  unfold pinned
  rw [mem_union, mem_iff, contains, holdsCode_ofCodes, mem_iff, contains, holdsCode_fromCode]
  rfl

/-- On ASCII a pinned set holds exactly what is written out. -/
theorem mem_pinned_ascii {ascii : List (Nat × Nat)} {s : CharSet} {c : Char} (h : c.toNat < 0x80) :
    c ∈ pinned ascii s ↔ ∃ r ∈ ascii, r.1 ≤ c.toNat ∧ c.toNat ≤ r.2 := by
  rw [mem_pinned]
  constructor
  · intro h
    rcases h with h1 | ⟨h1, _⟩
    · exact h1
    · omega
  · exact .inl

/-- The decimal digits. -/
def digits : CharSet := pinned [(0x30, 0x39)] (GeneralCategory.anyOf [.decimalNumber])

/-- The blanks: spaces, tabs and line ends. -/
def blanks : CharSet := pinned [(0x09, 0x0D), (0x20, 0x20)] (ListedProperty.members "White_Space")

/-- The letters and their like. -/
def alphabetic : CharSet := pinned [(0x41, 0x5A), (0x61, 0x7A)] Derived.alphabetic

/-- The numerals: digits, letters that stand for numbers, and all others. -/
def numerals : CharSet := pinned [(0x30, 0x39)] (GeneralCategory.anyOf GeneralCategory.numbers)

/-- The characters that words are made of: letters, marks, digits, connecting punctuation and the
characters that join letters. -/
def wordChars : CharSet :=
  pinned [(0x30, 0x39), (0x41, 0x5A), (0x5F, 0x5F), (0x61, 0x7A)]
    ((Derived.alphabetic.union
      (GeneralCategory.anyOf (GeneralCategory.marks ++ [.decimalNumber, .connectorPunctuation]))).union
      (ListedProperty.members "Join_Control"))

/-- The ASCII digits. -/
def asciiDigits : CharSet := ofCodes [(0x30, 0x39)]

/-- The ASCII blanks. -/
def asciiBlanks : CharSet := ofCodes [(0x09, 0x0D), (0x20, 0x20)]

/-- The ASCII word characters. -/
def asciiWordChars : CharSet := ofCodes [(0x30, 0x39), (0x41, 0x5A), (0x5F, 0x5F), (0x61, 0x7A)]

/-- The ASCII characters. -/
def ascii : CharSet := ofCodes [(0x00, 0x7F)]

end CharSet

/-- Whether a character is a letter or its like. -/
def isAlphabetic (c : Char) : Bool := CharSet.alphabetic.contains c

/-- Whether a character is a letter or a numeral. -/
def isAlphanumeric (c : Char) : Bool := isAlphabetic c || CharSet.numerals.contains c

/-- Whether a character is a blank. -/
def isBlank (c : Char) : Bool := CharSet.blanks.contains c

end FluentRegex
