import FluentRegex.Text.Utf8
import Mathlib.Data.List.Basic

/-!
# Texts as bytes

Offsets count the bytes that a text takes up in UTF-8 (`utf8ByteSize_ofList`), and names are put in
the order of their characters. That is the order of their bytes as well:

> `bytes_lt`: of two texts in the order of their characters the first one has the lesser bytes.

UTF-8 writes a higher code point with more bytes or with higher ones, and the first byte tells how
many there are, so two different characters differ before either of them ends.
-/

namespace FluentRegex.Text

/-- The bytes of a text in UTF-8. -/
def bytes (text : String) : List UInt8 := text.toUTF8.data.toList

theorem bytes_ofList (cs : List Char) :
    bytes (String.ofList cs) = cs.flatMap String.utf8EncodeChar := by
  unfold bytes
  rw [String.toUTF8, String.toByteArray_ofList, List.utf8Encode, List.toList_data_toByteArray]

theorem length_bytes (text : String) : (bytes text).length = text.utf8ByteSize :=
  Array.length_toList

theorem utf8ByteSize_ofList (cs : List Char) :
    (String.ofList cs).utf8ByteSize = byteLength cs := by
  rw [← length_bytes, bytes_ofList]
  induction cs with
  | nil => rfl
  | cons c cs ih =>
    rw [List.flatMap_cons, List.length_append, String.length_utf8EncodeChar, ih, byteLength_cons]

/-! ## The order of bytes -/

section

variable {m n : Nat} {xs ys : List UInt8}

theorem cons_lt_of_lt (h : m < n) (hn : n < 256) : UInt8.ofNat m :: xs < UInt8.ofNat n :: ys := by
  refine List.cons_lt_cons_iff.2 (.inl ?_)
  rw [UInt8.lt_iff_toNat_lt, UInt8.toNat_ofNat_of_lt' hn,
    UInt8.toNat_ofNat_of_lt' (Nat.lt_trans h hn)]
  exact h

theorem cons_lt_of_le (h : m ≤ n) (hn : n < 256) (hrest : m = n → xs < ys) :
    UInt8.ofNat m :: xs < UInt8.ofNat n :: ys := by
  rcases Nat.lt_or_eq_of_le h with hlt | rfl
  · exact cons_lt_of_lt hlt hn
  · exact List.cons_lt_cons_iff.2 (.inr ⟨rfl, hrest rfl⟩)

end

/-- The bytes of a higher code point are greater, whatever comes after them. -/
theorem encode_lt {c d : Char} (h : c.val.toNat < d.val.toNat) (xs ys : List UInt8) :
    String.utf8EncodeChar c ++ xs < String.utf8EncodeChar d ++ ys := by
  have hmax : d.val.toNat < 0x110000 := by
    rcases d.valid with hd | hd
    · exact Nat.lt_trans hd (by decide)
    · exact hd.2
  unfold String.utf8EncodeChar
  generalize c.val.toNat = v at h
  generalize d.val.toNat = w at h hmax
  dsimp only
  -- with as many bytes the first that differs is higher, and with more the first byte already is
  by_cases hv1 : v ≤ 127
  · rw [if_pos hv1]
    by_cases hw1 : w ≤ 127
    · rw [if_pos hw1]
      exact cons_lt_of_lt h (by omega)
    · rw [if_neg hw1]
      split
      · exact cons_lt_of_lt (by omega) (by omega)
      · split
        · exact cons_lt_of_lt (by omega) (by omega)
        · exact cons_lt_of_lt (by omega) (by omega)
  · rw [if_neg hv1, if_neg (show ¬ w ≤ 127 by omega)]
    by_cases hv2 : v ≤ 2047
    · rw [if_pos hv2]
      by_cases hw2 : w ≤ 2047
      · rw [if_pos hw2]
        refine cons_lt_of_le (by omega) (by omega) fun h1 => ?_
        exact cons_lt_of_lt (by omega) (by omega)
      · rw [if_neg hw2]
        split
        · exact cons_lt_of_lt (by omega) (by omega)
        · exact cons_lt_of_lt (by omega) (by omega)
    · rw [if_neg hv2, if_neg (show ¬ w ≤ 2047 by omega)]
      by_cases hv3 : v ≤ 65535
      · rw [if_pos hv3]
        by_cases hw3 : w ≤ 65535
        · rw [if_pos hw3]
          refine cons_lt_of_le (by omega) (by omega) fun h1 => ?_
          refine cons_lt_of_le (by omega) (by omega) fun h2 => ?_
          exact cons_lt_of_lt (by omega) (by omega)
        · rw [if_neg hw3]
          exact cons_lt_of_lt (by omega) (by omega)
      · rw [if_neg hv3, if_neg (show ¬ w ≤ 65535 by omega)]
        refine cons_lt_of_le (by omega) (by omega) fun h1 => ?_
        refine cons_lt_of_le (by omega) (by omega) fun h2 => ?_
        refine cons_lt_of_le (by omega) (by omega) fun h3 => ?_
        exact cons_lt_of_lt (by omega) (by omega)

theorem flatMap_encode_lt {cs ds : List Char} (h : cs < ds) :
    cs.flatMap String.utf8EncodeChar < ds.flatMap String.utf8EncodeChar := by
  have hlex : List.Lex (· < ·) cs ds := h
  induction hlex with
  | @nil d ds =>
    have hne : String.utf8EncodeChar d ++ ds.flatMap String.utf8EncodeChar ≠ [] := by
      intro hnil
      have hlen := String.length_utf8EncodeChar d
      rw [(List.append_eq_nil_iff.1 hnil).1] at hlen
      exact absurd hlen (Nat.ne_of_lt (Char.utf8Size_pos d))
    obtain ⟨b, bs, hb⟩ := List.exists_cons_of_ne_nil hne
    rw [List.flatMap_nil, List.flatMap_cons, hb]
    exact List.nil_lt_cons b bs
  | cons htail ih =>
    rw [List.flatMap_cons, List.flatMap_cons]
    exact List.append_left_lt (ih htail)
  | rel hhead =>
    rw [List.flatMap_cons, List.flatMap_cons]
    exact encode_lt hhead _ _

/-- The order of texts by their characters is the order of their bytes. -/
theorem bytes_lt {a b : String} (h : a < b) : bytes a < bytes b := by
  rw [← String.ofList_toList (s := a), ← String.ofList_toList (s := b), bytes_ofList, bytes_ofList]
  exact flatMap_encode_lt h

end FluentRegex.Text
