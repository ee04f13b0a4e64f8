/-!
# Quoted text for debugging

Text between double quotes and a character between single quotes, with backslash escapes for the
quote itself, the backslash and control characters. Other characters stand for themselves.
-/

namespace FluentRegex.Text

/-- A hexadecimal number in lower case. -/
def hex (n : Nat) : String := String.ofList (Nat.toDigits 16 n)

/-- A character as it stands between the given quotes. -/
def quotedChar (quote c : Char) : String :=
  if c = quote then "\\" ++ String.singleton c
  else match c with
    | '\\' => "\\\\"
    | '\n' => "\\n"
    | '\r' => "\\r"
    | '\t' => "\\t"
    | '\x00' => "\\0"
    | c =>
      if c.toNat < 0x20 || c.toNat = 0x7F then "\\u\x7b" ++ hex c.toNat ++ "\x7d"
      else String.singleton c

/-- Text between double quotes. -/
def quoted (text : String) : String :=
  "\"" ++ String.join (text.toList.map (quotedChar '"')) ++ "\""

/-- A character between single quotes. -/
def quotedSingle (c : Char) : String := "'" ++ quotedChar '\'' c ++ "'"

end FluentRegex.Text
