import FluentRegex.Unicode.GeneralCategory
import FluentRegex.Unicode.ListedProperty
import FluentRegex.Unicode.Segmentation

/-!
# Derived properties

Yes-or-no properties that the standard computes from general categories and listed properties.
Each definition is the standard's formula.
-/

namespace FluentRegex.Derived

open GeneralCategory (anyOf letters marks)

/-- The listed characters of a property. -/
private def listed (name : String) : CharSet := ListedProperty.members name

/-- `Lowercase`: the lowercase letters and their like. -/
def lowercase : CharSet := (anyOf [.lowercaseLetter]).union (listed "Other_Lowercase")

/-- `Uppercase`: the uppercase letters and their like. -/
def uppercase : CharSet := (anyOf [.uppercaseLetter]).union (listed "Other_Uppercase")

/-- `Cased`: what is lowercase, uppercase or titlecase. -/
def cased : CharSet := (lowercase.union uppercase).union (anyOf [.titlecaseLetter])

/-- `Alphabetic`: the letters and their like. -/
def alphabetic : CharSet :=
  (cased.union (anyOf [.modifierLetter, .otherLetter, .letterNumber])).union
    (listed "Other_Alphabetic")

/-- `Math`: the mathematical symbols and their like. -/
def math : CharSet := (anyOf [.mathSymbol]).union (listed "Other_Math")

/-- `Grapheme_Extend`: the marks that attach to what stands before them. -/
def graphemeExtend : CharSet :=
  (anyOf [.enclosingMark, .nonspacingMark]).union (listed "Other_Grapheme_Extend")

/-- `Grapheme_Base`: what can carry a mark. -/
def graphemeBase : CharSet :=
  (anyOf (letters ++ GeneralCategory.numbers ++ GeneralCategory.punctuation ++
    GeneralCategory.symbols ++ [.spacingMark, .spaceSeparator])).diff graphemeExtend

/-- Characters kept free for the syntax of patterns. -/
private def patternReserved : CharSet :=
  (listed "Pattern_Syntax").union (listed "Pattern_White_Space")

/-- `ID_Start`: what may begin an identifier. -/
def idStart : CharSet :=
  ((anyOf (letters ++ [.letterNumber])).union (listed "Other_ID_Start")).diff patternReserved

/-- `ID_Continue`: what may continue an identifier. -/
def idContinue : CharSet :=
  ((idStart.union (anyOf [.nonspacingMark, .spacingMark, .decimalNumber, .connectorPunctuation])).union
    (listed "Other_ID_Continue")).diff patternReserved

/-- What compatibility decomposition would carry out of `ID_Continue`. -/
private def unstableContinue : CharSet :=
  RangeText.set "37A 309B-309C FC5E-FC63 FDFA-FDFB FE70 FE72 FE74 FE76 FE78 FE7A FE7C FE7E"

/-- `XID_Start`: the part of `ID_Start` that compatibility decomposition keeps. -/
def xidStart : CharSet :=
  (idStart.diff unstableContinue).diff (RangeText.set "E33 EB3 FF9E-FF9F")

/-- `XID_Continue`: the part of `ID_Continue` that compatibility decomposition keeps. -/
def xidContinue : CharSet := idContinue.diff unstableContinue

/-- `Case_Ignorable`: what does not interrupt a word when its case is decided. -/
def caseIgnorable : CharSet :=
  (anyOf [.nonspacingMark, .enclosingMark, .format, .modifierLetter, .modifierSymbol]).union
    (CharSet.ofCodes
      (["MidLetter", "MidNumLet", "Single_Quote"].flatMap fun name =>
        match Segmentation.word.find? (·.1 == name) with
        | some (_, _, table) => RangeText.ranges table.toList
        | none => []))

/-- `Default_Ignorable_Code_Point`: what a display leaves out when it cannot show it. -/
def defaultIgnorable : CharSet :=
  ((((listed "Other_Default_Ignorable_Code_Point").union (anyOf [.format])).union
    (listed "Variation_Selector")).diff (listed "White_Space")).diff
    ((RangeText.set "FFF9-FFFB 13430-13440").union (listed "Prepended_Concatenation_Mark"))

/-- `Changes_When_Casemapped`: what some case mapping changes. -/
def changesWhenCasemapped : CharSet :=
  ((listed "Changes_When_Lowercased").union (listed "Changes_When_Uppercased")).union
    (listed "Changes_When_Titlecased")

/-- The derived properties, by name and short name. -/
def entries : List (String × String × (Unit → CharSet)) := [
  ("Lowercase", "Lower", fun _ => lowercase),
  ("Uppercase", "Upper", fun _ => uppercase),
  ("Cased", "Cased", fun _ => cased),
  ("Alphabetic", "Alpha", fun _ => alphabetic),
  ("Math", "Math", fun _ => math),
  ("Grapheme_Extend", "Gr_Ext", fun _ => graphemeExtend),
  ("Grapheme_Base", "Gr_Base", fun _ => graphemeBase),
  ("ID_Start", "IDS", fun _ => idStart),
  ("ID_Continue", "IDC", fun _ => idContinue),
  ("XID_Start", "XIDS", fun _ => xidStart),
  ("XID_Continue", "XIDC", fun _ => xidContinue),
  ("Case_Ignorable", "CI", fun _ => caseIgnorable),
  ("Default_Ignorable_Code_Point", "DI", fun _ => defaultIgnorable),
  ("Changes_When_Casemapped", "CWCM", fun _ => changesWhenCasemapped)]

end FluentRegex.Derived
