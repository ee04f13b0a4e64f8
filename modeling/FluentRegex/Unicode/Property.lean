import FluentRegex.Unicode.Derived
import FluentRegex.Unicode.Script
import FluentRegex.Unicode.Age

/-!
# Looking up a property by name

Names of properties and of their values are compared loosely: letter case, blanks, hyphens and
underscores do not count, nor does a leading `is`. `Property.named` answers for a single name,
which may be a yes-or-no property, a general category or a script; `Property.valued` answers for
a property and one of its values.
-/

namespace FluentRegex.Property

/-- Why a look-up fails. -/
inductive LookupError
  | unknownProperty
  | unknownValue
deriving DecidableEq, Repr

/-- The letters and digits by which a name is known, in lower case. A lone `c` that is left of
`isc` stays `isc`, the name of a property of its own. -/
def loose (name : String) : String :=
  let cs := name.toList
  let starts : Bool := match cs with
    | i :: s :: _ => i.toLower == 'i' && s.toLower == 's'
    | _ => false
  let body := ((if starts then cs.drop 2 else cs).filter fun c =>
    c.toNat < 0x80 && c != ' ' && c != '_' && c != '-').map Char.toLower
  String.ofList (if starts && body == ['c'] then ['i', 's', 'c'] else body)

/-- Whether a loose name is one of the given names. -/
def isOneOf (name : String) (names : List String) : Bool := names.any fun n => loose n == name

/-- Properties that have values, or no set of characters to ask for, with their other names. -/
def valueProperties : List (List String) := [
  ["General_Category", "gc", "Category"], ["Script", "sc"], ["Script_Extensions", "scx"],
  ["Age"], ["Grapheme_Cluster_Break", "GCB"], ["Word_Break", "WB"], ["Sentence_Break", "SB"],
  ["Block", "blk"], ["Bidi_Class", "bc"], ["Bidi_Mirroring_Glyph", "bmg"],
  ["Bidi_Paired_Bracket", "bpb"], ["Bidi_Paired_Bracket_Type", "bpt"],
  ["Canonical_Combining_Class", "ccc"], ["Case_Folding", "cf"], ["Composition_Exclusion", "CE"],
  ["Full_Composition_Exclusion", "Comp_Ex"], ["Changes_When_NFKC_Casefolded", "CWKCF"],
  ["Decomposition_Mapping", "dm"], ["Decomposition_Type", "dt"], ["East_Asian_Width", "ea"],
  ["Equivalent_Unified_Ideograph", "EqUIdeo"], ["Expands_On_NFC", "XO_NFC"],
  ["Expands_On_NFD", "XO_NFD"], ["Expands_On_NFKC", "XO_NFKC"], ["Expands_On_NFKD", "XO_NFKD"],
  ["FC_NFKC_Closure", "FC_NFKC"], ["Hangul_Syllable_Type", "hst"],
  ["Indic_Conjunct_Break", "InCB"], ["Indic_Positional_Category", "InPC"],
  ["Indic_Syllabic_Category", "InSC"], ["ISO_Comment", "isc"], ["Jamo_Short_Name", "JSN"],
  ["Joining_Group", "jg"], ["Joining_Type", "jt"], ["Line_Break", "lb"],
  ["Lowercase_Mapping", "lc"], ["Name", "na"], ["Name_Alias"], ["NFC_Quick_Check", "NFC_QC"],
  ["NFD_Quick_Check", "NFD_QC"], ["NFKC_Casefold", "NFKC_CF"], ["NFKC_Quick_Check", "NFKC_QC"],
  ["NFKC_Simple_Casefold", "NFKC_SCF"], ["NFKD_Quick_Check", "NFKD_QC"], ["Numeric_Type", "nt"],
  ["Numeric_Value", "nv"], ["Simple_Case_Folding", "scf", "sfc"],
  ["Simple_Lowercase_Mapping", "slc"], ["Simple_Titlecase_Mapping", "stc"],
  ["Simple_Uppercase_Mapping", "suc"], ["Titlecase_Mapping", "tc"], ["Unicode_1_Name", "na1"],
  ["Uppercase_Mapping", "uc"], ["Vertical_Orientation", "vo"],
  ["kAccountingNumeric", "cjkAccountingNumeric"], ["kCompatibilityVariant", "cjkCompatibilityVariant"],
  ["kIICore", "cjkIICore"], ["kIRG_GSource", "cjkIRG_GSource"], ["kIRG_HSource", "cjkIRG_HSource"],
  ["kIRG_JSource", "cjkIRG_JSource"], ["kIRG_KPSource", "cjkIRG_KPSource"],
  ["kIRG_KSource", "cjkIRG_KSource"], ["kIRG_MSource", "cjkIRG_MSource"],
  ["kIRG_SSource", "cjkIRG_SSource"], ["kIRG_TSource", "cjkIRG_TSource"],
  ["kIRG_UKSource", "cjkIRG_UKSource"], ["kIRG_USource", "cjkIRG_USource"],
  ["kIRG_VSource", "cjkIRG_VSource"], ["kOtherNumeric", "cjkOtherNumeric"],
  ["kPrimaryNumeric", "cjkPrimaryNumeric"],
  ["kRSUnicode", "cjkRSUnicode", "Unicode_Radical_Stroke", "URS"],
  ["kMandarin", "cjkMandarin"], ["kTotalStrokes", "cjkTotalStrokes"],
  ["kUnihanCore2020", "cjkUnihanCore2020"], ["kEH_Cat"], ["kEH_Desc"], ["kEH_HG"], ["kEH_IFAO"],
  ["kEH_JSesh"], ["kEH_NoMirror"], ["kEH_NoRotate"]]

/-- The names of general categories, and of groups of them, with the categories they mean. -/
def categories : List (List String × List GeneralCategory) := [
  (["Letter", "L"], GeneralCategory.letters),
  (["Cased_Letter", "LC"], [.uppercaseLetter, .lowercaseLetter, .titlecaseLetter]),
  (["Uppercase_Letter", "Lu"], [.uppercaseLetter]),
  (["Lowercase_Letter", "Ll"], [.lowercaseLetter]),
  (["Titlecase_Letter", "Lt"], [.titlecaseLetter]),
  (["Modifier_Letter", "Lm"], [.modifierLetter]),
  (["Other_Letter", "Lo"], [.otherLetter]),
  (["Mark", "M", "Combining_Mark"], GeneralCategory.marks),
  (["Nonspacing_Mark", "Mn"], [.nonspacingMark]),
  (["Spacing_Mark", "Mc"], [.spacingMark]),
  (["Enclosing_Mark", "Me"], [.enclosingMark]),
  (["Number", "N"], GeneralCategory.numbers),
  (["Decimal_Number", "Nd", "digit"], [.decimalNumber]),
  (["Letter_Number", "Nl"], [.letterNumber]),
  (["Other_Number", "No"], [.otherNumber]),
  (["Punctuation", "P", "punct"], GeneralCategory.punctuation),
  (["Connector_Punctuation", "Pc"], [.connectorPunctuation]),
  (["Dash_Punctuation", "Pd"], [.dashPunctuation]),
  (["Open_Punctuation", "Ps"], [.openPunctuation]),
  (["Close_Punctuation", "Pe"], [.closePunctuation]),
  (["Initial_Punctuation", "Pi"], [.initialPunctuation]),
  (["Final_Punctuation", "Pf"], [.finalPunctuation]),
  (["Other_Punctuation", "Po"], [.otherPunctuation]),
  (["Symbol", "S"], GeneralCategory.symbols),
  (["Math_Symbol", "Sm"], [.mathSymbol]),
  (["Currency_Symbol", "Sc"], [.currencySymbol]),
  (["Modifier_Symbol", "Sk"], [.modifierSymbol]),
  (["Other_Symbol", "So"], [.otherSymbol]),
  (["Separator", "Z"], GeneralCategory.separators),
  (["Space_Separator", "Zs"], [.spaceSeparator]),
  (["Line_Separator", "Zl"], [.lineSeparator]),
  (["Paragraph_Separator", "Zp"], [.paragraphSeparator]),
  (["Other", "C"], [.control, .format, .privateUse, .unassigned]),
  (["Control", "Cc", "cntrl"], [.control]),
  (["Format", "Cf"], [.format]),
  (["Private_Use", "Co"], [.privateUse]),
  (["Unassigned", "Cn"], [.unassigned])]

/-- The characters of a general category, or of a group of them, by its loose name: `none` for a
name that means no category. Surrogates have a name but no characters. -/
def category? (name : String) : Option (Except LookupError CharSet) :=
  if name == "any" then some (.ok CharSet.univ)
  else if name == "assigned" then some (.ok (GeneralCategory.members .unassigned).compl)
  else if name == "ascii" then some (.ok (CharSet.ofCodes [(0x00, 0x7F)]))
  else if isOneOf name ["Surrogate", "Cs"] then some (.error .unknownValue)
  else (categories.find? fun e => isOneOf name e.1).map fun e =>
    .ok (e.2.foldr (fun g acc => acc.union g.members) CharSet.empty)

/-- The script with a loose name. -/
def script? (name : String) : Option Script.Entry :=
  Script.entries.find? fun e => isOneOf name (e.name :: e.otherNames)

/-- The characters of a yes-or-no property, by its loose name. -/
def truth? (name : String) : Option CharSet :=
  match ListedProperty.entries.find? fun e => isOneOf name (e.name :: e.otherNames) with
  | some e => some (RangeText.set e.table)
  | none => (Derived.entries.find? fun e => isOneOf name [e.1, e.2.1]).map fun e => e.2.2 ()

/-- The characters that a single name means. The short names `cf`, `sc` and `lc` mean categories,
not the properties that they also abbreviate. -/
def named (text : String) : Except LookupError CharSet :=
  let name := loose text
  let category := name == "cf" || name == "sc" || name == "lc"
  match if category then none else truth? name with
  | some s => .ok s
  | none =>
    if !category && valueProperties.any (isOneOf name) then .error .unknownProperty
    else match category? name with
      | some answer => answer
      | none => match script? name with
        | some e => .ok (RangeText.set e.table)
        | none =>
          if isOneOf name Script.memberless then .error .unknownValue else .error .unknownProperty

/-- The characters of a segmentation class. -/
def segmentation (classes : List (String × String × String)) (value : String) :
    Except LookupError CharSet :=
  match classes.find? fun e => isOneOf value [e.1, e.2.1] with
  | some (_, _, table) => .ok (RangeText.set table)
  | none => .error .unknownValue

/-- The characters assigned in a version of the standard or before. -/
def age (value : String) : Except LookupError CharSet :=
  let isThis := fun (v : String × String) =>
    isOneOf value [v.1, "V" ++ String.ofList (v.1.toList.map fun c => if c == '.' then '_' else c)]
  if Age.versions.any isThis then
    let before := Age.versions.takeWhile fun v => !isThis v
    let upTo := Age.versions.take (before.length + 1)
    .ok (upTo.foldr (fun v acc => acc.union (RangeText.set v.2)) CharSet.empty)
  else .error .unknownValue

/-- The characters for which a property has a value. -/
def valued (property value : String) : Except LookupError CharSet :=
  let name := loose property
  let value := loose value
  if isOneOf name ["General_Category", "gc", "Category"] then
    (category? value).getD (.error .unknownValue)
  else if isOneOf name ["Script", "sc"] then
    match script? value with
    | some e => .ok (RangeText.set e.table)
    | none => .error .unknownValue
  else if isOneOf name ["Script_Extensions", "scx"] then
    match script? value with
    | some e => .ok (RangeText.set ((Script.extensions.lookup e.name).getD e.table))
    | none => .error .unknownValue
  else if isOneOf name ["Age"] then age value
  else if isOneOf name ["Grapheme_Cluster_Break", "GCB"] then
    segmentation Segmentation.graphemeCluster value
  else if isOneOf name ["Word_Break", "WB"] then segmentation Segmentation.word value
  else if isOneOf name ["Sentence_Break", "SB"] then segmentation Segmentation.sentence value
  else if valueProperties.any (isOneOf name) || (truth? name).isSome then .error .unknownValue
  else .error .unknownProperty

end FluentRegex.Property
