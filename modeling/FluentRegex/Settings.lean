import FluentRegex.Expr.OfTree
import FluentRegex.Text.Quoted

/-!
# Settings

The settings of a draft, its `Options`: the delimiter around its written form, the modes in which
its pattern is read, and a limit on the size of the program that the pattern may become. The modes
are no part of the written form.
-/

namespace FluentRegex

/-- The delimiter, the modes and the limit of a draft: `Options`. -/
structure Settings where
  delimiter : Char := '/'
  caseInsensitive : Bool := false
  multiLine : Bool := false
  dotMatchesNewLine : Bool := false
  sizeLimit : Option Nat := none
deriving DecidableEq, Repr, Inhabited

namespace Settings

/-- The limit in force where none is set, in bytes. -/
def defaultSizeLimit : Nat := 10485760

/-- The limit in force. -/
def limit (s : Settings) : Nat := s.sizeLimit.getD defaultSizeLimit

/-- The letters of the modes that are on, in the order `i`, `m`, `s`: `modifiers`. -/
def modeLetters (s : Settings) : String :=
  String.ofList ((if s.caseInsensitive then ['i'] else []) ++ (if s.multiLine then ['m'] else []) ++
    (if s.dotMatchesNewLine then ['s'] else []))

/-- The modes in which a pattern is read. -/
def modes (s : Settings) : Modes :=
  { caseInsensitive := s.caseInsensitive, multiLine := s.multiLine, dotAll := s.dotMatchesNewLine }

/-- The settings in words, for debugging. -/
def debugText (s : Settings) : String :=
  let bool := fun (b : Bool) => if b then "true" else "false"
  let limit := match s.sizeLimit with
    | none => "None"
    | some n => "Some(" ++ toString n ++ ")"
  "Options \x7b delimiter: " ++ Text.quotedSingle s.delimiter ++
    ", case_insensitive: " ++ bool s.caseInsensitive ++
    ", multi_line: " ++ bool s.multiLine ++
    ", dot_matches_new_line: " ++ bool s.dotMatchesNewLine ++
    ", size_limit: " ++ limit ++ " \x7d"

end Settings

end FluentRegex
