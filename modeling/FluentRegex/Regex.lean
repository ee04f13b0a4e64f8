import FluentRegex.Expr.Groups
import FluentRegex.Findings
import FluentRegex.Machine.Size
import FluentRegex.Rejection
import FluentRegex.Settings
import FluentRegex.Syntax.Parse
import FluentRegex.Syntax.Report

/-!
# Regular expressions

A pattern becomes a `Regex` in three steps: it is read into a tree, the tree is turned into an
expression, and the expression into a program. The first fault of the first two steps rejects the
pattern; after them the size of the program is held against the limit. So a fault is reported
whatever the limit, and the settings do not decide what a fault is.
-/

namespace FluentRegex

/-- A pattern that is ready to run. -/
structure Regex where
  pattern : String
  /-- The name of each group, by its number: `capture_names`. -/
  groupNames : List (Option String)
  program : Array Instr

/-- The expression that a pattern means, or what is wrong with it. -/
def expression (pattern : List Char) (modes : Modes) : Except Syntax.Fault Expr :=
  match Syntax.parse pattern with
  | .error fault => .error fault
  | .ok tree =>
    match tree.expr modes with
    | .error fault => .error fault
    | .ok (e, _) => .ok e

namespace Regex

/-- Makes a pattern ready to run: `build_regex`, with the rejection of `from_engine_error`. -/
def compile [Sizing] (pattern : String) (settings : Settings) : Except Rejection Regex :=
  match expression pattern.toList settings.modes with
  | .error fault => .error (.invalidPattern pattern (fault.report pattern.toList))
  | .ok e =>
    if Sizing.bytesOf e ≤ settings.limit then .ok ⟨pattern, e.groupNames, e.program⟩
    else .error (.patternTooBig pattern settings.limit)

/-- The number of groups, the whole match among them: `captures_len`. -/
def groupCount (r : Regex) : Nat := r.groupNames.length

/-- What the first match in a subject captures: `captures`. -/
def find (r : Regex) (subject : String) : Findings :=
  match findMarks r.program subject.toList.toArray with
  | some marks => Findings.ofMarks subject.toList r.groupNames marks
  | none => Findings.none

/-- Whether a subject has a match. -/
def isMatch (r : Regex) (subject : String) : Bool :=
  hasMatch r.program subject.toList.toArray

end Regex

end FluentRegex
