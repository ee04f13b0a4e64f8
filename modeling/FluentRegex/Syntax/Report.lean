import FluentRegex.Syntax.Fault
import FluentRegex.Text.Lines

/-!
# Showing a fault in the pattern

The report repeats the pattern and puts carets under the place that a fault points at. A pattern
of several lines is shown with line numbers between two rules; a place that goes over several
lines is given in words below them.
-/

namespace FluentRegex.Syntax

open Text (lines lineAt columnAt)

/-- `n` times the same character. -/
def rule (n : Nat) (c : Char) : String := String.ofList (List.replicate n c)

/-- A number, filled up with blanks on the left. -/
def padLeft (width n : Nat) : String :=
  let digits := toString n
  rule (width - digits.length) ' ' ++ digits

/-- How the lines of the report begin. -/
structure Margin where
  /-- The width of the line numbers, or `none` where lines are not numbered. -/
  numbers : Option Nat

/-- What stands before the line with a number. -/
def Margin.label (m : Margin) (line : Nat) : String :=
  match m.numbers with
  | none => "    "
  | some width => padLeft width line ++ ": "

/-- What stands before the carets. -/
def Margin.indent (m : Margin) : String :=
  match m.numbers with
  | none => rule 4 ' '
  | some width => rule (width + 2) ' '

namespace Fault

/-- The places of a fault, from left to right. -/
def places (f : Fault) : List Span :=
  match f.earlier with
  | none => [f.span]
  | some e => if f.span.start < e.start then [f.span, e] else [e, f.span]

/-- Carets under columns `first` up to `stop`, both counted from 1, at least one, after `column`
columns have been filled. Gives the text and the columns filled now. -/
def carets (column first stop : Nat) : String × Nat :=
  let blanks := first - 1 - column
  let marks := max 1 (stop - first)
  (rule blanks ' ' ++ rule marks '^', column + blanks + marks)

/-- The carets of several places of one line. -/
def caretLine (pattern : List Char) : (column : Nat) → List Span → String
  | _, [] => ""
  | column, s :: ss =>
    let r := carets column (columnAt pattern s.start) (columnAt pattern s.stop)
    r.1 ++ caretLine pattern r.2 ss

/-- The lines of the pattern from number `line` on, each followed by its carets. -/
def notated (pattern : List Char) (margin : Margin) (places : List Span) :
    (line : Nat) → List (List Char) → String
  | _, [] => ""
  | line, text :: rest =>
    let here := places.filter fun s => lineAt pattern s.start == line
    margin.label line ++ String.ofList text ++ "\n" ++
      (if here.isEmpty then "" else margin.indent ++ caretLine pattern 0 here ++ "\n") ++
      notated pattern margin places (line + 1) rest

/-- The note on a place that goes over several lines. -/
def longNote (pattern : List Char) (s : Span) : String :=
  "on line " ++ toString (lineAt pattern s.start) ++
    " (column " ++ toString (columnAt pattern s.start) ++ ") through line " ++
    toString (lineAt pattern s.stop) ++
    " (column " ++ toString (columnAt pattern s.stop - 1) ++ ")\n"

/-- The report of a fault in a pattern. -/
def report (f : Fault) (pattern : List Char) : String :=
  let ls := lines pattern
  let count := ls.length + (if pattern.getLast? = some '\n' then 1 else 0)
  let margin : Margin := ⟨if count ≤ 1 then none else some (toString count).length⟩
  let inLine := f.places.filter fun s => lineAt pattern s.start == lineAt pattern s.stop
  let long := f.places.filter fun s => lineAt pattern s.start != lineAt pattern s.stop
  let body := notated pattern margin inLine 1 ls
  "regex parse error:\n" ++
    (if pattern.contains '\n' then
      let divider := rule 79 '~' ++ "\n"
      divider ++ body ++ divider ++ String.join (long.map (longNote pattern))
    else body) ++
    "error: " ++ f.cause.text

end Fault

end FluentRegex.Syntax
