import FluentRegex.Machine.Search
import FluentRegex.Text.Utf8

/-!
# What a search finds

`Findings` are `Matches`: they hold the captures of a match, by the number and by the name of their
group. A group that took no part in the match has no entry (`from_captures`). A search without a
match finds nothing (`no_match`).
-/

namespace FluentRegex

/-! ## Captures -/

/-- A stretch of the subject, as byte offsets, and its text. -/
structure Capture where
  start : Nat
  stop : Nat
  text : String
deriving DecidableEq, Repr, Inhabited

namespace Capture

/-- The number of bytes. -/
def length (c : Capture) : Nat := c.stop - c.start

/-- Whether the stretch takes up no bytes. -/
def isEmpty (c : Capture) : Bool := c.length == 0

/-- The stretch between two places of a subject, which count characters. -/
def ofPlaces (subject : List Char) (first last : Nat) : Capture where
  start := Text.byteOffset subject first
  stop := Text.byteOffset subject last
  text := String.ofList ((subject.take last).drop first)

end Capture

/-- Whether a subject matches: `MatchStatus`. -/
inductive Status
  | noMatch
  | isMatch
deriving DecidableEq, Repr

/-- The status as a number: 1 for a match. -/
def Status.code : Status → Nat
  | .noMatch => 0
  | .isMatch => 1

/-- How a capture is asked for. -/
inductive Key
  | index (n : Nat)
  | name (s : String)
deriving DecidableEq, Repr

/-- The captures of a match: by number in ascending order, and by name in ascending order. -/
structure Findings where
  status : Status
  positional : List (Nat × Capture)
  named : List (String × Capture)
deriving DecidableEq, Repr

/-- What is wrong with asking for a capture that is not there, by `Index`. -/
inductive MissingCapture
  | index (n : Nat)
  | name (s : String)
deriving DecidableEq, Repr

/-- The wording of a missing capture. -/
def MissingCapture.text : MissingCapture → String
  | .index n =>
    "Capture group " ++ toString n ++ " does not exist or did not participate in the match."
  | .name s => "Cannot find the capture group named \"" ++ s ++ "\"."

namespace Findings

/-! ## From the marks of a match -/

/-- Nothing found: `no_match`. -/
def none : Findings := ⟨.noMatch, [], []⟩

/-- Puts a name among names in ascending order. -/
def insertByName (name : String) (c : Capture) : List (String × Capture) → List (String × Capture)
  | [] => [(name, c)]
  | e :: es => if e.1 < name then e :: insertByName name c es else (name, c) :: e :: es

/-- The capture of a group, from the latest marks at its ends. -/
def captureOf (subject : List Char) (marks : Marks) (index : Nat) : Option Capture :=
  match marks.lookup (2 * index), marks.lookup (2 * index + 1) with
  | some first, some last => some (Capture.ofPlaces subject first last)
  | _, _ => Option.none

/-- The captures of the groups from number `index` on. -/
def capturesFrom (subject : List Char) (marks : Marks) :
    (index : Nat) → List (Option String) → List (Nat × Option String × Capture)
  | _, [] => []
  | index, name :: names =>
    match captureOf subject marks index with
    | some c => (index, name, c) :: capturesFrom subject marks (index + 1) names
    | Option.none => capturesFrom subject marks (index + 1) names

/-- The captures of a match, from its marks and the table of groups: `from_captures`. -/
def ofMarks (subject : List Char) (groups : List (Option String)) (marks : Marks) :
    Findings :=
  let all := capturesFrom subject marks 0 groups
  { status := .isMatch
    positional := all.map fun e => (e.1, e.2.2)
    named := all.foldr
      (fun e acc => match e.2.1 with
        | some name => insertByName name e.2.2 acc
        | Option.none => acc) [] }

/-! ## Asking for captures -/

/-- Whether there is a match. -/
def isMatch (f : Findings) : Bool := f.status == .isMatch

/-- The capture of a group by its number: `get`. -/
def get? (f : Findings) (index : Nat) : Option Capture := f.positional.lookup index

/-- The capture of a group by its name: `name`. -/
def name? (f : Findings) (name : String) : Option Capture := f.named.lookup name

/-- The whole match. -/
def whole (f : Findings) : Option Capture := f.get? 0

/-- The number of groups that took part in the match, the whole match among them: `len`. -/
def length (f : Findings) : Nat := f.positional.length

/-- The number of captures by number and by name together. -/
def entries (f : Findings) : Nat := f.positional.length + f.named.length

/-- Whether there are no captures. -/
def isEmpty (f : Findings) : Bool := f.length == 0

/-- All captures, by number in ascending order and then by name in ascending order: `iter`. -/
def toList (f : Findings) : List (Key × String) :=
  f.positional.map (fun e => (Key.index e.1, e.2.text)) ++
    f.named.map (fun e => (Key.name e.1, e.2.text))

/-- The text of a group that has to be there: `Index` by a number. -/
def text (f : Findings) (index : Nat) : Except MissingCapture String :=
  match f.get? index with
  | some c => .ok c.text
  | Option.none => .error (.index index)

/-- The text of a named group that has to be there: `Index` by a name. -/
def textNamed (f : Findings) (name : String) : Except MissingCapture String :=
  match f.name? name with
  | some c => .ok c.text
  | Option.none => .error (.name name)

end Findings

end FluentRegex
