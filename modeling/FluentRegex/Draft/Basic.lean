import FluentRegex.Event
import FluentRegex.Settings
import FluentRegex.Syntax.Group
import FluentRegex.Text.Fragment

/-!
# Drafts of patterns

A pattern is drafted by a chain of calls, each of which says in words what comes next. A `Draft` is
a `PatternBuilder`, its text the `buffer`, and a `Call` is one of the methods that only append to it
(`Call.addition`), or `clear`, which empties it. The aliases `then` and `any` are no calls of their
own but `find` and `anyOf`. Literal text and lists of characters are escaped on the way in
(`sanitize`), and whatever captures is put in parentheses (`capture`), so that a call cannot change
the meaning of what was written before it; raw fragments are taken as they are. Nothing is checked
before the draft is run.

A capturing call may name its group. A name that cannot be the name of a group, or that the text
already gives to one, is left out, and an event says so.
-/

namespace FluentRegex

/-- A pattern in the making: a `PatternBuilder`. -/
structure Draft where
  text : String := ""
  settings : Settings := {}
deriving DecidableEq, Repr, Inhabited

/-- What can be said about what comes next. -/
inductive Call
  /-- The given text, captured. -/
  | find (text : String) (name : Option String)
  /-- The given text, not captured. -/
  | search (text : String)
  /-- The given text or nothing; what there is of it is captured. -/
  | maybe (text : String) (name : Option String)
  /-- Any characters, captured. -/
  | anything (name : Option String)
  /-- Any characters but the listed ones, captured. -/
  | anythingBut (chars : String) (name : Option String)
  /-- One or more characters, captured. -/
  | something (name : Option String)
  /-- One or more characters other than the listed ones, captured. -/
  | somethingBut (chars : String) (name : Option String)
  /-- Word characters, so many of them or one or more, captured. -/
  | words (name : Option String) (count : Option Nat)
  /-- Digits, so many of them or one or more, captured. -/
  | decimals (name : Option String) (count : Option Nat)
  /-- A character between two others, which are taken as they are. -/
  | range (lo : String) (hi : Option String)
  /-- What was said last, so many times. -/
  | times (n : Nat)
  /-- What was said last, a number of times between two bounds, given in either order. -/
  | between (m n : Nat)
  /-- One of the listed characters. -/
  | anyOf (chars : String)
  | startOfLine
  | endOfLine
  /-- A line start and a raw fragment: `starts_with`. -/
  | startsWith (fragment : String)
  /-- A raw fragment and a line end: `ends_with`. -/
  | endsWith (fragment : String)
  /-- A raw fragment: `add`. -/
  | raw (fragment : String)
  /-- Forgets all that was said. -/
  | clear
deriving DecidableEq, Repr

/-- What a call appends to a draft, and what it reports. -/
structure Addition where
  text : String
  events : List Event := []
deriving DecidableEq, Repr

namespace Draft

open Text

/-! ## Drafts -/

/-- An empty draft with a delimiter of its own. -/
def withDelimiter (delimiter : Char) : Draft := { settings := { delimiter := delimiter } }

/-- An empty draft under the given settings. -/
def withSettings (settings : Settings) : Draft := { settings := settings }

/-- Whether nothing has been said yet. -/
def isEmpty (d : Draft) : Bool := d.text.isEmpty

/-- The draft between its delimiters: `compile`, which is how it is displayed. -/
def written (d : Draft) : String :=
  String.singleton d.settings.delimiter ++ d.text ++ String.singleton d.settings.delimiter

/-- The draft in words, for debugging. -/
def debugText (d : Draft) : String :=
  "PatternBuilder \x7b buffer: " ++ quoted d.text ++ ", options: " ++ d.settings.debugText ++
    " \x7d"

/-! ## What calls append -/

/-- Text that stands for itself in this draft: `sanitize` under its delimiter. -/
def escaped (d : Draft) (text : String) : String := escape text d.settings.delimiter

/-- Whether the text of the draft gives a name to a group: `has_group_name`, which looks for the
opening of such a group anywhere in the text. -/
def hasName (d : Draft) (name : String) : Bool :=
  occursIn ("(?P<" ++ name ++ ">").toList d.text.toList ||
    occursIn ("(?<" ++ name ++ ">").toList d.text.toList

/-- A fragment in a group, under the given name if that will do: `capture`. -/
def captured (d : Draft) (fragment : String) (name : Option String) : Addition :=
  let unnamed := "(" ++ fragment ++ ")"
  match name with
  | none => ⟨unnamed, []⟩
  | some name =>
    if name.isEmpty then ⟨unnamed, []⟩
    else if !Syntax.isName name.toList then ⟨unnamed, [.invalidName name]⟩
    else if d.hasName name then ⟨unnamed, [.takenName name]⟩
    else ⟨"(?P<" ++ name ++ ">" ++ fragment ++ ")", []⟩

end Draft

open Text in
/-- What a call appends to a draft. -/
def Call.addition (d : Draft) : Call → Addition
  | .find text name => d.captured (d.escaped text) name
  | .search text => ⟨d.escaped text, []⟩
  | .maybe text name =>
    let a := d.captured (d.escaped text) name
    ⟨a.text ++ "?", a.events⟩
  | .anything name => d.captured ".*" name
  | .anythingBut chars name =>
    if chars.isEmpty then d.captured ".*" name
    else d.captured (classWithout (d.escaped chars) ++ "*") name
  | .something name => d.captured ".+" name
  | .somethingBut chars name =>
    if chars.isEmpty then d.captured ".+" name
    else d.captured (classWithout (d.escaped chars) ++ "+") name
  | .words name count => d.captured (classOf "\\w" ++ rounds count) name
  | .decimals name count => d.captured (classOf "\\d" ++ rounds count) name
  | .range lo hi =>
    match hi with
    | some hi => ⟨classOf (if hi.isEmpty then lo else lo ++ "-" ++ hi), []⟩
    | none => ⟨classOf lo, []⟩
  | .times n => ⟨counted n, []⟩
  | .between m n => ⟨countedBetween (Nat.min m n) (Nat.max m n), []⟩
  | .anyOf chars => ⟨if chars.isEmpty then "" else classOf (d.escaped chars), []⟩
  | .startOfLine => ⟨"^", []⟩
  | .endOfLine => ⟨"$", []⟩
  | .startsWith fragment => ⟨"^" ++ fragment, []⟩
  | .endsWith fragment => ⟨fragment ++ "$", []⟩
  | .raw fragment => ⟨fragment, []⟩
  | .clear => ⟨"", []⟩

namespace Draft

/-! ## Chains of calls -/

/-- The draft after a call. -/
def call (d : Draft) (c : Call) : Draft :=
  match c with
  | .clear => { d with text := "" }
  | c => { d with text := d.text ++ (c.addition d).text }

/-- The draft after a chain of calls. -/
def calls (d : Draft) (cs : List Call) : Draft := cs.foldl call d

/-- What a chain of calls reports. -/
def callEvents (d : Draft) : List Call → List Event
  | [] => []
  | c :: cs => (c.addition d).events ++ (d.call c).callEvents cs

end Draft

end FluentRegex
