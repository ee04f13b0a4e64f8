/-!
# Events

What a draft reports while it is written and run, for whoever listens.
-/

namespace FluentRegex

/-- How much an event matters. -/
inductive Severity
  | warn
  | debug
  | trace
deriving DecidableEq, Repr

/-- Something that is worth a report. -/
inductive Event
  | invalidName (name : String)
  | takenName (name : String)
  | building (written modeLetters : String)
  | rejected (reason : String)
  | finished (status groups : Nat)
deriving DecidableEq, Repr

namespace Event

/-- How much the event matters. -/
def severity : Event → Severity
  | .invalidName _ => .warn
  | .takenName _ => .warn
  | .building _ _ => .debug
  | .rejected _ => .warn
  | .finished _ _ => .trace

/-- The wording of the event. -/
def text : Event → String
  | .invalidName _ => "invalid capture group name, the group is left unnamed"
  | .takenName _ => "duplicate capture group name, the group is left unnamed"
  | .building _ _ => "building regex"
  | .rejected _ => "pattern rejected by the regex engine"
  | .finished _ _ => "match finished"

end Event

/-- A value, and what was reported on the way to it, in order. -/
structure Reported (α : Type) where
  value : α
  events : List Event

end FluentRegex
