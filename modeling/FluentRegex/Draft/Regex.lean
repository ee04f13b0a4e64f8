import FluentRegex.Draft.Basic
import FluentRegex.Regex

/-!
# From a draft to what it finds

A draft is run by making a regular expression of its text under its settings (`to_regex`). Each way
to run one, `matches`, `status` and `is_match`, does so anew, so all of them reject the same drafts
for the same reasons, and each reports how it went. What is too big is up to the measure of programs
that is in force.
-/

namespace FluentRegex.Draft

variable [Sizing]

/-- Makes the draft ready to run: `build_regex`. -/
def compile (d : Draft) : Except Rejection Regex := Regex.compile d.text d.settings

/-- Makes the draft ready to run, and reports how that went: `to_regex`. -/
def regex (d : Draft) : Reported (Except Rejection Regex) :=
  let start := Event.building d.written d.settings.modeLetters
  match d.compile with
  | .ok r => ⟨.ok r, [start]⟩
  | .error e => ⟨.error e, [start, .rejected e.text]⟩

/-- Runs the draft on a subject: `matches`. -/
def run (d : Draft) (subject : String) : Reported (Except Rejection Findings) :=
  let r := d.regex
  match r.value with
  | .error e => ⟨.error e, r.events⟩
  | .ok re =>
    let f := re.find subject
    ⟨.ok f, r.events ++ [.finished f.status.code f.length]⟩

/-- Whether a subject has a match: `is_match`. -/
def isMatch (d : Draft) (subject : String) : Reported (Except Rejection Bool) :=
  let r := d.regex
  ⟨r.value.map (·.isMatch subject), r.events⟩

/-- Whether a subject has a match, as a status: `status`. -/
def status (d : Draft) (subject : String) : Reported (Except Rejection Status) :=
  let r := d.isMatch subject
  ⟨r.value.map fun b => if b then .isMatch else .noMatch, r.events⟩

end FluentRegex.Draft
