/-!
# Why a pattern is not run

A `Rejection` is an `Error`: a pattern may be no pattern at all, or ask for too large a program.
`engine` is for any other reason that a search may have to give up. That nothing matches is no
rejection.
-/

namespace FluentRegex

/-- Why a pattern is not run. -/
inductive Rejection
  | invalidPattern (pattern report : String)
  | patternTooBig (pattern : String) (limit : Nat)
  | engine (reason : String)
deriving DecidableEq, Repr

/-- The wording of a rejection. -/
def Rejection.text : Rejection → String
  | .invalidPattern pattern report => "Invalid pattern \"" ++ pattern ++ "\": " ++ report
  | .patternTooBig pattern limit =>
    "Pattern \"" ++ pattern ++ "\" exceeds the size limit of " ++ toString limit ++ " bytes."
  | .engine reason => "Regex engine error: " ++ reason

end FluentRegex
