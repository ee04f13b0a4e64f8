import FluentRegex.Draft.Regex
import FluentRegex.Machine.Estimate

/-!
# Running drafts

To run a draft takes a measure of programs. Here it is the estimate, for all that runs drafts and
says nothing about them.
-/

namespace FluentRegex

instance : Sizing := .estimate

end FluentRegex
