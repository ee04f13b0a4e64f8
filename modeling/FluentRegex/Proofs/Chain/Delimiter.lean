import FluentRegex.Machine.Estimate
import FluentRegex.Proofs.Chain.Assembly

/-!
# The delimiter is no part of the meaning

The delimiter decides what is escaped in texts and in sets of characters, so two chains of the same
calls may write different texts. Both are read as the assembly of the calls, which depends on the
modes alone:

> `alike_of_delimiters`: two drafts under settings that differ in the delimiter only come to the
> same after the same calls.
-/

namespace FluentRegex

/-- Whatever the delimiter is, a chain of structured calls is rejected for the same kind of reason,
or it can be run, with the same groups, and finds the same in every subject. -/
theorem alike_of_delimiters [Sizing] (s : Settings) (delimiter : Char) (cs : List Call)
    (hraw : ∀ c ∈ cs, c.isRaw = false) :
    ((Draft.withSettings s).calls cs).Alike
      ((Draft.withSettings { s with delimiter := delimiter }).calls cs) := by
  have h := Draft.reads_calls s hraw
  have h' := Draft.reads_calls { s with delimiter := delimiter } hraw
  refine Draft.Reads.alike h h' ?_
  rw [Draft.settings_calls, Draft.settings_calls]
  rfl

section

attribute [local instance] Sizing.estimate

/-- A delimiter that is escaped and one that cannot be, in a text and in a set. -/
theorem alike_with_delimiters_escaped :
    ((Draft.withDelimiter '#').calls [.find "a#-" none, .times 2, .anyOf "]#^"]).Alike
      ((Draft.withDelimiter '<').calls [.find "a#-" none, .times 2, .anyOf "]#^"]) :=
  alike_of_delimiters { delimiter := '#' } '<' _ (by decide)

end

end FluentRegex
