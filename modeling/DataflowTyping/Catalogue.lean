import DataflowTyping.Keyed
import DataflowTyping.Node

/-!
# Catalogues

A catalogue offers kinds of nodes in the order in which they were registered.
Registering a kind under an identifier that is in use replaces the old one in
its place.
-/

namespace DataflowTyping

/-- Kinds of nodes on offer. -/
abbrev Catalogue :=
  Keyed NodeKind.id

namespace Catalogue

def inCategory (catalogue : Catalogue) (category : Category) : List NodeKind :=
  catalogue.toList.filter fun kind => kind.category = category

/-- The catalogue with the given kinds, registered from left to right. -/
def ofList (kinds : List NodeKind) : Catalogue :=
  kinds.foldl Keyed.insert .empty

/-- A node of the kind with a given identifier, if the kind is on offer. -/
def create? (catalogue : Catalogue) (kind : String) (id : NodeId)
    (portId : Direction → Nat → PortId) : Option Node :=
  (catalogue.find? kind).map fun found => found.instantiate id portId

end Catalogue

end DataflowTyping
