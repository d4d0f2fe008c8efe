/-!
# Artifact/Filter — which code units may be taken in

A unit is refused if its id starts with a denied beginning, and also if there are allowed
beginnings and it starts with none of them.
-/

namespace Tenancy

structure NameFilter where
  allow : List String := []
  deny : List String := []
  deriving Repr, DecidableEq

namespace NameFilter

def startsWithAny (id : String) (beginnings : List String) : Bool :=
  beginnings.any fun b => b.toList.isPrefixOf id.toList

def isAllowed (f : NameFilter) (id : String) : Bool :=
  !startsWithAny id f.deny && (f.allow.isEmpty || startsWithAny id f.allow)

end NameFilter

end Tenancy
