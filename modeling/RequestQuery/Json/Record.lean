import RequestQuery.Json.Value

/-! # Records in documents

A record with named members is usually an object.  It may also be an array that
holds the members in the order in which the record declares them, without their
names.
-/
namespace RequestQuery
namespace Json

/-- The members of a record that declares some names.  An object may have other members as well; whether
an array may have more items than there are names is for the reader to say. -/
def record? (moreItems : Bool) (names : List String) : Json → Option (Keyed Json)
  | object members => some members
  | array items => if moreItems || items.length ≤ names.length then some (names.zip items) else none
  | _ => none

end Json
end RequestQuery
