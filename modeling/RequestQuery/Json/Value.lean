import RequestQuery.Keyed
import RequestQuery.Number.Numeral

/-! # Document values

The values that cursors, rows and options carry.  The members of an object are
kept in ascending order of their names and each name occurs once; `Json.ofMembers`
builds an object that way from members in any order.
-/
namespace RequestQuery

/-- A value of a document. -/
inductive Json where
  | null
  | bool (value : Bool)
  | number (value : Number)
  | string (value : String)
  | array (items : List Json)
  | object (members : List (String × Json))

namespace Json

instance : Inhabited Json := ⟨null⟩

/-- The object of some members; of several members of one name the last counts. -/
def ofMembers (members : Keyed Json) : Json :=
  object (Keyed.sorted members)

/-- The value of a whole number. -/
def ofInt (i : Int) : Json := number (.integer i)

/-- The member of a name, for objects that have it. -/
def member? : Json → String → Option Json
  | object members, name => Keyed.get? members name
  | _, _ => none

/-! ## Equality

Numbers compare as numbers: an integer is never equal to a binary64 number, and
the two binary64 zeros are equal.
-/

/-- Equality of two numbers of a document. -/
def sameNumber : Number → Number → Bool
  | .integer a, .integer b => a == b
  | .real a, .real b => a == b || (a.rank == 0 && b.rank == 0)
  | _, _ => false

mutual

/-- Equality of two values. -/
def same : Json → Json → Bool
  | null, null => true
  | bool a, bool b => a == b
  | number a, number b => sameNumber a b
  | string a, string b => a == b
  | array a, array b => sameItems a b
  | object a, object b => sameMembers a b
  | _, _ => false

/-- Equality of the items of two arrays. -/
def sameItems : List Json → List Json → Bool
  | [], [] => true
  | a :: as, b :: bs => same a b && sameItems as bs
  | _, _ => false

/-- Equality of the members of two objects, which are in order. -/
def sameMembers : List (String × Json) → List (String × Json) → Bool
  | [], [] => true
  | (k, a) :: as, (l, b) :: bs => k == l && same a b && sameMembers as bs
  | _, _ => false

end

end Json
end RequestQuery
