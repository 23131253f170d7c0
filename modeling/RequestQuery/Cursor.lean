import RequestQuery.Base64Url
import RequestQuery.Error
import RequestQuery.Json.Reader
import RequestQuery.Sql.Expr

/-! # Cursors and pages

A cursor is a place in a list of values: the value at the edge of a page and the
direction in which to go on.  It travels as a small document in Base64.  A page
is made from one row more than it holds, which only tells whether there are
more.
-/
namespace RequestQuery

/-- A place in a list. -/
structure Cursor where
  value : Json
  forward : Bool

namespace Cursor

/-! ## Encoding -/

/-- The document of a cursor. -/
def payload (c : Cursor) : String :=
  String.ofList (['\x7b'] ++ Json.quote "value" ++ [':'] ++ c.value.chars ++ [','] ++
    Json.quote "_pointsToNextItems" ++ [':'] ++ (Json.bool c.forward).chars ++ ['\x7d'])

/-- The text of a cursor. -/
def encode (c : Cursor) : String :=
  Base64Url.encodeString c.payload

/-! ## Decoding -/

/-- What is known of a cursor while its members are read. -/
structure Parts where
  value : Option Json := none
  forward : Option Bool := none

/-- The value of a cursor is nested one level less deeply than a document may be. -/
def valueOf? (document : Json.Document) : Option Json :=
  Json.ofDocument? (Json.depthLimit - 1) document

/-- The direction of a cursor. -/
def forwardOf? : Json.Document → Option Bool
  | .bool b => some b
  | _ => none

/-- Reads a member.  No member may come twice; members of other names are passed over. -/
def readMember? (parts : Parts) (name : List Json.Letter) (document : Json.Document) : Option Parts := do
  let name ← Json.text? name
  if name = "value" then
    if parts.value.isSome then none
    else return { parts with value := some (← valueOf? document) }
  else if name = "_pointsToNextItems" then
    if parts.forward.isSome then none
    else return { parts with forward := some (← forwardOf? document) }
  else return parts

/-- The cursor of a document: an object with both members, or an array of the two. -/
def ofDocument? : Json.Document → Option Cursor
  | .object members => do
    let parts ← members.foldlM (fun parts (name, document) => readMember? parts name document) {}
    return ⟨← parts.value, ← parts.forward⟩
  | .array [value, forward] => do
    return ⟨← valueOf? value, ← forwardOf? forward⟩
  | _ => none

/-- The cursor of a text, blanks around it aside.  Bytes that are part of no character do no harm where a
member is passed over. -/
def decode (s : String) : Except QueryError Cursor :=
  let cursor? := do
    let payload ← Base64Url.decodeString? (Text.trim s)
    ofDocument? (← Json.Document.read? (Text.symbols payload))
  match cursor? with
  | some cursor => .ok cursor
  | none => .error .invalidCursor

/-- Whether two cursors are at the same place. -/
def same (a b : Cursor) : Bool :=
  a.value.same b.value && a.forward == b.forward

/-! ## Values to compare with -/

/-- The value of a number: exact if it fits in 64 bits with a sign, or else the nearest binary64 number. -/
def numberValue : Number → SqlValue
  | .integer i => if fitsInt64 i then .bigInt i else .double (Binary64.ofInt i)
  | .real x => .double x

/-- The value to compare with, none for the null.  Arrays and objects cannot be compared with. -/
def sqlValue (c : Cursor) : Except QueryError (Option SqlValue) :=
  match c.value with
  | .null => .ok none
  | .bool b => .ok (some (.bool b))
  | .number n => .ok (some (numberValue n))
  | .string s => .ok (some (.text s))
  | .array _ | .object _ => .error .invalidCursor

end Cursor

/-! ## Pages -/

/-- A page of a list. -/
structure Page (α : Type) where
  data : List α
  perPage : Nat
  next : Option Cursor
  previous : Option Cursor

namespace Page

variable {α : Type}

/-- Whether there is something after and before a page, given whether there was one row too many.  Going
forward there is something before it, going backward something after it. -/
def neighbours (more : Bool) : Option Cursor → Bool × Bool
  | none => (more, false)
  | some cursor => if cursor.forward then (more, true) else (true, more)

/-- The page of rows that were fetched in the direction of a cursor, one more than the page holds if
there are that many. -/
def ofRows (rows : List α) (perPage : Nat) (cursor : Option Cursor) (key : α → Json) : Page α :=
  let kept := rows.take perPage
  let backward := match cursor with
    | some cursor => !cursor.forward
    | none => false
  let data := if backward then kept.reverse else kept
  let (hasNext, hasPrevious) := neighbours (perPage < rows.length) cursor
  { data, perPage
    next := if hasNext then data.getLast?.map fun row => ⟨key row, true⟩ else none
    previous := if hasPrevious then data.head?.map fun row => ⟨key row, false⟩ else none }

end Page
end RequestQuery
