import RequestQuery.Json.Reader
import RequestQuery.Settings.Reading

/-! # Settings from a file and the environment

Settings are put together in layers: the stock settings, a file over them, and
the environment on top.  A file is an object whose names are paths.  A variable
of the environment counts if its name begins with that of the program, and what
follows is a path whose steps are separated by two underscores.  Names are in
lower case wherever names alone lead; below an item of an array they stay as
they are written.  An object laid over a member is joined with it member by
member, so that an empty one changes nothing that is there; anything else
replaces what is there.
-/
namespace RequestQuery

/-- A step into a document: to a member of an object or to an item of an array. -/
inductive PathStep where
  | member (name : String)
  /-- Counted from the end if it is negative. -/
  | item (index : Int)
  deriving DecidableEq, Repr

namespace PathStep

/-- The characters of a name in a path. -/
def isNameChar (c : Char) : Bool :=
  c.isAlphanum || c == ' ' || c == '_' || c == '-'

/-- An index with blanks around it, behind its opening bracket. -/
def item? : List Char → Option PathStep
  | '[' :: rest => do
    let digits := Text.stripWhile (fun c => c == ' ' || c == '\t') rest
    if digits.head? = some '+' then none
    else
      let index ← Text.readInt? digits
      if fitsInt64 index then some (item index) else none
  | _ => none

/-- The indices that follow a name. -/
def items? (s : List Char) : Option (List PathStep) :=
  if s.isEmpty then some []
  else
    let parts := Text.pieces [']'] s
    if parts.getLast? = some [] then parts.dropLast.mapM item? else none

/-- The steps of one segment of a path: a name, and indices behind it. -/
def segment? (s : List Char) : Option (List PathStep) :=
  let (name, rest) := s.span isNameChar
  if name.isEmpty then none else (items? rest).map (member (String.ofList name) :: ·)

/-- The steps that a text stands for, in lower case.  One that is no path is a single name. -/
def ofText (text : String) : List PathStep :=
  let name := Text.lower text
  match (Text.pieces ['.'] name.toList).mapM segment? with
  | some segments => segments.flatten
  | none => [member name]

end PathStep

namespace Json

/-- The members of an object; any other value has none. -/
def membersOf : Json → Keyed Json
  | object members => members
  | _ => []

/-- The items of an array; any other value has none. -/
def itemsOf : Json → List Json
  | array items => items
  | _ => []

mutual

/-- A value laid over what a member holds so far.  The members of an object are laid over it one by one. -/
def laidOver (value : Json) (old : Option Json) : Json :=
  match value with
  | object members => membersOver members (old.getD (object []))
  | value => value

/-- Members laid over a value, with their names in lower case.  Anything but an object gives way to the
first of them. -/
def membersOver (members : Keyed Json) (old : Json) : Json :=
  match members with
  | [] => old
  | (name, value) :: rest =>
    let name := Text.lower name
    let held := old.membersOf
    membersOver rest (object (held.insertSorted name (laidOver value (held.get? name))))

end

/-- A value put at the end of a path: laid over a member, or in the place of an item.  What stands in the
way of the path gives way, and an array grows as far as needed. -/
def putAt (value : Json) : List PathStep → Json → Json
  | [], _ => value
  | [.member name], old => membersOver [(name, value)] old
  | .member name :: rest, old =>
    let members := old.membersOf
    object (members.insertSorted name (putAt value rest ((members.get? name).getD null)))
  | .item index :: rest, old =>
    let items := old.itemsOf
    let place := if 0 ≤ index then index.toNat else items.length - index.natAbs
    let grown := items ++ List.replicate (place + 1 - items.length) null
    array (grown.set place (putAt value rest (grown.getD place null)))

end Json

/-- Why settings cannot be loaded. -/
inductive SettingsError where
  /-- The file is no object. -/
  | unreadable
  /-- A setting has no meaning where it stands. -/
  | invalid
  deriving DecidableEq, Repr

namespace Settings

/-- What the name of a variable begins with, in lower case. -/
def variableStart : List Char := "querycrate__".toList

/-- What separates the steps of a path in the name of a variable. -/
def variableSeparator : List Char := ['_', '_']

/-- The path that the name of a variable stands for, if it is one of ours. -/
def variablePath? (name : String) : Option (List PathStep) :=
  (Text.after? variableStart (Text.lower name).toList).map fun rest =>
    PathStep.ofText (String.ofList (['.'].intercalate (Text.pieces variableSeparator rest)))

/-- The members of a file, each put in after the ones before it. -/
def fileLayer (members : Keyed Json) (old : Json) : Json :=
  members.foldl (fun done (name, value) => value.putAt (PathStep.ofText name) done) old

/-- The variables of an environment put into a document. -/
def environmentLayer (environment : Keyed String) (old : Json) : Json :=
  environment.foldl (fun done (name, value) =>
    match variablePath? name with
    | some path => (Json.string value).putAt path done
    | none => done) old

/-- The document of a file. -/
def fileMembers? (text : String) : Except SettingsError (Keyed Json) :=
  match Json.read? text with
  | some (.object members) => .ok members
  | _ => .error .unreadable

/-- Loads the settings of a file, if there is one, and an environment. -/
def load (file : Option String) (environment : Keyed String) : Except SettingsError Settings := do
  let members ← match file with
    | some text => fileMembers? text
    | none => .ok []
  let document := environmentLayer environment (fileLayer members (.object []))
  match ofJson? .lenient document with
  | some settings => .ok settings
  | none => .error .invalid

end Settings
end RequestQuery
