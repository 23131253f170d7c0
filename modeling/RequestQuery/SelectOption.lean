import RequestQuery.Json.Printer

/-! # Select options

What can be chosen from a list is shown as an option: a value and a label.
Things that can be chosen may have several kinds of options besides the plain
one; a kind that a thing does not know is the plain one.
-/
namespace RequestQuery

/-- A value to choose, and how it is called. -/
structure SelectOption where
  value : Json
  label : String

namespace SelectOption

/-- The value as a name: a text is its own name, any other value is named by its document. -/
def key (o : SelectOption) : String :=
  match o.value with
  | .string s => s
  | value => value.print

/-- The option as a document. -/
def toJson (o : SelectOption) : Json :=
  .ofMembers [("value", o.value), ("label", .string o.label)]

end SelectOption

/-- Things that can be chosen. -/
class Selectable (α : Type) where
  /-- The plain option of a thing. -/
  selector : α → SelectOption
  /-- The option of a kind. -/
  selectorOf : String → α → SelectOption := fun _ a => selector a
  /-- What stands for a thing where one value of a kind is wanted. -/
  selectorSingle : String → α → Json := fun _ a => (selector a).toJson

namespace Selectable

variable {α : Type} [Selectable α]

/-- A kind that was asked for.  The empty one stands for the plain option. -/
def chosenKind? (kind : Option String) : Option String :=
  kind.filter (!·.isEmpty)

/-- The options of some things, in their order. -/
def options (kind : Option String) (things : List α) : List SelectOption :=
  match chosenKind? kind with
  | some kind => things.map (selectorOf kind)
  | none => things.map selector

/-- The single values of some things, in their order. -/
def singles (kind : Option String) (things : List α) : List Json :=
  match chosenKind? kind with
  | some kind => things.map (selectorSingle kind)
  | none => things.map fun a => (selector a).toJson

/-- The labels of some things under their names, in ascending order of the names.  Of several things of
one name the last gives the label. -/
def labels (things : List α) : Keyed String :=
  Keyed.sorted (things.map fun a => ((selector a).key, (selector a).label))

end Selectable
end RequestQuery
