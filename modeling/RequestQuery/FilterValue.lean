import RequestQuery.Settings
import RequestQuery.Text.Split

/-! # Filter values

The value of a filter comes as one text or as a list of texts.  A text may name
its operator before the delimiter, a list of two is an operator and its value;
whatever names no operator is for the default one of the domain.  What an
operator takes is then cut out of the value: a list, the ends of a range, or one
operand.
-/
namespace RequestQuery

/-- The value of a filter as it comes in. -/
inductive RawValue where
  | single (text : String)
  | list (items : List String)
  deriving DecidableEq, Repr

namespace RawValue

/-- A request parameter: operator and value, if the delimiter occurs, or else one text. -/
def ofRequest (input delimiter : String) : RawValue :=
  match Text.cutAt? delimiter input with
  | some (operator, value) => list [operator, value]
  | none => single input

/-- The one operand: the text, or the first item of a list. -/
def operand : RawValue → String
  | single text => text
  | list items => items.headD ""

/-- Whether there is nothing at all. -/
def isEmpty : RawValue → Bool
  | single text => text.isEmpty
  | list items => items.isEmpty

/-- A text cut at a separator, the parts trimmed.  A text without separator is left alone. -/
def splitTrimmed (text separator : String) : List String :=
  match Text.splitAt separator text with
  | [_] => [text]
  | parts => parts.map Text.trim

/-- The items of a list. -/
def splitList (value : RawValue) (separator : String) : List String :=
  match value with
  | list items => items
  | single text => if text.isEmpty then [] else splitTrimmed text separator

/-- The ends of a range.  One value is both ends, and an empty list is no range. -/
def splitRange? (value : RawValue) (separator : String) : Option (String × String) :=
  let parts := match value with
    | list items => items
    | single text => splitTrimmed text separator
  match parts with
  | [] => none
  | [low] => some (low, low)
  | low :: high :: _ => some (low, high)

/-- The operand up to the first delimiter, trimmed.  Without a delimiter to look for it is left alone. -/
def firstSegment (value : RawValue) (delimiter : String) : String :=
  if delimiter.isEmpty then value.operand
  else Text.trim <| match Text.cutAt? delimiter value.operand with
    | some (before, _) => before
    | none => value.operand

end RawValue

/-- A filter value whose operator is known. -/
structure FilterValue where
  operator : String
  value : RawValue
  deriving DecidableEq, Repr

namespace FilterValue

variable (settings : FilterSettings) (domain : Domain)

/-- A value for the default operator. -/
def withDefault (value : RawValue) : FilterValue :=
  ⟨settings.resolveAlias (settings.defaults.forDomain domain), value⟩

/-- The operator and the value of a text. -/
def ofText (text : String) : FilterValue :=
  match Text.cutAt? settings.delimiterInUse text with
  | some (operator, value) => ⟨settings.resolveAlias operator, .single value⟩
  | none => withDefault settings domain (.single text)

/-- The operator and the value of a filter value. -/
def ofRaw : RawValue → FilterValue
  | .list [operator, value] => ⟨settings.resolveAlias operator, .single value⟩
  | .list [text] => ofText settings domain text
  | .list items => withDefault settings domain (.list items)
  | .single text => ofText settings domain text

end FilterValue
end RequestQuery
