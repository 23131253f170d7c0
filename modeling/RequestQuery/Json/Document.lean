import RequestQuery.Json.Token

/-! # Documents as they are written

The nesting of a document, read token by token with the containers that are
still open held on a stack.  Nothing is interpreted yet: a reader that asks for
two members of an object never looks into the others.
-/
namespace RequestQuery
namespace Json

/-- A document as it is written. -/
inductive Document where
  | null
  | bool (value : Bool)
  | numeral (value : Numeral)
  | text (letters : List Letter)
  | array (items : List Document)
  | object (members : List (List Letter × Document))

namespace Document

/-- A container that is still open, with what it holds so far in reverse order. -/
inductive Frame where
  | array (items : List Document)
  | object (members : List (List Letter × Document)) (name : List Letter)

/-- What has to come next. -/
inductive Expected where
  /-- A value, or the end of an array that is still empty. -/
  | value (mayClose : Bool)
  /-- The name of a member of an object whose members so far are given, or the end of an empty one. -/
  | name (members : List (List Letter × Document)) (mayClose : Bool)
  /-- The colon behind the name of a member. -/
  | colon (members : List (List Letter × Document)) (name : List Letter)
  /-- A comma or the end of the innermost container. -/
  | more
  /-- Nothing: the document is complete. -/
  | nothing (document : Document)

/-- The open containers, innermost first, and what has to come next. -/
structure State where
  frames : List Frame
  expected : Expected

/-- A value is complete: it goes into the innermost container, or it is the whole document. -/
def complete (value : Document) : List Frame → State
  | [] => ⟨[], .nothing value⟩
  | .array items :: frames => ⟨.array (value :: items) :: frames, .more⟩
  | .object members name :: frames => ⟨.object ((name, value) :: members) name :: frames, .more⟩

/-- Reads one token. -/
def step (state : State) (token : Token) : Option State :=
  match state.expected, token with
  | .value _, .null => some (complete .null state.frames)
  | .value _, .bool b => some (complete (.bool b) state.frames)
  | .value _, .numeral n => some (complete (.numeral n) state.frames)
  | .value _, .text letters => some (complete (.text letters) state.frames)
  | .value _, .openArray => some ⟨.array [] :: state.frames, .value true⟩
  | .value _, .openObject => some ⟨state.frames, .name [] true⟩
  | .value true, .closeArray =>
    match state.frames with
    | .array [] :: frames => some (complete (.array []) frames)
    | _ => none
  | .name members _, .text name => some ⟨state.frames, .colon members name⟩
  | .name _ true, .closeObject => some (complete (.object []) state.frames)
  | .colon members name, .colon => some ⟨.object members name :: state.frames, .value false⟩
  | .more, .comma =>
    match state.frames with
    | .array items :: frames => some ⟨.array items :: frames, .value false⟩
    | .object members _ :: frames => some ⟨frames, .name members false⟩
    | [] => none
  | .more, .closeArray =>
    match state.frames with
    | .array items :: frames => some (complete (.array items.reverse) frames)
    | _ => none
  | .more, .closeObject =>
    match state.frames with
    | .object members _ :: frames => some (complete (.object members.reverse) frames)
    | _ => none
  | _, _ => none

/-- Reads tokens one after the other. -/
def run : List Token → State → Option State
  | [], state => some state
  | token :: rest, state => (step state token).bind (run rest)

/-- The document that is written. -/
def read? (s : List Text.Symbol) : Option Document := do
  let tokens ← tokens? s
  match ← run tokens ⟨[], .value false⟩ with
  | ⟨[], .nothing document⟩ => some document
  | _ => none

end Document
end Json
end RequestQuery
