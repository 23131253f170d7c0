import RequestQuery.Json.Printer

/-! # Errors

An error names its cause.  Its kind says whose mistake it is: the developer's,
the client's, the configuration's, or the database's.  What a client of an API
gets to see is less: only mistakes of its own are spelled out, for all others
there is one fixed sentence, and the details stay inside.
-/
namespace RequestQuery

/-- A failure that the database reports. -/
structure DatabaseFailure where
  reason : String
  deriving DecidableEq, Repr

/-- The text of a failure of the database. -/
def DatabaseFailure.message (f : DatabaseFailure) : String :=
  "Custom Error: " ++ f.reason

/-- Whose mistake an error is. -/
inductive ErrorKind where
  | invalidArgument
  | badRequest
  | config
  | database
  deriving DecidableEq, Repr

/-- What goes wrong when queries are made and run. -/
inductive QueryError where
  | unknownAddon (name : String)
  | unknownFilterer (name : String)
  | invalidDistinctField
  | invalidCursor
  | filterNotAllowed (field : String)
  | sortNotAllowed (field : String)
  | database (failure : DatabaseFailure)
  /-- A mistake that the surrounding program found. -/
  | invalidArgument (message : String)
  | badRequest (message : String)
  | config (message : String)
  deriving DecidableEq, Repr

namespace QueryError

/-- Whose mistake it is. -/
def kind : QueryError → ErrorKind
  | unknownAddon _ | invalidArgument _ => .invalidArgument
  | invalidDistinctField | invalidCursor | filterNotAllowed _ | sortNotAllowed _ | badRequest _ => .badRequest
  | unknownFilterer _ | config _ => .config
  | database _ => .database

/-- What went wrong, in words. -/
def detail : QueryError → String
  | unknownAddon name => "Unknown addon [" ++ name ++ "]."
  | unknownFilterer name => "Filterer [" ++ name ++ "] does not exist."
  | invalidDistinctField => "Invalid distinct field."
  | invalidCursor => "Invalid cursor."
  | filterNotAllowed field => "Requested filter \u0060" ++ field ++ "\u0060 is not allowed."
  | sortNotAllowed field => "Requested sort \u0060" ++ field ++ "\u0060 is not allowed."
  | database failure => failure.message
  | invalidArgument message | badRequest message | config message => message

/-- The text of an error: what went wrong, and for the last two kinds where. -/
def message (e : QueryError) : String :=
  match e.kind with
  | .invalidArgument | .badRequest => e.detail
  | .config => "configuration error: " ++ e.detail
  | .database => "database error: " ++ e.detail

/-- Whether the error was caused by another one, a failure of the database. -/
def hasSource (e : QueryError) : Bool :=
  e.kind == .database

end QueryError

/-- An error as an API answers it. -/
inductive ApiError where
  | badRequest (message : String)
  | database (failure : DatabaseFailure)
  | internal (message : String) (details : Option String)
  deriving DecidableEq, Repr

namespace ApiError

/-- The answer to an error of a query. -/
def ofQueryError (e : QueryError) : ApiError :=
  match e, e.kind with
  | .database failure, _ => database failure
  | _, .badRequest => badRequest e.message
  | _, _ => internal "Query definition is misconfigured" (some e.message)

/-- The status code of the answer. -/
def status : ApiError → Nat
  | badRequest _ => 400
  | database _ | internal _ _ => 500

/-- What the client is told. -/
def userMessage : ApiError → String
  | badRequest message => message
  | database _ => "A database error occurred"
  | internal message _ => message

/-- What only the log is told. -/
def details? : ApiError → Option String
  | internal _ details => details
  | badRequest _ | database _ => none

/-- The body of the answer. -/
def body (e : ApiError) : String :=
  (Json.object [("error", .string e.userMessage)]).print

end ApiError
end RequestQuery
