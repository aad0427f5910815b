import OneFs.Http.Status
import OneFs.Json.Reader

/-!
# Rejections

A cluster that refuses a request answers with a status and a list of errors. `Rejection.ofBody`
reads such an answer; whatever the body is, the rejection has at least one entry and its first
entry has a message.
-/

namespace OneFs

open Json

/-- One error of a list. -/
structure ErrorEntry where
  code : String
  field : String
  message : String
  deriving DecidableEq, Inhabited

namespace ErrorEntry

/-- An entry that says nothing. -/
def blank : ErrorEntry :=
  ⟨"", "", ""⟩

/-- An entry in a text. -/
def reader : Reader ErrorEntry :=
  record "struct ErrorEntry" .dropped <|
    ErrorEntry.mk
      <$> fieldD "code" string ""
      <*> fieldD "field" string ""
      <*> fieldD "message" string ""

/-- An entry as a value. An empty field name is left out. -/
def encode (e : ErrorEntry) : Value :=
  .object (("code", .str e.code) ::
    optionalMember "field" .str (if e.field = "" then none else some e.field) ++
    [("message", .str e.message)])

end ErrorEntry

/-- The answer of a cluster that refuses a request. -/
structure Rejection where
  status : Nat
  errors : List ErrorEntry
  deriving DecidableEq, Inhabited

namespace Rejection

/-- The list of errors in a body. -/
def envelope : Reader (List ErrorEntry) :=
  record "struct ErrorEnvelope" .dropped (fieldD "errors" (list ErrorEntry.reader) [])

/-- An entry that has a message, if need be the status line. -/
def explained (status : Nat) (e : ErrorEntry) : ErrorEntry :=
  if e.message = "" then { e with message := Http.statusLine status } else e

/-- A rejection with a list of errors, of which the first is made to have a message. -/
def new (status : Nat) : List ErrorEntry → Rejection
  | [] => ⟨status, [explained status .blank]⟩
  | e :: rest => ⟨status, explained status e :: rest⟩

/-- The rejection that a reply stands for. A body that is no list of errors counts as an empty
one. -/
def ofBody (status : Nat) (body : String) : Rejection :=
  match envelope.decode body with
  | .ok errors => new status errors
  | .error _ => new status []

/-- The message of the first error. -/
def message (r : Rejection) : String :=
  (r.errors.head?.map ErrorEntry.message).getD ""

/-- The code of the first error. -/
def code (r : Rejection) : String :=
  (r.errors.head?.map ErrorEntry.code).getD ""

/-- Whether the cluster says that there is no such thing. -/
def isNotFound (r : Rejection) : Bool :=
  r.status = 404

end Rejection

end OneFs
