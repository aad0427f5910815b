import OneFs.Base64
import OneFs.Text.Letter
import OneFs.Url.Parse

/-!
# Requests

A `Request` is what goes out to a server. `prepare` makes one of what a caller asks for, or says
why that cannot be sent: a header that is none, a scheme that is not spoken, or a host that cannot
be named on the wire.

A user name in the URL is taken out of it and becomes an authorization of its own, in front of the
one that the caller gives.
-/

namespace OneFs.Http

/-- A header, its name in small letters. -/
structure Header where
  name : String
  value : String
  deriving DecidableEq, Inhabited

/-- Characters of header names. -/
def isToken (c : Char) : Bool :=
  c.isAlphanum || c == '!' || c == '#' || c == '$' || c == '%' || c == '&' || c == '\x27' ||
    c == '*' || c == '+' || c == '-' || c == '.' || c == '^' || c == '_' || c == '\x60' ||
    c == '|' || c == '~'

/-- Characters of header values. -/
def isField (c : Char) : Bool :=
  c == '\t' || (0x20 ≤ c.toNat && c.toNat != 0x7F)

/-- A name and a value as a header, if they can be one. -/
def header? (name value : String) : Option Header :=
  if !name.isEmpty && name.toList.all isToken && value.toList.all isField then
    some ⟨Text.lower name, value⟩
  else none

/-- Names and values as headers, if they all can be. -/
def headers? : List (String × String) → Option (List Header)
  | [] => some []
  | (name, value) :: rest => do
    let h ← header? name value
    let hs ← headers? rest
    pure (h :: hs)

/-- How requests are sent: whether any certificate will do, and how many milliseconds a reply may
take. -/
structure Options where
  insecure : Bool
  timeout : Nat
  deriving DecidableEq, Inhabited

/-- A request as it is sent. The URL has no user name. -/
structure Request where
  method : String
  url : Url
  headers : List Header
  body : List UInt8
  options : Options
  deriving DecidableEq, Inhabited

/-- Why a request gave no reply. -/
inductive RequestFault where
  | illegalHeader
  | unknownScheme (url : Url)
  | illegalAddress (url : Url)
  | closed (url : Url)
  | unreachable (url : Url)
  | brokenOff
  | endless (url : Url)
  deriving DecidableEq, Inhabited

/-- What becomes of a request. A reply that is received in full has a status and a text. A request
can be misled into others by redirections; what goes wrong then is a fault of these. -/
inductive Delivery where
  | received (status : Nat) (body : String)
  | brokenOff
  | unanswered
  | closed
  | unreachable
  | misled (fault : RequestFault)
  deriving DecidableEq, Inhabited

/-- The value of an authorization by user name and password. -/
def basicAuth (username password : String) : String :=
  "Basic " ++ Base64.ofText (username ++ ":" ++ password)

/-- Whether a caller's headers give the type of the content. -/
def givesContentType (headers : List (String × String)) : Bool :=
  headers.any fun h => Text.sameLetters h.1 "content-type"

/-- The type that a body has unless a caller gives another. -/
def contentType (headers : List (String × String)) : Option (List UInt8) → List Header
  | some _ => if givesContentType headers then [] else [⟨"content-type", "application/json"⟩]
  | none => []

/-- The authorization that a URL carries. -/
def urlAuth (url : Url) : List Header :=
  match url.login? with
  | some (name, password) => [⟨"authorization", basicAuth name (password.getD "")⟩]
  | none => []

/-- A URL without the user name that has become an authorization. -/
def bareUrl (url : Url) : Url :=
  if url.login?.isSome then url.anonymous else url

/-- The longest URL that goes on the wire. -/
def longestUrl : Nat :=
  65534

/-- Whether the host of a URL can be named on the wire, at its length. -/
def isSendable (url : Url) : Bool :=
  !(url.authority.toList.any fun c => c == '\x22' || c == '\x60' || c == '\x7b' || c == '\x7d') &&
    url.text.utf8ByteSize ≤ longestUrl

/-- The request that a caller asks for. -/
def prepare (options : Options) (method : String) (url : Url) (auth : String)
    (headers : List (String × String)) (body : Option (List UInt8)) :
    Except RequestFault Request :=
  match headers? (("authorization", auth) :: headers) with
  | none => .error .illegalHeader
  | some given =>
    let bare := bareUrl url
    if bare.scheme ≠ "http" ∧ bare.scheme ≠ "https" then .error (.unknownScheme bare)
    else if isSendable bare then
      .ok {
        method, url := bare, headers := urlAuth url ++ given ++ contentType headers body,
        body := body.getD [], options }
    else .error (.illegalAddress bare)

end OneFs.Http
