import OneFs.Url.Form
import OneFs.Url.Host

/-!
# URLs

A URL by its parts, each held as it is written. Its text is a function of the parts, and the
operations change one part and leave the others alone.

- `Url.text`: the text;
- `Url.target`: what a request names on the host;
- `Url.withPairs`: more form-encoded pairs in the query;
- `Url.anonymous`, `Url.login?`: the URL without its user name and password, and these two.
-/

namespace OneFs

/-- The path of a URL: segments after slashes, or a text without any structure. -/
inductive UrlPath where
  | segments (ss : List String)
  | plain (s : String)
  deriving DecidableEq, Inhabited

/-- A URL. The port is left out if it is the usual one of the scheme. -/
structure Url where
  scheme : String
  username : String
  password : Option String
  host : Option Host
  port : Option Nat
  path : UrlPath
  query : Option String
  fragment : Option String
  deriving DecidableEq, Inhabited

namespace Url

/-- The usual port of a scheme. -/
def usualPort? (scheme : String) : Option Nat :=
  if scheme = "http" ∨ scheme = "ws" then some 80
  else if scheme = "https" ∨ scheme = "wss" then some 443
  else if scheme = "ftp" then some 21
  else none

/-- The schemes that always have a host and a path. -/
def isSpecial (scheme : String) : Bool :=
  (usualPort? scheme).isSome || scheme == "file"

/-- A part that is written after a mark, if it is there. -/
def marked (mark : String) : Option String → String
  | some s => mark ++ s
  | none => ""

/-- The user name and password as they stand in front of the host. -/
def userInfo (u : Url) : String :=
  let s := u.username ++ marked ":" u.password
  if s.isEmpty then "" else s ++ "@"

/-- The host with what stands around it. -/
def authority (u : Url) : String :=
  match u.host with
  | some h => "//" ++ u.userInfo ++ h.text ++ marked ":" (u.port.map toString)
  | none => ""

/-- The text of the path. -/
def pathText (u : Url) : String :=
  match u.path with
  | .segments ss => String.join (ss.map ("/" ++ ·))
  | .plain s => s

/-- What keeps a path from being read as a host. -/
def guard (u : Url) : String :=
  match u.host, u.path with
  | none, .segments ("" :: _ :: _) => "/."
  | _, _ => ""

/-- The text of a URL. -/
def text (u : Url) : String :=
  u.scheme ++ ":" ++ u.authority ++ u.guard ++ u.pathText ++ marked "?" u.query ++
    marked "#" u.fragment

/-- What a request names on the host: path and query. -/
def target (u : Url) : String :=
  u.pathText ++ marked "?" u.query

/-- The URL with form-encoded pairs after those in its query. -/
def withPairs (u : Url) (pairs : List (String × String)) : Url :=
  if pairs.isEmpty then u
  else
    let more := String.ofList (Form.encode pairs)
    match u.query with
    | none => { u with query := some more }
    | some q => { u with query := some (if q.isEmpty then more else q ++ "&" ++ more) }

/-- The user name and password, if there are any and their percent triples make up texts. -/
def login? (u : Url) : Option (String × Option String) :=
  match u.host with
  | none => none
  | some _ =>
    match Percent.decodeText? u.username.toList with
    | none => none
    | some name =>
      let password := u.password.bind fun s => Percent.decodeText? s.toList
      if name.isEmpty && password.isNone then none else some (name, password)

/-- The URL without user name and password. -/
def anonymous (u : Url) : Url :=
  { u with username := "", password := none }

end Url

end OneFs
