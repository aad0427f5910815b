import OneFs.Http.Request
import OneFs.Json.Place
import OneFs.Rejection
import OneFs.Text.Quoted

/-!
# Failures

Everything that can go wrong with a call.

- `Failure.message`: the words for a user;
- `Failure.detail`: the failure taken apart, for a programmer;
- `Failure.isNotFound`: whether what was asked for does not exist.
-/

namespace OneFs

open Json

/-- Why a call failed. -/
inductive Failure where
  /-- The cluster refused the request. -/
  | rejected (r : Rejection)
  /-- The request could not be sent, or its reply could not be received. -/
  | request (fault : Http.RequestFault)
  /-- The reply could not be read, from a place on if there is one to tell. -/
  | json (fault : Fault) (place : Option Place)
  /-- No reply came in time. -/
  | timeout
  /-- An argument that is needed is empty. -/
  | invalidArgument (what : String)
  /-- The configuration is incomplete or malformed. -/
  | config (what : String)
  /-- A look-up found nothing. -/
  | notFound (what : String)
  /-- A reply lacks the body that the call needs. -/
  | invalidResponse
  deriving BEq, Inhabited

namespace Http.RequestFault

/-- The words for a request without a reply. -/
def message : RequestFault → String
  | .illegalHeader => "builder error"
  | .unknownScheme url => "builder error for url (" ++ url.text ++ ")"
  | .illegalAddress url => "builder error for url (" ++ url.text ++ ")"
  | .closed url => "error sending request for url (" ++ url.text ++ ")"
  | .unreachable url => "error sending request for url (" ++ url.text ++ ")"
  | .brokenOff => "error decoding response body"
  | .endless url => "error following redirect for url (" ++ url.text ++ ")"

/-- The host and port that a URL leads to. -/
def address (url : Url) : String :=
  let port := url.port.or (Url.usualPort? url.scheme)
  ((url.host.map Host.text).getD "") ++ Url.marked ":" (port.map toString)

/-- A request that went wrong, by kind, URL and cause. -/
def report (kind : String) (url : Option Url) (source : String) : String :=
  "reqwest::Error \x7b kind: " ++ kind ++
    Url.marked ", url: " (url.map fun u => Text.quoted u.text) ++
    ", source: " ++ source ++ " \x7d"

/-- The fault taken apart. -/
def detail : RequestFault → String
  | .illegalHeader => report "Builder" none "http::Error(InvalidHeaderValue)"
  | .unknownScheme url => report "Builder" (some url) "BadScheme"
  | .illegalAddress url =>
    report "Builder" (some url) (Text.quoted "Parsed Url is not a valid Uri")
  | .closed url =>
    report "Request" (some url)
      "hyper_util::client::legacy::Error(SendRequest, hyper::Error(IncompleteMessage))"
  | .unreachable url =>
    report "Request" (some url) <|
      "hyper_util::client::legacy::Error(Connect, ConnectError(\x22tcp connect error\x22, " ++
        address url ++ ", Os \x7b code: 101, kind: NetworkUnreachable, message: " ++
        "\x22Network is unreachable\x22 \x7d))"
  | .brokenOff =>
    report "Decode" none
      "hyper::Error(Body, Custom \x7b kind: UnexpectedEof, error: IncompleteBody \x7d)"
  | .endless url => report "Redirect" (some url) "TooManyRedirects"

end Http.RequestFault

namespace Failure

/-- The words for a failure. -/
def message : Failure → String
  | .rejected r => r.message
  | .request fault => "Request error: " ++ fault.message
  | .json fault place => "JSON error: " ++ fault.message ++ (place.map Place.suffix).getD ""
  | .timeout => "HTTP request timed out"
  | .invalidArgument what => "Invalid argument: " ++ what
  | .config what => "Configuration error: " ++ what
  | .notFound what => "Not found: " ++ what
  | .invalidResponse => "Invalid response from server"

/-- Whether what was asked for does not exist. -/
def isNotFound : Failure → Bool
  | .rejected r => r.isNotFound
  | .notFound _ => true
  | _ => false

/-- An error entry taken apart. -/
def entryDetail (e : ErrorEntry) : String :=
  "ErrorEntry \x7b code: " ++ Text.quoted e.code ++ ", field: " ++ Text.quoted e.field ++
    ", message: " ++ Text.quoted e.message ++ " \x7d"

/-- The failure taken apart. -/
def detail : Failure → String
  | .rejected r =>
    "Api(ApiError \x7b status_code: " ++ toString r.status ++ ", errors: [" ++
      ", ".intercalate (r.errors.map entryDetail) ++ "] \x7d)"
  | .request fault => "RequestError(" ++ fault.detail ++ ")"
  | .json fault place =>
    let p := place.getD ⟨0, 0⟩
    "JsonError(Error(" ++ Text.quoted fault.message ++ ", line: " ++ toString p.line ++
      ", column: " ++ toString p.column ++ "))"
  | .timeout => "Timeout"
  | .invalidArgument what => "InvalidArgument(" ++ Text.quoted what ++ ")"
  | .config what => "Config(" ++ Text.quoted what ++ ")"
  | .notFound what => "NotFound(" ++ Text.quoted what ++ ")"
  | .invalidResponse => "InvalidResponse"

end Failure

end OneFs
