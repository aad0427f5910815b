import OneFs.Url.Address
import OneFs.Url.Domain
import OneFs.Url.Percent

/-!
# Hosts and what is wrong with a URL

`Host.parse` reads the host of a special scheme, `Host.parseOther` that of another scheme, which is
only checked for characters that cannot be in one. `UrlFault` lists what a URL can be refused for.
-/

namespace OneFs

/-- Why a text is no URL. -/
inductive UrlFault where
  | emptyHost
  | domain
  | port
  | ipv4
  | ipv6
  | hostCharacter
  | noScheme
  deriving DecidableEq, Inhabited

/-- The words for what is wrong. -/
def UrlFault.message : UrlFault → String
  | .emptyHost => "empty host"
  | .domain => "invalid international domain name"
  | .port => "invalid port number"
  | .ipv4 => "invalid IPv4 address"
  | .ipv6 => "invalid IPv6 address"
  | .hostCharacter => "invalid domain character"
  | .noScheme => "relative URL without a base"

/-- A host. The name of a host of a special scheme is in ASCII; another may be empty. -/
inductive Host where
  | name (s : String)
  | ipv4 (address : Nat)
  | ipv6 (pieces : List Nat)
  deriving DecidableEq, Inhabited

namespace Host

/-- The text of a host. -/
def text : Host → String
  | .name s => s
  | .ipv4 n => Address.ipv4Text n
  | .ipv6 ns => "[" ++ Address.ipv6Text ns ++ "]"

/-- The address between brackets. -/
def bracketed (cs : List Char) : Except UrlFault Host :=
  if cs.getLast? == some ']' then
    match Address.ipv6? cs.dropLast with
    | some ns => .ok (.ipv6 ns)
    | none => .error .ipv6
  else .error .ipv6

/-- The host of a special scheme. -/
def parse (cs : List Char) : Except UrlFault Host :=
  match cs with
  | '[' :: rest => bracketed rest
  | cs =>
    match Domain.domain? (Percent.decode cs) with
    | none => .error .domain
    | some domain =>
      if domain.isEmpty then .error .emptyHost
      else if Address.endsInNumber domain then
        match Address.ipv4? domain with
        | some n => .ok (.ipv4 n)
        | none => .error .ipv4
      else .ok (.name (String.ofList domain))

/-- Characters that no host has, whatever the scheme. -/
def isForbidden (c : Char) : Bool :=
  c == '\x00' || c == ' ' || c == '#' || c == '/' || c == ':' || c == '<' || c == '>' ||
    c == '?' || c == '@' || c == '[' || c == '\\' || c == ']' || c == '^' || c == '|'

/-- The host of any other scheme, which may be empty. -/
def parseOther (cs : List Char) : Except UrlFault Host :=
  match cs with
  | '[' :: rest => bracketed rest
  | cs =>
    if cs.any isForbidden then .error .hostCharacter
    else .ok (.name (String.ofList (Percent.encode Percent.isControl cs)))

end Host

end OneFs
