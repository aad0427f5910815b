import OneFs.Text.Blank
import OneFs.Url.Basic

/-!
# Reading URLs

`Url.parse` cuts a text into the parts of a URL: the scheme up to the first colon, after two slashes
the authority up to the first slash, question mark or number sign, then the path, the query and the
fragment. It refuses a text without scheme, and one whose host or port cannot be one.

For the special schemes a backslash counts as a slash, and any number of slashes stands before the
authority.
-/

namespace OneFs.Url

/-- The scheme in front of the first colon, in small letters, and the text after it. -/
def scheme? (cs : List Char) : Option (String × List Char) :=
  let scheme := cs.takeWhile (· != ':')
  match cs.dropWhile (· != ':'), scheme with
  | _ :: rest, first :: _ =>
    if first.isAlpha && scheme.all (fun c => c.isAlphanum || c == '+' || c == '-' || c == '.') then
      some (String.ofList (scheme.map Char.toLower), rest)
    else none
  | _, _ => none

/-- Whether a character separates segments. -/
def isSlash (special : Bool) (c : Char) : Bool :=
  c == '/' || (special && c == '\\')

/-- Whether a character ends a path. -/
def endsPath (c : Char) : Bool :=
  c == '?' || c == '#'

/-- The query and the fragment at the end of a URL. -/
def queryAndFragment (special : Bool) (cs : List Char) : Option String × Option String :=
  let inQuery := if special then Percent.inSpecialQuery else Percent.inQuery
  let fragment (cs : List Char) : Option String :=
    match cs with
    | '#' :: rest => some (String.ofList (Percent.encode Percent.inFragment rest))
    | _ => none
  match cs with
  | '?' :: rest =>
    (some (String.ofList (Percent.encode inQuery (rest.takeWhile (· != '#')))),
      fragment (rest.dropWhile (· != '#')))
  | cs => (none, fragment cs)

/-- A segment with its written-out dots undone. -/
def dots : List Char → List Char
  | '%' :: '2' :: 'e' :: rest => '.' :: dots rest
  | '%' :: '2' :: 'E' :: rest => '.' :: dots rest
  | c :: rest => c :: dots rest
  | [] => []

/-- Whether a segment names the directory that it stands in. -/
def isHere (segment : List Char) : Bool :=
  dots segment == ['.']

/-- Whether a segment names the directory above. -/
def isAbove (segment : List Char) : Bool :=
  dots segment == ['.', '.']

/-- Whether a segment names a drive. -/
def isDrive : List Char → Bool
  | [letter, mark] => letter.isAlpha && (mark == ':' || mark == '|')
  | _ => false

/-- A segment behind those of `done`, which stand in reverse order. The drive of a file comes
first and is written with a colon. -/
def push (file : Bool) (done : List (List Char)) (segment : List Char) : List (List Char) :=
  if file && done.isEmpty && isDrive segment then [segment.take 1 ++ [':']] else segment :: done

/-- The segments but for the last one; a drive stays, whatever the scheme. -/
def pop : List (List Char) → List (List Char)
  | [] => []
  | s :: done => if isDrive s then s :: done else done

/-- Segments with those that name directories resolved, behind those of `done`. A path that ends
in a directory ends in a slash. -/
def resolve (file : Bool) (done : List (List Char)) : List (List Char) → List (List Char)
  | [] => done.reverse
  | [s] =>
    if isAbove s then ([] :: pop done).reverse
    else if isHere s then ([] :: done).reverse
    else (push file done s).reverse
  | s :: t :: rest =>
    if isAbove s then resolve file (pop done) (t :: rest)
    else if isHere s then resolve file done (t :: rest)
    else resolve file (push file done s) (t :: rest)

/-- The path of segments. -/
def pathOf (segments : List (List Char)) : UrlPath :=
  .segments (segments.map fun s => String.ofList (Percent.encode Percent.inPath s))

/-- The path after an authority. -/
def pathAfterAuthority (special : Bool) (cs : List Char) : UrlPath :=
  match cs with
  | [] => .segments (if special then [""] else [])
  | _ :: rest => pathOf (resolve false [] (Text.pieces (isSlash special) rest))

/-- The path of a file, which does not start with empty segments. -/
def filePath (cs : List Char) : UrlPath :=
  let segments := resolve true [] (Text.pieces (isSlash true) (cs.dropWhile (isSlash true)))
  pathOf <|
    match segments.dropWhile List.isEmpty with
    | [] => [[]]
    | segments => segments

/-- The host in front of the first colon that is not between brackets, and the text after it. -/
def splitPort (inside : Bool) : List Char → List Char × Option (List Char)
  | [] => ([], none)
  | c :: rest =>
    if c == ':' && !inside then ([], some rest)
    else
      let (host, port) := splitPort (c == '[' || (inside && c != ']')) rest
      (c :: host, port)

/-- The port that digits stand for, unless it is the usual one. -/
def portOf (scheme : String) (digits : List Char) : Except UrlFault (Option Nat) :=
  if digits.isEmpty then .ok none
  else
    match Text.natural? digits with
    | none => .error .port
    | some n =>
      if 65535 < n then .error .port
      else if usualPort? scheme = some n then .ok none
      else .ok (some n)

/-- The host and the port of an authority. -/
def hostAndPort (scheme : String) (cs : List Char) : Except UrlFault (Host × Option Nat) := do
  let (host, digits) := splitPort false cs
  if host.isEmpty && (isSpecial scheme || digits.isSome) then throw .emptyHost
  let host ← if isSpecial scheme then Host.parse host else Host.parseOther host
  let port ← portOf scheme (digits.getD [])
  pure (host, port)

/-- The text in front of the last `@`, if there is one, and the text after it. -/
def splitUserInfo (cs : List Char) : Option (List Char) × List Char :=
  let host := (cs.reverse.takeWhile (· != '@')).reverse
  if host.length = cs.length then (none, cs)
  else (some (cs.take (cs.length - host.length - 1)), host)

/-- The user name and password of what stands in front of the `@`. -/
def userInfoOf (cs : List Char) : String × Option String :=
  let encoded (cs : List Char) : String := String.ofList (Percent.encode Percent.inUserInfo cs)
  let password := (cs.dropWhile (· != ':')).drop 1
  (encoded (cs.takeWhile (· != ':')), if password.isEmpty then none else some (encoded password))

/-- A URL after the slashes in front of its authority. -/
def afterSlashes (scheme : String) (cs : List Char) : Except UrlFault Url := do
  let special := isSpecial scheme
  let ends (c : Char) : Bool := isSlash special c || endsPath c
  let (login, authority) := splitUserInfo (cs.takeWhile fun c => !ends c)
  let rest := cs.dropWhile fun c => !ends c
  if login == some [] && authority.isEmpty && !rest.isEmpty then throw .emptyHost
  let (host, port) ← hostAndPort scheme authority
  let (username, password) := userInfoOf (login.getD [])
  if host = .name "" && (username != "" || password.isSome) then throw .emptyHost
  let (query, fragment) := queryAndFragment special (rest.dropWhile fun c => !endsPath c)
  pure {
    scheme, username, password, host := some host, port,
    path := pathAfterAuthority special (rest.takeWhile fun c => !endsPath c),
    query, fragment }

/-- The host of a file and the text after it. A drive is no host, and the machine itself needs no
name. -/
def fileHost (cs : List Char) : Except UrlFault (Host × List Char) :=
  match cs with
  | a :: b :: rest =>
    if isSlash true a && isSlash true b then do
      let ends (c : Char) : Bool := isSlash true c || endsPath c
      let host := rest.takeWhile fun c => !ends c
      if host.isEmpty || isDrive host then pure (.name "", rest)
      else
        let host ← Host.parse host
        pure (if host = .name "localhost" then .name "" else host, rest.dropWhile fun c => !ends c)
    else .ok (.name "", cs)
  | cs => .ok (.name "", cs)

/-- A URL that names a file, after its scheme. -/
def afterFile (cs : List Char) : Except UrlFault Url := do
  let (host, rest) ← fileHost cs
  let (query, fragment) := queryAndFragment true (rest.dropWhile fun c => !endsPath c)
  pure {
    scheme := "file", username := "", password := none, host := some host, port := none,
    path := filePath (rest.takeWhile fun c => !endsPath c), query, fragment }

/-- A URL without a host, after its scheme. -/
def withoutHost (scheme : String) (cs : List Char) : Url :=
  let path := cs.takeWhile fun c => !endsPath c
  let (query, fragment) := queryAndFragment false (cs.dropWhile fun c => !endsPath c)
  { scheme, username := "", password := none, host := none, port := none,
    path :=
      match path with
      | '/' :: rest => pathOf (resolve false [] (Text.pieces (isSlash false) rest))
      | path => .plain (String.ofList (Percent.encode Percent.isControl path)),
    query, fragment }

/-- The URL of a text. Blanks and controls around it do not count, nor do tabs and line ends
anywhere in it. -/
def parse (s : String) : Except UrlFault Url :=
  let cs := (Text.trimBoth (fun c => c.toNat ≤ 0x20) s.toList).filter
    fun c => !(c == '\t' || c == '\n' || c == '\r')
  match scheme? cs with
  | none => .error .noScheme
  | some (scheme, rest) =>
    if scheme = "file" then afterFile rest
    else if isSpecial scheme then afterSlashes scheme (rest.dropWhile (isSlash true))
    else
      match rest with
      | '/' :: '/' :: rest => afterSlashes scheme rest
      | rest => .ok (withoutHost scheme rest)

end OneFs.Url
