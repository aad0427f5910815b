import OneFs.Failure
import OneFs.Text.Blank

/-!
# Versions and paths of the platform API

Two versions are spoken. The version selects where exports, quotas and snapshots are found, and
where the contents of a snapshot appear.

- `Version.parse`, `Version.reader`: the accepted spellings;
- `Version.ofLatest`: the version for a cluster, by the latest that it speaks;
- `Version.snapshotPath`: the directory of a snapshot.
-/

namespace OneFs

open Json

/-- A version of the platform API. -/
inductive Version where
  | v1
  | v2
  deriving DecidableEq, Inhabited

/-- The root of the file system in URLs. -/
def namespaceRoot : String :=
  "namespace"

/-- The directory that holds the volumes unless another is configured. -/
def volumesRoot : String :=
  "/ifs/volumes"

/-- Where a cluster tells the latest version that it speaks. -/
def latestPath : String :=
  "platform/latest"

/-- The hidden directory through which snapshots are reached. -/
def snapshotDirectory : String :=
  ".snapshot"

/-- The path in URLs of a directory on the cluster. -/
def namespacePath (directory : String) : String :=
  namespaceRoot ++ directory

/-- The text in front of the first `pattern` and the text after it. -/
def splitOnce (pattern : List Char) : List Char → Option (List Char × List Char)
  | [] => none
  | c :: cs =>
    if pattern.isPrefixOf (c :: cs) then some ([], (c :: cs).drop pattern.length)
    else (splitOnce pattern cs).map fun (front, back) => (c :: front, back)

namespace Version

/-- The number of a version. -/
def number : Version → Nat
  | .v1 => 1
  | .v2 => 2

/-- A version as users see it. -/
def text (v : Version) : String :=
  toString v.number

/-- A version taken apart. -/
def detail : Version → String
  | .v1 => "V1"
  | .v2 => "V2"

/-- A version as written. -/
def encode : Version → Value
  | .v1 => .str "v1"
  | .v2 => .str "v2"

/-- The best version for a cluster that speaks up to `latest`. -/
def ofLatest (latest : Nat) : Version :=
  if 2 ≤ latest then .v2 else .v1

/-- The version of a number. -/
def ofInt? (n : Int) : Option Version :=
  if n = 1 then some .v1 else if n = 2 then some .v2 else none

/-- A spelling without the blanks around it and in small letters. -/
def normal (s : String) : String :=
  Text.lower (Text.trim s)

/-- The version of a spelling. -/
def ofText? (s : String) : Option Version :=
  let t := normal s
  if t = "1" ∨ t = "v1" then some .v1
  else if t = "2" ∨ t = "v2" then some .v2
  else none

/-- The version of a spelling, or what is wrong with it. -/
def parse (s : String) : Except Failure Version :=
  match ofText? s with
  | some v => .ok v
  | none => .error (.config ("Unsupported API version: " ++ normal s))

/-- What a version is read from. -/
def expected : String :=
  "a platform API version: 1, 2, \x22v1\x22 or \x22v2\x22"

/-- The version of an integer, or what is wrong with it. -/
def ofInt (n : Int) : Except Fault Version :=
  match ofInt? n with
  | some v => .ok v
  | none => .error (.misfit (.invalidValue (.int n) expected) .token)

/-- A version, as a string in any spelling or as a number. -/
def reader : Reader Version where
  fault
    | .str (.ok s) _ =>
      if (ofText? s).isSome then none else some (.misfit (.invalidValue (.str s) expected) .token)
    | .num (.ok (.int n)) _ => faultOf (ofInt n)
    | d => some (d.mismatch expected)
  value
    | .str (.ok s) _ => (ofText? s).getD .v1
    | .num (.ok (.int n)) _ => (ofInt? n).getD .v1
    | _ => .v1

/-- The root of the platform resources of a version. -/
def root (v : Version) : String :=
  "platform/" ++ v.text

/-- Where exports are found. -/
def exportsPath (v : Version) : String :=
  v.root ++ "/protocols/nfs/exports"

/-- Where quotas are found. -/
def quotasPath (v : Version) : String :=
  v.root ++ "/quota/quotas"

/-- Where snapshots are found. -/
def snapshotsPath (v : Version) : String :=
  v.root ++ "/snapshot/snapshots"

/-- Where the contents of the snapshot `name` appear for the directory at `path`. Version 1 goes
through the snapshots of the whole file system, version 2 through those of the directory. -/
def snapshotPath (v : Version) (path name : String) : String :=
  let inside := path ++ "/" ++ snapshotDirectory ++ "/" ++ name
  match v with
  | .v2 => inside
  | .v1 =>
    match splitOnce "/ifs/".toList path.toList with
    | some (head, tail) =>
      String.ofList head ++ "/ifs/" ++ snapshotDirectory ++ "/" ++ name ++ "/" ++
        String.ofList tail
    | none => inside

end Version

end OneFs
