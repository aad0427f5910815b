import OneFs.Unicode.MappingTable
import OneFs.Unicode.Table

/-!
# What domains make of characters

Domains that differ in case, width or other ways of writing the same letters are the same domain.
`mapping` tells what a single character becomes, and `mapped?` what a text becomes.
-/

namespace OneFs.Unicode

/-- What a domain makes of a character. -/
inductive Mapping where
  /-- It stands for itself. -/
  | kept
  /-- It is left out. -/
  | dropped
  /-- It stands for other characters. -/
  | replaced (cs : List Char)
  /-- No domain is given with it. -/
  | barred
  deriving DecidableEq, Inhabited

/-- Every `step`th code point from `first` to `last`, each standing for the one at the same distance
from `target`. -/
structure Shift where
  first : Nat
  last : Nat
  step : Nat
  target : Nat

/-- Code points from `first` on, each with what it stands for. -/
structure Listing where
  first : Nat
  targets : List (List Char)

/-- The ranges that a domain may be given with. -/
def allowed : List Table.Range :=
  Table.ranges allowedTable

/-- The ranges that are left out. -/
def leftOut : List Table.Range :=
  Table.ranges droppedTable

/-- The shifted code points. -/
def shifts : List Shift :=
  (Table.rows shiftTable).filterMap fun
    | [first, last, step, target] => some ⟨first, last, step, target⟩
    | _ => none

/-- What code points in a row stand for, as written: with commas between them and points between the
characters of one. -/
def targetsOf (written : List Char) : List (List Char) :=
  (Text.pieces (· == ',') written).map fun target => (Table.row target).map Char.ofNat

/-- The listed code points. -/
def listings : List Listing :=
  (listTable.flatMap Table.entries).filterMap fun entry =>
    match Text.pieces (· == ':') entry with
    | [first, targets] => some ⟨Table.hexNumber first, targetsOf targets⟩
    | _ => none

/-- What a shifted code point stands for. -/
def shifted? (n : Nat) : Option (List Char) :=
  (shifts.find? fun s => s.first ≤ n && n ≤ s.last && (n - s.first) % s.step == 0).map fun s =>
    [Char.ofNat (s.target + (n - s.first))]

/-- What a listed code point stands for. -/
def listed? (n : Nat) : Option (List Char) :=
  (listings.find? fun l => l.first ≤ n && n - l.first < l.targets.length).bind fun l =>
    l.targets[n - l.first]?

/-- What a domain makes of a character. ASCII capitals are made small, and the rest of ASCII is
left alone. -/
def mapping (c : Char) : Mapping :=
  if c.isUpper then .replaced [c.toLower]
  else if c.toNat < 0x80 then .kept
  else if Table.contains leftOut c then .dropped
  else
    match (shifted? c.toNat).or (listed? c.toNat) with
    | some cs => .replaced cs
    | none => if Table.contains allowed c then .kept else .barred

/-- What a character becomes, unless no domain is given with it. -/
def Mapping.result? (c : Char) : Mapping → Option (List Char)
  | .kept => some [c]
  | .dropped => some []
  | .replaced cs => some cs
  | .barred => none

/-- What a text becomes, unless no domain is given with some of its characters. -/
def mapped? (cs : List Char) : Option (List Char) := do
  let parts ← cs.mapM fun c => (mapping c).result? c
  pure parts.flatten

end OneFs.Unicode
