import OneFs.Program.Exports
import OneFs.Program.Quotas
import OneFs.Program.Snapshots
import OneFs.Program.Volumes

/-!
# The programs

`Program.run` runs one of the four programs; `Program.ofName?` picks one by its name.
-/

namespace OneFs

/-- One of the programs. -/
inductive Program where
  | volumes
  | exports
  | quota
  | snapshots
  deriving DecidableEq, Inhabited

namespace Program

/-- The program of a name. -/
def ofName? (name : String) : Option Program :=
  if name = "volumes" then some .volumes
  else if name = "exports" then some .exports
  else if name = "quota" then some .quota
  else if name = "snapshots" then some .snapshots
  else none

/-- Run a program. -/
def run : Program → Invocation → Exchange Outcome
  | .volumes => Volumes.run
  | .exports => Exports.run
  | .quota => Quotas.run
  | .snapshots => Snapshots.run

end Program

end OneFs
