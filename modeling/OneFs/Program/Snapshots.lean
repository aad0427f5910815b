import OneFs.Program.Arguments

/-!
# The program that manages snapshots

Lists, takes, restores and removes snapshots, which are named by id or by name.
-/

namespace OneFs.Program.Snapshots

/-- How the program is used. -/
def usage : String :=
  usageOf "snapshots" "<list|create|restore|remove> [ARGS]"

/-- The id or the name that an argument gives. -/
def idOrName (arg : String) : Int64 × String :=
  match Text.int64? arg with
  | some id => (id, "")
  | none => (0, arg)

/-- A snapshot as a line. -/
def line (s : Snapshot) : String :=
  "  " ++ padStart 6 (toString s.id) ++ "  " ++ padEnd 32 s.name ++ " " ++ padEnd 10 s.state ++
    " " ++ padStart 12 (toString s.size) ++ "  " ++ s.path

/-- Show snapshots. -/
def display (snapshots : List Snapshot) : Console Unit := do
  if snapshots.isEmpty then Console.say "  (no snapshots)"
  snapshots.forM fun s => Console.say (line s)

/-- What the program does for a command. -/
def command (client : Client) : List String → Console Unit
  | ["list"] => do
    let all ← Console.ask client.snapshots
    display all
  | ["list", volume] => do
    let found ← Console.ask (client.snapshotsOf volume)
    display found
  | ["create", volume, name] => do
    let s ← Console.ask (client.createSnapshot volume name)
    Console.say ("Created snapshot " ++ s.name ++ " (" ++ toString s.id ++ ") of " ++ s.path)
  | ["restore", snapshot, destination] => do
    let (id, name) := idOrName snapshot
    let v ← Console.ask (client.copySnapshot id name destination)
    Console.say ("Restored " ++ snapshot ++ " into " ++ client.path v.name)
  | ["remove", snapshot] => do
    let (id, name) := idOrName snapshot
    Console.ask (client.removeSnapshot id name)
    Console.say ("Removed snapshot " ++ snapshot)
  | _ => Console.stop .misuse

/-- The program. -/
def run : Invocation → Exchange Outcome :=
  runWith usage fun config args => do
    let client ← connect config
    command client args

end OneFs.Program.Snapshots
