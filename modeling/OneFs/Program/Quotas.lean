import OneFs.Program.Arguments

/-!
# The program that manages quotas

Sets, updates or clears the quota on a volume, if told to, and then shows it.
-/

namespace OneFs.Program.Quotas

/-- How the program is used. -/
def usage : String :=
  usageOf "quota" "--volume NAME [--set BYTES | --update BYTES | --clear]"

/-- What to do with the quota of a volume before it is shown. -/
structure Order where
  volume : String
  set : Option String
  update : Option String
  clear : Bool

/-- The order of a command. -/
def order (args : List String) : Except Stop Order := do
  let (volume, args) ← takeValue ["--volume"] args
  match volume with
  | none => throw .misuse
  | some volume =>
    let (set, args) ← takeValue ["--set"] args
    let (update, args) ← takeValue ["--update"] args
    let (clear, args) := takeFlag ["--clear"] args
    if args.isEmpty then pure ⟨volume, set, update, clear⟩ else throw .misuse

/-- A number of bytes in an argument. -/
def size (s : String) : Console Int64 :=
  match Text.int64? s with
  | some n => pure n
  | none => Console.stop .misuse

/-- Change the quota as ordered. -/
def change (client : Client) (o : Order) : Console Unit := do
  match o.set, o.update with
  | some bytes, _ =>
    let n ← size bytes
    Console.ask (client.setQuotaSize o.volume n)
    Console.say ("Set hard limit of " ++ o.volume ++ " to " ++ bytes ++ " bytes")
  | none, some bytes =>
    let n ← size bytes
    Console.ask (client.updateQuotaSize o.volume n)
    Console.say ("Updated hard limit of " ++ o.volume ++ " to " ++ bytes ++ " bytes")
  | none, none =>
    if o.clear then
      Console.ask (client.clearQuota o.volume)
      Console.say ("Cleared quota on " ++ o.volume)

/-- A limit as shown. -/
def limitText (limit : Option Int64) : String :=
  (limit.map toString).getD "-"

/-- A quota as lines. -/
def lines (q : Quota) : List String :=
  ["\nQuota " ++ q.id ++ " (" ++ q.path ++ ")",
    "  advisory: " ++ limitText q.thresholds.advisory,
    "  soft:     " ++ limitText q.thresholds.soft,
    "  hard:     " ++ limitText q.thresholds.hard,
    "  usage:    " ++ toString q.usage.logical ++ " logical / " ++ toString q.usage.physical ++
      " physical bytes, " ++ toString q.usage.inodes ++ " inodes"]

/-- Show the quota of a volume. -/
def display (client : Client) (volume : String) : Console Unit := do
  match ← Console.attempt (client.quota volume) with
  | .ok q => (lines q).forM Console.say
  | .error f =>
    if f.isNotFound then Console.say ("\n" ++ volume ++ " has no quota")
    else Console.stop (.failure f)

/-- The program. -/
def run : Invocation → Exchange Outcome :=
  runWith usage fun config args =>
    match order args with
    | .error why => Console.stop why
    | .ok o => do
      let client ← connect config
      change client o
      display client o.volume

end OneFs.Program.Quotas
