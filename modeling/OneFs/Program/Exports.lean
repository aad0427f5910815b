import OneFs.Program.Arguments

/-!
# The program that manages exports

Lists published volumes, publishes them, shows and restricts their clients, and stops publishing
them.
-/

namespace OneFs.Program.Exports

/-- How the program is used. -/
def usage : String :=
  usageOf "exports" "<list|export|clients|unexport> [ARGS]"

/-- A published volume as a line. -/
def line (e : VolumeExport) : String :=
  "  " ++ e.path ++ " -> " ++ (if e.clients.isEmpty then "*" else ",".intercalate e.clients)

/-- The clients of a volume as a line. -/
def clientsLine (name : String) : Option (List String) → String
  | some [] => name ++ ": open to all clients"
  | some clients => name ++ ": " ++ ", ".intercalate clients
  | none => name ++ " is not exported"

/-- What the program does for a command. -/
def command (client : Client) : List String → Console Unit
  | ["list"] => do
    let published ← Console.ask client.volumeExports
    published.forM fun e => Console.say (line e)
  | ["export", name] => do
    Console.ask (client.publish name)
    Console.say ("Exported " ++ client.path name)
  | ["clients", name] => do
    let clients ← Console.ask (client.exportClients name)
    Console.say (clientsLine name clients)
  | "clients" :: name :: clients => do
    Console.ask (client.setExportClients name clients)
    Console.say ("Restricted " ++ name ++ " to " ++ ", ".intercalate clients)
  | ["unexport", name] => do
    Console.ask (client.unpublish name)
    Console.say ("Unexported " ++ client.path name)
  | _ => Console.stop .misuse

/-- The program. -/
def run : Invocation → Exchange Outcome :=
  runWith usage fun config args => do
    if args.isEmpty then Console.stop .misuse
    let client ← connect config
    command client args

end OneFs.Program.Exports
