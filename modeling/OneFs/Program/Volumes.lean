import OneFs.Program.Arguments

/-!
# The program that manages volumes

Lists, creates, shows, copies and deletes volumes.
-/

namespace OneFs.Program.Volumes

/-- How the program is used. -/
def usage : String :=
  usageOf "volumes" "<list|create|show|copy|delete> [ARGS]"

/-- What the program does for a command. -/
def command (client : Client) : List String → Console Unit
  | ["list"] => do
    let volumes ← Console.ask client.volumes
    if volumes.isEmpty then Console.say "  (no volumes)"
    volumes.forM fun v => Console.say ("  " ++ client.path v.name)
  | ["create", name] => do
    let _ ← Console.ask (client.createVolume name)
    Console.say ("Created " ++ client.path name)
  | ["show", name] => do
    let v ← Console.ask (client.volume "" name)
    Console.say (client.path v.name)
    v.attributes.forM fun a => Console.say ("  " ++ padEnd 24 a.name ++ " " ++ a.value.text)
  | ["copy", source, destination] => do
    let v ← Console.ask (client.copyVolume source destination)
    Console.say ("Copied " ++ source ++ " -> " ++ client.path v.name)
  | ["delete", name] => do
    Console.ask (client.deleteVolume name)
    Console.say ("Deleted " ++ client.path name)
  | _ => Console.stop .misuse

/-- The program. -/
def run : Invocation → Exchange Outcome :=
  runWith usage fun config args => do
    let client ← connect config
    Console.say ("Connected (platform API v" ++ client.api.version.text ++ ")")
    command client args

end OneFs.Program.Volumes
