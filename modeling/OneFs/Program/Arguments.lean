import OneFs.Program.Console

/-!
# Arguments of the programs

Options are taken out of the arguments wherever they stand; what is left over is the command.
The settings of the connection come from the environment, and options override them.
-/

namespace OneFs.Program

/-- What a program is given: the variables of its environment and its arguments. -/
structure Invocation where
  environment : String → Option String
  arguments : List String

/-- Take the first option of one of the names, with its value, out of the arguments. An option in
the last place lacks its value. -/
def takeValue (names : List String) :
    List String → Except Stop (Option String × List String)
  | [] => .ok (none, [])
  | a :: rest =>
    if a ∈ names then
      match rest with
      | [] => .error .misuse
      | value :: rest => .ok (some value, rest)
    else do
      let (value, rest) ← takeValue names rest
      pure (value, a :: rest)

/-- Take the first flag of one of the names out of the arguments. -/
def takeFlag (names : List String) : List String → Bool × List String
  | [] => (false, [])
  | a :: rest =>
    if a ∈ names then (true, rest)
    else
      let (found, rest) := takeFlag names rest
      (found, a :: rest)

/-- Whether help is asked for. -/
def wantsHelp (args : List String) : Bool :=
  args.any fun a => a == "--help" || a == "-h"

/-- The configuration that the options ask for, and the arguments left over. -/
def withOptions (c : Config) (args : List String) : Except Stop (Config × List String) := do
  let (endpoint, args) ← takeValue ["--endpoint"] args
  let (username, args) ← takeValue ["--username", "-u"] args
  let (password, args) ← takeValue ["--password", "-p"] args
  let (group, args) ← takeValue ["--group"] args
  let (path, args) ← takeValue ["--volume-path"] args
  let (insecure, args) := takeFlag ["--insecure", "-k"] args
  let c := { c with
    endpoint := endpoint.getD c.endpoint
    username := username.getD c.username
    password := password.getD c.password
    group := group.or c.group
    volumesPath := path.getD c.volumesPath
    insecure := c.insecure || insecure }
  pure (c, args)

/-- The configuration and the command of an invocation. -/
def Invocation.settings (usage : String) (i : Invocation) :
    Except Stop (Config × List String) :=
  match Config.ofEnvironment i.environment with
  | .error f => .error (.complaint (f.message ++ "\n" ++ usage))
  | .ok c => do
    let (c, args) ← withOptions c i.arguments
    match c.validate with
    | .ok () => pure (c, args)
    | .error _ => throw .misuse

/-- Connect to the cluster of a configuration. -/
def connect (c : Config) : Console Client := do
  match ← Console.attempt (Client.connect c) with
  | .ok client => pure client
  | .error f => Console.stop (.complaint ("Failed to connect: " ++ f.message))

/-- Run a program for its invocation, unless help is asked for. -/
def runWith (usage : String) (body : Config → List String → Console Unit) (i : Invocation) :
    Exchange Outcome :=
  if wantsHelp i.arguments then pure (Screen.ended 0 ⟨[usage], []⟩)
  else
    Console.outcome usage <|
      match i.settings usage with
      | .ok (c, args) => body c args
      | .error why => Console.stop why

/-- The usage of a program, by its name and the arguments of its own. -/
def usageOf (name own : String) : String :=
  "Usage: cargo run --example " ++ name ++
    " -- [--endpoint URL --username USER --password PASS] [--insecure] " ++ own

end OneFs.Program
