import OneFs.Program

/-!
# Running a program by hand

The first argument names a program, the others are its own. Whoever runs it plays the server: each
request is shown on the error stream, and the next line of the input is its reply, as an object
with `status` and `body`. An empty line, or none, closes the connection without a reply.
-/

namespace OneFs.Main

open Json

/-- A reply in a line. -/
def reply : Reader (Nat × String) :=
  record "a reply" .dropped <|
    Prod.mk <$> fieldD "status" word64 200 <*> fieldD "body" string ""

/-- What becomes of a request that is answered with a line. -/
def delivery (method line : String) : Http.Delivery :=
  match reply.decode line with
  | .ok (status, body) =>
    Incoming.deliver method (.message status (Text.Utf8.bytes body) true)
  | .error _ => .closed

/-- Carry a plan out against whoever answers on the input. -/
def perform {α : Type} (input : IO.FS.Stream) (shown : IO.FS.Stream) :
    Exchange α → IO (Except Failure α)
  | .done a => pure (.ok a)
  | .failed f => pure (.error f)
  | .noted _ next => perform input shown next
  | .sent r next => do
    shown.putStrLn (r.method ++ " " ++ r.url.text ++ " " ++ Text.Utf8.text r.body)
    let line ← input.getLine
    perform input shown (next (delivery r.method line))

/-- The variables of the environment that the programs look at. -/
def variableNames : List String :=
  ["ISILON_ENDPOINT", "ISILON_USERNAME", "ISILON_PASSWORD", "ISILON_GROUP", "ISILON_VOLUMEPATH",
    "ISILON_INSECURE", "ISILON_TIMEOUT", "ISILON_API_VERSION"]

/-- The values of variables that are set. -/
def settings : List String → IO (List (String × String))
  | [] => pure []
  | name :: rest => do
    let value ← IO.getEnv name
    let others ← settings rest
    pure (match value with
      | some v => (name, v) :: others
      | none => others)

/-- Run a program and tell how it ended. -/
def runProgram (p : Program) (args : List String) : IO UInt32 := do
  let env ← settings variableNames
  let out ← IO.getStdout
  let err ← IO.getStderr
  match ← perform (← IO.getStdin) err (p.run ⟨fun name => lookup name env, args⟩) with
  | .ok ended =>
    out.putStr ended.out
    err.putStr ended.err
    pure ended.exitCode.toUInt32
  | .error f =>
    err.putStrLn f.message
    pure 1

end OneFs.Main

/-- Run the program that the first argument names. -/
def main (args : List String) : IO UInt32 := do
  match args with
  | name :: args =>
    match OneFs.Program.ofName? name with
    | some p => OneFs.Main.runProgram p args
    | none =>
      (← IO.getStderr).putStrLn "no such program; there are volumes, exports, quota and snapshots"
      pure 2
  | [] =>
    (← IO.getStderr).putStrLn "Usage: onefs <volumes|exports|quota|snapshots> [ARGS]"
    pure 2
