import OneFs.Client

/-!
# Programs on a console

A `Console` program makes calls and prints lines, and may stop before its end. How it ends is an
`Outcome`: what it has printed, on the two streams, and its exit code.
-/

namespace OneFs.Program

/-- The lines printed so far, on the two streams. -/
structure Screen where
  out : List String
  err : List String
  deriving DecidableEq, Inhabited

/-- Why a program stops before its end. -/
inductive Stop where
  /-- It is not used as it should be. -/
  | misuse
  /-- It says why and stops. -/
  | complaint (line : String)
  /-- A call failed. -/
  | failure (f : Failure)

/-- A program that makes calls and prints lines. -/
abbrev Console : Type → Type :=
  ExceptT Stop (StateT Screen Exchange)

/-- How a program ended. -/
structure Outcome where
  exitCode : Nat
  out : String
  err : String
  deriving DecidableEq, Inhabited

namespace Console

/-- Print a line. -/
def say (line : String) : Console Unit :=
  modify fun s => { s with out := s.out ++ [line] }

/-- Stop. -/
def stop {α : Type} (why : Stop) : Console α :=
  throw why

/-- Make a call and go on with its result or its failure. -/
def attempt {α : Type} (x : Exchange α) : Console (Except Failure α) :=
  ExceptT.lift (StateT.lift x.attempt)

/-- Make a call; stop if it fails. -/
def ask {α : Type} (x : Exchange α) : Console α := do
  match ← attempt x with
  | .ok a => pure a
  | .error f => stop (.failure f)

end Console

/-- Lines as a text. -/
def textOf (lines : List String) : String :=
  String.join (lines.map (· ++ "\n"))

/-- The outcome for an exit code and printed lines. -/
def Screen.ended (exitCode : Nat) (s : Screen) : Outcome :=
  ⟨exitCode, textOf s.out, textOf s.err⟩

/-- What is printed before a program stops. -/
def Stop.lines (usage : String) : Stop → List String
  | .misuse => [usage]
  | .complaint line => [line]
  | .failure f => ["Error: " ++ f.detail]

/-- The outcome of a program. -/
def Console.outcome (usage : String) (x : Console Unit) : Exchange Outcome := do
  let (ended, s) ← (ExceptT.run x).run ⟨[], []⟩
  pure <|
    match ended with
    | .ok () => s.ended 0
    | .error why => Screen.ended 1 { s with err := s.err ++ why.lines usage }

/-- A text filled up with blanks at its end. -/
def padEnd (width : Nat) (s : String) : String :=
  s ++ String.ofList (List.replicate (width - s.length) ' ')

/-- A text filled up with blanks in front. -/
def padStart (width : Nat) (s : String) : String :=
  String.ofList (List.replicate (width - s.length) ' ') ++ s

end OneFs.Program
