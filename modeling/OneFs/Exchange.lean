import OneFs.Event
import OneFs.Text.Utf8

/-!
# Exchanges with a server

An `Exchange` is a plan: at each point it is done, has failed, tells an event, or sends a request
and goes on with what becomes of it. Nothing happens by itself; `Exchange.run` carries a plan out
against a server and keeps a record of every event and every request.

- `Exchange.bind`: one plan after another, which a failure cuts short;
- `Exchange.attempt`: a plan that goes on after a failure, with the failure in hand;
- `Exchange.run`: carrying a plan out; `run_bind` takes a run apart at a `bind`;
- `replies`: the server that gives prepared replies in turn.
-/

namespace OneFs

/-- A plan that ends in an `α` or fails. -/
inductive Exchange (α : Type) where
  | done (a : α)
  | failed (f : Failure)
  | noted (e : Event) (next : Exchange α)
  | sent (r : Http.Request) (next : Http.Delivery → Exchange α)

namespace Exchange

variable {α β σ : Type}

/-- A plan, and then the plan for what it ends in. -/
def bind (x : Exchange α) (k : α → Exchange β) : Exchange β :=
  match x with
  | .done a => k a
  | .failed f => .failed f
  | .noted e next => .noted e (next.bind k)
  | .sent r next => .sent r fun d => (next d).bind k

instance : Monad Exchange where
  pure := .done
  bind := bind

/-- Going on with what a plan ends in is the plan. -/
theorem bind_done (x : Exchange α) : x.bind .done = x := by
  induction x with
  | done _ => rfl
  | failed _ => rfl
  | noted e _ ih => exact congrArg (Exchange.noted e) ih
  | sent r _ ih => exact congrArg (Exchange.sent r) (funext ih)

/-- Three plans in a row are one plan, however they are grouped. -/
theorem bind_assoc {γ : Type} (x : Exchange α) (k : α → Exchange β) (l : β → Exchange γ) :
    (x.bind k).bind l = x.bind fun a => (k a).bind l := by
  induction x with
  | done _ => rfl
  | failed _ => rfl
  | noted e _ ih => exact congrArg (Exchange.noted e) ih
  | sent r _ ih => exact congrArg (Exchange.sent r) (funext ih)

instance : LawfulMonad Exchange :=
  LawfulMonad.mk' Exchange (fun x => bind_done x) (fun _ _ => rfl) fun x k l => bind_assoc x k l

/-- Tell an event. -/
def note (e : Event) : Exchange Unit :=
  .noted e (.done ())

/-- Fail. -/
def fail (f : Failure) : Exchange α :=
  .failed f

/-- Go on with a result. -/
def ofExcept : Except Failure α → Exchange α
  | .ok a => .done a
  | .error f => .failed f

/-- Go on with what is there; fail if nothing is. -/
def ofOption (f : Failure) : Option α → Exchange α
  | some a => .done a
  | none => .failed f

/-- The plan that goes on after a failure. -/
def attempt : Exchange α → Exchange (Except Failure α)
  | .done a => .done (.ok a)
  | .failed f => .done (.error f)
  | .noted e next => .noted e next.attempt
  | .sent r next => .sent r fun d => (next d).attempt

/-! ## Carrying a plan out -/

/-- One thing that happened in a run. -/
inductive Step where
  | noted (e : Event)
  | sent (r : Http.Request) (d : Http.Delivery)
  deriving BEq, Inhabited

/-- How a plan went: its result, what happened, and the server as it was left. -/
structure Run (σ α : Type) where
  result : Except Failure α
  steps : List Step
  server : σ

/-- A run with an earlier step in front. -/
def Run.after (s : Step) (r : Run σ α) : Run σ α :=
  { r with steps := s :: r.steps }

/-- A plan carried out against a server, which answers a request and changes with it. -/
def run (answer : σ → Http.Request → Http.Delivery × σ) (server : σ) : Exchange α → Run σ α
  | .done a => ⟨.ok a, [], server⟩
  | .failed f => ⟨.error f, [], server⟩
  | .noted e next => (next.run answer server).after (.noted e)
  | .sent r next =>
    let (d, server) := answer server r
    ((next d).run answer server).after (.sent r d)

@[simp] theorem run_done (answer : σ → Http.Request → Http.Delivery × σ) (server : σ) (a : α) :
    (Exchange.done a).run answer server = ⟨.ok a, [], server⟩ := rfl

@[simp] theorem run_failed (answer : σ → Http.Request → Http.Delivery × σ) (server : σ)
    (f : Failure) :
    (Exchange.failed f : Exchange α).run answer server = ⟨.error f, [], server⟩ := rfl

@[simp] theorem run_noted (answer : σ → Http.Request → Http.Delivery × σ) (server : σ) (e : Event)
    (next : Exchange α) :
    (Exchange.noted e next).run answer server = (next.run answer server).after (.noted e) := rfl

@[simp] theorem run_sent (answer : σ → Http.Request → Http.Delivery × σ) (server : σ)
    (r : Http.Request) (next : Http.Delivery → Exchange α) :
    (Exchange.sent r next).run answer server =
      ((next (answer server r).1).run answer (answer server r).2).after
        (.sent r (answer server r).1) := rfl

/-- How a run goes on with the plan for its result. -/
def Run.andThen (answer : σ → Http.Request → Http.Delivery × σ) (r : Run σ α)
    (k : α → Exchange β) : Run σ β :=
  match r.result with
  | .error f => ⟨.error f, r.steps, r.server⟩
  | .ok a =>
    let later := (k a).run answer r.server
    { later with steps := r.steps ++ later.steps }

/-- A run of one plan after another is a run of the first and then, unless that failed, a run of
the second. -/
theorem run_bind (answer : σ → Http.Request → Http.Delivery × σ) (k : α → Exchange β) :
    ∀ (x : Exchange α) (server : σ),
      (x.bind k).run answer server = (x.run answer server).andThen answer k
  | .done _, _ => rfl
  | .failed _, _ => rfl
  | .noted e next, server => by
    simp only [bind, run, run_bind answer k next server, Run.after, Run.andThen]
    split <;> simp_all
  | .sent r next, server => by
    simp only [bind, run, Run.after]
    rw [run_bind answer k (next (answer server r).1) (answer server r).2]
    simp only [Run.andThen]
    split <;> simp_all

/-- The requests of a run, in order. -/
def requests : List Step → List Http.Request
  | [] => []
  | .sent r _ :: rest => r :: requests rest
  | .noted _ :: rest => requests rest

/-- The events of a run, in order. -/
def events : List Step → List Event
  | [] => []
  | .noted e :: rest => e :: events rest
  | .sent _ _ :: rest => events rest

end Exchange

/-! ## Prepared replies -/

/-- A reply as it comes over the wire. -/
inductive Incoming where
  /-- A message, of which all or not all of the announced body arrives. -/
  | message (status : Nat) (body : List UInt8) (complete : Bool)
  /-- Nothing at all. -/
  | silence
  deriving DecidableEq, Inhabited

namespace Incoming

/-- Whether the reply to a method has no body, whatever it announces. -/
def isBodiless (method : String) (status : Nat) : Bool :=
  method == "HEAD" || status == 204 || status == 304

/-- What a reply delivers. -/
def deliver (method : String) : Incoming → Http.Delivery
  | .message status body complete =>
    if isBodiless method status then .received status ""
    else if complete then .received status (Text.Utf8.text body)
    else .brokenOff
  | .silence => .unanswered

end Incoming

/-- The server that gives prepared replies in turn, and has nothing to say once they are used
up. -/
def replies (usedUp : Http.Delivery) :
    List Incoming → Http.Request → Http.Delivery × List Incoming
  | [], _ => (usedUp, [])
  | i :: rest, r => (i.deliver r.method, rest)

end OneFs
