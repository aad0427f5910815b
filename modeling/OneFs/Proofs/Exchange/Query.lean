import OneFs.Client

/-!
# Queries

What a single query does. A `Round` is one request with everything that is told of it: that it is
about to be sent, and what reply came of it.

- `Exchange.Outcome`: what a run comes to, without its events;
- `Exchange.outcome_bind`, `Exchange.run_map`, `Exchange.run_attempt`: plans that are put together;
- `Round.steps`: a round as it appears in a run;
- `Connection.query_run`: the whole run of a query;
- `Connection.query_outcome`: the result, the requests and the server after it.
-/

namespace OneFs

open Json Http Exchange

variable {α β σ : Type}

/-! ## Runs without their events -/

/-- The requests of a run with what became of them, in order. -/
def Exchange.sentIn : List Step → List (Request × Delivery)
  | [] => []
  | .sent r d :: rest => (r, d) :: sentIn rest
  | .noted _ :: rest => sentIn rest

@[simp] theorem Exchange.sentIn_append (xs ys : List Step) :
    sentIn (xs ++ ys) = sentIn xs ++ sentIn ys := by
  induction xs with
  | nil => rfl
  | cons x xs ih => cases x <;> simp [sentIn, ih]

@[simp] theorem Exchange.sentIn_noted (es : List Event) : sentIn (es.map .noted) = [] := by
  induction es with
  | nil => rfl
  | cons e es ih => exact ih

/-- The requests alone are those of the run. -/
theorem Exchange.map_sentIn (steps : List Step) :
    (sentIn steps).map Prod.fst = requests steps := by
  induction steps with
  | nil => rfl
  | cons x xs ih => cases x <;> simp [sentIn, requests, ih]

/-- A run as the server and the caller see it. -/
structure Exchange.Outcome (σ α : Type) where
  result : Except Failure α
  sent : List (Request × Delivery)
  server : σ

/-- What a run comes to, without its events. -/
def Exchange.Run.outcome (r : Run σ α) : Outcome σ α :=
  ⟨r.result, sentIn r.steps, r.server⟩

@[simp] theorem Exchange.Run.outcome_noted (e : Event) (r : Run σ α) :
    (r.after (.noted e)).outcome = r.outcome := rfl

@[simp] theorem Exchange.done_bind (a : α) (k : α → Exchange β) :
    (Exchange.done a >>= k) = k a := rfl

@[simp] theorem Exchange.failed_bind (f : Failure) (k : α → Exchange β) :
    (Exchange.failed f >>= k) = .failed f := rfl

@[simp] theorem Exchange.noted_bind (e : Event) (x : Exchange α) (k : α → Exchange β) :
    (Exchange.noted e x >>= k) = .noted e (x >>= k) := rfl

@[simp] theorem Exchange.sent_bind (r : Request) (next : Delivery → Exchange α)
    (k : α → Exchange β) :
    (Exchange.sent r next >>= k) = .sent r fun d => next d >>= k := rfl

/-! ## Runs one after another -/

/-- What a run comes to that goes on from what another came to. -/
def Exchange.Outcome.andThen (o : Outcome σ α) (k : α → σ → Outcome σ β) : Outcome σ β :=
  match o.result with
  | .error f => ⟨.error f, o.sent, o.server⟩
  | .ok a => ⟨(k a o.server).result, o.sent ++ (k a o.server).sent, (k a o.server).server⟩

theorem Exchange.outcome_bind (x : Exchange α) (k : α → Exchange β)
    (answer : σ → Request → Delivery × σ) (server : σ) :
    ((x >>= k).run answer server).outcome =
      (x.run answer server).outcome.andThen fun a t => ((k a).run answer t).outcome := by
  have run : (x >>= k).run answer server = (x.run answer server).andThen answer k :=
    run_bind answer k x server
  rw [run]
  unfold Run.andThen Outcome.andThen
  cases result : (x.run answer server).result with
  | error f => simp only [Run.outcome, result]
  | ok a => simp only [Run.outcome, result, sentIn_append]

/-- Taking the result of a plan further changes nothing else in its run. -/
theorem Exchange.run_map (f : α → β) (x : Exchange α) (answer : σ → Request → Delivery × σ)
    (server : σ) :
    (f <$> x).run answer server =
      ⟨(x.run answer server).result.map f, (x.run answer server).steps,
        (x.run answer server).server⟩ := by
  have run : (f <$> x).run answer server =
      (x.run answer server).andThen answer fun a => .done (f a) := by
    rw [map_eq_pure_bind]
    exact run_bind answer _ x server
  rw [run]
  unfold Run.andThen
  cases (x.run answer server).result with
  | error e => rfl
  | ok a => simp [Except.map]

/-- A plan that goes on after a failure runs like the plan, up to where it goes on. -/
theorem Exchange.run_attempt (answer : σ → Request → Delivery × σ) :
    ∀ (x : Exchange α) (server : σ),
      x.attempt.run answer server =
        ⟨.ok (x.run answer server).result, (x.run answer server).steps,
        (x.run answer server).server⟩
  | .done _, _ => rfl
  | .failed _, _ => rfl
  | .noted e next, server => by
    simp only [attempt, run_noted, run_attempt answer next server]
    rfl
  | .sent r next, server => by
    simp only [attempt, run_sent, run_attempt answer (next (answer server r).1)]
    rfl

/-! ## Rounds -/

/-- One request as the log sees it: what was announced, and what was sent, if anything could be. -/
structure Round where
  method : String
  url : Url
  body : Option String
  sent : Option (Request × Delivery)

namespace Round

/-- What is told before the request. -/
def announced (x : Round) : List Event :=
  .request x.method x.url :: (x.body.map Event.requestBody).toList

/-- What is told of a delivery: nothing unless a reply was received in full, and that it refuses the
request unless its status is one of success. -/
def reported (method : String) : Delivery → List Event
  | .received status body =>
    [.response method status body.utf8ByteSize, .responseBody body] ++
      if isSuccess status then [] else [.refusal (Rejection.ofBody status body)]
  | _ => []

/-- A round as it appears in a run. -/
def steps (x : Round) : List Step :=
  x.announced.map .noted ++
    match x.sent with
    | some (r, d) => .sent r d :: (reported x.method d).map .noted
    | none => []

theorem sentIn_steps (x : Round) : sentIn x.steps = x.sent.toList := by
  unfold steps
  cases x.sent with
  | none => simp
  | some sent => simp [sentIn]

end Round

/-! ## Single queries -/

namespace Connection

/-- The request by which a connection asks, or why there is none. -/
def requestFor (c : Connection) (ask : Ask) : Except Failure Request :=
  match c.url ask.path ask.id ask.params with
  | .error f => .error f
  | .ok url =>
    match prepare c.options ask.method url c.authorization ask.headers
        ((ask.body.map Value.text).map Text.Utf8.bytes) with
    | .error fault => .error (.request fault)
    | .ok r => .ok r

/-- What a reply holds, or the failure that it is. -/
def verdict (r : Reader α) (reply : Reply) : Except Failure (Option α) :=
  if reply.isSuccess then
    if reply.isEmpty then .ok none
    else (decoded r reply.body).map some
  else .error (.rejected (Rejection.ofBody reply.status reply.body))

theorem announce_run (method : String) (url : Url) (body : Option String) (x : Exchange α)
    (answer : σ → Request → Delivery × σ) (server : σ) :
    ((announce method url body >>= fun _ => x).run answer server) =
      { x.run answer server with
        steps := (Round.announced ⟨method, url, body, none⟩).map .noted ++
          (x.run answer server).steps } := by
  cases body <;> rfl

/-- Judging a reply tells a refusal, if it is one, and nothing else. -/
theorem judged_run (r : Reader α) (reply : Reply) (answer : σ → Request → Delivery × σ)
    (server : σ) :
    (judged r reply).run answer server =
      ⟨verdict r reply,
        (if reply.isSuccess then [] else
          [Step.noted (.refusal (Rejection.ofBody reply.status reply.body))]), server⟩ := by
  unfold judged verdict
  split
  · split
    · rfl
    · cases decoded r reply.body <;> rfl
  · rfl

/-- What follows a delivery. -/
theorem reported_run (method : String) (r : Reader α) (req : Request) (d : Delivery)
    (answer : σ → Request → Delivery × σ) (server : σ) :
    ((Exchange.ofExcept (replyOf req d) >>= fun reply =>
      report method reply >>= fun _ => judged r reply).run answer server) =
      ⟨(replyOf req d).bind (verdict r), (Round.reported method d).map .noted, server⟩ := by
  cases d with
  | received status body =>
    have judges := judged_run r ⟨status, body⟩ answer server
    show (((judged r ⟨status, body⟩).run answer server).after _).after _ = _
    rw [judges]
    by_cases success : isSuccess status = true
    · simp only [Run.after, Round.reported, Reply.isSuccess, success, if_true]
      rfl
    · simp only [Run.after, Round.reported, Reply.isSuccess, success]
      rfl
  | _ => rfl

/-- The whole run of a query: without a URL nothing happens, and without a request it is announced
all the same. -/
theorem query_run (c : Connection) (ask : Ask) (r : Reader α)
    (answer : σ → Request → Delivery × σ) (server : σ) :
    (c.query ask r).run answer server =
      match c.url ask.path ask.id ask.params with
      | .error f => ⟨.error f, [], server⟩
      | .ok url =>
        match prepare c.options ask.method url c.authorization ask.headers
            ((ask.body.map Value.text).map Text.Utf8.bytes) with
        | .error fault =>
          ⟨.error (.request fault), (Round.mk ask.method url (ask.body.map Value.text) none).steps,
            server⟩
        | .ok req =>
          ⟨(replyOf req (answer server req).1).bind (verdict r),
            (Round.mk ask.method url (ask.body.map Value.text)
              (some (req, (answer server req).1))).steps,
            (answer server req).2⟩ := by
  unfold query
  cases c.url ask.path ask.id ask.params with
  | error f => rfl
  | ok url =>
    change ((announce ask.method url (ask.body.map Value.text) >>= fun _ => _).run
      answer server) = _
    rw [announce_run]
    unfold send
    dsimp only
    cases prepare c.options ask.method url c.authorization ask.headers
        ((ask.body.map Value.text).map Text.Utf8.bytes) with
    | error fault => rfl
    | ok req =>
      simp only [transmit, sent_bind, run_sent]
      rw [reported_run]
      rfl

/-- A query sends at most one request, and its result is what becomes of that. -/
theorem query_outcome (c : Connection) (ask : Ask) (r : Reader α)
    (answer : σ → Request → Delivery × σ) (server : σ) :
    ((c.query ask r).run answer server).outcome =
      match c.requestFor ask with
      | .error f => ⟨.error f, [], server⟩
      | .ok req =>
        ⟨(replyOf req (answer server req).1).bind (verdict r),
          [(req, (answer server req).1)], (answer server req).2⟩ := by
  rw [query_run]
  unfold requestFor Run.outcome
  cases c.url ask.path ask.id ask.params with
  | error f => rfl
  | ok url =>
    dsimp only
    cases prepare c.options ask.method url c.authorization ask.headers
        ((ask.body.map Value.text).map Text.Utf8.bytes) with
    | error fault =>
      dsimp only
      rw [Round.sentIn_steps]
      rfl
    | ok req =>
      dsimp only
      rw [Round.sentIn_steps]
      rfl

end Connection

end OneFs
