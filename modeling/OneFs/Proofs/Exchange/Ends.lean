import OneFs.Proofs.Exchange.Course

/-!
# What plans end in

`Exchange.Ends` says what a plan comes to against a server and in which state it leaves the server,
whatever is told and sent on the way.

- `Ends.bind`, `Ends.bind_error`, `require_bind`: one plan after another;
- `Ends.requests_bind`, `query_requests`: what is sent on the way;
- `query_ends`, `execute_ends`, `execute_refused`: a query whose request is answered;
- `query_unsent`, `execute_unsent`: a query without a request.
-/

namespace OneFs

open Json Http

variable {α β σ : Type}

/-- Carried out against a server in the state `s`, the plan comes to `result` and leaves the server
in the state `t`. -/
structure Exchange.Ends (answer : σ → Request → Delivery × σ) (s : σ) (x : Exchange α)
    (result : Except Failure α) (t : σ) : Prop where
  result_eq : (x.run answer s).result = result
  server_eq : (x.run answer s).server = t

namespace Exchange.Ends

variable {answer : σ → Request → Delivery × σ} {s t u : σ}

protected theorem done (a : α) : (Exchange.done a).Ends answer s (.ok a) s :=
  ⟨rfl, rfl⟩

protected theorem note (e : Event) : (Exchange.note e).Ends answer s (.ok ()) s :=
  ⟨rfl, rfl⟩

/-- A plan that succeeds, and the plan after it. -/
protected theorem bind {x : Exchange α} {k : α → Exchange β} {a : α} {result : Except Failure β}
    (first : x.Ends answer s (.ok a) t) (later : (k a).Ends answer t result u) :
    (x >>= k).Ends answer s result u := by
  have whole : (x >>= k).run answer s = (x.run answer s).andThen answer k := run_bind answer k x s
  have next : (x.run answer s).andThen answer k =
      { (k a).run answer t with
        steps := (x.run answer s).steps ++ ((k a).run answer t).steps } := by
    unfold Run.andThen
    rw [first.result_eq, first.server_eq]
  constructor
  · rw [whole, next]
    exact later.result_eq
  · rw [whole, next]
    exact later.server_eq

/-- After a failure nothing is done. -/
theorem bind_error {x : Exchange α} {k : α → Exchange β} {f : Failure}
    (first : x.Ends answer s (.error f) t) : (x >>= k).Ends answer s (.error f) t := by
  have whole : (x >>= k).run answer s = (x.run answer s).andThen answer k := run_bind answer k x s
  unfold Run.andThen at whole
  rw [first.result_eq] at whole
  constructor
  · rw [whole]
  · rw [whole]
    exact first.server_eq

/-- A plan that goes on after a failure has the failure in hand. -/
protected theorem attempt {x : Exchange α} {result : Except Failure α}
    (h : x.Ends answer s result t) : x.attempt.Ends answer s (.ok result) t := by
  have run := run_attempt answer x s
  constructor
  · rw [run, h.result_eq]
  · rw [run]
    exact h.server_eq

/-- A plan of which the result is taken further. -/
protected theorem map {x : Exchange α} {a : α} (f : α → β) (h : x.Ends answer s (.ok a) t) :
    (f <$> x).Ends answer s (.ok (f a)) t := by
  rw [← bind_pure_comp]
  exact h.bind (Ends.done (f a))

theorem map_error {x : Exchange α} {e : Failure} (f : α → β) (h : x.Ends answer s (.error e) t) :
    (f <$> x).Ends answer s (.error e) t := by
  rw [← bind_pure_comp]
  exact h.bind_error

/-- A plan that succeeds and the plan after it send what each of them sends. -/
theorem requests_bind {x : Exchange α} {k : α → Exchange β} {a : α}
    (first : x.Ends answer s (.ok a) t) :
    requests ((x >>= k).run answer s).steps =
      requests (x.run answer s).steps ++ requests ((k a).run answer t).steps := by
  have whole : (x >>= k).run answer s = (x.run answer s).andThen answer k := run_bind answer k x s
  rw [whole, ← map_sentIn]
  unfold Run.andThen
  rw [first.result_eq, first.server_eq]
  simp only [sentIn_append, List.map_append, map_sentIn]

/-- A plan that fails has sent what is sent by it and the plan after it. -/
theorem requests_bind_error {x : Exchange α} {k : α → Exchange β} {f : Failure}
    (first : x.Ends answer s (.error f) t) :
    requests ((x >>= k).run answer s).steps = requests (x.run answer s).steps := by
  have whole : (x >>= k).run answer s = (x.run answer s).andThen answer k := run_bind answer k x s
  rw [whole]
  unfold Run.andThen
  rw [first.result_eq]

/-- What is sent does not depend on what comes after, if nothing is sent there. -/
theorem requests_bind_silent {x : Exchange α} {k : α → Exchange β}
    (answer : σ → Request → Delivery × σ) (s : σ)
    (silent : ∀ a t, requests ((k a).run answer t).steps = []) :
    requests ((x >>= k).run answer s).steps = requests (x.run answer s).steps := by
  cases result : (x.run answer s).result with
  | error f => exact requests_bind_error ⟨result, rfl⟩
  | ok a =>
    rw [requests_bind ⟨result, rfl⟩, silent]
    exact List.append_nil _

/-- A plan comes to something of which `view` shows `b`, if that is what it shows of its run. -/
theorem exists_of_view {x : Exchange α} {view : α → β} {b : β}
    (seen : ((x.run answer s).result.toOption.map view, (x.run answer s).server) = (some b, t)) :
    ∃ a, x.Ends answer s (.ok a) t ∧ view a = b := by
  obtain ⟨shown, server⟩ := Prod.mk.inj seen
  cases result : (x.run answer s).result with
  | error f => rw [result] at shown; cases shown
  | ok a =>
    rw [result] at shown
    exact ⟨a, ⟨result, server⟩, Option.some.inj shown⟩

end Exchange.Ends

/-! ## Queries -/

namespace Connection

variable {answer : σ → Request → Delivery × σ} {s t : σ} {c : Connection} {ask : Ask}
  {r : Reader α} {req : Request} {status : Nat} {body : String}

/-- A query whose request is answered comes to what the reply holds. -/
theorem query_ends (request : c.requestFor ask = .ok req)
    (answered : answer s req = (.received status body, t)) :
    (c.query ask r).Ends answer s (verdict r ⟨status, body⟩) t := by
  have outcome := query_outcome c ask r answer s
  rw [request] at outcome
  dsimp only at outcome
  rw [answered] at outcome
  simp only [Exchange.Run.outcome, Exchange.Outcome.mk.injEq] at outcome
  exact ⟨outcome.1, outcome.2.2⟩

/-- A query without a request fails and leaves the server alone. -/
theorem query_unsent {f : Failure} (request : c.requestFor ask = .error f) :
    (c.query ask r).Ends answer s (.error f) s := by
  have outcome := query_outcome c ask r answer s
  rw [request] at outcome
  simp only [Exchange.Run.outcome, Exchange.Outcome.mk.injEq] at outcome
  exact ⟨outcome.1, outcome.2.2⟩

/-- A query sends the request for what is asked, if there is one. -/
theorem query_requests (c : Connection) (ask : Ask) (r : Reader α)
    (answer : σ → Request → Delivery × σ) (s : σ) :
    Exchange.requests ((c.query ask r).run answer s).steps =
      (c.requestFor ask).toOption.toList := by
  have outcome := query_outcome c ask r answer s
  rw [← Exchange.map_sentIn]
  cases request : c.requestFor ask with
  | error f =>
    rw [request] at outcome
    exact congrArg (fun o => o.sent.map Prod.fst) outcome
  | ok req =>
    rw [request] at outcome
    exact congrArg (fun o => o.sent.map Prod.fst) outcome

/-- So does a call of which only the status counts. -/
theorem execute_requests (c : Connection) (ask : Ask) (answer : σ → Request → Delivery × σ)
    (s : σ) :
    Exchange.requests ((c.execute ask).run answer s).steps =
      (c.requestFor ask).toOption.toList := by
  rw [← query_requests c ask ignored answer s]
  exact Exchange.Ends.requests_bind_silent answer s fun _ _ => rfl

/-- What is sent for what is asked is the request for it. -/
theorem mem_toList_requestFor {r : Request} :
    r ∈ (c.requestFor ask).toOption.toList ↔ c.requestFor ask = .ok r := by
  cases c.requestFor ask with
  | error f => simp [Except.toOption]
  | ok req => simp [Except.toOption, eq_comm]

/-- What must be present and is lets a plan go on. -/
theorem require_ends {present : Bool} (h : present = true) (what : String) :
    (require present what).Ends answer s (.ok ()) s := by
  unfold require
  rw [h]
  exact .done ()

/-- A plan behind a check of an argument that is there is the plan alone. -/
theorem require_bind {present : Bool} (h : present = true) (what : String)
    (k : Unit → Exchange α) : require present what >>= k = k () := by
  rw [h]
  rfl

/-- A call of which only the status counts. -/
theorem execute_ends (request : c.requestFor ask = .ok req)
    (answered : answer s req = (.received status body, t)) (success : isSuccess status = true)
    (blank : Text.isBlankText body = true) : (c.execute ask).Ends answer s (.ok ()) t := by
  have fine : verdict ignored ⟨status, body⟩ = .ok none := by
    simp [verdict, Reply.isSuccess, Reply.isEmpty, success, blank]
  have asked := query_ends (r := ignored) request answered
  rw [fine] at asked
  exact asked.bind (.done ())

/-- It fails with what the reply says if that does not report success. -/
theorem execute_refused (request : c.requestFor ask = .ok req)
    (answered : answer s req = (.received status body, t)) (refusal : isSuccess status = false) :
    (c.execute ask).Ends answer s (.error (.rejected (Rejection.ofBody status body))) t := by
  have refused : verdict ignored ⟨status, body⟩ =
      .error (.rejected (Rejection.ofBody status body)) := by
    simp [verdict, Reply.isSuccess, refusal]
  have asked := query_ends (r := ignored) request answered
  rw [refused] at asked
  exact asked.bind_error

theorem execute_unsent {f : Failure} (request : c.requestFor ask = .error f) :
    (c.execute ask).Ends answer s (.error f) s :=
  (query_unsent request).bind_error

/-- A call on a path goes on. -/
theorem requirePath_ends {path : String} (h : path ≠ "") :
    (requirePath path).Ends answer s (.ok ()) s :=
  require_ends (by simpa using h) _

end Connection

theorem Client.path_ne_empty (c : Client) (name : String) : c.path name ≠ "" := by
  intro empty
  have := congrArg String.toList empty
  simp [path] at this

end OneFs
