import OneFs.Proofs.Exchange.Query

/-!
# Courses

Plans that are made of queries. A `Course` is done, has failed, tells an event, or makes a query and
goes on with what the reply held; nothing in it goes on after a query that failed.

- `Attempt.Faithful`, `attempted_faithful`: the ways in which a query can go;
- `Course.exchange`, `Course.exchange_bind`: the plan that a course is for a connection.
-/

namespace OneFs

open Json Http Exchange

variable {α β γ σ : Type}

/-! ## The ways in which a query can go -/

/-- One query that was made: what it asked for, what a body is found to be when it is read, what was
sent, and how it failed. -/
structure Attempt where
  ask : Ask
  reading : String → Except Fault Unit
  sent : List (Request × Delivery)
  failure : Option Failure

/-- What a query can have come to. It sends at most one request, and it has no failure just if a
reply that reports success came in full and was blank or could be read. -/
inductive Attempt.Faithful (c : Connection) : Attempt → Prop where
  /-- There is no such URL, or no such request. -/
  | unsent {ask : Ask} {reading : String → Except Fault Unit} (f : Failure)
      (request : c.requestFor ask = .error f) :
    Faithful c ⟨ask, reading, [], some f⟩
  /-- No reply came in full, or none in time. -/
  | undelivered {ask : Ask} {reading : String → Except Fault Unit} (r : Request) (d : Delivery)
      (f : Failure) (request : c.requestFor ask = .ok r) (lost : replyOf r d = .error f) :
    Faithful c ⟨ask, reading, [(r, d)], some f⟩
  /-- The reply does not report success; the rejection has its status. -/
  | refused {ask : Ask} {reading : String → Except Fault Unit} (r : Request) (status : Nat)
      (body : String) (rejection : Rejection) (request : c.requestFor ask = .ok r)
      (refusal : isSuccess status = false) (same : rejection.status = status) :
    Faithful c ⟨ask, reading, [(r, .received status body)], some (.rejected rejection)⟩
  /-- The reply reports success, but what it holds cannot be read. -/
  | misread {ask : Ask} {reading : String → Except Fault Unit} (r : Request) (status : Nat)
      (body : String) (fault : Fault) (place : Option Place) (request : c.requestFor ask = .ok r)
      (success : isSuccess status = true) (filled : Text.isBlankText body = false)
      (unread : reading body = .error fault) :
    Faithful c ⟨ask, reading, [(r, .received status body)], some (.json fault place)⟩
  /-- The reply reports success, and is blank or can be read. -/
  | answered {ask : Ask} {reading : String → Except Fault Unit} (r : Request) (status : Nat)
      (body : String) (request : c.requestFor ask = .ok r) (success : isSuccess status = true)
      (read : Text.isBlankText body = true ∨ reading body = .ok ()) :
    Faithful c ⟨ask, reading, [(r, .received status body)], none⟩

/-- A query without a failure got a reply that reports success to everything that it sent. -/
theorem Attempt.Faithful.success {c : Connection} {a : Attempt} (h : a.Faithful c)
    (ok : a.failure = none) :
    ∀ x ∈ a.sent, ∃ status body, x.2 = .received status body ∧ isSuccess status = true := by
  cases h with
  | answered r status body _ success _ =>
    intro x hx
    rw [List.mem_singleton] at hx
    exact ⟨status, body, by rw [hx], success⟩
  | unsent _ _ => cases ok
  | undelivered _ _ _ _ _ => cases ok
  | refused _ _ _ _ _ _ _ => cases ok
  | misread _ _ _ _ _ _ _ _ _ => cases ok

/-- The failure of a result, if it is one. -/
def failureOf : Except Failure α → Option Failure
  | .ok _ => none
  | .error f => some f

/-- A query as it goes against a server. -/
def Connection.attempted (c : Connection) (ask : Ask) (r : Reader α)
    (answer : σ → Request → Delivery × σ) (server : σ) : Attempt :=
  let seen := ((c.query ask r).run answer server).outcome
  ⟨ask, fun body => (r.decode body).map fun _ => (), seen.sent, failureOf seen.result⟩

/-- A list of errors keeps the status that it is given. -/
theorem Rejection.status_new (status : Nat) (es : List ErrorEntry) :
    (Rejection.new status es).status = status := by
  cases es <;> rfl

/-- The rejection for a reply has the status of the reply. -/
theorem Rejection.status_ofBody (status : Nat) (body : String) :
    (Rejection.ofBody status body).status = status := by
  unfold Rejection.ofBody
  split <;> exact status_new _ _

/-- Every query goes in one of the ways that there are. -/
theorem Connection.attempted_faithful (c : Connection) (ask : Ask) (r : Reader α)
    (answer : σ → Request → Delivery × σ) (server : σ) :
    (c.attempted ask r answer server).Faithful c := by
  unfold Connection.attempted
  rw [query_outcome]
  cases request : c.requestFor ask with
  | error f => exact .unsent f request
  | ok req =>
    dsimp only
    cases reply : replyOf req (answer server req).1 with
    | error f => exact .undelivered req _ f request reply
    | ok rep =>
      -- Only a reply that was received in full is a reply.
      obtain ⟨status, body⟩ := rep
      have received : (answer server req).1 = .received status body := by
        cases d : (answer server req).1 <;> rw [d] at reply <;> cases reply
        rfl
      rw [received]
      by_cases success : isSuccess status = true
      · by_cases blank : Text.isBlankText body = true
        · have fine : verdict r ⟨status, body⟩ = .ok none := by
            simp [verdict, Reply.isSuccess, Reply.isEmpty, success, blank]
          simp only [Except.bind, fine, failureOf]
          exact .answered req status body request success (.inl blank)
        · have judged : verdict r ⟨status, body⟩ = (decoded r body).map some := by
            simp [verdict, Reply.isSuccess, Reply.isEmpty, success, blank]
          simp only [Except.bind, judged, decoded]
          cases read : r.decode body with
          | error fault =>
            exact .misread req status body fault _ request success (by simpa using blank)
              (by rw [read]; rfl)
          | ok a =>
            exact .answered req status body request success (.inr (by rw [read]; rfl))
      · have refused : verdict r ⟨status, body⟩ =
            .error (.rejected (Rejection.ofBody status body)) := by
          simp [verdict, Reply.isSuccess, success]
        simp only [Except.bind, refused, failureOf]
        exact .refused req status body _ request (by simpa using success)
          (Rejection.status_ofBody status body)

/-! ## Plans made of queries -/

/-- A plan in which every request is made by a query. -/
inductive Course (α : Type) : Type 1 where
  | done (a : α)
  | failed (f : Failure)
  | noted (e : Event) (next : Course α)
  | asked {β : Type} (ask : Ask) (r : Reader β) (next : Option β → Course α)

namespace Course

/-- The plan that a course is for a connection. -/
def exchange (c : Connection) : Course α → Exchange α
  | .done a => .done a
  | .failed f => .failed f
  | .noted e next => .noted e (next.exchange c)
  | .asked ask r next => c.query ask r >>= fun reply => (next reply).exchange c

/-- One course after another. -/
def bind (x : Course α) (k : α → Course β) : Course β :=
  match x with
  | .done a => k a
  | .failed f => .failed f
  | .noted e next => .noted e (next.bind k)
  | .asked ask r next => .asked ask r fun reply => (next reply).bind k

theorem exchange_bind (c : Connection) (x : Course α) (k : α → Course β) :
    (x.bind k).exchange c = x.exchange c >>= fun a => (k a).exchange c := by
  induction x with
  | done _ => rfl
  | failed _ => rfl
  | noted e _ ih => exact congrArg (Exchange.noted e) ih
  | asked ask r _ ih =>
    have next := congrArg (c.query ask r >>= ·) (funext ih)
    exact next.trans (Exchange.bind_assoc _ _ _).symm

end Course

end OneFs
