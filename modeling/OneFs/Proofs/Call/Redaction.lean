import OneFs.Proofs.Call.Queries
import OneFs.Proofs.Connection.Site
import OneFs.Proofs.Exchange.Mapped

/-!
# Redaction

What is left of a plan, and of a run, when the values of authorizations are blanked out. Two ways to
reach a cluster that differ in what authorizes them leave the same of every query, and so of every
plan that is made of queries.

- `Step.redacted`, `Run.redacted`: a run with blank authorizations;
- `Indifferent`: servers that make nothing of authorizations;
- `Access.Agree`: ways to reach a cluster that leave the same of every query;
- `Access.Alike.agree`: these may differ in the authorization;
- `Call.mapped_run`: what they leave of calls.
-/

namespace OneFs

open Json Http Exchange

variable {α β σ : Type}

/-! ## What is left -/

/-- A header, with a blank value if it is an authorization. -/
def Http.Header.redacted (h : Header) : Header :=
  if h.name = "authorization" then { h with value := "" } else h

/-- A request with blank authorizations. -/
def Http.Request.redacted (r : Request) : Request :=
  { r with headers := r.headers.map Header.redacted }

namespace Exchange

/-- A step of a run, with blank authorizations. -/
def Step.redacted : Step → Step
  | .noted e => .noted e
  | .sent r d => .sent r.redacted d

/-- A run with blank authorizations. -/
def Run.redacted (r : Run σ α) : Run σ α :=
  { r with steps := r.steps.map Step.redacted }

/-- A server that answers a request as it does when the authorizations are blank. -/
def Indifferent (answer : σ → Request → Delivery × σ) : Prop :=
  ∀ s r, answer s r.redacted = answer s r

/-- Prepared replies are given whatever authorizes a request. -/
theorem replies_indifferent (usedUp : Delivery) : Indifferent (replies usedUp) := by
  intro incoming r
  cases incoming <;> rfl

theorem Run.redacted_eq :
    (Run.redacted : Run σ α → Run σ α) = Run.mapped id Request.redacted := by
  have same : Step.redacted = Step.mapped id Request.redacted := by
    funext step
    cases step <;> rfl
  funext r
  unfold Run.redacted Run.mapped
  rw [same]

end Exchange

/-! ## Requests -/

namespace Http

/-- An authorization that may stand in a header. -/
def IsLegal (authorization : String) : Prop :=
  header? "authorization" authorization = some ⟨"authorization", authorization⟩

theorem isLegal_basicAuth (username password : String) : IsLegal (basicAuth username password) := by
  have alone := headers?_basicAuth username password
  unfold headers? at alone
  unfold IsLegal
  cases given : header? "authorization" (basicAuth username password) with
  | none => rw [given] at alone; cases alone
  | some h =>
    rw [given] at alone
    have same : h = ⟨Text.lower "authorization", basicAuth username password⟩ :=
      (List.cons.inj (Option.some.inj alone)).1
    rw [same, show Text.lower "authorization" = "authorization" by decide]

/-- Two URLs by which the same is sent, but for authorizations. -/
structure SentAlike (u v : Url) : Prop where
  bare : bareUrl u = bareUrl v
  login : (urlAuth u).map Header.redacted = (urlAuth v).map Header.redacted

theorem SentAlike.refl (u : Url) : SentAlike u u :=
  ⟨rfl, rfl⟩

variable {options : Options} {method auth auth' : String} {url url' : Url}
  {headers : List (String × String)} {body : Option (List UInt8)} {f : Event → Event}

/-- The same is left of a request, and it cannot be made for the same reasons, whatever authorizes
it. -/
theorem prepare_redacted (legal : IsLegal auth) (legal' : IsLegal auth')
    (sent : SentAlike url url') :
    (prepare options method url auth headers body).map Request.redacted =
      (prepare options method url' auth' headers body).map Request.redacted := by
  have added : ∀ {a : String}, IsLegal a → headers? (("authorization", a) :: headers) =
      (headers? headers).map (⟨"authorization", a⟩ :: ·) := by
    intro a legal
    unfold IsLegal at legal
    rw [headers?, legal]
    cases headers? headers <;> rfl
  unfold prepare
  rw [added legal, added legal', sent.bare]
  cases headers? headers with
  | none => rfl
  | some given =>
    dsimp only [Option.map_some]
    split
    · rfl
    · split
      · simp [Except.map, Request.redacted, sent.login, Header.redacted]
      · rfl

theorem transmit_mapped (r : Request) :
    (transmit r).mapped f Request.redacted = transmit r.redacted := by
  refine congrArg (Exchange.sent r.redacted) (funext fun d => ?_)
  rw [mapped_ofExcept]
  cases d <;> rfl

theorem send_mapped (legal : IsLegal auth) (legal' : IsLegal auth') (sent : SentAlike url url') :
    (send options method url auth headers body).mapped f Request.redacted =
      (send options method url' auth' headers body).mapped f Request.redacted := by
  have same : (prepare options method url auth headers body).map Request.redacted =
      (prepare options method url' auth' headers body).map Request.redacted :=
    prepare_redacted legal legal' sent
  unfold send
  cases first : prepare options method url auth headers body with
  | error fault =>
    cases second : prepare options method url' auth' headers body with
    | error fault' =>
      rw [first, second] at same
      cases same
      rfl
    | ok r' => rw [first, second] at same; cases same
  | ok r =>
    cases second : prepare options method url' auth' headers body with
    | error fault' => rw [first, second] at same; cases same
    | ok r' =>
      rw [first, second] at same
      show (transmit r).mapped f Request.redacted = (transmit r').mapped f Request.redacted
      rw [transmit_mapped, transmit_mapped, Except.ok.inj same]

end Http

/-! ## Plans made of queries -/

/-- Two ways to reach a cluster that leave the same of every query when its events are replaced and
its authorizations are blank. -/
def Access.Agree (f : Event → Event) (a b : Access) : Prop :=
  ∀ {α : Type} (c : Connection) (ask : Ask) (r : Reader α),
    ((c.via a).query ask r).mapped f Request.redacted =
      ((c.via b).query ask r).mapped f Request.redacted

variable {a b : Access} {f : Event → Event}

/-- The same is left of a query for two URLs that are told alike, and by which the same is sent. -/
theorem Connection.query_mapped (c : Connection) {ask : Ask} {url url' : Url}
    (options : a.options = b.options) (legal : IsLegal a.authorization)
    (legal' : IsLegal b.authorization)
    (located : (c.via a).url ask.path ask.id ask.params = .ok url)
    (located' : (c.via b).url ask.path ask.id ask.params = .ok url')
    (told : f (.request ask.method url) = f (.request ask.method url'))
    (sent : SentAlike url url') (r : Reader α) :
    ((c.via a).query ask r).mapped f Request.redacted =
      ((c.via b).query ask r).mapped f Request.redacted := by
  have announced : (Connection.announce ask.method url (ask.body.map Value.text)).mapped f
        Request.redacted =
      (Connection.announce ask.method url' (ask.body.map Value.text)).mapped f
        Request.redacted := by
    unfold Connection.announce
    refine mapped_bind_congr ?_ fun _ => rfl
    exact congrArg (Exchange.noted · (.done ())) told
  unfold Connection.query
  rw [located, located']
  simp only [Exchange.ofExcept, done_bind]
  refine mapped_bind_congr announced fun _ => mapped_bind_congr ?_ fun reply => rfl
  rw [show (c.via a).options = (c.via b).options from options]
  exact send_mapped legal legal' sent

/-- Two ways to reach a cluster that differ in what authorizes them, and may both be taken. -/
structure Access.Alike (a b : Access) : Prop where
  options : a.options = b.options
  endpoint : a.endpoint = b.endpoint
  left : IsLegal a.authorization
  right : IsLegal b.authorization

/-- The same is left of a query, and the same is told. -/
theorem Access.Alike.agree (alike : a.Alike b) : a.Agree id b := by
  intro α c ask r
  have same : (c.via a).url ask.path ask.id ask.params =
      (c.via b).url ask.path ask.id ask.params := by
    unfold Connection.url Connection.rawUrl Connection.via
    rw [alike.endpoint]
  cases located : (c.via b).url ask.path ask.id ask.params with
  | error failure =>
    unfold Connection.query
    rw [same, located]
    rfl
  | ok url =>
    exact c.query_mapped alike.options alike.left alike.right (same.trans located) located rfl
      (.refl url) r

/-- The same is left of a course. -/
theorem Course.mapped_exchange (c : Connection) (agree : a.Agree f b) (course : Course α) :
    (course.exchange (c.via a)).mapped f Request.redacted =
      (course.exchange (c.via b)).mapped f Request.redacted := by
  induction course with
  | done _ => rfl
  | failed _ => rfl
  | noted e _ ih => exact congrArg (Exchange.noted (f e)) ih
  | asked ask r _ ih => exact mapped_bind_congr (agree c ask r) ih

theorem MadeOfQueries.mapped_eq {c : Connection} {p : Connection → Exchange α}
    (h : MadeOfQueries c p) (agree : a.Agree f b) :
    (p (c.via a)).mapped f Request.redacted = (p (c.via b)).mapped f Request.redacted := by
  obtain ⟨course, eq⟩ := h
  rw [eq a, eq b, course.mapped_exchange c agree]

theorem LooksUp.mapped_eq {id : Int64} {c : Connection} {p : Connection → Exchange α}
    (h : LooksUp id c p) (agree : a.Agree f b) :
    (p (c.via a)).mapped f Request.redacted = (p (c.via b)).mapped f Request.redacted := by
  obtain ⟨k, made, eq⟩ := h
  have looked := (c.snapshot_madeOfQueries id).mapped_eq agree
  rw [eq a, eq b]
  refine mapped_bind_congr ?_ fun found => (made found).mapped_eq agree
  rw [mapped_attempt, mapped_attempt]
  exact congrArg attempt looked

/-- The same is left of every call. -/
theorem Call.mapped_run (c : Connection) (agree : a.Agree f b) (call : Call) :
    (call.run ⟨c.via a⟩).mapped f Request.redacted =
      (call.run ⟨c.via b⟩).mapped f Request.redacted := by
  cases call with
  | ofConnection call => exact (call.madeOfQueries c).mapped_eq agree
  | ofClient call =>
    cases lookup : call.lookup? with
    | none => exact (call.madeOfQueries c lookup).mapped_eq agree
    | some id => exact (call.looksUp c id lookup).mapped_eq agree

end OneFs
