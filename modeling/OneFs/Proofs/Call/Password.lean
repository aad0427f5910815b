import OneFs.Proofs.Call.Redaction

/-!
# Passwords

The password is used for authorizations and for nothing else: two sessions whose configurations
differ in the password alone, and that see the same replies, differ in the values of authorizations
alone.

- `Opening`, `Action`: how a client is made, and what it is asked to do;
- `Session`, `session`: everything that can be seen of a client from its configuration on;
- `password_only_authorizes`: sessions with different passwords.
-/

namespace OneFs

open Json Http Exchange

variable {α β σ : Type}

/-! ## Sessions -/

/-- How a client is made of a configuration. -/
inductive Opening where
  /-- From the configuration alone. -/
  | configured
  /-- By asking the cluster for what the configuration leaves open. -/
  | connected

/-- The plan that makes the client. -/
def Opening.client : Opening → Config → Exchange Client
  | .configured, config => Exchange.ofExcept (Client.ofConfig config)
  | .connected, config => Client.connect config

/-- What a client is asked to do: one of its calls, or a query whose reply is read as its user
likes, with a rendering of what it holds. -/
inductive Action : Type 1 where
  | called (call : Call)
  | queried {α : Type} (ask : Ask) (r : Reader α) (render : Option α → Value)

/-- What an action does. -/
def Action.run (c : Client) : Action → Exchange Value
  | .called call => call.run c
  | .queried ask r render => render <$> c.api.query ask r

/-- Actions carried out one after another, each whatever became of those before it. -/
def Client.perform (c : Client) (answer : σ → Request → Delivery × σ) :
    List Action → σ → List (Run σ Value)
  | [], _ => []
  | action :: later, s =>
    let run := (action.run c).run answer s
    run :: c.perform answer later run.server

/-- Everything that can be seen of a client: the configuration, the client and its connection taken
apart, the run that made the client, and the runs of its actions, with their results, their events,
their requests and what became of these. -/
structure Session (σ : Type) where
  details : List String
  opened : Run σ Client
  performed : List (Run σ Value)

/-- A client is made by a plan, and if there is one the actions are carried out. -/
def Session.ofPlan (detail : String) (plan : Exchange Client) (actions : List Action)
    (answer : σ → Request → Delivery × σ) (s : σ) : Session σ :=
  let opened := plan.run answer s
  let client := opened.result.toOption
  { details := detail :: client.elim [] fun c => [c.detail, c.api.detail]
    opened
    performed := client.elim [] fun c => c.perform answer actions opened.server }

/-- A client is made of a configuration, and if there is one the actions are carried out. -/
def session (opening : Opening) (config : Config) (actions : List Action)
    (answer : σ → Request → Delivery × σ) (s : σ) : Session σ :=
  Session.ofPlan config.detail (opening.client config) actions answer s

/-! ## What is left of a session -/

/-- A client with a blank authorization. -/
def Client.redacted (c : Client) : Client :=
  ⟨{ c.api with authorization := "" }⟩

/-- A session with blank authorizations. -/
def Session.redacted (s : Session σ) : Session σ where
  details := s.details
  opened := { s.opened.redacted with result := s.opened.result.map Client.redacted }
  performed := s.performed.map Run.redacted

variable {a b : Access} {f : Event → Event} {answer : σ → Request → Delivery × σ}

theorem Client.redacted_via (c : Connection) (alike : a.Alike b) :
    Client.redacted ⟨c.via a⟩ = Client.redacted ⟨c.via b⟩ := by
  unfold Client.redacted Connection.via
  rw [alike.options, alike.endpoint]

/-- What authorizes a connection does not show when it is taken apart. -/
theorem Connection.detail_via (c : Connection) (alike : a.Alike b) :
    (c.via a).detail = (c.via b).detail := by
  unfold Connection.detail Connection.via
  rw [alike.endpoint]

theorem Action.mapped_run (c : Connection) (agree : a.Agree f b) (action : Action) :
    (action.run ⟨c.via a⟩).mapped f Request.redacted =
      (action.run ⟨c.via b⟩).mapped f Request.redacted := by
  cases action with
  | called call => exact call.mapped_run c agree
  | queried ask r render =>
    show (render <$> (c.via a).query ask r).mapped f Request.redacted =
      (render <$> (c.via b).query ask r).mapped f Request.redacted
    rw [mapped_map, mapped_map, agree c]

/-- The same is left of the runs of all actions. -/
theorem Client.mapped_perform (c : Connection) (agree : a.Agree f b)
    (indifferent : Indifferent answer) (actions : List Action) (s : σ) :
    (Client.perform ⟨c.via a⟩ answer actions s).map (Run.mapped f Request.redacted) =
      (Client.perform ⟨c.via b⟩ answer actions s).map (Run.mapped f Request.redacted) := by
  induction actions generalizing s with
  | nil => rfl
  | cons action later ih =>
    have same := run_mapped_congr indifferent (action.mapped_run c agree) s
    -- Both leave the server in one state, in which the later actions begin.
    have server : ((action.run ⟨c.via a⟩).run answer s).server =
        ((action.run ⟨c.via b⟩).run answer s).server := by
      have := congrArg Run.server same
      exact this
    simp only [Client.perform, List.map_cons, same]
    rw [server, ih]

/-! ## Making a client -/

/-- Which version is asked for when a client is made, if any is. -/
def Opening.ask : Opening → Option Version → Connection → Exchange Version
  | .connected, none => Connection.askVersion
  | _, _ => fun c => pure c.version

/-- The client for a connection, in a version. -/
def Client.inVersion (c : Connection) (version : Version) : Client :=
  ⟨{ c with version }⟩

/-- A client is made of a connection by settling the version. -/
theorem Opening.client_eq (opening : Opening) (config : Config) :
    opening.client config = Exchange.ofExcept (Connection.ofConfig config) >>= fun c =>
      Client.inVersion c <$> opening.ask config.version c := by
  cases opening with
  | configured =>
    show Exchange.ofExcept (Client.ofConfig config) = _
    unfold Client.ofConfig
    cases Connection.ofConfig config <;> rfl
  | connected =>
    show Client.connect config = _
    unfold Client.connect
    rw [Connection.connect_eq, LawfulMonad.bind_assoc]
    refine congrArg (Exchange.ofExcept (Connection.ofConfig config) >>= ·) (funext fun c => ?_)
    cases config.version with
    | some v => rfl
    | none =>
      simp only [Connection.settle, Opening.ask, map_eq_pure_bind, LawfulMonad.bind_assoc,
        LawfulMonad.pure_bind]
      rfl

theorem Opening.ask_madeOfQueries (opening : Opening) (version : Option Version)
    (c : Connection) : MadeOfQueries c (opening.ask version) := by
  cases opening with
  | configured => exact .pure Connection.version fun _ => rfl
  | connected =>
    cases version with
    | some v => exact .pure Connection.version fun _ => rfl
    | none => exact c.askVersion_madeOfQueries

/-- The configuration with another password. -/
def Config.withPassword (c : Config) (password : String) : Config :=
  { c with password }

/-- The connection for a configuration with a password is that for another, but for what authorizes
it. -/
theorem Connection.ofConfig_withPassword (config : Config) {p q : String} (hp : p ≠ "")
    (hq : q ≠ "") : ofConfig (config.withPassword p) = (ofConfig (config.withPassword q)).map
      fun c => c.via ⟨c.options, c.endpoint, basicAuth config.username p⟩ := by
  have valid : (config.withPassword p).validate = (config.withPassword q).validate := by
    have filled : p.isEmpty = false := by simpa using hp
    have filled' : q.isEmpty = false := by simpa using hq
    simp only [Config.validate, Config.withPassword, filled, filled']
  unfold ofConfig
  rw [valid]
  cases (config.withPassword q).validate <;> rfl

/-- What authorizes the connection for a configuration. -/
theorem Connection.authorization_ofConfig {config : Config} {c : Connection}
    (configured : ofConfig config = .ok c) :
    c.authorization = basicAuth config.username config.password := by
  obtain ⟨-, rfl⟩ := eq_of_ofConfig configured
  rfl

theorem Connection.isLegal_ofConfig {config : Config} {c : Connection}
    (configured : ofConfig config = .ok c) : IsLegal c.authorization := by
  rw [authorization_ofConfig configured]
  exact isLegal_basicAuth _ _

/-! ## Passwords -/

/-- The same is left of the sessions of two clients that differ in what authorizes them. -/
theorem Session.redacted_ofPlan (c : Connection) (alike : a.Alike b)
    (indifferent : Indifferent answer) {ask : Connection → Exchange Version}
    (made : MadeOfQueries c ask) (detail : String) (actions : List Action) (s : σ) :
    (Session.ofPlan detail (Client.inVersion (c.via a) <$> ask (c.via a)) actions
        answer s).redacted =
      (Session.ofPlan detail (Client.inVersion (c.via b) <$> ask (c.via b)) actions
        answer s).redacted := by
  have same := run_mapped_congr indifferent (made.mapped_eq alike.agree) s
  rw [← Run.redacted_eq] at same
  unfold Session.ofPlan
  rw [run_map, run_map]
  generalize (ask (c.via a)).run answer s = one at same
  generalize (ask (c.via b)).run answer s = other at same
  obtain ⟨result, steps, server⟩ := one
  obtain ⟨result', steps', server'⟩ := other
  obtain ⟨rfl, told, rfl⟩ := Run.mk.inj same
  dsimp only at told ⊢
  cases result with
  | error f => simp [Session.redacted, Run.redacted, Except.map, Except.toOption, told]
  | ok version =>
    -- A client in a version is a client for a connection, reached in the same way.
    have reached : ∀ x : Access, Client.inVersion (c.via x) version =
      ⟨Connection.via { c with version } x⟩ := fun _ => rfl
    have client := Client.redacted_via { c with version } alike
    have detail := Connection.detail_via { c with version } alike
    have performed :=
      Client.mapped_perform { c with version } alike.agree indifferent actions server
    rw [← Run.redacted_eq] at performed
    simp only [Session.redacted, Run.redacted, Except.map, Except.toOption, told, reached,
      Option.elim, client, Client.detail, detail, performed]

/-- Passwords only authorize. Two configurations that differ in the password, which neither lacks, are
made into clients in one way, and the clients carry out the same actions against servers that make
nothing of authorizations. Then the two sessions are the same but for the values of authorizations:
the configurations, the clients and their connections are taken apart into the same texts; making
the clients and every action have the same results and failures and tell the same events; and they
send the same requests, header by header, to the same effect. -/
theorem password_only_authorizes (config : Config) {p q : String} (hp : p ≠ "") (hq : q ≠ "")
    (opening : Opening) (actions : List Action) {answer : σ → Request → Delivery × σ}
    (indifferent : Indifferent answer) (s : σ) :
    (session opening (config.withPassword p) actions answer s).redacted =
      (session opening (config.withPassword q) actions answer s).redacted := by
  have connection := Connection.ofConfig_withPassword config hp hq
  have opens := opening.client_eq
  unfold session
  rw [opens, opens, connection]
  cases configured : Connection.ofConfig (config.withPassword q) with
  | error f => rfl
  | ok c =>
    -- The connection is reached in two ways, of which the second is its own.
    let own : Access := ⟨c.options, c.endpoint, c.authorization⟩
    let other : Access := ⟨c.options, c.endpoint, basicAuth config.username p⟩
    have legal := Connection.isLegal_ofConfig configured
    have alike : Access.Alike other own := ⟨rfl, rfl, isLegal_basicAuth config.username p, legal⟩
    have made := opening.ask_madeOfQueries config.version c
    exact Session.redacted_ofPlan c alike indifferent made ..

/-- The replies to a client that asks for the version, creates a volume and meets a refusal. -/
def fewReplies : List Incoming :=
  [.message 200 (Text.Utf8.bytes "\x7b\x22latest\x22: \x222\x22\x7d") true, .message 200 [] true,
    .message 200 [] true, .message 403 [] true]

/-- With two passwords a client connects, creates a volume and is refused the list of volumes. It
sends four requests each time; those that it sends to create the volume are not the same. -/
theorem password_only_authorizes_local :
    let seen := fun password => session .connected
      ((Config.new "http://[::1]:8080/" "admin" "").withPassword password)
      [.called (.ofClient (.createVolume "data")), .called (.ofClient .volumes)]
      (replies .closed) fewReplies
    let creation := fun password => (seen password).performed.map fun run => requests run.steps
    Indifferent (replies .closed) ∧ "secret" ≠ "" ∧ "hunter2" ≠ "" ∧
      (seen "secret").redacted = (seen "hunter2").redacted ∧
      (creation "secret").map List.length = [2, 1] ∧ creation "secret" ≠ creation "hunter2" := by
  intro seen creation
  have indifferent : Indifferent (replies .closed) := replies_indifferent .closed
  exact ⟨indifferent, by decide, by decide,
    password_only_authorizes (.new "http://[::1]:8080/" "admin" "") (by decide) (by decide)
      .connected _ indifferent fewReplies, by decide +kernel, by decide +kernel⟩

end OneFs
