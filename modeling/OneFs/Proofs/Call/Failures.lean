import OneFs.Proofs.Call.Script
import OneFs.Proofs.Volume.Address

/-!
# Failures of calls

The first failing request of a call is its last, and its failure is the failure of the call. The
exception is the look-up of a snapshot by id and name: a failure of its first query is not one of
the call.

- `Connection.connect_follows`: connecting goes by its script;
- `failures_end_calls`: every call, queries, and connecting;
- `createVolume_stops`: a volume whose directory was not created is not handed to anyone.
-/

namespace OneFs

open Json Http Exchange

/-- Connecting goes by its script, once a connection is configured. -/
theorem Connection.connect_follows {config : Config} {c : Connection}
    (configured : ofConfig config = .ok c) :
    Follows c (connect config) (.connect config.version) := by
  rw [connect_eq, configured]
  change Follows c (settle config.version c) _
  cases config.version with
  | some version => exact .done c
  | none => exact .map _ (Follows.detectVersion.bind_over fun version => .noted _ (.done version))

/-- Failures end calls. Whatever a call is given and whatever it is answered, it makes the queries
of its script, of which only the last may fail, and then the call fails with that failure; it ends
in a result only if everything that it sent was answered with success. This holds for all calls of
connections and of clients, for queries with readers of the caller's, and for connecting, which
begins with what fails without a request.

The exception is a call that looks up a snapshot under an id and a name. Its look-up by the id may
fail, and the failure may be lost; behind that, the call makes the queries of a script like any
other. -/
theorem failures_end_calls :
    (∀ (c : Connection) (call : Call), call.lookup? = none →
      LosesNoFailure c (call.run ⟨c⟩) (call.script c)) ∧
    (∀ (c : Connection) (call : Call) (id : Int64), call.lookup? = some id →
      LosesNoFailure c (c.snapshot id) ((ConnectionCall.snapshot id).script c) ∧
        ∀ {σ : Type} (answer : σ → Request → Delivery × σ) (server : σ),
          let looked := (c.snapshot id).run answer server
          ∃ later : Run σ Value,
            (call.run ⟨c⟩).run answer server = { later with steps := looked.steps ++ later.steps } ∧
              Account c later
                ((call.scriptAfter c looked.result).attempts c answer looked.server)) ∧
    (∀ (c : Connection) {γ : Type} (ask : Ask) (r : Reader γ),
      LosesNoFailure c (c.query ask r) (.once ask r)) ∧
    (∀ (c : Connection) (ask : Ask), LosesNoFailure c (c.execute ask) (.once ask ignored)) ∧
    (∀ config : Config,
      (∀ f, Connection.ofConfig config = .error f →
        Connection.connect config = .failed f ∧ Client.connect config = .failed f) ∧
      ∀ c, Connection.ofConfig config = .ok c →
        LosesNoFailure c (Connection.connect config) (.connect config.version) ∧
          LosesNoFailure c (Client.connect config) (.connect config.version)) ∧
    ∀ env, (∀ f, Config.ofEnvironment env = .error f → Client.ofEnvironment env = .failed f) ∧
      ∀ config, Config.ofEnvironment env = .ok config →
        Client.ofEnvironment env = Client.connect config := by
  refine ⟨fun c call h => ?_, fun c call id h => ?_,
    fun c γ ask r => (Follows.query ask r).losesNoFailure, fun c ask => ?_,
    fun config => ⟨fun f none => ?_, fun c configured => ?_⟩,
    fun env => ⟨fun f none => ?_, fun config found => ?_⟩⟩
  · cases call with
    | ofConnection call => exact (call.follows c).losesNoFailure
    | ofClient call => exact (call.follows c h).losesNoFailure
  · cases call with
    | ofConnection call => cases h
    | ofClient call =>
      refine ⟨(Follows.of_bind (.snapshot id fun s => .done s)).losesNoFailure,
        fun answer server => ?_⟩
      obtain ⟨k, begins, follows⟩ := call.follows_lookup c id h
      refine ⟨_, ?_, (follows _).account answer _⟩
      change (call.run ⟨c⟩).run answer server = _
      rw [begins]
      refine (run_bind answer k (c.snapshot id).attempt server).trans ?_
      rw [run_attempt]
      rfl
  · exact (Follows.of_bind (.execute ask (.done ()))).losesNoFailure
  · unfold Connection.connect Client.connect Connection.connect
    rw [none]
    exact ⟨rfl, rfl⟩
  · have connects := Connection.connect_follows configured
    exact ⟨connects.losesNoFailure, (connects.bind_done Client.mk).losesNoFailure⟩
  · unfold Client.ofEnvironment
    rw [none]
    rfl
  · unfold Client.ofEnvironment
    rw [found]
    rfl

/-- A run with a single attempt, which failed, has sent what that has, and has failed alike. -/
theorem Account.of_single {σ α : Type} {c : Connection} {run : Run σ α} {attempts : List Attempt}
    (h : Account c run attempts) (d : Delivery) (why : String)
    (seen : attempts.map (fun a => (a.sent.map Prod.snd, a.failure.map Failure.message)) =
      [([d], some why)]) :
    ∃ r f, sentIn run.steps = [(r, d)] ∧ run.result = .error f ∧ f.message = why := by
  obtain ⟨a, rfl, view⟩ := List.map_eq_singleton_iff.mp seen
  obtain ⟨sent, failed⟩ := Prod.mk.inj view
  obtain ⟨⟨r, d'⟩, exchanged, rfl⟩ := List.map_eq_singleton_iff.mp sent
  obtain ⟨f, failure, why⟩ := Option.map_eq_some_iff.mp failed
  refine ⟨r, f, ?_, (h.ends [] a [] rfl f failure).2, why⟩
  rw [h.sent, List.flatMap_singleton, exchanged]

/-- A volume is not handed to anyone if its directory was created with a reply that cannot be read.
A snapshot that is not found by its id is not removed if the reply that lists all cannot be read:
only the failure of the first look-up is lost. -/
theorem createVolume_stops :
    (∃ r f,
      let run := (Call.run ⟨localConnection⟩ (.ofClient (.createVolume "data"))).run
        (replies .closed) [.message 201 (Text.Utf8.bytes "OK") true, .message 200 [] true]
      sentIn run.steps = [(r, .received 201 "OK")] ∧ run.result = .error f ∧
        f.message = "JSON error: expected value at line 1 column 1") ∧
    ∃ r r' f,
      let run := (Call.run ⟨localConnection⟩ (.ofClient (.removeSnapshot 3 "nightly"))).run
        (replies .closed) [.message 500 [] true, .message 200 (Text.Utf8.bytes "OK") true,
          .message 200 [] true]
      sentIn run.steps = [(r, .received 500 ""), (r', .received 200 "OK")] ∧
        run.result = .error f ∧ f.message = "JSON error: expected value at line 1 column 1" := by
  obtain ⟨calls, lookups, -⟩ := failures_end_calls
  constructor
  · exact (calls localConnection (.ofClient (.createVolume "data")) rfl _ (replies .closed)
      [.message 201 (Text.Utf8.bytes "OK") true, .message 200 [] true]).of_single
      _ _ (by decide +kernel)
  · obtain ⟨first, later⟩ := lookups localConnection (.ofClient (.removeSnapshot 3 "nightly")) 3
      (by decide)
    obtain ⟨r, f, looked, -, -⟩ := (first _ (replies .closed) [.message 500 [] true,
      .message 200 (Text.Utf8.bytes "OK") true, .message 200 [] true]).of_single
      (.received 500 "") "500 Internal Server Error" (by decide +kernel)
    obtain ⟨rest, begins, account⟩ := later (replies .closed) [.message 500 [] true,
      .message 200 (Text.Utf8.bytes "OK") true, .message 200 [] true]
    obtain ⟨r', f, listed, failed, why⟩ := account.of_single (.received 200 "OK")
      "JSON error: expected value at line 1 column 1" (by decide +kernel)
    refine ⟨r, r', f, ?_, ?_, why⟩
    · rw [begins, sentIn_append, looked, listed]
      rfl
    · rw [begins]
      exact failed

end OneFs
