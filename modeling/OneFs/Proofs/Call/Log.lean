import OneFs.Proofs.Call.Queries
import OneFs.Proofs.Call.Shape

/-!
# The log of a call

Every call of a connection is logged in rounds, one for each request; calls that change something
tell so at their end.

- `informed`: the events that are meant for users;
- `Connection.connect_logged`: the log of connecting;
- `calls_logged`: the log of every call, and of connecting.
-/

namespace OneFs

open Json Http Exchange

variable {α σ : Type}

/-! ## What is told at the level of users -/

/-- The events of a run that are meant for users. -/
def informed (steps : List Step) : List Event :=
  (events steps).filter fun e => e.level = .info

theorem events_append (xs ys : List Step) : events (xs ++ ys) = events xs ++ events ys := by
  induction xs with
  | nil => rfl
  | cons s rest ih => cases s <;> simp [events, ih]

theorem events_map_noted (es : List Event) : events (es.map .noted) = es := by
  induction es with
  | nil => rfl
  | cons e rest ih => rw [List.map_cons, events, ih]

theorem informed_append (xs ys : List Step) :
    informed (xs ++ ys) = informed xs ++ informed ys := by
  rw [informed, events_append, List.filter_append]
  rfl

/-- A round is not meant for users. -/
theorem informed_round (x : Round) : informed x.steps = [] := by
  have before : informed (x.announced.map .noted) = [] := by
    rw [informed, events_map_noted]
    cases h : x.body <;> simp [Round.announced, h, Event.level]
  have after (d : Delivery) : informed ((Round.reported x.method d).map .noted) = [] := by
    rw [informed, events_map_noted]
    cases d with
    | received status body =>
      by_cases success : isSuccess status = true <;>
        simp [Round.reported, success, Event.level]
    | _ => rfl
  unfold Round.steps
  rw [informed_append, before]
  cases x.sent with
  | none => rfl
  | some exchange => exact after exchange.2

theorem informed_rounds (rounds : List Round) : informed (rounds.flatMap Round.steps) = [] := by
  induction rounds with
  | nil => rfl
  | cons x rest ih => rw [List.flatMap_cons, informed_append, informed_round, ih, List.append_nil]

/-- What a run tells after its rounds is all that is meant for users, if it is. -/
theorem Logged.informed_eq {run : Run σ α} {rounds : List Round} {ending : List Event}
    (logged : Logged run rounds ending) (meant : ∀ e ∈ ending, e.level = .info) :
    informed run.steps = ending := by
  rw [logged.steps, informed_append, informed_rounds, List.nil_append, informed, events_map_noted,
    List.filter_eq_self]
  simpa using meant

theorem Ending.level {quiet : Prop} {call : ConnectionCall} {result : Except Failure Value}
    {ending : List Event} (ends : Ending quiet call.Tells result ending) :
    ∀ {e : Event}, e ∈ ending → e.level = .info := by
  intro e told
  cases ends with
  | failed f => cases told
  | silent a allowed => cases told
  | told telling =>
    rw [List.mem_singleton.mp told]
    exact call.level_of_tells telling

/-! ## Connecting -/

theorem Connection.ofConfig_own {config : Config} {f : Failure}
    (failed : ofConfig config = .error f) : f.refusal? = none := by
  unfold ofConfig Config.validate at failed
  split at failed
  · cases failed
    rfl
  · cases failed

/-- To ask for the version is told, if there is an answer. -/
theorem Connection.settle_concludes (version : Option Version) (c : Connection) :
    Concludes c c.Owns (version.isSome = true) (fun d e => e = .versionDetected d.version)
      (settle version c) := by
  cases version with
  | some v => exact .silent c rfl
  | none =>
    have asks : Concludes c c.Owns False (fun v e => e = .versionDetected v) c.askVersion :=
      (detectVersion_wordless c).bind fun _ => .told rfl
    exact asks.map _ False.elim fun _ _ => id

theorem Connection.connect_logged (config : Config) (answer : σ → Request → Delivery × σ)
    (server : σ) :
    ∃ rounds ending, Logged ((connect config).run answer server) rounds ending ∧
      Ending (config.version.isSome = true) (fun d e => e = .versionDetected d.version)
        ((connect config).run answer server).result ending := by
  rw [connect_eq]
  cases configured : ofConfig config with
  | error f =>
    refine ⟨[], [], .nil ?_, .failed f⟩
    rw [refusals, ofConfig_own configured]
    rfl
  | ok c => exact (settle_concludes config.version c).logged answer server

/-- The log is a faithful account. Whatever a call of a connection is given and whatever it is
answered, its run consists of rounds: each request that is sent stands behind the event that
announces it, with its method and URL, and in front of the event for its reply, if one came in full,
and of the refusal, if that reply is one. The refusal told is the one by which the call failed. What
is meant for users is told once and last, if the call succeeds and is one that tells; nothing is if
it fails or is another. The same holds for queries with readers of the caller's and for connecting,
which tells the version that it asked for. -/
theorem calls_logged :
    (∀ (c : Connection) (call : ConnectionCall) (σ : Type) (answer : σ → Request → Delivery × σ)
      (server : σ), ∃ rounds ending,
        Logged ((call.run c).run answer server) rounds ending ∧
        Ending (call.isTold = false) call.Tells ((call.run c).run answer server).result ending ∧
        informed ((call.run c).run answer server).steps = ending) ∧
    (∀ (c : Connection) (α : Type) (ask : Ask) (r : Reader α) (σ : Type)
      (answer : σ → Request → Delivery × σ) (server : σ),
        ∃ rounds, Logged ((c.query ask r).run answer server) rounds []) ∧
    (∀ (config : Config) (σ : Type) (answer : σ → Request → Delivery × σ) (server : σ),
      ∃ rounds ending, Logged ((Connection.connect config).run answer server) rounds ending ∧
        Ending (config.version.isSome = true) (fun d e => e = .versionDetected d.version)
          ((Connection.connect config).run answer server).result ending) := by
  refine ⟨fun c call σ answer server => ?_, fun c α ask r σ answer server => ?_,
    fun config σ answer server => Connection.connect_logged config answer server⟩
  · obtain ⟨rounds, ending, logged, ends⟩ := (call.concludes c).logged answer server
    exact ⟨rounds, ending, logged, ends, logged.informed_eq fun _ => ends.level⟩
  · exact c.query_logged ask r answer server

end OneFs
