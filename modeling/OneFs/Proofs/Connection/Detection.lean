import Mathlib.Data.Bool.AllAny
import OneFs.Proofs.Call.Queries
import OneFs.Proofs.Connection.Address
import OneFs.Proofs.Connection.Reply
import OneFs.Proofs.Exchange.Ends
import OneFs.Proofs.Json.Text
import OneFs.Proofs.Text.Numeral
import OneFs.Proofs.Volume.Address

/-!
# Which version is spoken

A connection speaks the version that is configured, or else asks the cluster once for the latest
version that it speaks.

- `Version.IsBestFor`: the version to speak with a cluster, by what it tells;
- `versionFor_eq_ok_iff`, `versionFor_eq_error`: that is what a connection makes of it;
- `settle_requests`, `settle_ends`: what is sent to learn it, and what becomes of the reply;
- `connect_exact`: all that happens when a connection is made;
- `connect_astray`: behind a number sign something else is asked for.
-/

namespace OneFs

open Json Http Exchange

variable {σ : Type}

/-! ## What a cluster tells -/

/-- The version to speak with a cluster that tells `latest`: a number of 32 bits, in decimal digits
between blanks, of which all but 0 and 1 stand for version 2. -/
def Version.IsBestFor (v : Version) (latest : String) : Prop :=
  ∃ n, Text.IsNumeral (Text.trim latest) n ∧ n ≤ 4294967295 ∧ (v = .v2 ↔ 2 ≤ n)

theorem Version.ofLatest_eq_iff {v : Version} {n : Nat} :
    ofLatest n = v ↔ (v = .v2 ↔ 2 ≤ n) := by
  unfold ofLatest
  cases v <;> split <;> simp_all

namespace Connection

theorem versionFor_eq_ok_iff {latest : String} {v : Version} :
    versionFor latest = .ok v ↔ v.IsBestFor latest := by
  have small : ∀ n, Text.word32? (Text.trim latest) = some n ↔
      Text.IsNumeral (Text.trim latest) n ∧ n < 4294967296 := fun n => Text.unsigned?_eq_some_iff
  unfold versionFor Version.IsBestFor
  cases read : Text.word32? (Text.trim latest) with
  | none =>
    refine ⟨nofun, fun ⟨n, numeral, bound, _⟩ => ?_⟩
    rw [(small n).mpr ⟨numeral, by omega⟩] at read
    cases read
  | some n =>
    obtain ⟨numeral, bound⟩ := (small n).mp read
    constructor
    · intro told
      exact ⟨n, numeral, by omega, Version.ofLatest_eq_iff.mp (Except.ok.inj told)⟩
    · rintro ⟨m, other, -, best⟩
      rw [other.unique numeral] at best
      exact congrArg Except.ok (Version.ofLatest_eq_iff.mpr best)

/-- What tells no version is quoted in the failure. -/
theorem versionFor_eq_error {latest : String} (unknown : ∀ v : Version, ¬ v.IsBestFor latest) :
    versionFor latest = .error (.config ("Unexpected platform version: " ++ latest)) := by
  cases told : versionFor latest with
  | ok v => exact absurd (versionFor_eq_ok_iff.mp told) (unknown v)
  | error f =>
    unfold versionFor at told
    split at told
    · cases told
    · exact told.symm

/-! ## Asking for it -/

/-- What is asked to learn the latest version that a cluster speaks. -/
def askLatest : Ask where
  method := "GET"
  path := latestPath

/-- The version to speak by what a reply holds. -/
def versionIn : Option String → Except Failure Version
  | none => .error .invalidResponse
  | some latest => versionFor latest

variable {c : Connection} {answer : σ → Request → Delivery × σ} {s t : σ}

theorem settle_eq (c : Connection) :
    settle none c = c.query askLatest latest >>= fun reply =>
      Exchange.ofExcept (versionIn reply) >>= fun v =>
        Exchange.note (.versionDetected v) >>= fun _ => .done { c with version := v } := by
  unfold settle askVersion detectVersion
  simp only [map_eq_pure_bind, LawfulMonad.bind_assoc, LawfulMonad.pure_bind]
  refine congrArg (c.query askLatest latest >>= ·) (funext fun reply => ?_)
  cases reply with
  | none => rfl
  | some told =>
    simp only [Exchange.ofOption, done_bind, versionIn]
    rfl

/-- Nothing is sent to settle the version but the request for it. -/
theorem settle_requests (c : Connection) (answer : σ → Request → Delivery × σ) (s : σ) :
    requests ((settle none c).run answer s).steps = (c.requestFor askLatest).toOption.toList := by
  rw [settle_eq, ← query_requests c askLatest latest answer s]
  refine Ends.requests_bind_silent answer s fun reply t => ?_
  cases versionIn reply with
  | error f => rfl
  | ok v => rfl

/-- The version is settled by what the reply holds. -/
theorem settle_ends {reply : Except Failure (Option String)}
    (asked : (c.query askLatest latest).Ends answer s reply t) :
    (settle none c).Ends answer s ((reply.bind versionIn).map fun v => { c with version := v })
      t := by
  rw [settle_eq]
  cases reply with
  | error f => exact asked.bind_error
  | ok reply =>
    refine asked.bind ?_
    simp only [Except.bind]
    cases versionIn reply with
    | error f => exact ⟨rfl, rfl⟩
    | ok v => exact ⟨rfl, rfl⟩

theorem rawUrl_latest (c : Connection) :
    c.rawUrl latestPath none =
      String.ofList (c.endpoint.toList ++ '/' :: "platform/latest".toList) := by
  have path : latestPath.toList.dropWhile (· == '/') = "platform/latest".toList := by decide
  unfold rawUrl
  rw [path]
  apply String.toList_injective
  simp

theorem plainPath_latest : Url.PlainPath "platform/latest".toList where
  marks := List.all_iff_forall_prop.mp (by decide)
  backslashes := List.all_iff_forall_prop.mp (by decide)
  last c hc := by
    have small : 0x20 < 't'.toNat := by decide
    exact Option.some.inj (hc.symm.trans (rfl : _ = some 't')) ▸ small
  triples before a b after eq := by
    have free : '%' ∉ "platform/latest".toList := by decide
    exact absurd (eq ▸ List.mem_append_right before List.mem_cons_self) free
  names := List.all_iff_forall_prop.mp (by decide)

/-- The request to learn the latest version. -/
theorem latest_of_requestFor {r : Request} (request : c.requestFor askLatest = .ok r) :
    r.method = "GET" ∧ r.body = [] ∧
      ∃ u, Url.parse (c.endpoint ++ "/platform/latest") = .ok u ∧ r.url = bareUrl u := by
  have raw : c.rawUrl latestPath none = c.endpoint ++ "/platform/latest" := by
    rw [rawUrl_latest]
    apply String.toList_injective
    simp
  obtain ⟨u, parsed, -, url⟩ := url_of_requestFor request
  exact ⟨method_of_requestFor request, body_of_requestFor_none request rfl, u, raw ▸ parsed, url⟩

/-- What a reply holds is what its body is read as, if it reports success. -/
theorem verdict_eq_some {α : Type} {r : Reader α} {status : Nat} {body : String} {a : α}
    (held : verdict r ⟨status, body⟩ = .ok (some a)) :
    isSuccess status = true ∧ r.decode body = .ok a := by
  unfold verdict at held
  split at held
  · rename_i success
    refine ⟨success, ?_⟩
    split at held
    · cases held
    · unfold decoded at held
      cases read : r.decode body with
      | error f => rw [read] at held; cases held
      | ok b => rw [read] at held; cases held; rfl
  · cases held

/-- A query that ends in something was answered with a reply that reports success and holds it. -/
theorem query_eq_some {α : Type} {ask : Ask} {r : Reader α} {a : α}
    (done : ((c.query ask r).run answer s).result = .ok (some a)) :
    ∃ req status body t, c.requestFor ask = .ok req ∧ answer s req = (.received status body, t) ∧
      isSuccess status = true ∧ r.decode body = .ok a := by
  have result : _ = Except.ok (some a) :=
    (congrArg Outcome.result (query_outcome c ask r answer s)).symm.trans done
  cases request : c.requestFor ask with
  | error f =>
    rw [request] at result
    cases result
  | ok req =>
    rw [request] at result
    dsimp only at result
    cases delivered : answer s req with | mk delivery t =>
    rw [delivered] at result
    cases delivery with
    | received status body =>
      obtain ⟨success, read⟩ := verdict_eq_some result
      exact ⟨req, status, body, t, rfl, delivered, success, read⟩
    | _ => cases result

/-! ## Making a connection -/

theorem connect_of_config {config : Config} (configured : ofConfig config = .ok c) :
    connect config = settle config.version c := by
  rw [connect_eq, configured]
  rfl

section

variable {r : Request} {status : Nat} {body told : String}
  (request : c.requestFor askLatest = .ok r) (answered : answer s r = (.received status body, t))
  (success : isSuccess status = true)

include request answered success

/-- A blank reply tells nothing. -/
theorem settle_blank (blank : Text.isBlankText body = true) :
    ((settle none c).run answer s).result = .error .invalidResponse := by
  have held : verdict latest ⟨status, body⟩ = .ok none := by
    simp [verdict, Reply.isSuccess, Reply.isEmpty, success, blank]
  exact (settle_ends (held ▸ query_ends request answered)).result_eq

/-- A reply that tells the latest version settles which one is spoken. -/
theorem settle_told (read : latest.decode body = .ok told) :
    ((settle none c).run answer s).result =
      (versionFor told).map fun v => { c with version := v } := by
  have held : verdict latest ⟨status, body⟩ = .ok (some told) := verdict_record success read
  have settled := settle_ends (held ▸ query_ends request answered)
  simp only [Except.bind, versionIn] at settled
  exact settled.result_eq

theorem settle_told_iff (read : latest.decode body = .ok told) (v : Version) :
    ((settle none c).run answer s).result = .ok { c with version := v } ↔ v.IsBestFor told := by
  rw [settle_told request answered success read, ← versionFor_eq_ok_iff]
  cases versionFor told with
  | error f => exact ⟨nofun, nofun⟩
  | ok w =>
    constructor
    · intro same
      exact congrArg Except.ok (congrArg Connection.version (Except.ok.inj same))
    · intro best
      rw [best]
      rfl

theorem settle_unknown (read : latest.decode body = .ok told)
    (unknown : ∀ v : Version, ¬ v.IsBestFor told) :
    ((settle none c).run answer s).result =
      .error (.config ("Unexpected platform version: " ++ told)) := by
  rw [settle_told request answered success read, versionFor_eq_error unknown]
  rfl

end

/-- Only a reply that reports success and tells a version settles it. -/
theorem told_of_settle {client : Connection}
    (done : ((settle none c).run answer s).result = .ok client) :
    ∃ r status body t told v, c.requestFor askLatest = .ok r ∧
      answer s r = (.received status body, t) ∧ isSuccess status = true ∧
      latest.decode body = .ok told ∧ versionFor told = .ok v ∧
      client = { c with version := v } := by
  have asked : (c.query askLatest latest).Ends answer s _ _ := ⟨rfl, rfl⟩
  have settled := (settle_ends asked).result_eq.symm.trans done
  cases result : ((c.query askLatest latest).run answer s).result with
  | error f =>
    rw [result] at settled
    cases settled
  | ok reply =>
    rw [result] at settled
    cases reply with
    | none => cases settled
    | some told =>
      obtain ⟨r, status, body, t, request, answered, success, read⟩ := query_eq_some result
      simp only [Except.bind, versionIn] at settled
      cases best : versionFor told with
      | error f =>
        rw [best] at settled
        cases settled
      | ok v =>
        rw [best] at settled
        exact ⟨r, status, body, t, told, v, request, answered, success, read, best,
          (Except.ok.inj settled).symm⟩

/-- All that happens when a connection is made for a configuration that is complete, whatever the
server answers. With a configured version nothing is sent and that version is spoken. Otherwise one
request is sent, if it can be made: without a body, for the URL that is the endpoint with the path
of the latest version behind it, which stands for that path below the path of the endpoint if the
endpoint has no marks and is a URL. There is a connection just if the reply reports success and tells
a version, and then it speaks the best one for that; what tells no version is quoted in the failure,
and a blank reply is none. -/
theorem connect_exact {config : Config} (valid : config.validate = .ok ())
    (answer : σ → Request → Delivery × σ) (s : σ) :
    ∃ c, ofConfig config = .ok c ∧
      (∀ v, config.version = some v →
        (connect config).run answer s = ⟨.ok c, [], s⟩ ∧ c.version = v) ∧
      (config.version = none →
        requests ((connect config).run answer s).steps =
          (c.requestFor askLatest).toOption.toList ∧
        (∀ r, c.requestFor askLatest = .ok r →
          (r.method = "GET" ∧ r.body = [] ∧
            (∃ u, Url.parse (c.endpoint ++ "/platform/latest") = .ok u ∧ r.url = bareUrl u) ∧
            ((∀ x ∈ config.endpoint.toList, x ≠ '?' ∧ x ≠ '#') → c.base?.isSome = true →
              c.Reaches "platform/latest" r)) ∧
          ∀ status body t, answer s r = (.received status body, t) → isSuccess status = true →
            (Text.isBlankText body = true →
              ((connect config).run answer s).result = .error .invalidResponse) ∧
            ∀ told, latest.decode body = .ok told →
              (∀ v, ((connect config).run answer s).result = .ok { c with version := v } ↔
                v.IsBestFor told) ∧
              ((∀ v : Version, ¬ v.IsBestFor told) →
                ((connect config).run answer s).result =
                  .error (.config ("Unexpected platform version: " ++ told)))) ∧
        ∀ client, ((connect config).run answer s).result = .ok client →
          ∃ r status body t told v, c.requestFor askLatest = .ok r ∧
            answer s r = (.received status body, t) ∧ isSuccess status = true ∧
            latest.decode body = .ok told ∧ v.IsBestFor told ∧
            client = { c with version := v }) := by
  obtain ⟨c, configured⟩ : ∃ c, ofConfig config = .ok c := by
    unfold ofConfig
    rw [valid]
    exact ⟨_, rfl⟩
  rw [connect_of_config configured]
  refine ⟨c, configured, fun v pinned => ?pinned, fun unset => ?asked⟩
  case pinned =>
    rw [pinned]
    refine ⟨rfl, ?_⟩
    obtain ⟨-, rfl⟩ := eq_of_ofConfig configured
    dsimp only
    rw [pinned]
    rfl
  case asked =>
    rw [unset]
    refine ⟨settle_requests c answer s, fun r request => ⟨?request, ?reply⟩, fun client done => ?_⟩
    case request =>
      obtain ⟨get, bodiless, url⟩ := latest_of_requestFor request
      refine ⟨get, bodiless, url, fun unmarked based => ?_⟩
      have marks := endpoint_marks configured unmarked
      exact (reaches_iff_plain marks (rawUrl_latest c) request).mpr ⟨based, plainPath_latest⟩
    case reply =>
      intro status body t answered success
      exact ⟨settle_blank request answered success, fun told read =>
        ⟨settle_told_iff request answered success read,
          settle_unknown request answered success read⟩⟩
    · obtain ⟨r, status, body, t, told, v, request, answered, success, read, best, made⟩ :=
        told_of_settle done
      exact ⟨r, status, body, t, told, v, request, answered, success, read,
        versionFor_eq_ok_iff.mp best, made⟩

/-! ## A cluster that tells its version -/

/-- The body by which a cluster tells that it speaks version 3, with a sign and blanks. -/
def toldThree : String :=
  (Value.obj [("latest", .str " +03 ")]).text

theorem decode_toldThree : latest.decode toldThree = .ok " +03 " := by
  have distinct : (["latest"] : List String).Nodup := by decide
  exact Reader.Reads.decode_text (reads_member distinct rfl (Reader.reads_string _))
    ⟨by decide, trivial, trivial⟩

theorem isBestFor_three : Version.v2.IsBestFor " +03 " := by
  have trimmed : (Text.trim " +03 ").toList = '+' :: ['0', '3'] := by decide
  have digits : ∀ c ∈ ['0', '3'], c.isDigit = true := List.all_eq_true.mp (by decide)
  exact ⟨3, ⟨['0', '3'], .inr trimmed, by decide, digits, by decide⟩, by decide, by decide⟩

/-- Such a cluster is asked for its version, and version 2 is spoken; nothing is asked if version 1 is
configured. -/
theorem connect_exact_local :
    ((∃ r, localConnection.requestFor askLatest = .ok r ∧
        localConnection.Reaches "platform/latest" r) ∧
      ((connect (.new "http://[::1]:8080/" "admin" "secret")).run
          (fun s _ => (.received 200 toldThree, s)) ()).result =
        .ok { localConnection with version := .v2 }) ∧
    (connect { Config.new "http://[::1]:8080/" "admin" "secret" with version := some .v1 }).run
        (fun s _ => (.received 200 toldThree, s)) () = ⟨.ok localConnection, [], ()⟩ := by
  constructor
  · have valid : (Config.new "http://[::1]:8080/" "admin" "secret").validate = .ok () := rfl
    obtain ⟨c, configured, -, asks⟩ := connect_exact valid
      (fun (s : Unit) _ => (.received 200 toldThree, s)) ()
    cases configured
    obtain ⟨-, told, -⟩ := asks rfl
    have sendable : (localConnection.requestFor askLatest).toOption.isSome = true := rfl
    obtain ⟨r, some⟩ := Option.isSome_iff_exists.mp sendable
    have request := mem_toList_requestFor.mp (Option.mem_toList.mpr some)
    obtain ⟨⟨-, -, -, reaches⟩, replied⟩ := told r request
    have unmarked : ∀ x ∈ "http://[::1]:8080/".toList, x ≠ '?' ∧ x ≠ '#' :=
      List.all_iff_forall_prop.mp (by decide)
    obtain ⟨-, held⟩ := replied 200 toldThree () rfl rfl
    exact ⟨⟨r, request, reaches unmarked rfl⟩,
      ((held _ decode_toldThree).1 .v2).mpr isBestFor_three⟩
  · have valid : { Config.new "http://[::1]:8080/" "admin" "secret" with
        version := some .v1 }.validate = .ok () := rfl
    obtain ⟨c, configured, pinned, -⟩ := connect_exact valid
      (fun (s : Unit) _ => (.received 200 toldThree, s)) ()
    cases configured
    exact (pinned .v1 rfl).1

/-- Behind a number sign in the endpoint, the root of the server is asked for instead. -/
theorem connect_astray :
    (Config.new "http://[::1]:8080/#" "admin" "secret").validate = .ok () ∧
    (Config.new "http://[::1]:8080/#" "admin" "secret").version = none ∧
    ∃ c, ofConfig (.new "http://[::1]:8080/#" "admin" "secret") = .ok c ∧
      ∃ r ∈ requests ((connect (.new "http://[::1]:8080/#" "admin" "secret")).run
          (fun s _ => (.received 200 toldThree, s)) ()).steps,
        r.method = "GET" ∧ r.url.target = "/" ∧ ¬ c.Reaches "platform/latest" r := by
  have configured : ofConfig (.new "http://[::1]:8080/#" "admin" "secret") =
      .ok { localConnection with endpoint := "http://[::1]:8080/#" } := rfl
  have seen : (({ localConnection with endpoint := "http://[::1]:8080/#" } : Connection).requestFor
      askLatest).toOption.map (fun r => (r.url.target, r.url.pathText)) = some ("/", "/") := rfl
  obtain ⟨r, some, shown⟩ := Option.map_eq_some_iff.mp seen
  obtain ⟨target, path⟩ := Prod.mk.inj shown
  have sent := Option.mem_toList.mpr some
  have method := method_of_requestFor (mem_toList_requestFor.mp sent)
  rw [connect_of_config configured, show (Config.new _ _ _).version = none from rfl,
    settle_requests]
  refine ⟨rfl, rfl, _, rfl, r, sent, method, target, ?_⟩
  rintro ⟨base, -, reached⟩
  rw [path] at reached
  have lengths := congrArg List.length reached
  have root : (Percent.decode "/".toList).length = 1 := by decide
  have resource : (Text.Utf8.bytes "platform/latest").length = 15 := by decide
  rw [root, List.length_append, List.length_cons, resource] at lengths
  omega

end Connection

end OneFs
