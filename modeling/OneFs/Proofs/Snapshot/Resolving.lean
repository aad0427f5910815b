import OneFs.Proofs.Snapshot.Requests
import OneFs.Proofs.Snapshot.Restoring
import OneFs.Proofs.Volume.Unpublishing

/-!
# Acting on the snapshot that is looked up

A snapshot is removed or restored after a look-up by its id and then by its name. Whatever the
look-up is answered, both calls begin with it, and what they send behind it is for the snapshot that
it comes to. If it comes to none, nothing is sent behind it.

- `Client.snapshot_byName`, `Client.Finds`, `Client.finds_of_lookup`: what a look-up comes to;
- `Client.resolved_missing`, `Client.resolved_found`: calls that begin with a look-up;
- `Connection.checked_requests`, `Connection.checked_unsent`, `Connection.checked_refused`: calls
  that check an argument before they ask for a change;
- `Connection.removeSnapshot_run`, `Connection.copySnapshot_requests`: what is sent behind it;
- `snapshotCalls_follow_lookup`: removing and restoring the snapshot that is looked up.
-/

namespace OneFs

open Json Http Exchange Url

variable {σ β : Type} {answer : σ → Request → Delivery × σ} {s t u : σ}

/-! ## Look-ups -/

namespace Client

variable {c : Client} {id : Int64} {name : String} {x : Snapshot} {f : Failure}

/-- If there is none by the id, the first snapshot in a listing that has the name is found. -/
theorem snapshot_byName {why : Failure} {listed : Except Failure (List Snapshot)}
    (failed : (c.api.snapshot id).Ends answer s (.error why) u) (named : name ≠ "")
    (listing : c.snapshots.Ends answer u listed t) :
    (c.snapshot id name).Ends answer s
      (listed.map fun all => all.find? fun y => y.name == name) t := by
  have filled : ¬ name.isEmpty = true := by simpa using named
  refine failed.attempt.bind ?_
  dsimp only
  rw [if_neg filled]
  refine (Ends.note _).bind ?_
  cases listed with
  | error f => exact listing.bind_error
  | ok all => exact listing.bind (.done _)

/-- How a look-up finds a snapshot: by the id, or as the first that has the name in a listing that
was asked for when there was none by the id. -/
inductive Finds (c : Client) (id : Int64) (name : String) (answer : σ → Request → Delivery × σ)
    (s : σ) (x : Snapshot) (t : σ) : Prop where
  | byId (found : (c.api.snapshot id).Ends answer s (.ok x) t)
  | byName {why : Failure} {u : σ} {ahead behind : List Snapshot}
      (failed : (c.api.snapshot id).Ends answer s (.error why) u) (named : name ≠ "")
      (listed : c.snapshots.Ends answer u (.ok (ahead ++ x :: behind)) t) (has : x.name = name)
      (first : ∀ y ∈ ahead, y.name ≠ name)

theorem finds_of_lookup (looked : (c.snapshot id name).Ends answer s (.ok (some x)) t) :
    c.Finds id name answer s x t := by
  cases byId : ((c.api.snapshot id).run answer s).result with
  | ok y =>
    have found : (c.api.snapshot id).Ends answer s (.ok y) _ := ⟨byId, rfl⟩
    have whole : (c.snapshot id name).Ends answer s (.ok (some y)) _ :=
      found.attempt.bind (.done _)
    obtain rfl : x = y :=
      Option.some.inj (Except.ok.inj (looked.result_eq.symm.trans whole.result_eq))
    exact .byId ⟨byId, whole.server_eq.symm.trans looked.server_eq⟩
  | error why =>
    have failed : (c.api.snapshot id).Ends answer s (.error why) _ := ⟨byId, rfl⟩
    by_cases named : name ≠ ""
    · have whole := snapshot_byName failed named ⟨rfl, rfl⟩
      have result := whole.result_eq.symm.trans looked.result_eq
      cases listed : (c.snapshots.run answer ((c.api.snapshot id).run answer s).server).result with
      | error f =>
        rw [listed] at result
        cases result
      | ok all =>
        rw [listed] at result
        obtain ⟨has, ahead, behind, rfl, others⟩ :=
          List.find?_eq_some_iff_append.mp (Except.ok.inj result)
        exact .byName failed named ⟨listed, whole.server_eq.symm.trans looked.server_eq⟩
          (eq_of_beq has) fun y hy => by simpa using others y hy
    · obtain rfl : name = "" := Decidable.not_not.mp named
      have whole : (c.snapshot id "").Ends answer s (.error why) _ :=
        failed.attempt.bind ⟨rfl, rfl⟩
      cases looked.result_eq.symm.trans whole.result_eq

theorem requests_requireSnapshot (c : Client) (id : Int64) (name : String)
    (answer : σ → Request → Delivery × σ) (s : σ) :
    requests ((c.requireSnapshot id name).run answer s).steps =
      requests ((c.snapshot id name).run answer s).steps :=
  Ends.requests_bind_silent answer s fun found _ => by cases found <;> rfl

/-- A call that begins with a look-up that finds nothing fails, and sends nothing more. -/
theorem resolved_missing {found : Except Failure (Option Snapshot)} (k : Snapshot → Exchange β)
    (looked : (c.snapshot id name).Ends answer s found t)
    (missing : found = .error f ∨ found = .ok none ∧
      f = .notFound ("Snapshot doesn't exist: (" ++ toString id ++ ", " ++ name ++ ")")) :
    ((c.requireSnapshot id name >>= k).run answer s).result = .error f ∧
      requests ((c.requireSnapshot id name >>= k).run answer s).steps =
        requests ((c.snapshot id name).run answer s).steps := by
  have required : (c.requireSnapshot id name).Ends answer s (.error f) t := by
    rcases missing with rfl | ⟨rfl, rfl⟩
    · exact looked.bind_error
    · exact looked.bind ⟨rfl, rfl⟩
  refine ⟨required.bind_error.result_eq, required.requests_bind_error.trans ?_⟩
  exact c.requests_requireSnapshot id name answer s

/-- A call that begins with a look-up that finds a snapshot goes on with that. -/
theorem resolved_found (k : Snapshot → Exchange β)
    (looked : (c.snapshot id name).Ends answer s (.ok (some x)) t) :
    ((c.requireSnapshot id name >>= k).run answer s).result = ((k x).run answer t).result ∧
      requests ((c.requireSnapshot id name >>= k).run answer s).steps =
        requests ((c.snapshot id name).run answer s).steps ++
          requests ((k x).run answer t).steps := by
  have required : (c.requireSnapshot id name).Ends answer s (.ok x) t := looked.bind (.done x)
  refine ⟨(required.bind ⟨rfl, rfl⟩).result_eq, ?_⟩
  rw [required.requests_bind, c.requests_requireSnapshot id name answer s]

/-- If a look-up finds a snapshot, snapshots were asked for. -/
theorem lookup_asked (looked : (c.snapshot id name).Ends answer s (.ok (some x)) t) :
    ∃ asked r, c.api.requestFor (c.api.version.askSnapshots "GET" asked) = .ok r := by
  cases finds_of_lookup looked with
  | byId found => exact ⟨some id, Connection.snapshot_asked found.result_eq⟩
  | byName failed named listed => exact ⟨none, Connection.snapshots_asked listed.result_eq⟩

/-- A look-up sends nothing but look-ups. -/
theorem snapshot_gets (c : Client) (id : Int64) (name : String) :
    (c.snapshot id name).Sends fun r => r.method = "GET" := by
  intro σ answer s r sent
  rw [← c.requests_requireSnapshot id name answer s] at sent
  exact c.requireSnapshot_gets id name σ answer s r sent

end Client

/-! ## Calls that ask for a change -/

namespace Connection

variable {c : Connection} {r : Request}

section Checked

variable {x : Exchange Unit} {present : Bool} {what : String} {ask : Ask} {told : Event}

/-- A call that checks an argument before it asks for a change sends the request for that, if there
is one. -/
theorem checked_requests
    (form : x = require present what >>= fun _ => c.execute ask >>= fun _ => Exchange.note told)
    (given : present = true) (answer : σ → Request → Delivery × σ) (s : σ) :
    requests (x.run answer s).steps = (c.requestFor ask).toOption.toList := by
  rw [form, require_bind given, ← execute_requests c ask answer s]
  exact Ends.requests_bind_silent answer s fun _ _ => rfl

/-- It fails if there is none. -/
theorem checked_unsent {f : Failure}
    (form : x = require present what >>= fun _ => c.execute ask >>= fun _ => Exchange.note told)
    (given : present = true) (request : c.requestFor ask = .error f)
    (answer : σ → Request → Delivery × σ) (s : σ) : x.Ends answer s (.error f) s := by
  rw [form, require_bind given]
  exact (execute_unsent request).bind_error

/-- Without the argument it fails at once. -/
theorem checked_refused
    (form : x = require present what >>= fun _ => c.execute ask >>= fun _ => Exchange.note told)
    (absent : present = false) (answer : σ → Request → Delivery × σ) (s : σ) :
    x.run answer s = ⟨.error (.invalidArgument what), [], s⟩ := by
  rw [form, absent]
  rfl

end Checked

/-- Removing a snapshot checks the id, and then asks for that. -/
theorem removeSnapshot_eq (c : Connection) (id : Int64) :
    c.removeSnapshot id = require (id != 0) "no snapshot id set" >>= fun _ =>
      c.execute (c.version.askSnapshots "DELETE" (some id)) >>= fun _ =>
        Exchange.note (.snapshotRemoved id) :=
  rfl

/-- Removing the snapshot that was looked up is one request for the id, if it has one and the URL is
not too long. -/
theorem removeSnapshot_run {looked : Option Int64}
    (request : c.requestFor (c.version.askSnapshots "GET" looked) = .ok r) (id : Int64)
    (answer : σ → Request → Delivery × σ) (s : σ) :
    (id = 0 → (c.removeSnapshot id).run answer s =
      ⟨.error (.invalidArgument "no snapshot id set"), [], s⟩) ∧
    (id ≠ 0 → ∃ url : Url, c.SnapshotUrl id url ∧
      ((bareUrl url).text.utf8ByteSize ≤ longestUrl →
        ∃ r, c.requestFor (c.version.askSnapshots "DELETE" (some id)) = .ok r ∧
          r.method = "DELETE" ∧ r.url = bareUrl url ∧
          requests ((c.removeSnapshot id).run answer s).steps = [r]) ∧
      (longestUrl < (bareUrl url).text.utf8ByteSize →
        requests ((c.removeSnapshot id).run answer s).steps = [] ∧
          ((c.removeSnapshot id).run answer s).result =
            .error (.request (.illegalAddress (bareUrl url))))) := by
  constructor
  · rintro rfl
    rfl
  · intro filled
    have given : (id != 0) = true := bne_iff_ne.mpr filled
    obtain ⟨url, named, fits, long⟩ := requestFor_snapshot request "DELETE" id
    have sent := checked_requests (c.removeSnapshot_eq id) given answer s
    refine ⟨url, named, fun short => ?_, fun tooLong => ?_⟩
    · obtain ⟨r, asked, addressed⟩ := fits short
      rw [asked] at sent
      exact ⟨r, asked, method_of_requestFor asked, addressed, sent⟩
    · rw [long tooLong] at sent
      have failed := checked_unsent (c.removeSnapshot_eq id) given (long tooLong) answer s
      exact ⟨sent, failed.result_eq⟩

/-- Copying what a snapshot holds, and then looking at the copy, sends nothing or a request to copy
that, and look-ups behind it. -/
theorem copySnapshot_requests (c : Connection) (snapshot source destination : String)
    (answer : σ → Request → Delivery × σ) (s : σ) {k : Unit → Exchange β}
    (gets : ∀ done, (k done).Sends fun r => r.method = "GET") :
    requests ((c.copySnapshot snapshot source destination >>= k).run answer s).steps = [] ∨
      ∃ put looks, requests ((c.copySnapshot snapshot source destination >>= k).run
          answer s).steps = put :: looks ∧
        c.requestFor (c.askCopySnapshot snapshot source destination) = .ok put ∧
        ∀ r ∈ looks, r.method = "GET" := by
  have form : c.copySnapshot snapshot source destination =
      require (!snapshot.isEmpty && !source.isEmpty && !destination.isEmpty)
        "snapshot, source and destination names are required" >>= fun _ =>
          c.execute (c.askCopySnapshot snapshot source destination) >>= fun _ =>
            Exchange.note (.snapshotCopied snapshot source destination) := rfl
  generalize c.copySnapshot snapshot source destination = x at form ⊢
  cases given : !snapshot.isEmpty && !source.isEmpty && !destination.isEmpty with
  | false =>
    have refused := checked_refused form given answer s
    refine .inl ((Ends.requests_bind_error ⟨congrArg Run.result refused, rfl⟩).trans ?_)
    rw [refused]
    rfl
  | true =>
    have sent := checked_requests form given answer s
    cases request : c.requestFor (c.askCopySnapshot snapshot source destination) with
    | error f =>
      rw [request] at sent
      exact .inl ((checked_unsent form given request answer s).requests_bind_error.trans sent)
    | ok put =>
      rw [request] at sent
      refine .inr ⟨put, ?_⟩
      cases result : (x.run answer s).result with
      | error f =>
        have all := Ends.requests_bind_error (k := k) ⟨result, rfl⟩
        exact ⟨[], all.trans sent, rfl, List.forall_mem_nil _⟩
      | ok done =>
        have all := Ends.requests_bind (k := k) ⟨result, rfl⟩
        rw [sent] at all
        exact ⟨_, all, rfl, gets done σ answer _⟩

end Connection

/-- Whoever asks for all snapshots, and is answered with that listing, gets its one snapshot. -/
theorem homeSnapshot_listed {c : Connection} {r : Request}
    (request : c.requestFor (c.version.askSnapshots "GET" none) = .ok r) (rest : List Incoming) :
    ∃ x, c.snapshots.Ends (replies .closed) (homeSnapshot :: rest) (.ok [x]) rest ∧
      x.id = 8 ∧ x.name = "nightly" := by
  obtain ⟨body, delivered, view⟩ : ∃ body, homeSnapshot.deliver "GET" = .received 200 body ∧
      (Connection.verdict SnapshotList.reader ⟨200, body⟩).toOption.map (fun page =>
        page.map fun l => l.snapshots.map fun y => (y.id, y.name)) =
          some (some [(8, "nightly")]) :=
    ⟨_, rfl, by decide +kernel⟩
  have answered : replies .closed (homeSnapshot :: rest) r = (.received 200 body, rest) := by
    have method : r.method = "GET" := Connection.method_of_requestFor request
    rw [← delivered, ← method]
    rfl
  have queried := Connection.query_ends (r := SnapshotList.reader) request answered
  cases read : Connection.verdict SnapshotList.reader ⟨200, body⟩ with
  | error f =>
    rw [read] at view
    cases view
  | ok page =>
    rw [read] at view queried
    obtain ⟨l, rfl, shown⟩ := Option.map_eq_some_iff.mp (Option.some.inj view)
    obtain ⟨x, only, id, name⟩ : ∃ x, l.snapshots = [x] ∧ x.id = 8 ∧ x.name = "nightly" := by
      simpa [List.map_eq_cons_iff] using shown
    have listed : c.snapshots.Ends (replies .closed) (homeSnapshot :: rest) (.ok l.snapshots)
        rest :=
      queried.bind (.done _)
    exact ⟨x, only ▸ listed, id, name⟩

/-- Removing and restoring act on the snapshot that is looked up. Whatever the client, the id, the
name and the server: a look-up sends nothing but look-ups, and both calls begin with it.

If it fails, both calls fail alike, and if it finds nothing, both fail to find a snapshot. Nothing
is sent behind it then. If it finds a snapshot, this is the one of the id or, when there was none of
the id, the first of the name in a listing.

To remove it, one deletion is sent behind the look-up: the request of the client for the snapshot of
its id, to the URL that the client builds for this, without a login that is in it. That URL ends in
the id. None is sent if the id is zero or the URL is too long, and the call fails over that. To
restore it, at most one request to copy it is sent behind the look-up, and look-ups behind that. -/
theorem snapshotCalls_follow_lookup (c : Client) (id : Int64) (name destination : String)
    (answer : σ → Request → Delivery × σ) (s : σ) {looked : Run σ (Option Snapshot)}
    {removed : Run σ Unit} {copied : Run σ Volume}
    (lookup : (c.snapshot id name).run answer s = looked)
    (removal : (c.removeSnapshot id name).run answer s = removed)
    (restoring : (c.copySnapshot id name destination).run answer s = copied) :
    (∀ r ∈ requests looked.steps, r.method = "GET") ∧
    (∀ f, looked.result = .error f ∨ looked.result = .ok none ∧
        f = .notFound ("Snapshot doesn't exist: (" ++ toString id ++ ", " ++ name ++ ")") →
      removed.result = .error f ∧ requests removed.steps = requests looked.steps ∧
        copied.result = .error f ∧ requests copied.steps = requests looked.steps) ∧
    ∀ x, looked.result = .ok (some x) →
      c.Finds id name answer s x looked.server ∧
      (x.id = 0 → removed.result = .error (.invalidArgument "no snapshot id set") ∧
        requests removed.steps = requests looked.steps) ∧
      (x.id ≠ 0 → ∃ url : Url, c.api.SnapshotUrl x.id url ∧
        ((bareUrl url).text.utf8ByteSize ≤ longestUrl → ∃ r,
          c.api.requestFor (c.api.version.askSnapshots "DELETE" (some x.id)) = .ok r ∧
            r.method = "DELETE" ∧ r.url = bareUrl url ∧
            requests removed.steps = requests looked.steps ++ [r]) ∧
        (longestUrl < (bareUrl url).text.utf8ByteSize →
          requests removed.steps = requests looked.steps ∧
            removed.result = .error (.request (.illegalAddress (bareUrl url))))) ∧
      (requests copied.steps = requests looked.steps ∨ ∃ put looks,
        requests copied.steps = requests looked.steps ++ put :: looks ∧ put.method = "PUT" ∧
          c.api.requestFor
            (c.api.askCopySnapshot x.name (nameFromPath x.path) destination) = .ok put ∧
          ∀ r ∈ looks, r.method = "GET") := by
  let remove (x : Snapshot) : Exchange Unit := c.api.removeSnapshot x.id
  let restore (x : Snapshot) : Exchange Volume :=
    c.api.copySnapshot x.name (nameFromPath x.path) destination >>= fun _ =>
      c.volume destination destination
  change (c.requireSnapshot id name >>= remove).run answer s = removed at removal
  change (c.requireSnapshot id name >>= restore).run answer s = copied at restoring
  subst lookup removal restoring
  refine ⟨c.snapshot_gets id name σ answer s, fun f missing => ?_, fun x found => ?_⟩
  · obtain ⟨refused, same⟩ := Client.resolved_missing remove ⟨rfl, rfl⟩ missing
    obtain ⟨refused', same'⟩ := Client.resolved_missing restore ⟨rfl, rfl⟩ missing
    exact ⟨refused, same, refused', same'⟩
  · have looked : (c.snapshot id name).Ends answer s (.ok (some x)) _ := ⟨found, rfl⟩
    obtain ⟨asked, r, request⟩ := Client.lookup_asked looked
    obtain ⟨zero, other⟩ := Connection.removeSnapshot_run request x.id answer
      ((c.snapshot id name).run answer s).server
    obtain ⟨result, sent⟩ := Client.resolved_found remove looked
    obtain ⟨-, sent'⟩ := Client.resolved_found restore looked
    refine ⟨Client.finds_of_lookup looked, fun none => ?_, fun filled => ?_, ?_⟩
    · rw [zero none] at result sent
      exact ⟨result, sent.trans (List.append_nil _)⟩
    · obtain ⟨url, named, fits, long⟩ := other filled
      refine ⟨url, named, fun short => ?_, fun tooLong => ?_⟩
      · obtain ⟨r, request, method, addressed, only⟩ := fits short
        exact ⟨r, request, method, addressed, by rw [sent, only]⟩
      · obtain ⟨none, failed⟩ := long tooLong
        exact ⟨by rw [sent, none, List.append_nil], result.trans failed⟩
    · rcases c.api.copySnapshot_requests x.name (nameFromPath x.path) destination answer
        ((c.snapshot id name).run answer s).server
        fun _ => c.volume_gets destination destination with none | ⟨put, looks, more, request, gets⟩
      · rw [none, List.append_nil] at sent'
        exact .inl sent'
      · rw [more] at sent'
        exact .inr ⟨put, looks, sent', Connection.method_of_requestFor request, request, gets⟩

/-- A snapshot that is found by its name is removed by its id. -/
theorem removeSnapshot_resolves :
    ∃ x r, ((Client.mk localConnection).snapshot 0 "nightly").Ends (replies .closed)
        [homeSnapshot, emptied] (.ok (some x)) [emptied] ∧
      x.id = 8 ∧ r.method = "DELETE" ∧
      r.url.text = "http://[::1]:8080/platform/1/snapshot/snapshots/8" ∧
      requests (((Client.mk localConnection).removeSnapshot 0 "nightly").run (replies .closed)
          [homeSnapshot, emptied]).steps =
        requests (((Client.mk localConnection).snapshot 0 "nightly").run (replies .closed)
          [homeSnapshot, emptied]).steps ++ [r] := by
  obtain ⟨found, looked, shown⟩ : ∃ found, ((Client.mk localConnection).snapshot 0 "nightly").Ends
      (replies .closed) [homeSnapshot, emptied] (.ok found) [emptied] ∧
        found.map Snapshot.id = some 8 :=
    Ends.exists_of_view (by decide +kernel)
  obtain ⟨x, rfl, id⟩ := Option.map_eq_some_iff.mp shown
  obtain ⟨-, -, all⟩ := snapshotCalls_follow_lookup (Client.mk localConnection) 0 "nightly"
    "restored" (replies .closed) [homeSnapshot, emptied] rfl rfl rfl
  obtain ⟨-, -, other, -⟩ := all x looked.result_eq
  obtain ⟨url, ⟨located, -, -⟩, fits, -⟩ := other (by rw [id]; decide)
  obtain ⟨u, built, text⟩ : ∃ u : Url, localConnection.url localConnection.version.snapshotsPath
      (some (toString (8 : Int64))) [] = .ok u ∧
        (bareUrl u).text = "http://[::1]:8080/platform/1/snapshot/snapshots/8" := ⟨_, rfl, rfl⟩
  rw [id] at located
  obtain rfl : u = url := Except.ok.inj (built.symm.trans located)
  obtain ⟨r, -, method, addressed, sent⟩ := fits (by rw [text]; decide)
  exact ⟨x, r, looked, id, method, by rw [addressed, text], sent⟩

/-- Below a path that leaves room for the URL of all snapshots and not for that of one, a snapshot
is found by its name, and no deletion is sent for it. -/
theorem removeSnapshot_unsent {n : Nat} (room : 48 + n ≤ longestUrl) (tight : longestUrl < 50 + n) :
    ∃ x, ((Client.mk (distantConnection n)).snapshot 0 "nightly").Ends (replies .closed)
        [homeSnapshot, emptied] (.ok (some x)) [emptied] ∧
      x.id = 8 ∧
      ∀ r ∈ requests (((Client.mk (distantConnection n)).removeSnapshot 0 "nightly").run
        (replies .closed) [homeSnapshot, emptied]).steps, r.method ≠ "DELETE" := by
  have most : longestUrl = 65534 := rfl
  have filled : n ≠ 0 := by omega
  let c : Client := ⟨distantConnection n⟩
  have all : (Connection.resource Version.v1.snapshotsPath none).utf8ByteSize = 29 := by decide
  have one : (Connection.resource Version.v1.snapshotsPath
    (some (toString (8 : Int64)))).utf8ByteSize = 31 := by decide
  have fits := (requestFor_distant filled "GET" none).1
  have long := (requestFor_distant filled "DELETE" (some 8)).2
  rw [Option.map_none, all] at fits
  rw [Option.map_some, one] at long
  obtain ⟨r, request⟩ := fits (by omega)
  obtain ⟨u, refused⟩ := long (by omega)
  obtain ⟨x, listed, id, name⟩ := homeSnapshot_listed request [emptied]
  have failed : (c.api.snapshot 0).Ends (replies .closed) [homeSnapshot, emptied]
      (.error (.invalidArgument "no snapshot id set")) [homeSnapshot, emptied] := ⟨rfl, rfl⟩
  have looked : (c.snapshot 0 "nightly").Ends (replies .closed) [homeSnapshot, emptied]
      (.ok (some x)) [emptied] := by
    have given : "nightly" ≠ "" := by decide
    have named := Client.snapshot_byName failed given listed
    have first : [x].find? (fun y => y.name == "nightly") = some x := by simp [name]
    rwa [Except.map, first] at named
  refine ⟨x, looked, id, fun sent among => ?_⟩
  have unsent := Connection.checked_requests (c.api.removeSnapshot_eq 8) (by decide)
    (replies .closed) [emptied]
  rw [show c.api.requestFor (c.api.version.askSnapshots "DELETE" (some 8)) = _ from refused]
    at unsent
  obtain ⟨-, all⟩ := Client.resolved_found (fun x => c.api.removeSnapshot x.id) looked
  rw [id, unsent] at all
  change sent ∈ requests ((c.requireSnapshot 0 "nightly" >>= fun x =>
    c.api.removeSnapshot x.id).run _ _).steps at among
  rw [all, List.mem_append] at among
  rcases among with lookup | none
  · rw [c.snapshot_gets 0 "nightly" _ _ _ sent lookup]
    decide
  · cases none

/-- A connection whose endpoint ends in a number sign. -/
def numberedConnection : Connection :=
  { localConnection with endpoint := "http://[::1]:8080/#" }

/-- There are endpoints with which a snapshot is found and then not removed: below a long path no
deletion is sent, and behind a number sign one is sent to the root of the server. -/
theorem removeSnapshot_astray :
    (Connection.ofConfig (.new ("http://[::1]:8080/" ++ longPath 65486) "admin" "secret") =
        .ok (distantConnection 65486) ∧
      ∃ x, ((Client.mk (distantConnection 65486)).snapshot 0 "nightly").Ends (replies .closed)
          [homeSnapshot, emptied] (.ok (some x)) [emptied] ∧
        x.id = 8 ∧
        ∀ r ∈ requests (((Client.mk (distantConnection 65486)).removeSnapshot 0 "nightly").run
          (replies .closed) [homeSnapshot, emptied]).steps, r.method ≠ "DELETE") ∧
    (Connection.ofConfig (.new "http://[::1]:8080/#" "admin" "secret") = .ok numberedConnection ∧
      ∃ x, ((Client.mk numberedConnection).snapshot 8 "").Ends (replies .closed)
          [homeSnapshot, emptied] (.ok (some x)) [emptied] ∧
        x.id = 8 ∧
        (requests (((Client.mk numberedConnection).removeSnapshot 8 "").run
            (replies .closed) [homeSnapshot, emptied]).steps).map
          (fun r => (r.method, r.url.target)) = [("GET", "/"), ("DELETE", "/")]) := by
  refine ⟨⟨distantConnection_configured (by decide), removeSnapshot_unsent (by decide) (by decide)⟩,
    rfl, ?_⟩
  obtain ⟨found, looked, shown⟩ : ∃ found, ((Client.mk numberedConnection).snapshot 8 "").Ends
      (replies .closed) [homeSnapshot, emptied] (.ok found) [emptied] ∧
        found.map Snapshot.id = some 8 :=
    Ends.exists_of_view (by decide +kernel)
  obtain ⟨x, rfl, id⟩ := Option.map_eq_some_iff.mp shown
  exact ⟨x, looked, id, by decide +kernel⟩

end OneFs
