import OneFs.Proofs.Exchange.Ends
import OneFs.Proofs.Exchange.Sends
import OneFs.Proofs.Volume.Address

/-!
# Restoring snapshots

A snapshot is restored by copying a directory in which its contents appear. That directory is put
together from the directory of the volumes and the last component of the path that the snapshot was
taken of. So it is the directory that the snapshot was taken of just if that is a volume, directly
below the directory of the volumes.

- `Client.path_nameFromPath_iff`: last components and paths of volumes;
- `Connection.copySource_eq`: where the contents of a snapshot appear;
- `Connection.copySource_of_requestFor`: the source that is named to copy what a snapshot holds;
- `Client.copySnapshot_put`: the request that restores a snapshot, among look-ups;
- `restored_from_captured_iff`: which snapshots are restored from what they were taken of.
-/

namespace OneFs

open Json Http Exchange

variable {σ : Type}

/-! ## Last components -/

namespace Client

/-- The path of a volume that is named by the last component of a path is that path just if it is
directly below the directory of the volumes. -/
theorem path_nameFromPath_iff (c : Client) (path : String) :
    c.path (nameFromPath path) = path ↔ ∃ volume, '/' ∉ volume.toList ∧ path = c.path volume := by
  constructor
  · intro eq
    exact ⟨nameFromPath path, not_mem_nameFromPath path, eq.symm⟩
  · rintro ⟨volume, single, rfl⟩
    exact congrArg c.path (nameFromPath_append single c.api.volumesPath)

end Client

/-! ## Where the contents of a snapshot appear -/

/-- The path of a directory in URLs is split behind the root of the file system. -/
theorem splitOnce_namespacePath (below : String) :
    splitOnce "/ifs/".toList (namespacePath ("/ifs/" ++ below)).toList =
      some ("namespace".toList, below.toList) := by
  have chars : (namespacePath ("/ifs/" ++ below)).toList =
      "namespace".toList ++ ("/ifs/".toList ++ below.toList) := by
    rw [namespacePath, String.toList_append, String.toList_append]
    rfl
  rw [chars]
  rfl

/-- What stands in front of the part for a snapshot where its contents appear: the root of the file
system in version 1, the directory of the volumes in version 2. -/
def Connection.snapshotRoot (c : Connection) : String :=
  match c.version with
  | .v1 => "/namespace/ifs/"
  | .v2 => "/namespace" ++ c.volumesPath ++ "/"

/-- The source of a copy has a part for the snapshot, and without it is the path of the volume. -/
theorem Connection.copySource_eq {c : Connection} {below : String}
    (root : c.volumesPath = "/ifs/" ++ below) (snapshot volume : String) :
    ∃ inside, "/" ++ c.snapshotPath snapshot ++ "/" ++ volume ++ "/" =
        c.snapshotRoot ++ (".snapshot/" ++ snapshot ++ "/") ++ inside ∧
      c.snapshotRoot ++ inside = "/namespace" ++ Client.path ⟨c⟩ volume ++ "/" := by
  unfold snapshotPath Version.snapshotPath snapshotRoot Client.path Connection.namespacePath
  rw [root]
  cases c.version with
  | v1 =>
    dsimp only
    rw [splitOnce_namespacePath]
    refine ⟨below ++ "/" ++ volume ++ "/", String.toList_injective ?_, String.toList_injective ?_⟩
    · simp [snapshotDirectory]
    · simp
  | v2 =>
    refine ⟨volume ++ "/", String.toList_injective ?_, String.toList_injective ?_⟩
    · simp [snapshotDirectory, OneFs.namespacePath, namespaceRoot]
    · simp

/-! ## The request -/

namespace Connection

variable (c : Connection)

/-- What is asked to copy what a snapshot holds. -/
def askCopySnapshot (snapshot source destination : String) : Ask where
  method := "PUT"
  path := c.namespacePath
  id := some destination
  headers := [(copySource, "/" ++ c.snapshotPath snapshot ++ "/" ++ source ++ "/")]

theorem copySnapshot_sends (snapshot source destination : String) :
    (c.copySnapshot snapshot source destination).Sends fun r =>
      c.requestFor (c.askCopySnapshot snapshot source destination) = .ok r :=
  .bind (.require _ _) fun _ => .bind (c.execute_sends _) fun _ => .note _

/-- The request to copy what a snapshot holds names one source. -/
theorem copySource_of_requestFor {c : Connection} {snapshot source destination : String}
    {r : Request} (request : c.requestFor (c.askCopySnapshot snapshot source destination) = .ok r) :
    r.headers.filter (fun h => h.name == copySource) =
      [⟨copySource, "/" ++ c.snapshotPath snapshot ++ "/" ++ source ++ "/"⟩] := by
  obtain ⟨url, given, legal, headers⟩ := headers_of_requestFor request
  have login : (urlAuth url).filter (fun h => h.name == copySource) = [] := by
    unfold urlAuth
    cases url.login? with
    | none => rfl
    | some login => rfl
  have small : Text.lower copySource = copySource ∧
      (Text.lower "authorization" == copySource) = false := by
    decide
  rw [headers, eq_map_of_headers? legal]
  simp [login, small, askCopySnapshot, contentType]

/-! ### Look-ups beside it -/

theorem snapshots_gets : c.snapshots.Sends fun r => r.method = "GET" :=
  .bind (c.query_sends_method _ _) fun _ => .done _

theorem snapshot_gets (id : Int64) : (c.snapshot id).Sends fun r => r.method = "GET" :=
  .bind (.require _ _) fun _ => .bind (c.query_sends_method _ _) fun _ => .ofOption _ _

theorem volume_gets (name : String) : (c.volume name).Sends fun r => r.method = "GET" :=
  .bind (.require _ _) fun _ => .bind (c.query_sends_method _ _) fun _ => .done _

end Connection

namespace Client

theorem snapshots_gets (c : Client) : c.snapshots.Sends fun r => r.method = "GET" :=
  c.api.snapshots_gets

theorem volume_gets (c : Client) (id name : String) :
    (c.volume id name).Sends fun r => r.method = "GET" :=
  c.api.volume_gets _

theorem requireSnapshot_gets (c : Client) (id : Int64) (name : String) :
    (c.requireSnapshot id name).Sends fun r => r.method = "GET" := by
  refine .bind (.bind (c.api.snapshot_gets id).attempt fun found => ?_) fun _ => .ofOption _ _
  -- A snapshot that is not found by its id is looked for by its name.
  cases found with
  | ok s => exact .done _
  | error why =>
    dsimp only
    split
    · exact .fail _
    · exact .bind (.note _) fun _ => .bind c.snapshots_gets fun _ => .done _

/-- What restoring a snapshot puts is what is asked for the snapshot that is looked up. -/
theorem copySnapshot_put {c : Client} {id : Int64} {name destination : String}
    {answer : σ → Request → Delivery × σ} {server : σ} {r : Request}
    (sent : r ∈ requests ((c.copySnapshot id name destination).run answer server).steps)
    (put : r.method = "PUT") :
    ∃ s, ((c.requireSnapshot id name).run answer server).result = .ok s ∧
      c.api.requestFor (c.api.askCopySnapshot s.name (nameFromPath s.path) destination) =
        .ok r := by
  have other : r.method ≠ "GET" := by rw [put]; decide
  rcases mem_requests_bind sent with before | ⟨s, found, sent⟩
  · exact absurd (c.requireSnapshot_gets id name σ answer server r before) other
  · refine ⟨s, found, ?_⟩
    rcases mem_requests_bind sent with copied | ⟨_, -, after⟩
    · exact c.api.copySnapshot_sends _ _ _ σ answer _ r copied
    · exact absurd (c.volume_gets _ _ σ answer _ r after) other

end Client

/-! ## Snapshots and what they were taken of -/

/-- Restored from what it was taken of. Whatever is configured, in either version, whatever snapshot
is asked for and whatever is answered: a request that restores it names one source, which has a part
for the snapshot that was looked up. Without that part, the source is the directory that the
snapshot was taken of just if this is the path of a volume. -/
theorem restored_from_captured_iff {config : Config} {api : Connection}
    (configured : Connection.ofConfig config = .ok api) (version : Version) {c : Client}
    (speaks : c = ⟨{ api with version }⟩) (id : Int64) (name destination : String)
    (answer : σ → Request → Delivery × σ) (server : σ) {r : Request}
    (sent : r ∈ requests ((c.copySnapshot id name destination).run answer server).steps)
    (put : r.method = "PUT") :
    ∃ s inside, ((c.requireSnapshot id name).run answer server).result = .ok s ∧
      r.headers.filter (fun h => h.name == Connection.copySource) =
        [⟨Connection.copySource, c.api.snapshotRoot ++ (".snapshot/" ++ s.name ++ "/") ++ inside⟩] ∧
      c.api.snapshotRoot ++ inside = "/namespace" ++ c.path (nameFromPath s.path) ++ "/" ∧
      (c.api.snapshotRoot ++ inside = "/namespace" ++ s.path ++ "/" ↔
        ∃ volume, '/' ∉ volume.toList ∧ s.path = c.path volume) := by
  obtain ⟨s, found, request⟩ := Client.copySnapshot_put sent put
  have volumes : c.api.volumesPath = config.directory := by
    obtain ⟨-, rfl⟩ := Connection.eq_of_ofConfig configured
    rw [speaks]
  obtain ⟨below, directory⟩ := config.directory_eq
  obtain ⟨inside, source, without⟩ :=
    Connection.copySource_eq (volumes.trans directory) s.name (nameFromPath s.path)
  refine ⟨s, inside, found, ?_, without, ?_⟩
  · rw [Connection.copySource_of_requestFor request, source]
  · have bare : c.api.snapshotRoot ++ inside = "/namespace" ++ s.path ++ "/" ↔
        c.path (nameFromPath s.path) = s.path := by
      rw [without]
      simp [← String.toList_inj]
    exact bare.trans (c.path_nameFromPath_iff s.path)

/-- A listing of a snapshot that was not taken of a volume. -/
def homeSnapshot : Incoming :=
  .message 200 (Text.Utf8.bytes ("\x7b\"snapshots\": [\x7b\"id\": 8, " ++
    "\"name\": \"nightly\", \"path\": \"/ifs/home/data\"\x7d]\x7d")) true

/-- That snapshot is restored from a directory that it was not taken of. -/
theorem copySnapshot_strays :
    ∃ r ∈ requests (((Client.mk localConnection).copySnapshot 8 "" "restored").run
        (replies .closed) [homeSnapshot]).steps,
      r.method = "PUT" ∧
        r.headers.filter (fun h => h.name == Connection.copySource) =
          [⟨Connection.copySource, "/namespace/ifs/.snapshot/nightly/volumes/data/"⟩] ∧
        ∃ s, (((Client.mk localConnection).requireSnapshot 8 "").run
            (replies .closed) [homeSnapshot]).result = .ok s ∧
          s.name = "nightly" ∧ "/namespace/ifs/volumes/data/" ≠ "/namespace" ++ s.path ++ "/" := by
  have configured :
      Connection.ofConfig (.new "http://[::1]:8080/" "admin" "secret") = .ok localConnection := rfl
  have sources : (requests (((Client.mk localConnection).copySnapshot 8 "" "restored").run
      (replies .closed) [homeSnapshot]).steps).map (fun r =>
        (r.method, r.headers.filter fun h => h.name == Connection.copySource)) =
      [("GET", []),
        ("PUT", [⟨Connection.copySource, "/namespace/ifs/.snapshot/nightly/volumes/data/"⟩])] := by
    decide +kernel
  have resolved : ∃ s, ((Client.mk localConnection).requireSnapshot 8 "").Ends
      (replies .closed) [homeSnapshot] (.ok s) [] ∧
        (s.name, s.path) = ("nightly", "/ifs/home/data") :=
    Ends.exists_of_view (by decide +kernel)
  obtain ⟨r, sent, seen⟩ := List.mem_map.mp
    (sources.symm ▸ List.mem_cons_of_mem _ (List.mem_singleton_self _))
  obtain ⟨put, source⟩ := Prod.mk.inj seen
  obtain ⟨s, found, shown⟩ := resolved
  obtain ⟨called, path⟩ := Prod.mk.inj shown
  obtain ⟨s', inside, found', -, bare, iff⟩ :=
    restored_from_captured_iff configured .v1 rfl 8 "" "restored" (replies .closed) [homeSnapshot]
      sent put
  obtain rfl : s = s' := Except.ok.inj (found.result_eq.symm.trans found')
  refine ⟨r, sent, put, source, s, found.result_eq, called, fun captured => ?_⟩
  have root : Connection.snapshotRoot localConnection ++ inside = "/namespace/ifs/volumes/data/" :=
    bare.trans (by rw [path]; decide)
  obtain ⟨volume, -, inVolumes⟩ := iff.mp (root.trans captured)
  rw [path] at inVolumes
  have chars := congrArg String.toList inVolumes
  rw [Client.path, String.toList_append, String.toList_append] at chars
  exact absurd chars (by simp [localConnection])

end OneFs
