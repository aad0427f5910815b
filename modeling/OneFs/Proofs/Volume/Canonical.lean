import OneFs.Proofs.Client
import OneFs.Proofs.Text.Components
import OneFs.Proofs.Volume.Published

/-!
# Paths of volumes, as clients and as the cluster spell them

A client puts the path of a volume together from the path of the volumes and the name, and compares it
with the paths that the cluster lists. A slash in front of the path of the volumes is taken care of. One
at its end is not: the path that the client looks for then has an empty component, which no path on
the cluster has.

- `isNeat_belowRoot`, `isNeat_volume`: where the path of a volume has an empty component;
- `volumesDirectory_concat`: what a slash at the end of a path of the volumes does;
- `Client.LooksUp`: what is found of a volume where everything is listed as on the cluster;
- `path_canonical_iff`: which paths of volumes are spelled as on the cluster, and what follows from
  that.
-/

namespace OneFs

open Exchange

variable {σ : Type}

/-! ## The path of a volume -/

/-- A path behind the root is as neat as it is configured. -/
theorem isNeat_belowRoot (path : String) : IsNeat (belowRoot path) ↔ IsNeat path := by
  rcases belowRoot_cases path with ⟨rfl, below⟩ | ⟨-, -, below⟩ | ⟨filled, relative, below⟩
  · rw [below]
  · rw [below]
  · -- The slash that is added in front stands neither at the end nor in front of another.
    have listed : path.toList ≠ [] := fun none => filled (String.toList_eq_nil_iff.mp none)
    have chars : ("/" ++ path).toList = '/' :: path.toList := by simp
    unfold IsNeat
    rw [below, chars, doubled_cons, endsInSlash_cons]
    simp [relative, listed]

theorem isNeat_directory (config : Config) :
    IsNeat config.directory ↔ IsNeat config.volumesPath := by
  have root : ¬ Doubled volumesRoot.toList ∧ ¬ EndsInSlash volumesRoot.toList := by
    simp [volumesRoot, doubled_cons, doubled_nil, endsInSlash_cons, not_endsInSlash_nil]
  rw [Config.directory, volumesDirectory_eq, ← isNeat_belowRoot config.volumesPath]
  unfold IsNeat
  rw [String.toList_append, doubled_append, endsInSlash_append]
  simp [root]

/-- What is below a directory has a name at its end. -/
theorem not_endsInSlash_below (directory : String) {name : String} (filled : name ≠ "")
    (single : '/' ∉ name.toList) : ¬ EndsInSlash (directory ++ "/" ++ name).toList := by
  have listed : name.toList ≠ [] := mt String.toList_eq_nil_iff.mp filled
  have last : ¬ EndsInSlash name.toList := fun slash => single (List.mem_of_getLast? slash)
  rw [String.toList_append, endsInSlash_append]
  simp [listed, last]

/-- A name without slashes adds one slash, with itself behind it. -/
theorem isNeat_below (directory : String) {name : String} (filled : name ≠ "")
    (single : '/' ∉ name.toList) : IsNeat (directory ++ "/" ++ name) ↔ IsNeat directory := by
  have chars : (directory ++ "/" ++ name).toList = directory.toList ++ '/' :: name.toList := by
    simp
  have first : name.toList.head? ≠ some '/' := fun slash => single (List.mem_of_mem_head? slash)
  have doubled : ¬ Doubled name.toList := not_doubled_of_not_mem single
  have ended := not_endsInSlash_below directory filled single
  unfold IsNeat
  rw [and_iff_left ended, chars, doubled_append, doubled_cons]
  simp [first, doubled]

/-- What is configured with a slash at the end is the directory with a slash at its end. -/
theorem volumesDirectory_concat (path : String) :
    volumesDirectory (path ++ "/") = volumesDirectory path ++ "/" := by
  have below : belowRoot (path ++ "/") = belowRoot path ++ "/" := by
    by_cases empty : path = ""
    · subst empty
      rfl
    · have filled : path.toList ≠ [] := mt String.toList_eq_nil_iff.mp empty
      have first : (path ++ "/").toList.head? = path.toList.head? := by
        rw [String.toList_append, List.head?_append_of_ne_nil _ filled]
      have given : ¬ path.isEmpty = true := by simpa using empty
      have longer : ¬ (path ++ "/").isEmpty = true := by simp
      unfold belowRoot
      rw [first, if_neg longer, if_neg given]
      split
      · rfl
      · exact String.append_assoc.symm
  rw [volumesDirectory_eq, volumesDirectory_eq, below, String.append_assoc]

theorem Config.directory_concat {config config' : Config}
    (slash : config'.volumesPath = config.volumesPath ++ "/") :
    config'.directory = config.directory ++ "/" := by
  unfold directory
  rw [slash, volumesDirectory_concat]

namespace Client.IsFor

variable {config : Config} {c : Client} {name : String}

theorem path_eq (made : c.IsFor config) (name : String) :
    c.path name = config.directory ++ "/" ++ name := by
  rw [Client.path, made.volumesPath_eq]

/-- The path of a volume is in the root of the volumes. -/
theorem exists_path_eq (made : c.IsFor config) (name : String) :
    ∃ below, c.path name = "/ifs/volumes/" ++ below := by
  have directory : config.directory = volumesRoot ++ belowRoot config.volumesPath :=
    volumesDirectory_eq config.volumesPath
  have root : "/ifs/volumes/" = volumesRoot ++ "/" := by decide
  rw [made.path_eq, directory, root]
  rcases belowRoot_cases config.volumesPath with ⟨-, below⟩ | ⟨-, rooted, below⟩ | ⟨-, -, below⟩
  · exact ⟨name, by rw [below, String.append_empty]⟩
  · obtain ⟨cs, chars⟩ := List.head?_eq_some_iff.mp rooted
    refine ⟨String.ofList cs ++ "/" ++ name, String.toList_injective ?_⟩
    simp [below, chars]
  · refine ⟨config.volumesPath ++ "/" ++ name, String.toList_injective ?_⟩
    simp [below]

/-- The path of a volume is spelled as on the cluster just if the path of the volumes is neat. -/
theorem onCluster_path (made : c.IsFor config) (filled : name ≠ "") (single : '/' ∉ name.toList) :
    OnCluster (c.path name) ↔ IsNeat config.volumesPath := by
  obtain ⟨below, path⟩ := made.exists_path_eq name
  have rooted : (c.path name).toList.head? = some '/' := by
    rw [path, String.toList_append]
    rfl
  rw [onCluster_iff rooted, made.path_eq, isNeat_below _ filled single, isNeat_directory]

/-- So is whether it has no empty component. -/
theorem not_doubled_path (made : c.IsFor config) (filled : name ≠ "")
    (single : '/' ∉ name.toList) :
    ¬ Doubled (c.path name).toList ↔ IsNeat config.volumesPath := by
  rw [← isNeat_directory, ← isNeat_below config.directory filled single, made.path_eq]
  exact (and_iff_left (not_endsInSlash_below config.directory filled single)).symm

/-- Clients spell the path of a volume alike just if their paths of the volumes are the same but for a
slash in front. -/
theorem path_eq_path_iff (made : c.IsFor config) {config' : Config} {c' : Client}
    (made' : c'.IsFor config') :
    c'.path name = c.path name ↔ SamePath config'.volumesPath config.volumesPath := by
  rw [made.path_eq, made'.path_eq, String.append_left_inj, String.append_left_inj, samePath_iff]
  exact Iff.rfl

/-- With a slash at the end of the path of the volumes, it is spelled with an empty component. -/
theorem path_concat {config' : Config} {c' : Client} (made' : c'.IsFor config')
    (slash : config'.volumesPath = config.volumesPath ++ "/") :
    c'.path name = config.directory ++ "//" ++ name := by
  have two : "//" = "/" ++ "/" := by decide
  rw [made'.path_eq, Config.directory_concat slash, two, ← String.append_assoc]

end Client.IsFor

/-! ## Look-ups -/

/-- What is seen of a listing when a volume is looked for in it. -/
def Config.seen {α : Type} (config : Config) (listed : List α) : List α :=
  if IsNeat config.volumesPath then listed else []

theorem Config.filter_seen {α : Type} {config : Config} {listed : List α} {p q : α → Bool}
    (same : ∀ x ∈ listed, p x = true ↔ IsNeat config.volumesPath ∧ q x = true) :
    listed.filter p = (config.seen listed).filter q := by
  unfold seen
  by_cases neat : IsNeat config.volumesPath
  · rw [if_pos neat]
    refine List.filter_congr fun x hx => ?_
    rw [Bool.eq_iff_iff, same x hx, and_iff_right neat]
  · rw [if_neg neat]
    exact List.filter_eq_nil_iff.mpr fun x hx there => neat ((same x hx).mp there).1

namespace Client

/-- What a client finds of a volume, where all that is listed has paths of the cluster: what it sees of
the listing under the path of the volume on the cluster. -/
structure LooksUp (config : Config) (c : Client) (name : String) : Prop where
  isExported {σ : Type} {answer : σ → Http.Request → Http.Delivery × σ} {s t : σ}
    {exports : List Export} (listed : c.exports.Ends answer s (.ok exports) t)
    (spelled : ∀ e ∈ exports, ∀ p ∈ e.paths, OnCluster p) :
    (c.isExported name).Ends answer s
      (.ok ((config.seen exports).any fun e => e.hasPath (clusterPath (c.path name)))) t
  exportOf {σ : Type} {answer : σ → Http.Request → Http.Delivery × σ} {s t : σ}
    {exports : List Export} (listed : c.exports.Ends answer s (.ok exports) t)
    (spelled : ∀ e ∈ exports, ∀ p ∈ e.paths, OnCluster p) :
    (c.exportOf none name).Ends answer s
      (.ok ((config.seen exports).find? fun e => e.hasPath (clusterPath (c.path name)))) t
  quota {σ : Type} {answer : σ → Http.Request → Http.Delivery × σ} {s t : σ}
    {quotas : List Quota} (listed : c.api.quotas.Ends answer s (.ok quotas) t)
    (spelled : ∀ q ∈ quotas, OnCluster q.path) :
    (c.quota name).Ends answer s
      (match (config.seen quotas).find? fun q => q.path == clusterPath (c.path name) with
        | some q => .ok q
        | none => .error (.notFound ("Quota not found: " ++ c.path name))) t
  snapshotsOf {σ : Type} {answer : σ → Http.Request → Http.Delivery × σ} {s t : σ}
    {snapshots : List Snapshot} (listed : c.snapshots.Ends answer s (.ok snapshots) t)
    (spelled : ∀ x ∈ snapshots, OnCluster x.path) :
    (c.snapshotsOf name).Ends answer s
      (.ok ((config.seen snapshots).filter fun x => x.path == clusterPath (c.path name))) t

variable {config : Config} {c : Client} {name : String}

/-- A path on the cluster is the path of a volume just if the path of the volumes is neat and it is the
path of the volume on the cluster. -/
theorem IsFor.eq_path_iff (made : c.IsFor config) (filled : name ≠ "")
    (single : '/' ∉ name.toList) {path : String} (spelled : OnCluster path) :
    path = c.path name ↔ IsNeat config.volumesPath ∧ path = clusterPath (c.path name) := by
  rw [← made.onCluster_path filled single]
  constructor
  · rintro rfl
    exact ⟨spelled, spelled.symm⟩
  · rintro ⟨same, rfl⟩
    exact same

/-- What is listed with the path of the volume is what is seen of it with the path on the cluster. -/
theorem IsFor.filter_path (made : c.IsFor config) (filled : name ≠ "")
    (single : '/' ∉ name.toList) {α : Type} {listed : List α} {path : α → String}
    (spelled : ∀ x ∈ listed, OnCluster (path x)) :
    listed.filter (fun x => path x == c.path name) =
      (config.seen listed).filter fun x => path x == clusterPath (c.path name) := by
  refine Config.filter_seen fun x hx => ?_
  rw [beq_iff_eq, beq_iff_eq]
  exact made.eq_path_iff filled single (spelled x hx)

/-- So is what is listed with several paths. -/
theorem IsFor.filter_hasPath (made : c.IsFor config) (filled : name ≠ "")
    (single : '/' ∉ name.toList) {exports : List Export}
    (spelled : ∀ e ∈ exports, ∀ p ∈ e.paths, OnCluster p) :
    exports.filter (fun e => e.hasPath (c.path name)) =
      (config.seen exports).filter fun e => e.hasPath (clusterPath (c.path name)) := by
  refine Config.filter_seen fun e he => ?_
  simp only [Export.hasPath, List.any_eq_true, beq_iff_eq]
  constructor
  · rintro ⟨p, mem, same⟩
    obtain ⟨neat, same⟩ := (made.eq_path_iff filled single (spelled e he p mem)).mp same
    exact ⟨neat, p, mem, same⟩
  · rintro ⟨neat, p, mem, same⟩
    exact ⟨p, mem, (made.eq_path_iff filled single (spelled e he p mem)).mpr ⟨neat, same⟩⟩

/-- Whatever path of the volumes is configured, its clients find what they see. -/
theorem IsFor.looksUp (made : c.IsFor config) (filled : name ≠ "")
    (single : '/' ∉ name.toList) : c.LooksUp config name where
  isExported listed spelled := by
    rw [← List.isSome_find?, ← List.head?_filter, ← made.filter_hasPath filled single spelled,
      List.head?_filter, List.isSome_find?]
    exact isExported_of_exports listed name
  exportOf listed spelled := by
    rw [← List.head?_filter, ← made.filter_hasPath filled single spelled]
    exact exportOf_of_exports listed name
  quota listed spelled := by
    rw [← List.head?_filter, ← made.filter_path filled single spelled, List.head?_filter]
    refine listed.bind ?_
    cases (List.find? _ _ : Option Quota) with
    | none => exact ⟨rfl, rfl⟩
    | some q => exact .done q
  snapshotsOf listed spelled := by
    rw [← made.filter_path filled single spelled]
    exact listed.bind (.done _)

end Client

/-! ## Which paths are spelled as on the cluster -/

/-- Paths of volumes, whatever path of the volumes is configured. The path of a volume that has a name
without slashes begins at the root of the volumes and ends in the name. It has no empty component, and
is spelled as on the cluster, just if the path of the volumes has a component behind every slash. So if
no two slashes of that stand next to each other, there must be none at its end either. Two clients
spell the path of a volume alike just if their paths of the volumes are the same but for a slash in
front. A slash at the end makes another path of it, with an empty component, although it is the same
on the cluster. Where everything is listed as on the cluster, a volume is found under that path by a
client that spells it so, and any other client sees nothing of what is listed. -/
theorem path_canonical_iff {config : Config} {c : Client} (made : c.IsFor config) {name : String}
    (filled : name ≠ "") (single : '/' ∉ name.toList) :
    (∃ below, c.path name = "/ifs/volumes/" ++ below) ∧
      (∃ above, c.path name = above ++ "/" ++ name) ∧
      (¬ Doubled (c.path name).toList ↔ IsNeat config.volumesPath) ∧
      (OnCluster (c.path name) ↔ IsNeat config.volumesPath) ∧
      (∀ config' c', Client.IsFor config' c' →
        (c'.path name = c.path name ↔ SamePath config'.volumesPath config.volumesPath) ∧
        (config'.volumesPath = config.volumesPath ++ "/" →
          c'.path name = config.directory ++ "//" ++ name ∧ c'.path name ≠ c.path name ∧
            clusterPath (c'.path name) = clusterPath (c.path name))) ∧
      c.LooksUp config name := by
  refine ⟨made.exists_path_eq name, ⟨config.directory, made.path_eq name⟩,
    made.not_doubled_path filled single, made.onCluster_path filled single, ?_,
    made.looksUp filled single⟩
  intro config' c' made'
  refine ⟨made.path_eq_path_iff made', fun slash => ?_⟩
  have longer := Config.directory_concat slash
  refine ⟨made'.path_concat slash, ?_, ?_⟩
  · rw [made.path_eq, made'.path_eq, longer]
    intro same
    have lengths := congrArg String.length same
    simp at lengths
  · rw [made.path_eq, made'.path_eq, longer, clusterPath_below _ filled single, clusterPath_concat,
      clusterPath_below _ filled single]

/-- A listing of an export of the volume `data` in the directory `k8s`. -/
def k8sExported : Incoming :=
  .message 200 (Text.Utf8.bytes ("\x7b\"exports\": [" ++
    "\x7b\"id\": 1, \"paths\": [\"/ifs/volumes/k8s/data\"]\x7d]\x7d")) true

/-- With a slash at the end of the path of the volumes, it is not found. -/
theorem path_canonical_trailing :
    let c := localClient "k8s/"
    c.IsFor (localConfig "k8s/") ∧ "data" ≠ "" ∧ '/' ∉ "data".toList ∧
      ¬ Doubled "k8s/".toList ∧ Doubled (c.path "data").toList ∧ ¬ OnCluster (c.path "data") ∧
      ∃ exports, c.exports.Ends (replies .closed) [k8sExported] (.ok exports) [] ∧
        exports.map Export.paths = [[clusterPath (c.path "data")]] ∧
        (c.isExported "data").Ends (replies .closed) [k8sExported] (.ok false) [] := by
  intro c
  have made := isFor_localClient "k8s/"
  have single : '/' ∉ "data".toList := by decide
  have untidy : ¬ IsNeat "k8s/" := by decide +kernel
  have spelled : clusterPath (c.path "data") = "/ifs/volumes/k8s/data" := by decide +kernel
  have listing : ∃ exports, c.exports.Ends (replies .closed) [k8sExported] (.ok exports) [] ∧
      exports.map Export.paths = [["/ifs/volumes/k8s/data"]] :=
    Ends.exists_of_view (by decide +kernel)
  obtain ⟨exports, listed, paths⟩ := listing
  have onCluster : ∀ e ∈ exports, ∀ p ∈ e.paths, OnCluster p := by
    intro e he
    have own : e.paths ∈ [["/ifs/volumes/k8s/data"]] := paths ▸ List.mem_map_of_mem he
    rw [List.mem_singleton.mp own]
    exact List.forall_mem_singleton.mpr (by decide +kernel)
  have unseen : (localConfig "k8s/").seen exports = [] := if_neg untidy
  obtain ⟨-, -, empty, canonical, -, looksUp⟩ := path_canonical_iff made (by decide) single
  refine ⟨made, by decide, single, by decide +kernel, ?_, ?_, exports, listed, ?_, ?_⟩
  · exact Decidable.not_not.mp fun none => untidy (empty.mp none)
  · exact fun same => untidy (canonical.mp same)
  · rw [paths, spelled]
  · have found := looksUp.isExported listed onCluster
    rw [unseen] at found
    exact found

end OneFs
