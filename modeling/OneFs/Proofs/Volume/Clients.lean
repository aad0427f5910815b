import Mathlib.Data.Finmap
import OneFs.Proofs.Exchange.Ends
import OneFs.Proofs.Volume.Address

/-!
# The clients of volumes

The clients of a volume are found in two ways: in the list of all volumes that are published, and by
asking for one volume. The first fills a map from paths to clients, in which a later export replaces
an earlier one of the same path; the second takes the first export of the path. They agree on a
volume just if the first and the last export that publish it have the same clients.

- `publishers`: the exports that publish a path;
- `clientTable`, `lookup_clientTable`: the map, and what is found in it;
- `published_eq_some_iff`: the entries of the list of published volumes;
- `volumeExports_ends`, `exportOf_of_exports`, `exportClients_of_exports`: what the calls come to;
- `volumeExports_agree_iff`: when they agree.
-/

namespace OneFs

open Json Http Exchange

variable {σ τ : Type} {c : Client}

/-! ## Exports of a path -/

/-- The exports that publish a path, in order. -/
def publishers (path : String) (exports : List Export) : List Export :=
  exports.filter (·.hasPath path)

/-- A map from paths to clients, filled export by export and path by path. -/
def clientTable (exports : List Export) : Finmap fun _ : String => List String :=
  exports.foldl (fun table e => e.paths.foldl (fun table path => table.insert path e.allowed) table)
    ∅

/-- Every path of an export gets its clients, the other paths keep theirs. -/
theorem lookup_foldl_paths (clients paths : List String)
    (table : Finmap fun _ : String => List String) (path : String) :
    (paths.foldl (fun table path => table.insert path clients) table).lookup path =
      if paths.any (· == path) then some clients else table.lookup path := by
  induction paths generalizing table with
  | nil => rfl
  | cons p paths ih =>
    rw [List.foldl_cons, ih, List.any_cons]
    by_cases same : p = path
    · subst same
      rw [Finmap.lookup_insert]
      simp
    · rw [Finmap.lookup_insert_of_ne _ (Ne.symm same), beq_eq_false_iff_ne.mpr same, Bool.false_or]

/-- What is found in the map are the clients of the last export of the path. -/
theorem lookup_clientTable (exports : List Export) (path : String) :
    (clientTable exports).lookup path = (publishers path exports).getLast?.map Export.allowed := by
  unfold clientTable
  -- By induction on the exports from the last one on: it decides on its own paths.
  induction exports using List.reverseRecOn with
  | nil => rfl
  | append_singleton exports e ih =>
    have own : (e.paths.any (· == path)) = e.hasPath path := rfl
    rw [List.foldl_append, List.foldl_cons, List.foldl_nil, lookup_foldl_paths, ih, own]
    cases there : e.hasPath path with
    | true => simp [publishers, there]
    | false => simp [publishers, there]

theorem clientsOfPath_eq (exports : List Export) (path : String) :
    Client.clientsOfPath exports path =
      (publishers path exports).getLast?.map Export.allowed := by
  unfold Client.clientsOfPath publishers
  rw [List.getLast?_filter]

/-- A volume is listed just if some export publishes its path. -/
theorem published_eq_some_iff {exports : List Export} {v : Volume} {entry : VolumeExport} :
    c.published exports v = some entry ↔
      ∃ last, (publishers (c.path v.name) exports).getLast? = some last ∧
        entry = ⟨v, c.path v.name, last.allowed⟩ := by
  unfold Client.published
  rw [clientsOfPath_eq, Option.map_map, Option.map_eq_some_iff]
  simp only [Function.comp_apply, eq_comm]

/-- The volumes that are listed. -/
theorem map_volume_published (exports : List Export) (volumes : List Volume) :
    (volumes.filterMap (c.published exports)).map VolumeExport.volume =
      volumes.filter fun v => !(publishers (c.path v.name) exports).isEmpty := by
  rw [List.map_filterMap, ← List.filterMap_eq_filter]
  refine congrArg (List.filterMap · volumes) (funext fun v => ?_)
  unfold Client.published
  rw [clientsOfPath_eq]
  cases eq : publishers (c.path v.name) exports with
  | nil => simp [Option.guard, eq]
  | cons first rest => simp [eq, List.getLast?_cons]

/-! ## The two calls -/

variable {answer : σ → Request → Delivery × σ} {s t u : σ}

/-- The list of published volumes, by the listings of exports and of volumes. -/
theorem volumeExports_ends {exports : List Export} {volumes : List Volume}
    (listed : c.exports.Ends answer s (.ok exports) t)
    (held : c.volumes.Ends answer t (.ok volumes) u) :
    c.volumeExports.Ends answer s (.ok (volumes.filterMap (c.published exports))) u :=
  listed.bind (held.bind (.done _))

/-- The export of a volume is the first of its path, by the listing of exports. -/
theorem exportOf_of_exports {exports : List Export}
    (listed : c.exports.Ends answer s (.ok exports) t) (name : String) :
    (c.exportOf none name).Ends answer s (.ok (publishers (c.path name) exports).head?) t := by
  -- Without an id, only the path counts.
  have byPath : (fun e : Export => some e.id == none || e.hasPath (c.path name)) =
      (·.hasPath (c.path name)) := rfl
  unfold publishers
  rw [List.head?_filter, ← byPath]
  exact listed.bind (.done _)

/-- The clients of a volume, by the listing of exports. -/
theorem exportClients_of_exports {exports : List Export}
    (listed : c.exports.Ends answer s (.ok exports) t) (name : String) :
    (c.exportClients name).Ends answer s
      (.ok ((publishers (c.path name) exports).head?.map Export.allowed)) t :=
  (exportOf_of_exports listed name).bind (.done _)

/-- The two ways to the clients of a volume. Whatever exports and volumes are listed, the volumes
whose path is published are those with an entry, and only they have clients when asked for. The
entry has what the map filled with all exports holds for the path, the clients of the last export
of that path; asked for, the volume has those of the first. So they agree on a volume just if the
first and the last export of its path have the same clients. -/
theorem volumeExports_agree_iff {answer' : τ → Request → Delivery × τ} {s' t' : τ}
    {exports : List Export} {volumes : List Volume}
    (listed : c.exports.Ends answer s (.ok exports) t)
    (held : c.volumes.Ends answer t (.ok volumes) u)
    (again : c.exports.Ends answer' s' (.ok exports) t') :
    ∃ entries, c.volumeExports.Ends answer s (.ok entries) u ∧
      entries.map VolumeExport.volume =
        volumes.filter (fun v => !(publishers (c.path v.name) exports).isEmpty) ∧
      (∀ name, publishers (c.path name) exports = [] →
        (c.exportClients name).Ends answer' s' (.ok none) t') ∧
      ∀ entry ∈ entries, entry.path = c.path entry.volume.name ∧
        (clientTable exports).lookup entry.path = some entry.clients ∧
        ∃ first last, (publishers entry.path exports).head? = some first ∧
          (publishers entry.path exports).getLast? = some last ∧
          entry.clients = last.allowed ∧
          (c.exportClients entry.volume.name).Ends answer' s' (.ok (some first.allowed)) t' ∧
          ((c.exportClients entry.volume.name).Ends answer' s' (.ok (some entry.clients)) t' ↔
            first.allowed = last.allowed) := by
  refine ⟨_, volumeExports_ends listed held, map_volume_published exports volumes, ?_, ?_⟩
  · intro name absent
    have asked := exportClients_of_exports again name
    rw [absent] at asked
    exact asked
  · intro entry mem
    obtain ⟨v, -, found⟩ := List.mem_filterMap.mp mem
    obtain ⟨last, isLast, rfl⟩ := published_eq_some_iff.mp found
    dsimp only
    have asked := exportClients_of_exports again v.name
    cases eq : publishers (c.path v.name) exports with
    | nil => rw [eq] at isLast; cases isLast
    | cons first rest =>
      rw [eq] at asked isLast
      refine ⟨rfl, ?_, first, last, rfl, isLast, rfl, asked, ?_⟩
      · rw [lookup_clientTable, eq, isLast]
        rfl
      · constructor
        · intro same
          have results := asked.result_eq.symm.trans same.result_eq
          simpa using results
        · intro same
          rw [← same]
          exact asked

/-! ## A volume that is published twice -/

/-- A listing of two exports of one path, with different clients. -/
def twiceExported : Incoming :=
  .message 200 (Text.Utf8.bytes ("\x7b\"exports\": [" ++
    "\x7b\"id\": 1, \"paths\": [\"/ifs/volumes/a\"], \"clients\": [\"x\"]\x7d, " ++
    "\x7b\"id\": 2, \"paths\": [\"/ifs/volumes/a\"], \"clients\": [\"y\"]\x7d]\x7d")) true

/-- A listing of the volume at that path. -/
def singleVolume : Incoming :=
  .message 200 (Text.Utf8.bytes "\x7b\"children\": [\x7b\"name\": \"a\"\x7d]\x7d") true

/-- The volume is listed with the clients of the second export, and asked for it has those of the
first. -/
theorem volumeExports_disagree :
    ∃ entries, (Client.mk localConnection).volumeExports.Ends (replies .closed)
        [twiceExported, singleVolume] (.ok entries) [] ∧
      entries.map (fun e => (e.volume.name, e.clients)) = [("a", ["y"])] ∧
      ((Client.mk localConnection).exportClients "a").Ends (replies .closed)
        [twiceExported, singleVolume] (.ok (some ["x"])) [singleVolume] := by
  have listing : ∃ exports, (Client.mk localConnection).exports.Ends (replies .closed)
      [twiceExported, singleVolume] (.ok exports) [singleVolume] ∧
        exports.map (fun e => (e.paths, e.allowed)) =
          [(["/ifs/volumes/a"], ["x"]), (["/ifs/volumes/a"], ["y"])] :=
    Ends.exists_of_view (by decide +kernel)
  have names : ∃ volumes, (Client.mk localConnection).volumes.Ends (replies .closed) [singleVolume]
      (.ok volumes) [] ∧ volumes.map Volume.name = ["a"] :=
    Ends.exists_of_view (by decide +kernel)
  obtain ⟨exports, listed, exported⟩ := listing
  obtain ⟨volumes, held, named⟩ := names
  obtain ⟨e, f, rfl, first, second⟩ : ∃ e f, exports = [e, f] ∧
      (e.paths, e.allowed) = (["/ifs/volumes/a"], ["x"]) ∧
      (f.paths, f.allowed) = (["/ifs/volumes/a"], ["y"]) := by
    simpa [List.map_eq_cons_iff] using exported
  obtain ⟨v, rfl, name⟩ := List.map_eq_singleton_iff.mp named
  obtain ⟨ownPaths, own⟩ := Prod.mk.inj first
  obtain ⟨otherPaths, other⟩ := Prod.mk.inj second
  have both : publishers "/ifs/volumes/a" [e, f] = [e, f] := by
    simp [publishers, Export.hasPath, ownPaths, otherPaths]
  have path : (Client.mk localConnection).path v.name = "/ifs/volumes/a" := by rw [name]; rfl
  obtain ⟨entries, ends, listedVolumes, -, all⟩ := volumeExports_agree_iff listed held listed
  rw [List.filter_cons_of_pos (by rw [path, both]; rfl), List.filter_nil] at listedVolumes
  obtain ⟨entry, rfl, rfl⟩ := List.map_eq_singleton_iff.mp listedVolumes
  obtain ⟨ownPath, -, first, last, isFirst, isLast, clients, asked, -⟩ :=
    all entry List.mem_cons_self
  rw [ownPath, path, both] at isFirst isLast
  obtain rfl : e = first := Option.some.inj isFirst
  obtain rfl : f = last := Option.some.inj isLast
  rw [name, own] at asked
  exact ⟨[entry], ends, by rw [List.map_singleton, name, clients, other], asked⟩

end OneFs
