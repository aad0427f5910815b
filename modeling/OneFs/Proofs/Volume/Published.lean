import OneFs.Proofs.Volume.Clients

/-!
# Published volumes

The list of published volumes is a join: a map is filled with the clients of every path of every
export, and then each listed volume is looked up in it. Nothing is lost, repeated or reordered on
the way, whatever the listings hold.

- `isSome_lookup_clientTable`, `publisher_of_lookup`: what the map knows once it is filled;
- `Client.joined`: the second pass, over the volumes;
- `isExported_of_exports`: what the call that asks for one volume comes to;
- `volumeExports_exact`: the list has the volumes of which that call says so, and no others.
-/

namespace OneFs

open Json Http Exchange

variable {σ τ : Type} {c : Client}

/-! ## The map -/

/-- The map knows a path just if some export publishes it. -/
theorem isSome_lookup_clientTable (exports : List Export) (path : String) :
    ((clientTable exports).lookup path).isSome = exports.any (·.hasPath path) := by
  rw [lookup_clientTable, Option.isSome_map, publishers, List.getLast?_filter, Bool.eq_iff_iff,
    List.find?_isSome, List.any_eq_true]
  simp only [List.mem_reverse]

/-- Whatever the map has for a path are the clients of an export that publishes it. -/
theorem publisher_of_lookup {exports : List Export} {path : String} {clients : List String}
    (found : (clientTable exports).lookup path = some clients) :
    ∃ e ∈ exports, e.hasPath path = true ∧ clients = e.allowed := by
  rw [lookup_clientTable] at found
  obtain ⟨e, last, rfl⟩ := Option.map_eq_some_iff.mp found
  obtain ⟨mem, there⟩ := List.mem_filter.mp (List.mem_of_getLast? last)
  exact ⟨e, mem, there, rfl⟩

/-! ## The volumes -/

/-- The volumes whose path a map knows, each with its path and with what the map has for it. -/
def Client.joined (c : Client) (table : Finmap fun _ : String => List String)
    (volumes : List Volume) : List VolumeExport :=
  volumes.filterMap fun v =>
    (table.lookup (c.path v.name)).map fun clients => ⟨v, c.path v.name, clients⟩

/-- The volumes that are left are those whose path the map knows, in their order. -/
theorem map_volume_joined (table : Finmap fun _ : String => List String) (volumes : List Volume) :
    (c.joined table volumes).map VolumeExport.volume =
      volumes.filter fun v => (table.lookup (c.path v.name)).isSome := by
  induction volumes with
  | nil => rfl
  | cons v rest ih =>
    unfold Client.joined at ih ⊢
    rw [List.filterMap_cons]
    cases known : table.lookup (c.path v.name) with
    | none =>
      rw [List.filter_cons_of_neg (by rw [known]; decide)]
      exact ih
    | some clients =>
      rw [List.filter_cons_of_pos (by rw [known]; rfl)]
      exact congrArg (v :: ·) ih

/-- The list of published volumes goes through the map. -/
theorem filterMap_published (exports : List Export) (volumes : List Volume) :
    volumes.filterMap (c.published exports) = c.joined (clientTable exports) volumes := by
  refine congrArg (List.filterMap · volumes) (funext fun v => ?_)
  rw [lookup_clientTable, ← clientsOfPath_eq]
  rfl

/-! ## The calls -/

variable {answer : σ → Request → Delivery × σ} {s t u : σ} {answer' : τ → Request → Delivery × τ}
  {s' t' : τ}

/-- Whether a volume is published, by the listing of exports. -/
theorem isExported_of_exports {exports : List Export}
    (listed : c.exports.Ends answer s (.ok exports) t) (name : String) :
    (c.isExported name).Ends answer s (.ok (exports.any (·.hasPath (c.path name)))) t :=
  listed.bind (.done _)

/-- The list of published volumes is exact. Whatever exports and volumes are listed, it has, in
their order and as often as they are listed, those volumes of which a look at the same exports says
that they are published, and no others. Each is as it was listed, with its path and with the clients
of some listed export that publishes that path. -/
theorem volumeExports_exact {exports : List Export} {volumes : List Volume}
    (listed : c.exports.Ends answer s (.ok exports) t)
    (held : c.volumes.Ends answer t (.ok volumes) u)
    (again : c.exports.Ends answer' s' (.ok exports) t') :
    ∃ entries, c.volumeExports.Ends answer s (.ok entries) u ∧
      (∀ name, (c.isExported name).Ends answer' s'
        (.ok (exports.any (·.hasPath (c.path name)))) t') ∧
      entries.map VolumeExport.volume = volumes.filter (fun v =>
        ((c.isExported v.name).run answer' s').result.toOption = some true) ∧
      ∀ entry ∈ entries, entry.path = c.path entry.volume.name ∧
        ∃ e ∈ exports, e.hasPath entry.path = true ∧ entry.clients = e.allowed := by
  have asked := isExported_of_exports (c := c) again
  refine ⟨_, volumeExports_ends listed held, asked, ?_, ?_⟩
  · rw [filterMap_published, map_volume_joined]
    refine List.filter_congr fun v _ => ?_
    rw [isSome_lookup_clientTable, (asked v.name).result_eq]
    cases exports.any (·.hasPath (c.path v.name)) with
    | false => rfl
    | true => rfl
  · intro entry mem
    rw [filterMap_published] at mem
    obtain ⟨v, -, made⟩ := List.mem_filterMap.mp mem
    obtain ⟨clients, found, rfl⟩ := Option.map_eq_some_iff.mp made
    exact ⟨rfl, publisher_of_lookup found⟩

/-- A listing of exports that share a path. -/
def sharedExports : Incoming :=
  .message 200 (Text.Utf8.bytes ("\x7b\"exports\": [" ++
    "\x7b\"id\": 1, \"paths\": [\"/ifs/volumes/a\", \"/ifs/volumes/b\"], " ++
    "\"clients\": [\"x\"]\x7d, " ++
    "\x7b\"id\": 2, \"paths\": [\"/ifs/volumes/a\"], \"clients\": [\"y\"]\x7d]\x7d")) true

/-- A listing of volumes, one of them twice and one of them published by nothing. -/
def repeatedVolumes : Incoming :=
  .message 200 (Text.Utf8.bytes ("\x7b\"children\": [\x7b\"name\": \"b\"\x7d, " ++
    "\x7b\"name\": \"a\"\x7d, \x7b\"name\": \"c\"\x7d, \x7b\"name\": \"a\"\x7d]\x7d")) true

/-- Of these volumes all but the unpublished one are in the list, and the repeated one twice. -/
theorem volumeExports_exact_repeated :
    ∃ exports volumes entries,
      (Client.mk localConnection).exports.Ends (replies .closed) [sharedExports, repeatedVolumes]
        (.ok exports) [repeatedVolumes] ∧
      (Client.mk localConnection).volumes.Ends (replies .closed) [repeatedVolumes]
        (.ok volumes) [] ∧
      volumes.map Volume.name = ["b", "a", "c", "a"] ∧
      (Client.mk localConnection).volumeExports.Ends (replies .closed)
        [sharedExports, repeatedVolumes] (.ok entries) [] ∧
      entries.map VolumeExport.volume = volumes.filter (fun v =>
        (((Client.mk localConnection).isExported v.name).run (replies .closed)
          [sharedExports, repeatedVolumes]).result.toOption = some true) ∧
      entries.map (fun e => (e.volume.name, e.clients)) =
        [("b", ["x"]), ("a", ["y"]), ("a", ["y"])] := by
  have listing : ∃ exports, (Client.mk localConnection).exports.Ends (replies .closed)
      [sharedExports, repeatedVolumes] (.ok exports) [repeatedVolumes] ∧
        exports.map Export.id = [1, 2] :=
    Ends.exists_of_view (by decide +kernel)
  have names : ∃ volumes, (Client.mk localConnection).volumes.Ends (replies .closed)
      [repeatedVolumes] (.ok volumes) [] ∧ volumes.map Volume.name = ["b", "a", "c", "a"] :=
    Ends.exists_of_view (by decide +kernel)
  have shown : ∃ entries, (Client.mk localConnection).volumeExports.Ends (replies .closed)
      [sharedExports, repeatedVolumes] (.ok entries) [] ∧
        entries.map (fun e => (e.volume.name, e.clients)) =
          [("b", ["x"]), ("a", ["y"]), ("a", ["y"])] :=
    Ends.exists_of_view (by decide +kernel)
  obtain ⟨exports, listed, -⟩ := listing
  obtain ⟨volumes, held, named⟩ := names
  obtain ⟨seen, ran, view⟩ := shown
  obtain ⟨entries, ends, -, exact, -⟩ := volumeExports_exact listed held listed
  -- A run has one result.
  obtain rfl : entries = seen := Except.ok.inj (ends.result_eq.symm.trans ran.result_eq)
  exact ⟨exports, volumes, entries, listed, held, named, ends, exact, view⟩

end OneFs
