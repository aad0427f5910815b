import OneFs.Proofs.Connection.Site
import OneFs.Proofs.Export.Bodies
import OneFs.Proofs.Url.Ending
import OneFs.Proofs.Volume.Clients

/-!
# Unpublishing volumes

A volume is no longer published when the first export that publishes it is removed. Another export
of the same path stays, and with the first export go all the other paths that it publishes.

- `deletedIds`, `remaining`: the ids in requests to delete, and the exports that are left once those
  with these ids are removed;
- `Connection.deletedIds_removeExport`: removing an export names its id, whatever the endpoint;
- `Client.deletedIds_unpublish`: unpublishing a volume names the id of the first export of its path;
- `withoutFirst`: the exports but for that one, and the paths that they publish;
- `unpublish_removes_first`: what is left of the publication of the volume, and of the other paths.
-/

namespace OneFs

open Json Http Exchange Url

variable {σ : Type}

/-! ## What requests remove -/

/-- The ids at the ends of the URLs of requests to delete. -/
def deletedIds (sent : List Request) : List String :=
  (sent.filter fun r => r.method == "DELETE").map fun r => nameFromPath r.url.text

/-- The exports that are left once those are removed whose ids are in requests to delete. -/
def remaining (sent : List Request) (exports : List Export) : List Export :=
  exports.filter fun e => toString e.id ∉ deletedIds sent

theorem deletedIds_append (xs ys : List Request) :
    deletedIds (xs ++ ys) = deletedIds xs ++ deletedIds ys := by
  simp [deletedIds]

/-- Look-ups delete nothing. -/
theorem deletedIds_gets {sent : List Request} (gets : ∀ r ∈ sent, r.method = "GET") :
    deletedIds sent = [] := by
  have none : sent.filter (fun r => r.method == "DELETE") = [] :=
    List.filter_eq_nil_iff.mpr fun r hr => by rw [gets r hr]; decide
  rw [deletedIds, none, List.map_nil]

theorem Export.hasPath_iff {e : Export} {path : String} :
    e.hasPath path = true ↔ path ∈ e.paths := by
  simp [hasPath]

namespace Connection

/-- What is asked to remove an export. -/
def askRemoveExport (c : Connection) (id : Int64) : Ask where
  method := "DELETE"
  path := c.version.exportsPath
  id := some (toString id)

variable {c : Connection} {id : Int64} {answer : σ → Request → Delivery × σ} {s : σ}

/-- The URL of the request to remove an export ends in its id. -/
theorem name_of_removal {r : Request} (request : c.requestFor (c.askRemoveExport id) = .ok r) :
    nameFromPath r.url.text = toString id := by
  obtain ⟨u, parsed, web, url⟩ := url_of_requestFor request
  -- The path is plain, and so is the id.
  obtain ⟨first, path, start, relative, plain⟩ : ∃ first path,
      (c.askRemoveExport id).path.toList = first :: path ∧ first ≠ '/' ∧
        ∀ x ∈ first :: path, isPlainMark x = true := by
    simp only [askRemoveExport]
    cases c.version <;> exact ⟨_, _, rfl, by decide, List.all_eq_true.mp (by decide)⟩
  have filled : (c.askRemoveExport id).id ≠ some "" :=
    fun empty => id_ne_empty id (Option.some.inj empty)
  have raw : c.rawUrl (c.askRemoveExport id).path (c.askRemoveExport id).id =
      String.ofList
        (c.endpoint.toList ++ '/' :: (first :: path ++ '/' :: (toString id).toList)) := by
    rw [rawUrl_resource start relative filled, ← start]
    apply String.toList_injective
    simp [askRemoveExport, resource]
  rw [raw] at parsed
  obtain ⟨before, ending⟩ := parse_ending plain relative (isPlainMark_id id) parsed web
  -- Only a user name is taken out of the URL, in front of its path.
  have same : r.url.target ++ marked "#" r.url.fragment = u.target ++ marked "#" u.fragment := by
    rw [url]
    unfold bareUrl
    split <;> rfl
  rw [← same] at ending
  obtain ⟨before, text⟩ := text_ending ending
  have single : '/' ∉ (toString id).toList := by
    intro slash
    rcases mem_id id '/' slash with dash | digit
    · exact absurd dash (by decide)
    · exact absurd digit (by decide)
  have whole : r.url.text = String.ofList before ++ "/" ++ toString id := by
    apply String.toList_injective
    simp [text]
  rw [whole, nameFromPath_append single]

/-- Removing an export, if it succeeds, is one request, which names the id. -/
theorem deletedIds_removeExport
    (done : ((c.removeExport id).run answer s).result = .ok ()) :
    deletedIds (requests ((c.removeExport id).run answer s).steps) = [toString id] := by
  unfold removeExport at done ⊢
  obtain ⟨_, -, executed, all⟩ := of_bind_ok done
  obtain ⟨_, asked, -, told⟩ := of_bind_ok executed
  obtain ⟨r, request, only⟩ := execute_sent asked
  have silent : (requireExportId id).Sends fun _ => False := .require _ _
  have sent : requests ((c.removeExport id).run answer s).steps = [r] := by
    refine all.trans ?_
    rw [silent.requests_eq_nil, told, only]
    rfl
  have method : r.method = "DELETE" := method_of_requestFor request
  refine (congrArg deletedIds sent).trans ?_
  simp [deletedIds, method, name_of_removal request]

end Connection

namespace Client

variable {c : Client} {name : String} {answer : σ → Request → Delivery × σ} {s t : σ}
  {exports : List Export}

theorem exportOf_gets (c : Client) (id : Option Int64) (name : String) :
    (c.exportOf id name).Sends fun r => r.method = "GET" :=
  .bind (.bind (Connection.query_sends_method _ _ _) fun _ => .done _) fun _ => .done _

/-- Unpublishing a volume, if it succeeds, names the id of the first export of its path and no
other. -/
theorem deletedIds_unpublish (listed : c.exports.Ends answer s (.ok exports) t)
    (done : ((c.unpublish name).run answer s).result = .ok ()) :
    deletedIds (requests ((c.unpublish name).run answer s).steps) =
      ((publishers (c.path name) exports).head?.map fun e => toString e.id).toList := by
  unfold unpublish at done ⊢
  obtain ⟨found, looked, later, all⟩ := of_bind_ok done
  have first := (exportOf_of_exports listed name).result_eq
  obtain rfl : found = (publishers (c.path name) exports).head? :=
    Except.ok.inj (looked.symm.trans first)
  rw [all, deletedIds_append, deletedIds_gets (c.exportOf_gets none name σ answer s),
    List.nil_append]
  cases head : (publishers (c.path name) exports).head? with
  | none => rfl
  | some e =>
    rw [head] at later
    exact Connection.deletedIds_removeExport later

end Client

/-! ## What is left -/

section Left

variable {exports : List Export} {path : String}

/-- The exports but for the first that publishes a path. -/
def withoutFirst (path : String) (exports : List Export) : List Export :=
  exports.filter fun e => some e.id ≠ (publishers path exports).head?.map Export.id

theorem mem_withoutFirst {e : Export} :
    e ∈ withoutFirst path exports ↔
      e ∈ exports ∧ ∀ first ∈ (publishers path exports).head?, e.id ≠ first.id := by
  unfold withoutFirst
  rw [List.mem_filter, decide_eq_true_iff]
  cases (publishers path exports).head? <;> simp

/-- The path is published no more just if no second export published it. -/
theorem withoutFirst_hides_iff (distinct : (exports.map Export.id).Nodup) :
    (∀ e ∈ withoutFirst path exports, e.hasPath path = false) ↔
      (publishers path exports).length ≤ 1 := by
  have published : ∀ e, e ∈ publishers path exports ↔ e ∈ exports ∧ e.hasPath path = true :=
    fun e => List.mem_filter
  have apart : ((publishers path exports).map Export.id).Nodup :=
    distinct.sublist (List.filter_sublist.map Export.id)
  constructor
  · intro hidden
    by_contra more
    have one : 0 < (publishers path exports).length := by omega
    obtain ⟨first, rest, eq⟩ := List.exists_cons_of_length_pos one
    rw [eq, List.length_cons] at more
    have two : 0 < rest.length := by omega
    obtain ⟨second, later, rfl⟩ := List.exists_cons_of_length_pos two
    rw [eq] at apart published
    -- The second export is not the first, so it is still there.
    have other : second.id ≠ first.id := by
      intro same
      simp [same] at apart
    obtain ⟨mem, there⟩ := (published second).mp (by simp)
    have left : second ∈ withoutFirst path exports := by
      rw [mem_withoutFirst, eq]
      exact ⟨mem, by simpa using other⟩
    rw [hidden second left] at there
    cases there
  · intro single e left
    by_contra there
    obtain ⟨mem, notFirst⟩ := mem_withoutFirst.mp left
    have among := (published e).mpr ⟨mem, by simpa using there⟩
    cases eq : publishers path exports with
    | nil =>
      rw [eq] at among
      cases among
    | cons first rest =>
      rw [eq] at among notFirst single
      obtain rfl : rest = [] := List.length_eq_zero_iff.mp (by simpa using single)
      exact notFirst first rfl (congrArg Export.id (List.mem_singleton.mp among))

/-- Every other path is published just if the other paths of the first export are published by
others. -/
theorem withoutFirst_keeps_iff (distinct : (exports.map Export.id).Nodup) :
    (∀ other, other ≠ path → (∃ e ∈ exports, e.hasPath other) →
        ∃ e ∈ withoutFirst path exports, e.hasPath other) ↔
      ∀ first ∈ (publishers path exports).head?, ∀ other ∈ first.paths, other ≠ path →
        ∃ e ∈ exports, e.id ≠ first.id ∧ e.hasPath other := by
  constructor
  · intro kept first isFirst other own different
    have mem : first ∈ exports := (List.mem_filter.mp (List.mem_of_mem_head? isFirst)).1
    obtain ⟨e, left, there⟩ := kept other different ⟨first, mem, Export.hasPath_iff.mpr own⟩
    obtain ⟨inExports, notFirst⟩ := mem_withoutFirst.mp left
    exact ⟨e, inExports, notFirst first isFirst, there⟩
  · rintro others other different ⟨e, mem, there⟩
    by_cases isFirst : ∃ first ∈ (publishers path exports).head?, e.id = first.id
    -- The export is the first, so another one has the path.
    · obtain ⟨first, isFirst, same⟩ := isFirst
      have inExports : first ∈ exports := (List.mem_filter.mp (List.mem_of_mem_head? isFirst)).1
      obtain rfl : e = first := List.inj_on_of_nodup_map distinct mem inExports same
      obtain ⟨e', mem', notFirst, there'⟩ :=
        others e isFirst other (Export.hasPath_iff.mp there) different
      refine ⟨e', mem_withoutFirst.mpr ⟨mem', ?_⟩, there'⟩
      intro first' isFirst'
      obtain rfl : e = first' := Option.some.inj (isFirst.symm.trans isFirst')
      exact notFirst
    · exact ⟨e, mem_withoutFirst.mpr
        ⟨mem, fun first head same => isFirst ⟨first, head, same⟩⟩, there⟩

end Left

/-- Unpublished volumes. Whatever exports are listed, with distinct ids: unpublishing a volume with
success removes the first export of its path, whose id is the only one in requests to delete, and
leaves the others. So the path is published no more just if no second export published it, and every
other path that was published still is just if those of the first export are published by
others. -/
theorem unpublish_removes_first {c : Client} {name : String} {answer : σ → Request → Delivery × σ}
    {s t : σ} {exports : List Export} (listed : c.exports.Ends answer s (.ok exports) t)
    (distinct : (exports.map Export.id).Nodup)
    (done : ((c.unpublish name).run answer s).result = .ok ()) :
    ∃ left, left = remaining (requests ((c.unpublish name).run answer s).steps) exports ∧
      left = withoutFirst (c.path name) exports ∧
      ((∀ e ∈ left, e.hasPath (c.path name) = false) ↔
        (publishers (c.path name) exports).length ≤ 1) ∧
      ((∀ path, path ≠ c.path name → (∃ e ∈ exports, e.hasPath path) →
          ∃ e ∈ left, e.hasPath path) ↔
        ∀ first ∈ (publishers (c.path name) exports).head?, ∀ path ∈ first.paths,
          path ≠ c.path name → ∃ e ∈ exports, e.id ≠ first.id ∧ e.hasPath path) := by
  refine ⟨_, rfl, ?_⟩
  have left : remaining (requests ((c.unpublish name).run answer s).steps) exports =
      withoutFirst (c.path name) exports := by
    unfold remaining withoutFirst
    rw [Client.deletedIds_unpublish listed done]
    refine List.filter_congr fun e _ => ?_
    cases (publishers (c.path name) exports).head? with
    | none => rfl
    | some first =>
      have ids : toString e.id = toString first.id ↔ e.id = first.id :=
        ⟨id_injective, congrArg toString⟩
      simp [ids]
  rw [left]
  exact ⟨rfl, withoutFirst_hides_iff distinct, withoutFirst_keeps_iff distinct⟩

/-- A reply that reports success and has no body. -/
def emptied : Incoming :=
  .message 204 [] true

/-- A volume that is exported twice is still published after it is unpublished. -/
theorem unpublish_leaves_second :
    ∃ exports, (Client.mk localConnection).exports.Ends (replies .closed) [twiceExported, emptied]
        (.ok exports) [emptied] ∧
      exports.map (fun e => (e.id, e.paths)) = [(1, ["/ifs/volumes/a"]), (2, ["/ifs/volumes/a"])] ∧
      (((Client.mk localConnection).unpublish "a").run (replies .closed)
        [twiceExported, emptied]).result = .ok () ∧
      ∃ left, left = remaining (requests (((Client.mk localConnection).unpublish "a").run
          (replies .closed) [twiceExported, emptied]).steps) exports ∧
        ¬ ∀ e ∈ left, e.hasPath "/ifs/volumes/a" = false := by
  have listing : ∃ exports, (Client.mk localConnection).exports.Ends (replies .closed)
      [twiceExported, emptied] (.ok exports) [emptied] ∧
        exports.map (fun e => (e.id, e.paths)) =
          [(1, ["/ifs/volumes/a"]), (2, ["/ifs/volumes/a"])] :=
    Ends.exists_of_view (by decide +kernel)
  have ends : ∃ done, ((Client.mk localConnection).unpublish "a").Ends (replies .closed)
      [twiceExported, emptied] (.ok done) [] ∧ done = () :=
    Ends.exists_of_view (by decide +kernel)
  obtain ⟨exports, listed, exported⟩ := listing
  obtain ⟨_, done, rfl⟩ := ends
  have ids : exports.map Export.id = [1, 2] := by
    have firsts := congrArg (List.map Prod.fst) exported
    rwa [List.map_map] at firsts
  have paths : exports.map Export.paths = [["/ifs/volumes/a"], ["/ifs/volumes/a"]] := by
    have seconds := congrArg (List.map Prod.snd) exported
    rwa [List.map_map] at seconds
  obtain ⟨left, isLeft, -, hides, -⟩ :=
    unpublish_removes_first listed (by rw [ids]; decide) done.result_eq
  refine ⟨exports, listed, exported, done.result_eq, left, isLeft, fun hidden => ?_⟩
  have both : (publishers "/ifs/volumes/a" exports).map Export.paths =
      (exports.map Export.paths).filter fun ps => ps.any (· == "/ifs/volumes/a") := by
    rw [List.filter_map]
    rfl
  have single := hides.mp hidden
  rw [paths] at both
  have two := congrArg List.length both
  rw [List.length_map] at two
  exact absurd (two.symm.trans_le single) (by decide)

end OneFs
