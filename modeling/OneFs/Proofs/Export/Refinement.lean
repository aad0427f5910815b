import OneFs.Proofs.Export.FiniteMap
import OneFs.Proofs.Export.Memory

/-!
# Runs of calls on exports

Against an ideal server, whatever calls a client makes on the exports of volumes one after another,
the server holds a list of the same shape after each of them, and the calls come to what they mean
on the finite map of that list.

- `ExportCall.run_does`: what a single call does;
- `ExportCall.runAll`, `ExportCall.meanings`: calls one after another, on a server and on a map;
- `ExportCall.runAll_refines`: the run of calls;
- `exportCalls_refine_map`: the same for configured clients.
-/

namespace OneFs

open Json Http Url Connection

variable {σ : Type} {S : ExportServer σ} {s : σ} {c : Client}

/-! ## Single calls -/

namespace Client

/-- Whether a volume is published is found out from what is held. -/
theorem isExported_ends (site : c.api.AtSite exportRoom) (ideal : S.Ideal c.api.version)
    (shaped : Shaped (S.held s)) (name : String) :
    ∃ t, (c.isExported name).Ends S.answer s
        (.ok ((S.held s).any (·.publishes (c.path name)))) t ∧ S.held t = S.held s := by
  obtain ⟨es, t, listed, same, kept⟩ := exports_ends site ideal shaped
  have any : (S.held s).any (·.publishes (c.path name)) =
      es.any fun e => e.hasPath (c.path name) := by
    rw [← same, List.any_map]
    rfl
  rw [any]
  exact ⟨t, listed.bind (.done _), kept⟩

/-- The export of a volume is found among what is held. -/
theorem exportOf_ends (site : c.api.AtSite exportRoom) (ideal : S.Ideal c.api.version)
    (shaped : Shaped (S.held s)) (name : String) :
    ∃ found t, (c.exportOf none name).Ends S.answer s (.ok found) t ∧
      found.map Export.held = (S.held s).find? (·.publishes (c.path name)) ∧
      S.held t = S.held s := by
  obtain ⟨es, t, listed, same, kept⟩ := exports_ends site ideal shaped
  refine ⟨_, t, listed.bind (.done _), ?_, kept⟩
  rw [← same, List.find?_map]
  rfl

/-- So are its clients. -/
theorem exportClients_ends (site : c.api.AtSite exportRoom) (ideal : S.Ideal c.api.version)
    (shaped : Shaped (S.held s)) (name : String) :
    ∃ t, (c.exportClients name).Ends S.answer s
        (.ok (((S.held s).find? (·.publishes (c.path name))).map Held.clients)) t ∧
      S.held t = S.held s := by
  obtain ⟨found, t, ends, same, kept⟩ := exportOf_ends site ideal shaped name
  have clients : ((S.held s).find? (·.publishes (c.path name))).map Held.clients =
      found.map Export.allowed := by
    rw [← same, Option.map_map]
    rfl
  rw [clients]
  exact ⟨t, ends.bind (.done (found.map Export.allowed)), kept⟩

/-- Either nothing that is held publishes a volume, or something does, and is found. -/
theorem exportOf_cases (site : c.api.AtSite exportRoom) (ideal : S.Ideal c.api.version)
    (shaped : Shaped (S.held s)) (name : String) :
    ∃ t, S.held t = S.held s ∧
      (((c.exportOf none name).Ends S.answer s (.ok none) t ∧
          ∀ e ∈ S.held s, e.publishes (c.path name) = false) ∨
        ∃ e : Export, (c.exportOf none name).Ends S.answer s (.ok (some e)) t ∧
          e.held ∈ S.held s ∧ e.held.publishes (c.path name) = true) := by
  obtain ⟨found, t, ends, same, kept⟩ := exportOf_ends site ideal shaped name
  refine ⟨t, kept, ?_⟩
  cases found with
  | none =>
    refine .inl ⟨ends, fun e he => ?_⟩
    have := List.find?_eq_none.mp same.symm e he
    rwa [Bool.not_eq_true] at this
  | some e =>
    have first : (S.held s).find? (·.publishes (c.path name)) = some e.held := same.symm
    have := List.find?_some first
    exact .inr ⟨e, ends, List.mem_of_find?_eq_some first, this⟩

/-- The clients of what publishes the volume are replaced, and nothing else is. -/
theorem setExportClients_ends (site : c.api.AtSite exportRoom) (ideal : S.Ideal c.api.version)
    (shaped : Shaped (S.held s)) (name : String) (clients : List String) :
    ∃ t, (c.setExportClients name clients).Ends S.answer s (.ok ()) t ∧
      S.held t = (S.held s).map (admitting (c.path name) clients) := by
  obtain ⟨t, kept, ⟨ends, absent⟩ | ⟨e, ends, mem, publishes⟩⟩ :=
    exportOf_cases site ideal shaped name
  · refine ⟨t, ends.bind (.done ()), ?_⟩
    have unchanged : ∀ f ∈ S.held s, admitting (c.path name) clients f = f := by
      intro f hf
      unfold admitting
      rw [absent f hf]
      rfl
    rw [kept, List.map_congr_left unchanged, List.map_id']
  · rw [← kept] at shaped mem
    obtain ⟨u, ended, replaced⟩ :=
      Connection.setExportClients_ends site ideal shaped mem clients
    refine ⟨u, ends.bind ended, ?_⟩
    rw [replaced, ← kept]
    refine List.map_congr_left fun f hf => ?_
    -- The export of the id is the one that publishes the volume.
    unfold admitting
    by_cases same : f.publishes (c.path name) = true
    · rw [if_pos same, if_pos ((shaped.id_eq_iff mem publishes hf).mpr same)]
    · rw [if_neg same, if_neg fun eq => same ((shaped.id_eq_iff mem publishes hf).mp eq)]

/-- What publishes the volume is removed, and nothing else is. -/
theorem unpublish_ends (site : c.api.AtSite exportRoom) (ideal : S.Ideal c.api.version)
    (shaped : Shaped (S.held s)) (name : String) :
    ∃ t, (c.unpublish name).Ends S.answer s (.ok ()) t ∧
      S.held t = (S.held s).filter fun e => !e.publishes (c.path name) := by
  obtain ⟨t, kept, ⟨ends, absent⟩ | ⟨e, ends, mem, publishes⟩⟩ :=
    exportOf_cases site ideal shaped name
  · refine ⟨t, ends.bind (.done ()), ?_⟩
    rw [kept, List.filter_eq_self.mpr]
    intro f hf
    rw [absent f hf]
    rfl
  · rw [← kept] at shaped mem
    obtain ⟨u, ended, removed⟩ := removeExport_ends site ideal shaped mem
    refine ⟨u, ends.bind ended, ?_⟩
    rw [removed, ← kept]
    refine List.filter_congr fun f hf => ?_
    rw [Bool.eq_iff_iff, decide_eq_true_eq, Bool.not_eq_true', ← Bool.not_eq_true]
    exact not_congr (shaped.id_eq_iff mem publishes hf)

/-- A volume is published unless it is, and there is an id for it. -/
theorem publish_does (site : c.api.AtSite exportRoom) (ideal : S.Ideal c.api.version)
    (shaped : Shaped (S.held s)) (name : String) :
    ∃ result t, ((ExportCall.publish name).run c).Ends S.answer s result t ∧
      (ExportCall.publish name).Does c (S.held s) result (S.held t) := by
  obtain ⟨t, ends, kept⟩ := isExported_ends site ideal shaped name
  cases there : (S.held s).any (·.publishes (c.path name)) with
  | true =>
    rw [there] at ends
    refine ⟨.ok .done, t, (ends.bind (Exchange.Ends.note _)).map _, ?_⟩
    rw [kept]
    exact .kept name (List.any_eq_true.mp there)
  | false =>
    rw [there] at ends
    have absent : ∀ e ∈ S.held s, e.publishes (c.path name) = false := by
      intro e he
      have := List.any_eq_false.mp there e he
      rwa [Bool.not_eq_true] at this
    -- The creation meets the server as the listing has left it, which holds the same.
    rw [← kept] at shaped
    by_cases room : (S.held t).length < idCount
    · obtain ⟨id, u, created, nonzero, fresh, added⟩ :=
        createExport_ends site ideal shaped (c.path_ne_empty name) room
      refine ⟨.ok .done, u, (ends.bind (created.bind (Exchange.Ends.done ()))).map _, ?_⟩
      rw [added, kept]
      rw [kept] at room fresh
      exact .added name id absent room nonzero fresh
    · obtain ⟨f, u, refused, unchanged⟩ :=
        createExport_refused site ideal shaped (c.path_ne_empty name) room
      refine ⟨.error f, u, (ends.bind refused.bind_error).map_error _, ?_⟩
      rw [unchanged, kept]
      rw [kept] at room
      exact .refused name f absent room

end Client

/-- Every call does to what the server holds what it is there for. -/
theorem ExportCall.run_does (site : c.api.AtSite exportRoom) (ideal : S.Ideal c.api.version)
    (shaped : Shaped (S.held s)) (call : ExportCall) :
    ∃ result t, (call.run c).Ends S.answer s result t ∧
      call.Does c (S.held s) result (S.held t) := by
  cases call with
  | publish name => exact Client.publish_does site ideal shaped name
  | unpublish name =>
    obtain ⟨t, ends, removed⟩ := Client.unpublish_ends site ideal shaped name
    refine ⟨.ok .done, t, ends.map _, ?_⟩
    rw [removed]
    exact .removed name
  | setClients name clients =>
    obtain ⟨t, ends, replaced⟩ := Client.setExportClients_ends site ideal shaped name clients
    refine ⟨.ok .done, t, ends.map _, ?_⟩
    rw [replaced]
    exact .replaced name clients
  | clearClients name =>
    obtain ⟨t, ends, replaced⟩ := Client.setExportClients_ends site ideal shaped name []
    refine ⟨.ok .done, t, ends.map _, ?_⟩
    rw [replaced]
    exact .cleared name
  | isExported name =>
    obtain ⟨t, ends, kept⟩ := Client.isExported_ends site ideal shaped name
    refine ⟨_, t, ends.map _, ?_⟩
    rw [kept]
    exact .asked name
  | exportClients name =>
    obtain ⟨t, ends, kept⟩ := Client.exportClients_ends site ideal shaped name
    refine ⟨_, t, ends.map _, ?_⟩
    rw [kept]
    exact .looked name

/-! ## Calls one after another -/

namespace ExportCall

/-- Calls one after another: what each of them comes to, and the server after them. -/
def runAll (c : Client) (answer : σ → Request → Delivery × σ) :
    List ExportCall → σ → List (Except Failure ExportAnswer) × σ
  | [], s => ([], s)
  | call :: rest, s =>
    let first := (call.run c).run answer s
    let later := runAll c answer rest first.server
    (first.result :: later.1, later.2)

/-- The same calls on a map. -/
def meanings (c : Client) : List ExportCall → ExportMap → List (Option ExportAnswer) × ExportMap
  | [], m => ([], m)
  | call :: rest, m =>
    let first := call.meaning c m
    let later := meanings c rest first.2
    (first.1 :: later.1, later.2)

/-- A run of calls against a server: the list that it holds has the same shape after each of them,
each does what it is there for, and all together come to what they mean on the map. -/
structure Refined (c : Client) (S : ExportServer σ) (s : σ) (calls : List ExportCall) : Prop where
  /-- The shape of what is held after any of the calls, and what the next call does to it. -/
  steps : ∀ before call after, calls = before ++ call :: after →
    let t := (runAll c S.answer before s).2
    Shaped (S.held t) ∧
      call.Does c (S.held t) ((call.run c).run S.answer t).result
        (S.held ((call.run c).run S.answer t).server)
  /-- The shape of what is held in the end. -/
  shaped : Shaped (S.held (runAll c S.answer calls s).2)
  /-- What the calls come to. -/
  answers : (runAll c S.answer calls s).1.map Except.toOption =
    (meanings c calls (published (S.held s))).1
  /-- The map of what is held in the end. -/
  map : published (S.held (runAll c S.answer calls s).2) =
    (meanings c calls (published (S.held s))).2

/-- Against an ideal server all runs are such. -/
theorem runAll_refines (site : c.api.AtSite exportRoom) (ideal : S.Ideal c.api.version)
    (calls : List ExportCall) {s : σ} (shaped : Shaped (S.held s)) : Refined c S s calls := by
  -- The list that is held keeps its shape, and so each call meets what the step lemma asks for.
  induction calls generalizing s with
  | nil =>
    refine ⟨fun before call after eq => ?_, shaped, rfl, rfl⟩
    exact absurd eq (by simp)
  | cons call rest ih =>
    obtain ⟨result, t, ends, does⟩ := call.run_does site ideal shaped
    have later := ih (does.shaped shaped)
    have first := does.meaning_eq shaped
    have run : runAll c S.answer (call :: rest) s =
        (result :: (runAll c S.answer rest t).1, (runAll c S.answer rest t).2) := by
      rw [runAll, ends.result_eq, ends.server_eq]
    have means : meanings c (call :: rest) (published (S.held s)) =
        (result.toOption :: (meanings c rest (published (S.held t))).1,
          (meanings c rest (published (S.held t))).2) := by
      rw [meanings, first]
    refine ⟨?_, ?_, ?_, ?_⟩
    · intro before other after split
      cases before with
      | nil =>
        -- The first call is the one that is made in the state `s`.
        obtain ⟨rfl, -⟩ := List.cons.inj split
        refine ⟨shaped, ?_⟩
        show call.Does c (S.held s) ((call.run c).run S.answer s).result
          (S.held ((call.run c).run S.answer s).server)
        rw [ends.result_eq, ends.server_eq]
        exact does
      | cons head before =>
        obtain ⟨rfl, tail⟩ := List.cons.inj split
        have there : (runAll c S.answer (call :: before) s).2 =
            (runAll c S.answer before t).2 := by
          rw [runAll, ends.server_eq]
        rw [there]
        exact later.steps before other after tail
    · rw [run]
      exact later.shaped
    · rw [run, means, List.map_cons, later.answers]
    · rw [run, means]
      exact later.map

end ExportCall

/-- Calls on exports refine a finite map. Whatever is configured with a site as the endpoint, in
either version, and whatever calls a client then makes one after another on the exports of volumes
of any names: against an ideal server that holds exports with distinct ids other than zero, one path
each and none twice, the server holds such exports after every call, every call does to them what it
is there for and nothing else, and the calls come to what they mean on the finite map from paths to
clients. -/
theorem exportCalls_refine_map {config : Config} {api : Connection}
    (configured : Connection.ofConfig config = .ok api) (site : IsSite exportRoom config.endpoint)
    (version : Version) {S : ExportServer σ} (ideal : S.Ideal version) {s : σ}
    (shaped : Shaped (S.held s)) (calls : List ExportCall) :
    ExportCall.Refined ⟨{ api with version }⟩ S s calls := by
  have reached := ofConfig_atSite configured site
  exact ExportCall.runAll_refines (c := ⟨{ api with version }⟩) reached ideal calls shaped

theorem isSite_local : IsSite exportRoom "http://[::1]:8080/" :=
  isSite_loopback.mono (by decide)

/-- Calls to a server in memory, which holds an export of one volume: on that volume, on a new one,
and on one with a name that is no part of a URL. -/
theorem exportCalls_refined_local :
    ∃ api, Connection.ofConfig (.new "http://[::1]:8080/" "admin" "secret") = .ok api ∧
      IsSite exportRoom "http://[::1]:8080/" ∧ (memory .v2).Ideal .v2 ∧
      Shaped [⟨7, ["/ifs/volumes/a"], ["host"]⟩] ∧
      ExportCall.Refined ⟨{ api with version := .v2 }⟩ (memory .v2)
        [⟨7, ["/ifs/volumes/a"], ["host"]⟩]
        [.publish "a", .publish "b", .setClients "b" ["x", "y"], .publish "../\x22?",
          .exportClients "b", .unpublish "a", .isExported "a"] := by
  have shaped : Shaped [⟨7, ["/ifs/volumes/a"], ["host"]⟩] := by
    refine ⟨by decide, ?_, ?_, by decide⟩
    · intro e he
      rw [List.mem_singleton.mp he]
      decide
    · intro e he
      rw [List.mem_singleton.mp he]
      exact ⟨"/ifs/volumes/a", rfl⟩
  have exists_api : ∃ api,
      Connection.ofConfig (.new "http://[::1]:8080/" "admin" "secret") = .ok api := ⟨_, rfl⟩
  obtain ⟨api, configured⟩ := exists_api
  exact ⟨api, configured, isSite_local, memory_ideal .v2, shaped,
    exportCalls_refine_map configured isSite_local .v2 (memory_ideal .v2) shaped _⟩

end OneFs
