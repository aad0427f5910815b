import Mathlib.Data.Finmap
import Mathlib.Data.List.Find
import OneFs.Proofs.Export.Server

/-!
# Exports as a finite map

What the calls of a client on the exports of volumes do to the exports that a server holds, and the
same on a finite map from paths to clients.

- `ExportCall`, `ExportCall.run`: the calls;
- `ExportCall.Does`: what a call does to a list of exports;
- `published`, `ExportCall.meaning`: the finite map of a list, and what a call does to a map;
- `ExportCall.Does.shaped`, `ExportCall.Does.meaning_eq`: a call keeps the shape of the list, and
  means on its map what it does to the list.
-/

namespace OneFs

/-! ## Calls -/

/-- Replace the clients of what publishes a path. -/
def admitting (path : String) (clients : List String) (e : Held) : Held :=
  if e.publishes path then { e with clients } else e

/-- A call of a client about the export of a volume. -/
inductive ExportCall where
  | publish (name : String)
  | unpublish (name : String)
  | setClients (name : String) (clients : List String)
  | clearClients (name : String)
  | isExported (name : String)
  | exportClients (name : String)

/-- What such a call can come to. -/
inductive ExportAnswer where
  | done
  | published (b : Bool)
  | clients (found : Option (List String))

namespace ExportCall

/-- What a client does on such a call. -/
def run (c : Client) : ExportCall → Exchange ExportAnswer
  | .publish name => (fun _ => .done) <$> c.publish name
  | .unpublish name => (fun _ => .done) <$> c.unpublish name
  | .setClients name clients => (fun _ => .done) <$> c.setExportClients name clients
  | .clearClients name => (fun _ => .done) <$> c.clearExportClients name
  | .isExported name => .published <$> c.isExported name
  | .exportClients name => .clients <$> c.exportClients name

/-- What a call does to the exports that are held, and what it comes to. -/
inductive Does (c : Client) (es : List Held) :
    ExportCall → Except Failure ExportAnswer → List Held → Prop where
  /-- A volume that is published already stays as it is. -/
  | kept (name : String) (there : ∃ e ∈ es, e.publishes (c.path name) = true) :
    Does c es (.publish name) (.ok .done) es
  /-- Another is published without clients, under a new id. -/
  | added (name : String) (id : Int64) (absent : ∀ e ∈ es, e.publishes (c.path name) = false)
      (room : es.length < idCount) (nonzero : id ≠ 0) (fresh : ∀ e ∈ es, e.id ≠ id) :
    Does c es (.publish name) (.ok .done) (es ++ [⟨id, [c.path name], []⟩])
  /-- It cannot be if all ids are used. -/
  | refused (name : String) (f : Failure) (absent : ∀ e ∈ es, e.publishes (c.path name) = false)
      (full : ¬ es.length < idCount) :
    Does c es (.publish name) (.error f) es
  /-- What publishes the volume is removed. -/
  | removed (name : String) :
    Does c es (.unpublish name) (.ok .done) (es.filter fun e => !e.publishes (c.path name))
  /-- What publishes the volume gets other clients. -/
  | replaced (name : String) (clients : List String) :
    Does c es (.setClients name clients) (.ok .done)
      (es.map (admitting (c.path name) clients))
  /-- What publishes the volume loses its clients. -/
  | cleared (name : String) :
    Does c es (.clearClients name) (.ok .done)
      (es.map (admitting (c.path name) []))
  /-- Whether the volume is published. -/
  | asked (name : String) :
    Does c es (.isExported name) (.ok (.published (es.any (·.publishes (c.path name))))) es
  /-- The clients of what publishes the volume. -/
  | looked (name : String) :
    Does c es (.exportClients name)
      (.ok (.clients ((es.find? (·.publishes (c.path name))).map Held.clients))) es

end ExportCall

/-! ## Finite maps -/

/-- Clients by paths. -/
abbrev ExportMap := Finmap fun _ : String => List String

/-- The clients of the paths that exports publish. -/
def published (es : List Held) : ExportMap :=
  (es.flatMap fun e => e.paths.map fun path => Sigma.mk path e.clients).toFinmap

/-- What a call does to a finite map, and what it comes to. It comes to nothing if it would need an
id and all are used. -/
def ExportCall.meaning (c : Client) (m : ExportMap) : ExportCall → Option ExportAnswer × ExportMap
  | .publish name =>
    if c.path name ∈ m then (some .done, m)
    else if m.keys.card < idCount then (some .done, m.insert (c.path name) [])
    else (none, m)
  | .unpublish name => (some .done, m.erase (c.path name))
  | .setClients name clients =>
    (some .done, if c.path name ∈ m then m.insert (c.path name) clients else m)
  | .clearClients name =>
    (some .done, if c.path name ∈ m then m.insert (c.path name) [] else m)
  | .isExported name => (some (.published (decide (c.path name ∈ m))), m)
  | .exportClients name => (some (.clients (m.lookup (c.path name))), m)

/-! ## Looking up -/

/-- An export publishes a path under its clients. -/
theorem dlookup_paths (clients : List String) (path : String) (paths : List String) :
    (paths.map fun p => Sigma.mk p clients).dlookup path =
      if paths.any (· == path) then some clients else none := by
  induction paths with
  | nil => rfl
  | cons p paths ih =>
    by_cases same : p = path
    · subst same
      simp
    · rw [List.map_cons, List.dlookup_cons_ne _ _ (Ne.symm same), ih, List.any_cons,
        beq_eq_false_iff_ne.mpr same, Bool.false_or]

/-- A path is looked up in the map by looking for the first export that publishes it. -/
theorem lookup_published (path : String) (es : List Held) :
    (published es).lookup path = (es.find? (·.publishes path)).map Held.clients := by
  induction es with
  | nil => rfl
  | cons e es ih =>
    unfold published at ih ⊢
    rw [Finmap.dlookup_list_toFinmap] at ih ⊢
    rw [List.flatMap_cons, List.dlookup_append, dlookup_paths, ih, List.find?_cons]
    unfold Held.publishes
    cases e.paths.any (· == path) <;> rfl

theorem mem_published {path : String} {es : List Held} :
    path ∈ published es ↔ ∃ e ∈ es, e.publishes path = true := by
  rw [← Finmap.lookup_isSome, lookup_published, Option.isSome_map, List.find?_isSome]

theorem not_mem_published {path : String} {es : List Held} :
    path ∉ published es ↔ ∀ e ∈ es, e.publishes path = false := by
  rw [mem_published]
  simp

/-! ## Shapes -/

theorem Held.publishes_iff {e : Held} {path other : String} (h : e.paths = [path]) :
    e.publishes other = true ↔ path = other := by
  unfold publishes
  rw [h]
  simp

namespace Shaped

variable {es : List Held} {e f : Held} {path : String}

/-- A path is published by one export only. -/
theorem unique (shaped : Shaped es) (he : e ∈ es) (hf : f ∈ es)
    (publishesE : e.publishes path = true) (publishesF : f.publishes path = true) : e = f := by
  obtain ⟨p, hp⟩ := shaped.single e he
  obtain ⟨q, hq⟩ := shaped.single f hf
  have eqP := (Held.publishes_iff hp).mp publishesE
  have eqQ := (Held.publishes_iff hq).mp publishesF
  exact List.inj_on_of_nodup_map shaped.apart he hf (by rw [hp, hq, eqP, eqQ])

/-- Of the exports, the one that publishes a path is the one of its id. -/
theorem id_eq_iff (shaped : Shaped es) (he : e ∈ es) (publishesE : e.publishes path = true)
    (hf : f ∈ es) : f.id = e.id ↔ f.publishes path = true := by
  constructor
  · intro same
    rw [List.inj_on_of_nodup_map shaped.distinct hf he same]
    exact publishesE
  · intro publishesF
    rw [shaped.unique hf he publishesF publishesE]

/-- An export that publishes a path publishes no other. -/
theorem publishes_other (shaped : Shaped es) (he : e ∈ es) {other : String}
    (publishesE : e.publishes path = true) (ne : path ≠ other) : e.publishes other = false := by
  obtain ⟨p, hp⟩ := shaped.single e he
  have eqP := (Held.publishes_iff hp).mp publishesE
  rw [← Bool.not_eq_true, Held.publishes_iff hp, eqP]
  exact ne

/-- The shape allows for a new export of a new path. -/
theorem append (shaped : Shaped es) {id : Int64} (nonzero : id ≠ 0) (fresh : ∀ e ∈ es, e.id ≠ id)
    (absent : ∀ e ∈ es, e.publishes path = false) (clients : List String) :
    Shaped (es ++ [⟨id, [path], clients⟩]) where
  distinct := by
    rw [List.map_append]
    refine shaped.distinct.append (List.nodup_singleton _) ?_
    intro x hx hid
    obtain ⟨e, he, rfl⟩ := List.mem_map.mp hx
    exact fresh e he (List.mem_singleton.mp hid)
  nonzero e he := by
    rcases List.mem_append.mp he with he | he
    · exact shaped.nonzero e he
    · rw [List.mem_singleton.mp he]
      exact nonzero
  single e he := by
    rcases List.mem_append.mp he with he | he
    · exact shaped.single e he
    · rw [List.mem_singleton.mp he]
      exact ⟨path, rfl⟩
  apart := by
    rw [List.map_append]
    refine shaped.apart.append (List.nodup_singleton _) ?_
    intro x hx hpaths
    obtain ⟨e, he, rfl⟩ := List.mem_map.mp hx
    have : e.publishes path = true := (Held.publishes_iff (List.mem_singleton.mp hpaths)).mpr rfl
    rw [absent e he] at this
    cases this

theorem filter (shaped : Shaped es) (p : Held → Bool) : Shaped (es.filter p) where
  distinct := shaped.distinct.sublist (List.filter_sublist.map _)
  nonzero e he := shaped.nonzero e (List.mem_filter.mp he).1
  single e he := shaped.single e (List.mem_filter.mp he).1
  apart := shaped.apart.sublist (List.filter_sublist.map _)

/-- The clients are no part of the shape. -/
theorem map (shaped : Shaped es) (g : Held → Held) (ids : ∀ e, (g e).id = e.id)
    (paths : ∀ e, (g e).paths = e.paths) : Shaped (es.map g) where
  distinct := by
    rw [List.map_map, show Held.id ∘ g = Held.id from funext ids]
    exact shaped.distinct
  nonzero e he := by
    obtain ⟨f, hf, rfl⟩ := List.mem_map.mp he
    rw [ids]
    exact shaped.nonzero f hf
  single e he := by
    obtain ⟨f, hf, rfl⟩ := List.mem_map.mp he
    rw [paths]
    exact shaped.single f hf
  apart := by
    rw [List.map_map, show Held.paths ∘ g = Held.paths from funext paths]
    exact shaped.apart

end Shaped

/-! ## Maps of changed lists -/

theorem publishes_admitting (path other : String) (clients : List String) (e : Held) :
    (admitting path clients e).publishes other = e.publishes other := by
  unfold admitting
  split <;> rfl

/-- A new path is found behind the others. -/
theorem published_append {es : List Held} {path : String}
    (absent : ∀ e ∈ es, e.publishes path = false) (id : Int64) (clients : List String) :
    published (es ++ [⟨id, [path], clients⟩]) = (published es).insert path clients := by
  apply Finmap.ext_lookup
  intro other
  rw [lookup_published, List.find?_append]
  by_cases same : other = path
  · subst same
    have nothing : es.find? (·.publishes other) = none := by
      rw [List.find?_eq_none]
      intro e he
      rw [absent e he]
      decide
    rw [nothing, Finmap.lookup_insert]
    simp [Held.publishes]
  · have nothing : [(⟨id, [path], clients⟩ : Held)].find? (·.publishes other) = none := by
      simp [Held.publishes, Ne.symm same]
    rw [nothing, Option.or_none, Finmap.lookup_insert_of_ne _ same, lookup_published]

/-- Without what publishes a path, the path is not found, and others are as before. -/
theorem published_filter {es : List Held} (shaped : Shaped es) (path : String) :
    published (es.filter fun e => !e.publishes path) = (published es).erase path := by
  apply Finmap.ext_lookup
  intro other
  rw [lookup_published, List.find?_filter]
  by_cases same : other = path
  · subst same
    rw [Finmap.lookup_erase]
    simp
  · rw [Finmap.lookup_erase_ne same, lookup_published]
    congr 1
    apply List.find?_congr
    intro e he
    by_cases h : e.publishes other = true
    · rw [shaped.publishes_other he h same, h]
      rfl
    · rw [Bool.not_eq_true] at h
      simp [h]

/-- Paths are looked up among changed exports as they are among those that they were before. -/
theorem lookup_published_map (es : List Held) (path other : String) (clients : List String) :
    (published (es.map (admitting path clients))).lookup other =
      (es.find? (·.publishes other)).map fun e => (admitting path clients e).clients := by
  have same : (fun e : Held => e.publishes other) ∘ admitting path clients =
      fun e => e.publishes other := funext (publishes_admitting path other clients)
  rw [lookup_published, List.find?_map, same, Option.map_map]
  rfl

/-- What publishes a path is found with its new clients, and other paths are as before. -/
theorem published_map {es : List Held} (shaped : Shaped es) (path : String)
    (clients : List String) :
    published (es.map (admitting path clients)) =
      if path ∈ published es then (published es).insert path clients else published es := by
  apply Finmap.ext_lookup
  intro other
  rw [lookup_published_map]
  cases hfind : es.find? (·.publishes other) with
  | none =>
    -- A path that was not there is not there now.
    have absent : other ∉ published es := by
      rw [← Finmap.lookup_eq_none, lookup_published, hfind]
      rfl
    -- Changing clients adds no path: if the changed one is there, it is another.
    split
    · rename_i there
      have ne : other ≠ path := fun eq => absent (eq ▸ there)
      rw [Finmap.lookup_insert_of_ne _ ne, lookup_published, hfind]
      rfl
    · rw [lookup_published, hfind]
      rfl
  | some e =>
    have publishesE : e.publishes other = true := by
      have := List.find?_some hfind
      exact this
    have he : e ∈ es := List.mem_of_find?_eq_some hfind
    by_cases same : other = path
    · subst same
      have changed : admitting other clients e = { e with clients } := if_pos publishesE
      rw [if_pos (mem_published.mpr ⟨e, he, publishesE⟩), Finmap.lookup_insert, Option.map_some,
        changed]
    · have kept : admitting path clients e = e := by
        unfold admitting
        rw [shaped.publishes_other he publishesE same]
        rfl
      have before : (published es).lookup other = some e.clients := by
        rw [lookup_published, hfind]
        rfl
      split
      · rw [Finmap.lookup_insert_of_ne _ same, before, Option.map_some, kept]
      · rw [before, Option.map_some, kept]

/-- There are as many paths as exports. -/
theorem card_keys_published {es : List Held} (shaped : Shaped es) :
    (published es).keys.card = es.length := by
  have keys : (published es).keys = (es.flatMap Held.paths).toFinset := by
    ext path
    rw [Finmap.mem_keys, mem_published, List.mem_toFinset, List.mem_flatMap]
    simp [Held.publishes]
  -- Paths one by one instead of in lists.
  have single : ∀ es : List Held, Shaped es →
      (es.flatMap Held.paths).map (fun path => [path]) = es.map Held.paths := by
    intro es
    induction es with
    | nil => exact fun _ => rfl
    | cons e es ih =>
      intro shaped
      obtain ⟨path, hpath⟩ := shaped.single e List.mem_cons_self
      have rest : Shaped es := ⟨(List.nodup_cons.mp shaped.distinct).2,
        fun f hf => shaped.nonzero f (List.mem_cons_of_mem e hf),
        fun f hf => shaped.single f (List.mem_cons_of_mem e hf),
        (List.nodup_cons.mp shaped.apart).2⟩
      rw [List.flatMap_cons, List.map_append, ih rest, List.map_cons, hpath]
      rfl
  have nodup : (es.flatMap Held.paths).Nodup :=
    List.Nodup.of_map (fun path => [path]) (by rw [single es shaped]; exact shaped.apart)
  have length := congrArg List.length (single es shaped)
  rw [List.length_map, List.length_map] at length
  rw [keys, List.toFinset_card_of_nodup nodup, length]

/-! ## Calls on maps -/

namespace ExportCall.Does

variable {c : Client} {es es' : List Held} {call : ExportCall}
  {result : Except Failure ExportAnswer}

/-- Every call keeps the shape. -/
theorem shaped (does : call.Does c es result es') (shaped : Shaped es) : Shaped es' := by
  have admitted : ∀ path clients, Shaped (es.map (admitting path clients)) := by
    intro path clients
    refine shaped.map _ (fun e => ?_) (fun e => ?_) <;> unfold admitting <;> split <;> rfl
  cases does with
  | kept name there => exact shaped
  | added name id absent room nonzero fresh => exact shaped.append nonzero fresh absent []
  | refused name f absent full => exact shaped
  | removed name => exact shaped.filter _
  | replaced name clients => exact admitted _ _
  | cleared name => exact admitted _ _
  | asked name => exact shaped
  | looked name => exact shaped

/-- What a call does to the exports that are held, it means on their map. -/
theorem meaning_eq (does : call.Does c es result es') (shaped : Shaped es) :
    call.meaning c (published es) = (result.toOption, published es') := by
  cases does with
  | kept name there =>
    rw [meaning, if_pos (mem_published.mpr there)]
    rfl
  | added name id absent room nonzero fresh =>
    rw [meaning, if_neg (not_mem_published.mpr absent), card_keys_published shaped, if_pos room,
      published_append absent]
    rfl
  | refused name f absent full =>
    rw [meaning, if_neg (not_mem_published.mpr absent), card_keys_published shaped, if_neg full]
    rfl
  | removed name =>
    rw [meaning, published_filter shaped]
    rfl
  | replaced name clients =>
    rw [meaning, published_map shaped]
    rfl
  | cleared name =>
    rw [meaning, published_map shaped]
    rfl
  | asked name =>
    have same : decide (c.path name ∈ published es) = es.any (·.publishes (c.path name)) := by
      rw [Bool.eq_iff_iff, decide_eq_true_eq, mem_published, List.any_eq_true]
    rw [meaning, same]
    rfl
  | looked name =>
    rw [meaning, lookup_published]
    rfl

end ExportCall.Does

end OneFs
