import OneFs.Proofs.Volume.Clients

/-!
# Looking up an export by id or by volume

An export is looked up in the listing of all exports, by an id and by the path of a volume at once:
the first one is taken that has either. So the id decides if no export in front of the one that has
it publishes the volume, and the volume decides if no export has the id.

- `find?_publisher`: looking for exports by their path alone;
- `exportOf_of_match`, `exportOf_of_no_match`: the look-up with and without an export of the id;
- `exportOf_takes_first`: which export is found, and when it is the one of the id.
-/

namespace OneFs

open Exchange

variable {σ : Type} {answer : σ → Http.Request → Http.Delivery × σ} {s t : σ} {c : Client}
  {exports : List Export}

/-- Among exports that do not have the id, only the path counts. -/
theorem find?_publisher {id : Int64} (others : ∀ e ∈ exports, e.id ≠ id) (path : String) :
    exports.find? (fun e => some e.id == some id || e.hasPath path) =
      (publishers path exports).head? := by
  rw [← List.head?_filter]
  refine congrArg List.head? (List.filter_congr fun e he => ?_)
  have differs : (some e.id == some id) = false := by simpa using others e he
  rw [differs, Bool.false_or]

/-- With an export of the id, the look-up ends there, or at an export in front of it. -/
theorem exportOf_of_match {id : Int64} {ahead behind : List Export} {e : Export}
    (listed : c.exports.Ends answer s (.ok (ahead ++ e :: behind)) t) (has : e.id = id)
    (first : ∀ x ∈ ahead, x.id ≠ id) (name : String) :
    (c.exportOf (some id) name).Ends answer s
      (.ok (some ((publishers (c.path name) ahead).headD e))) t := by
  have found : (ahead ++ e :: behind).find? (fun x => some x.id == some id ||
      x.hasPath (c.path name)) = some ((publishers (c.path name) ahead).headD e) := by
    rw [List.find?_append, find?_publisher first, List.find?_cons_of_pos (by simp [has])]
    cases publishers (c.path name) ahead <;> rfl
  rw [← found]
  exact listed.bind (.done _)

/-- Without one, it ends at the first export of the path, if there is one. -/
theorem exportOf_of_no_match {id : Int64} (listed : c.exports.Ends answer s (.ok exports) t)
    (none : ∀ e ∈ exports, e.id ≠ id) (name : String) :
    (c.exportOf (some id) name).Ends answer s (.ok (publishers (c.path name) exports).head?) t := by
  rw [← find?_publisher none]
  exact listed.bind (.done _)

/-- Looking up an export by an id and by a volume, whatever is listed. If an export has the id, and
some exports stand in front of the first that has it: the first of these that publishes the volume
is found, and if there is none, the one that has the id. So an export with the id is found just if
none of those in front of it publishes the volume. If no export has the id, the first one that
publishes the volume is found, and nothing if there is none. -/
theorem exportOf_takes_first (listed : c.exports.Ends answer s (.ok exports) t) (id : Int64)
    (name : String) :
    ∃ found, (c.exportOf (some id) name).Ends answer s (.ok found) t ∧
      (∀ ahead e behind, exports = ahead ++ e :: behind → e.id = id → (∀ x ∈ ahead, x.id ≠ id) →
        found = some ((publishers (c.path name) ahead).headD e) ∧
          (found.map Export.id = some id ↔ ∀ x ∈ ahead, c.path name ∉ x.paths)) ∧
      ((∀ e ∈ exports, e.id ≠ id) → found = (publishers (c.path name) exports).head?) := by
  obtain ⟨found, ends⟩ : ∃ found, (c.exportOf (some id) name).Ends answer s (.ok found) t :=
    ⟨_, listed.bind (.done _)⟩
  refine ⟨found, ends, ?_, ?_⟩
  · rintro ahead e behind rfl has first
    have result := (exportOf_of_match listed has first name).result_eq
    obtain rfl := Except.ok.inj (ends.result_eq.symm.trans result)
    refine ⟨rfl, ?_⟩
    have published : (∀ x ∈ ahead, c.path name ∉ x.paths) ↔
        publishers (c.path name) ahead = [] := by
      simp [publishers, Export.hasPath]
    rw [published]
    cases inFront : publishers (c.path name) ahead with
    | nil => simpa using has
    | cons x rest =>
      -- What is in front of the id does not have it.
      have mem : x ∈ publishers (c.path name) ahead := inFront ▸ List.mem_cons_self
      simpa using first x (List.mem_of_mem_filter mem)
  · intro none
    have result := (exportOf_of_no_match listed none name).result_eq
    exact Except.ok.inj (ends.result_eq.symm.trans result)

/-- A listing of an export of the volume `a`, and of one of the volume `b` behind it. -/
def exportedApart : Incoming :=
  .message 200 (Text.Utf8.bytes ("\x7b\"exports\": [" ++
    "\x7b\"id\": 1, \"paths\": [\"/ifs/volumes/a\"]\x7d, " ++
    "\x7b\"id\": 2, \"paths\": [\"/ifs/volumes/b\"]\x7d]\x7d")) true

theorem exportedApart_listed :
    ∃ e f, (Client.mk localConnection).exports.Ends (replies .closed) [exportedApart]
        (.ok [e, f]) [] ∧
      (e.id, e.paths) = (1, ["/ifs/volumes/a"]) ∧ (f.id, f.paths) = (2, ["/ifs/volumes/b"]) := by
  have listing : ∃ exports, (Client.mk localConnection).exports.Ends (replies .closed)
      [exportedApart] (.ok exports) [] ∧ exports.map (fun e => (e.id, e.paths)) =
        [(1, ["/ifs/volumes/a"]), (2, ["/ifs/volumes/b"])] :=
    Ends.exists_of_view (by decide +kernel)
  obtain ⟨exports, listed, exported⟩ := listing
  obtain ⟨e, f, rfl, first, second⟩ : ∃ e f, exports = [e, f] ∧
      (e.id, e.paths) = (1, ["/ifs/volumes/a"]) ∧ (f.id, f.paths) = (2, ["/ifs/volumes/b"]) := by
    simpa [List.map_eq_cons_iff] using exported
  exact ⟨e, f, listed, first, second⟩

/-- Looked up by its id and its own volume, the second of them is found. -/
theorem exportOf_takes_second :
    ∃ e f found, (Client.mk localConnection).exports.Ends (replies .closed) [exportedApart]
        (.ok [e, f]) [] ∧
      ((Client.mk localConnection).exportOf (some 2) "b").Ends (replies .closed) [exportedApart]
        (.ok found) [] ∧
      found.map Export.id = some 2 := by
  obtain ⟨e, f, listed, first, second⟩ := exportedApart_listed
  obtain ⟨id, paths⟩ := Prod.mk.inj first
  obtain ⟨found, ends, both, -⟩ := exportOf_takes_first listed 2 "b"
  refine ⟨e, f, found, listed, ends, ?_⟩
  have other : ∀ x ∈ [e], x.id ≠ 2 := List.forall_mem_singleton.mpr (by rw [id]; decide)
  refine (both [e] f [] rfl (Prod.mk.inj second).1 other).2.mpr ?_
  refine List.forall_mem_singleton.mpr ?_
  rw [paths]
  decide

/-- Looked up by the same id and the other volume, the first of them is found, although the second
has the id. -/
theorem exportOf_misses_id :
    ∃ e f, (Client.mk localConnection).exports.Ends (replies .closed) [exportedApart]
        (.ok [e, f]) [] ∧
      f.id = 2 ∧ e.id ≠ 2 ∧
      ((Client.mk localConnection).exportOf (some 2) "a").Ends (replies .closed) [exportedApart]
        (.ok (some e)) [] := by
  obtain ⟨e, f, listed, first, second⟩ := exportedApart_listed
  obtain ⟨id, paths⟩ := Prod.mk.inj first
  have differs : e.id ≠ 2 := by rw [id]; decide
  have other : ∀ x ∈ [e], x.id ≠ 2 := List.forall_mem_singleton.mpr differs
  have inFront : publishers "/ifs/volumes/a" [e] = [e] := by
    simp [publishers, Export.hasPath, paths]
  have found := exportOf_of_match listed (Prod.mk.inj second).1 other "a"
  rw [show (Client.mk localConnection).path "a" = "/ifs/volumes/a" from rfl, inFront] at found
  exact ⟨e, f, listed, (Prod.mk.inj second).1, differs, found⟩

end OneFs
