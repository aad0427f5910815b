import Mathlib.Data.List.Nodup
import Mathlib.Data.List.Perm.Subperm
import OneFs.Proofs.Export.Lossless
import OneFs.Proofs.Export.Server

/-!
# A server that keeps exports in memory

The state is the list of exports itself, and a new export gets the least id that is free. The server
is ideal, so there are ideal servers for both versions.

- `memory`: the server;
- `freshId?_spec`: while there are ids left, a free one is found;
- `decode_page`: the page that lists the exports is read as them;
- `memory_ideal`: the server is ideal.
-/

namespace OneFs

open Json Http

/-! ## New ids -/

/-- The ids that are tried for one more export, more than there are exports. -/
def candidates (count : Nat) : List Int64 :=
  (List.range (count + 1)).map fun n => Int64.ofNat (n + 1)

/-- The least candidate that is free, if not all ids are used. -/
def freshId? (es : List Held) : Option Int64 :=
  if es.length < idCount then
    (candidates es.length).find? fun id => es.all fun e => e.id != id
  else none

theorem toInt_candidate {n : Nat} (small : n < idCount) :
    (Int64.ofNat (n + 1)).toUInt64.toNat = n + 1 := by
  unfold idCount at small
  show (n + 1) % 2 ^ 64 = n + 1
  omega

/-- The candidates are distinct and not zero. -/
theorem candidates_spec {count : Nat} (room : count < idCount) :
    (candidates count).Nodup ∧ ∀ id ∈ candidates count, id ≠ 0 := by
  have number : ∀ n ∈ List.range (count + 1), (Int64.ofNat (n + 1)).toUInt64.toNat = n + 1 :=
    fun n hn => toInt_candidate (by have := List.mem_range.mp hn; omega)
  constructor
  · refine List.Nodup.map_on (fun m hm n hn same => ?_) List.nodup_range
    have := congrArg (fun id : Int64 => id.toUInt64.toNat) same
    rw [number m hm, number n hn] at this
    omega
  · intro id hid
    obtain ⟨n, hn, rfl⟩ := List.mem_map.mp hid
    intro zero
    have := number n hn
    rw [zero] at this
    cases this

/-- While there are ids left, one is found that is new. -/
theorem freshId?_spec {es : List Held} (room : es.length < idCount) :
    ∃ id, freshId? es = some id ∧ id ≠ 0 ∧ ∀ e ∈ es, e.id ≠ id := by
  obtain ⟨distinct, nonzero⟩ := candidates_spec room
  unfold freshId?
  rw [if_pos room]
  cases found : (candidates es.length).find? fun id => es.all fun e => e.id != id with
  | some id =>
    have free := List.find?_some found
    rw [List.all_eq_true] at free
    exact ⟨id, rfl, nonzero id (List.mem_of_find?_eq_some found),
      fun e he => bne_iff_ne.mp (free e he)⟩
  | none =>
    -- There are more candidates than exports, so not all of them can be used.
    have used : candidates es.length ⊆ es.map Held.id := by
      intro id hid
      have := List.find?_eq_none.mp found id hid
      rw [Bool.not_eq_true, List.all_eq_false] at this
      obtain ⟨e, he, same⟩ := this
      exact List.mem_map.mpr ⟨e, he, by simpa using same⟩
    have more := (List.Nodup.subperm distinct used).length_le
    simp [candidates] at more

/-! ## Pages -/

/-- An export as it is listed. -/
def Held.export (e : Held) : Export :=
  { Export.blank with id := e.id, paths := e.paths, clients := some e.clients }

/-- The exports as they are listed. -/
def page (es : List Held) : ExportList :=
  ⟨es.map Held.export, []⟩

theorem held_page (es : List Held) : (page es).exports.map Export.held = es := by
  show (es.map Held.export).map Export.held = es
  rw [List.map_map]
  exact List.map_id es

/-- A page can be read. -/
theorem legible_page (es : List Held) : (page es).encode.Legible 0 := by
  refine legible_object (by decide) fun m hm => ?_
  have only : m ∈ [("exports", Value.arr ((es.map Held.export).map Export.encode))] := by
    rwa [ExportList.declared, page, List.append_nil] at hm
  rw [List.mem_singleton.mp only]
  refine ⟨by decide, Value.itemsLegible_iff.mpr fun v hv => ?_⟩
  obtain ⟨x, hx, rfl⟩ := List.mem_map.mp hv
  obtain ⟨e, -, rfl⟩ := List.mem_map.mp hx
  refine legible_object (by decide) fun m hm => ?_
  have three : m ∈ [("id", Value.ofInt64 e.id), ("paths", .ofTexts e.paths),
      ("clients", .ofTexts e.clients)] := hm
  simp only [List.mem_cons, List.not_mem_nil, or_false] at three
  rcases three with rfl | rfl | rfl
  · exact fitsNumber_int64 e.id
  · exact legible_ofTexts (by decide) e.paths
  · exact legible_ofTexts (by decide) e.clients

/-- A page is read as the exports in it. -/
theorem decode_page (es : List Held) :
    ExportList.reader.decode (page es).encode.text = .ok (page es) := by
  have tidy : (page es).Tidy := by
    refine ⟨Undeclared.nil _, fun x hx => ?_⟩
    obtain ⟨e, -, rfl⟩ := List.mem_map.mp hx
    exact ⟨Undeclared.nil _, fun m hm => absurd hm List.not_mem_nil⟩
  have plain : (page es).reread = page es := by
    rw [ExportList.reread_eq_iff]
    intro p hp
    obtain ⟨x, hx, hp⟩ := List.mem_flatMap.mp hp
    obtain ⟨e, -, rfl⟩ := List.mem_map.mp hx
    exact absurd hp List.not_mem_nil
  have reads := ExportList.reads_encode tidy
  rw [plain] at reads
  exact reads.decode_text (legible_page es)

/-- The reply to a creation. -/
def created (id : Int64) : Value :=
  .obj [("id", .ofInt64 id)]

theorem decode_created (id : Int64) : Export.createdId.decode (created id).text = .ok id := by
  have distinct : (["id"] : List String).Nodup := by decide
  exact Reader.Reads.decode_text (reads_member distinct rfl (Reader.reads_int64 id))
    ⟨by decide, fitsNumber_int64 id, trivial⟩

/-! ## The server -/

/-- What is done with a request about all exports. -/
def answerAll (es : List Held) (r : Request) : Delivery × List Held :=
  if r.method = "GET" then (.received 200 (page es).encode.text, es)
  else if r.method = "POST" then
    match pathsIn.decode (Text.Utf8.text r.body), freshId? es with
    | .ok paths, some id => (.received 201 (created id).text, es ++ [⟨id, paths, []⟩])
    | .ok _, none => (.received 507 "", es)
    | .error _, _ => (.received 400 "", es)
  else (.received 405 "", es)

/-- What is done with a request about one export. -/
def answerOne (es : List Held) (e : Held) (r : Request) : Delivery × List Held :=
  if r.method = "PUT" then
    match clientsIn.decode (Text.Utf8.text r.body) with
    | .ok clients =>
      (.received 204 "", es.map fun f => if f.id = e.id then { f with clients } else f)
    | .error _ => (.received 400 "", es)
  else if r.method = "DELETE" then (.received 204 "", es.filter fun f => f.id ≠ e.id)
  else (.received 405 "", es)

/-- A server that keeps its exports in memory. -/
def memory (v : Version) : ExportServer (List Held) where
  answer es r :=
    if r.url.target = exportsTarget v none then answerAll es r
    else
      match es.find? fun e => exportsTarget v (some e.id) == r.url.target with
      | some e => answerOne es e r
      | none => (.received 404 "", es)
  held es := es

/-- Ids are told apart by the targets of their exports. -/
theorem exportsTarget_injective {v : Version} {a b : Option Int64}
    (h : exportsTarget v a = exportsTarget v b) : a = b := by
  have ids := Connection.resource_injective ((String.append_right_inj "/").mp h)
  exact Option.map_injective (fun _ _ same => id_injective same) ids

/-- What is asked about an export that is held is done with it. -/
theorem memory_answerOne {v : Version} {es : List Held} (shaped : Shaped es) {e : Held}
    (mem : e ∈ es) {r : Request} (target : r.url.target = exportsTarget v (some e.id)) :
    (memory v).answer es r = answerOne es e r := by
  have other : ¬ r.url.target = exportsTarget v none := by
    rw [target]
    exact fun h => by cases exportsTarget_injective h
  have distinct : (es.map fun f => toString f.id).Nodup := by
    have texts := shaped.distinct.map (f := fun id => toString id) fun _ _ same => id_injective same
    rwa [List.map_map] at texts
  -- Ids are distinct, so what is found by its target is what was asked about.
  have found : es.find? (fun f => exportsTarget v (some f.id) == r.url.target) = some e := by
    rw [target]
    exact Connection.find?_resource distinct mem v.exportsPath
  show (if r.url.target = exportsTarget v none then _ else _) = _
  rw [if_neg other, found]

/-- The server is ideal. -/
theorem memory_ideal (v : Version) : (memory v).Ideal v where
  lists es r shaped method target := by
    refine ⟨200, (page es).encode.text, page es, es, ?_, rfl, decode_page es, held_page es, rfl⟩
    show (if r.url.target = exportsTarget v none then answerAll es r else _) = _
    rw [if_pos target, answerAll, if_pos method]
  creates es r paths shaped method target asks room := by
    obtain ⟨id, found, nonzero, fresh⟩ := freshId?_spec (show es.length < idCount from room)
    refine ⟨201, (created id).text, id, es ++ [⟨id, paths, []⟩], ?_, rfl, decode_created id,
      nonzero, fresh, rfl⟩
    show (if r.url.target = exportsTarget v none then answerAll es r else _) = _
    rw [if_pos target, answerAll, method, asks, found]
    rfl
  refuses es r paths shaped method target asks full := by
    refine ⟨507, "", es, ?_, rfl, rfl⟩
    have nothing : freshId? es = none := if_neg full
    show (if r.url.target = exportsTarget v none then answerAll es r else _) = _
    rw [if_pos target, answerAll, method, asks, nothing]
    rfl
  replaces es r e mem clients shaped method target asks := by
    have one : (memory v).answer es r = answerOne es e r := memory_answerOne shaped mem target
    refine ⟨204, "", _, ?_, rfl, rfl, rfl⟩
    rw [one, answerOne, if_pos method, asks]
    rfl
  removes es r e mem shaped method target := by
    have one : (memory v).answer es r = answerOne es e r := memory_answerOne shaped mem target
    refine ⟨204, "", _, ?_, rfl, rfl, rfl⟩
    rw [one, answerOne, method]
    rfl

end OneFs
