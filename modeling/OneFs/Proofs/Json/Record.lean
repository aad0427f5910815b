import OneFs.Json.Reader
import OneFs.Proofs.Json.Tidy

/-!
# Reading values

What readers make of the documents of values, where there are no faults of grammar, and what the
members are that a record leaves undeclared.

- `Reader.Reads`: a reader takes a value for something, with one lemma per basic reader;
- `Fields.Accepts`: the fields of a record take looked-up members for something, with one lemma
  per kind of field;
- `reads_object`, `reads_distinct`, `reads_declared`: a record reads an object whose members its
  fields accept;
- `Undeclared`, `undeclared_others`: the members that a record keeps without declaring them are in
  the order of their keys, tidy, and have no declared key;
- `undeclared_filter_sorted`, `reads_written`: such members are found again next to the declared
  ones.
-/

namespace OneFs.Json

variable {α β : Type}

namespace Reader

/-- `r` finds nothing to object to in the value and takes it for `a`. -/
def Reads (r : Reader α) (v : Value) (a : α) : Prop :=
  r.fault v.doc = none ∧ r.value v.doc = a

theorem Reads.read_eq {r : Reader α} {v : Value} {a : α} (h : r.Reads v a) :
    r.read v.doc = .ok a := by
  rw [read, h.1, h.2]

/-- A text is read as something just if its document is, and nothing is wrong after it. -/
theorem decode_eq_ok_iff {r : Reader α} {text : String} {a : α} :
    r.decode text = .ok a ↔
      (r.fault (scan text).1 = none ∧ r.value (scan text).1 = a) ∧ (scan text).2 = none := by
  unfold decode
  generalize scan text = scanned
  obtain ⟨d, after⟩ := scanned
  dsimp only
  cases r.fault d with
  | some f => exact ⟨nofun, nofun⟩
  | none =>
    cases after with
    | some f => exact ⟨nofun, nofun⟩
    | none => simp

/-- What a text is read as is what some document stands for. -/
theorem exists_of_decode {r : Reader α} {text : String} {a : α} (h : r.decode text = .ok a) :
    ∃ d, r.value d = a :=
  ⟨_, (decode_eq_ok_iff.mp h).1.2⟩

theorem reads_string (s : String) : string.Reads (.str s) s :=
  ⟨rfl, rfl⟩

theorem reads_boolean (b : Bool) : boolean.Reads (.bool b) b :=
  ⟨rfl, rfl⟩

theorem reads_int64 (n : Int64) : int64.Reads (.ofInt64 n) n := by
  constructor
  · show (if -9223372036854775808 ≤ n.toInt ∧ n.toInt < 9223372036854775808 then none
      else _) = none
    rw [if_pos ⟨n.le_toInt, n.toInt_lt⟩]
  · exact n.ofInt_toInt

theorem reads_anything {v : Value} (h : v.Tidy) : anything.Reads v v :=
  ⟨v.valueFault_doc, v.value_doc h⟩

theorem reads_checked [Inhabited β] {r : Reader α} {f : α → Except Fault β} {v : Value} {a : α}
    {b : β} (h : r.Reads v a) (hf : f a = .ok b) : (r.checked f).Reads v b := by
  constructor
  · show (r.fault v.doc).or (faultOf (f (r.value v.doc))) = none
    rw [h.1, h.2, hf]
    rfl
  · unfold checked
    dsimp only
    rw [h.2, hf]

theorem itemDocs_eq_map (vs : List Value) : Value.itemDocs vs = vs.map Value.doc := by
  induction vs with
  | nil => rfl
  | cons v rest ih => exact congrArg (v.doc :: ·) ih

theorem firstFault_map {r : Reader α} {encode : β → Value} {f : β → α} (bs : List β) (i : Nat)
    (h : ∀ b ∈ bs, r.Reads (encode b) (f b)) :
    firstFault r i ((bs.map encode).map Value.doc) = none := by
  induction bs generalizing i with
  | nil => rfl
  | cons b rest ih =>
    rw [List.map_cons, List.map_cons, firstFault, (h b List.mem_cons_self).1,
      ih (i + 1) fun c hc => h c (List.mem_cons_of_mem _ hc)]
    rfl

/-- A list is read item by item. -/
theorem reads_list {r : Reader α} {encode : β → Value} {f : β → α} {bs : List β}
    (h : ∀ b ∈ bs, r.Reads (encode b) (f b)) :
    (list r).Reads (.arr (bs.map encode)) (bs.map f) := by
  constructor
  · show (firstFault r 0 (Value.itemDocs (bs.map encode))).or none = none
    rw [itemDocs_eq_map, firstFault_map bs 0 h]
    rfl
  · show (Value.itemDocs (bs.map encode)).map r.value = bs.map f
    rw [itemDocs_eq_map, List.map_map, List.map_map]
    exact List.map_congr_left fun b hb => (h b hb).2

/-- A list whose items are read as they are is read as it is. -/
theorem reads_items {r : Reader α} {encode : α → Value} {as : List α}
    (h : ∀ a ∈ as, r.Reads (encode a) a) : (list r).Reads (.arr (as.map encode)) as := by
  have read := reads_list (f := id) h
  rwa [List.map_id] at read

theorem reads_texts (ss : List String) : (list string).Reads (.ofTexts ss) ss :=
  reads_items fun s _ => reads_string s

/-- What is not `null` is read as it would be if it had to be there. -/
theorem reads_optional {r : Reader α} {v : Value} {a : α} (hv : v ≠ .null) (h : r.Reads v a) :
    (optional r).Reads v (some a) := by
  cases v with
  | null => exact absurd rfl hv
  | bool b => exact ⟨h.1, congrArg some h.2⟩
  | num n => exact ⟨h.1, congrArg some h.2⟩
  | str s => exact ⟨h.1, congrArg some h.2⟩
  | arr items => exact ⟨h.1, congrArg some h.2⟩
  | obj members => exact ⟨h.1, congrArg some h.2⟩

/-- So is what stands for nothing by `null`. -/
theorem reads_orNull {r : Reader α} {encode : α → Value} {o : Option α}
    (h : ∀ a, o = some a → encode a ≠ .null ∧ r.Reads (encode a) a) :
    (optional r).Reads (.orNull encode o) o := by
  cases o with
  | none => exact ⟨rfl, rfl⟩
  | some a => exact reads_optional (h a rfl).1 (h a rfl).2

end Reader

/-! ## Fields -/

/-- With members looked up by `find` and the members `rest` left over, the fields object to
nothing, miss nothing, and make up `a`. -/
structure Fields.Accepts (fs : Fields α) (find : String → Option Value)
    (rest : List (String × Value)) (a : α) : Prop where
  fault : ∀ f ∈ fs.declared, ∀ v, find f.name = some v → f.fault v.doc = none
  present : ∀ f ∈ fs.declared, f.presence = .required → (find f.name).isSome
  build : fs.build ⟨fun name => (find name).map Value.doc, rest⟩ = a

namespace Fields

variable {find : String → Option Value} {rest : List (String × Value)}

theorem accepts_seq {f : Fields (α → β)} {x : Fields α} {g : α → β} {a : α}
    (hf : f.Accepts find rest g) (hx : x.Accepts find rest a) :
    (f <*> x).Accepts find rest (g a) where
  fault p hp := (List.mem_append.mp hp).elim (hf.fault p) (hx.fault p)
  present p hp := (List.mem_append.mp hp).elim (hf.present p) (hx.present p)
  build := by
    show f.build _ (x.build _) = g a
    rw [hf.build, hx.build]

theorem accepts_map {x : Fields α} {g : α → β} {a : α} (hx : x.Accepts find rest a) :
    (g <$> x).Accepts find rest (g a) where
  fault := hx.fault
  present := hx.present
  build := congrArg g hx.build

theorem accepts_otherMembers : otherMembers.Accepts find rest rest where
  fault _ hf := absurd hf List.not_mem_nil
  present _ hf := absurd hf List.not_mem_nil
  build := rfl

/-- A field with a default takes its member for what the reader takes it for. -/
theorem accepts_fieldD {name : String} {r : Reader α} {default : α} {o : Option Value} {a : α}
    (hfind : find name = o) (hsome : ∀ v, o = some v → r.Reads v a)
    (hnone : o = none → default = a) :
    (fieldD name r default).Accepts find rest a where
  fault f hf v hv := by
    cases List.mem_singleton.mp hf
    exact (hsome v (hfind ▸ hv)).1
  present f hf h := by
    cases List.mem_singleton.mp hf
    cases h
  build := by
    show (((find name).map Value.doc).map r.value).getD default = a
    rw [hfind]
    cases o with
    | none => exact hnone rfl
    | some v => exact (hsome v rfl).2

theorem accepts_found {name : String} {r : Reader α} {default : α} {v : Value} {a : α}
    (hfind : find name = some v) (h : r.Reads v a) : (fieldD name r default).Accepts find rest a :=
  accepts_fieldD hfind (fun _ hv => Option.some.inj hv ▸ h) nofun

/-- A field with a default has it where its member is left out. -/
theorem accepts_absent {name : String} {r : Reader α} {default : α} (absent : find name = none) :
    (fieldD name r default).Accepts find rest default :=
  accepts_fieldD absent nofun fun _ => rfl

/-- A member that is written only if it has a value is read back as that value. -/
theorem accepts_optional {name : String} {r : Reader α} {encode : β → Value} {o : Option β}
    {g : β → α} (hfind : find name = o.map encode)
    (h : ∀ b, o = some b → encode b ≠ .null ∧ r.Reads (encode b) (g b)) :
    (field? name r).Accepts find rest (o.map g) := by
  refine accepts_fieldD hfind (fun v hv => ?_) (fun hn => ?_)
  · obtain ⟨b, rfl, rfl⟩ := Option.map_eq_some_iff.mp hv
    exact Reader.reads_optional (h b rfl).1 (h b rfl).2
  · rw [Option.map_eq_none_iff.mp hn]
    rfl

theorem accepts_optional_self {name : String} {r : Reader α} {encode : α → Value} {o : Option α}
    (hfind : find name = o.map encode)
    (h : ∀ a, encode a ≠ .null ∧ r.Reads (encode a) a) :
    (field? name r).Accepts find rest o := by
  have : (field? name r).Accepts find rest (o.map fun a => a) :=
    accepts_optional hfind fun a _ => h a
  rwa [Option.map_id'] at this

theorem accepts_nullable {name : String} {r : Reader α} {v : Value} {o : Option α}
    (hfind : find name = some v) (h : (optional r).Reads v o) :
    (nullableField name r).Accepts find rest o where
  fault f hf w hw := by
    cases List.mem_singleton.mp hf
    rw [hfind] at hw
    cases hw
    exact h.1
  present f hf h := by
    cases List.mem_singleton.mp hf
    cases h
  build := by
    show ((find name).map Value.doc).bind (optional r).value = o
    rw [hfind]
    exact h.2

/-- A member that an object leaves out if it has no value is read back as nothing. -/
theorem accepts_nullable_self {name : String} {r : Reader α} {encode : α → Value} {o : Option α}
    (hfind : find name = o.map encode) (h : ∀ a, encode a ≠ .null ∧ r.Reads (encode a) a) :
    (nullableField name r).Accepts find rest o := by
  cases o with
  | some a => exact accepts_nullable hfind (Reader.reads_optional (h a).1 (h a).2)
  | none =>
    have absent : find name = none := hfind
    refine ⟨fun f hf w hw => ?_, fun f hf required => ?_, ?_⟩
    · cases List.mem_singleton.mp hf
      rw [absent] at hw
      cases hw
    · cases List.mem_singleton.mp hf
      cases required
    · show ((find name).map Value.doc).bind (optional r).value = none
      rw [absent]
      rfl

theorem accepts_required [Inhabited α] {name : String} {r : Reader α} {v : Value} {a : α}
    (hfind : find name = some v) (h : r.Reads v a) :
    (requiredField name r).Accepts find rest a where
  fault f hf w hw := by
    cases List.mem_singleton.mp hf
    rw [hfind] at hw
    cases hw
    exact h.1
  present f hf _ := by
    cases List.mem_singleton.mp hf
    rw [hfind]
    rfl
  build := by
    show (((find name).map Value.doc).map r.value).getD default = a
    rw [hfind]
    exact h.2

end Fields

/-! ## Where the parts of a result come from -/

theorem Reader.exists_of_optional {r : Reader α} {d : Doc} {a : α}
    (h : (optional r).value d = some a) : ∃ d, r.value d = a := by
  cases d with
  | null => cases h
  | _ => exact ⟨_, Option.some.inj h⟩

theorem Reader.exists_of_list {r : Reader α} {d : Doc} {a : α} (h : a ∈ (list r).value d) :
    ∃ d, r.value d = a := by
  cases d with
  | arr items _ =>
    obtain ⟨d, -, hd⟩ := List.mem_map.mp h
    exact ⟨d, hd⟩
  | _ => cases h

namespace Fields

theorem exists_of_optional {name : String} {r : Reader α} {m : Members} {a : α}
    (h : (field? name r).build m = some a) : ∃ d, r.value d = a := by
  change ((m.declared name).map (optional r).value).getD none = some a at h
  cases hd : m.declared name with
  | none => rw [hd] at h; cases h
  | some d => exact Reader.exists_of_optional (d := d) (by rwa [hd] at h)

theorem exists_of_list {name : String} {r : Reader α} {m : Members} {a : α}
    (h : a ∈ (fieldD name (list r) []).build m) : ∃ d, r.value d = a := by
  change a ∈ ((m.declared name).map (list r).value).getD [] at h
  cases hd : m.declared name with
  | none => rw [hd] at h; cases h
  | some d => exact Reader.exists_of_list (d := d) (by rwa [hd] at h)

end Fields

/-! ## Objects -/

theorem docOf_memberDocs (name : String) (ms : List (String × Value)) :
    docOf name (Value.memberDocs ms) = (lookup name ms).map Value.doc := by
  induction ms with
  | nil => rfl
  | cons m rest ih =>
    rw [Value.memberDocs, docOf, lookup_cons, ih]
    show (if m.1 = name then _ else _) = _
    split <;> rfl

theorem mem_of_findField {name : String} {f : Field} {fields : List Field}
    (h : findField name fields = some f) : f ∈ fields ∧ f.name = name := by
  induction fields with
  | nil => cases h
  | cons g rest ih =>
    unfold findField at h
    split at h
    · rename_i hg
      cases h
      exact ⟨List.mem_cons_self, hg⟩
    · exact (ih h).imp_left (List.mem_cons_of_mem _)

theorem findField_isNone_iff {name : String} {fields : List Field} :
    (findField name fields).isNone ↔ name ∉ fields.map Field.name := by
  induction fields with
  | nil => simp [findField]
  | cons g rest ih =>
    rw [findField, List.map_cons, List.mem_cons, not_or, ← ih]
    by_cases h : g.name = name
    · simp [h]
    · simp [h, Ne.symm h]

theorem valueFault_others (others : Others) (v : Value) : others.fault v.doc = none := by
  cases others
  · exact v.valueFault_doc
  · exact v.skipFault_doc

/-- Nothing is wrong with members that have different keys and please the fields that declare
them. -/
theorem recordFault_memberDocs {fields : List Field} {others : Others}
    (ms : List (String × Value)) (i : Nat) (seen : List String)
    (hdistinct : (ms.map Prod.fst).Nodup) (hseen : ∀ m ∈ ms, m.1 ∉ seen)
    (hfault : ∀ m ∈ ms, ∀ f, findField m.1 fields = some f → f.fault m.2.doc = none) :
    recordFault fields others i seen (Value.memberDocs ms) = none := by
  induction ms generalizing i seen with
  | nil => rfl
  | cons m rest ih =>
    obtain ⟨hhead, htail⟩ := List.nodup_cons.mp hdistinct
    have hrest : ∀ m ∈ rest, ∀ f, findField m.1 fields = some f → f.fault m.2.doc = none :=
      fun m hm => hfault m (List.mem_cons_of_mem _ hm)
    have hseen' : ∀ m ∈ rest, m.1 ∉ seen := fun m hm => hseen m (List.mem_cons_of_mem _ hm)
    have named : (Doc.ofKey m.1).key = m.1 := rfl
    have keyed : (Doc.ofKey m.1).keyFault = none := rfl
    rw [Value.memberDocs, recordFault, named, keyed, Option.none_or]
    -- A declared key joins those that were seen, and no later member has it.
    cases hf : findField m.1 fields with
    | some f =>
      have hnew : ∀ n ∈ rest, n.1 ∉ m.1 :: seen := fun n hn hin => by
        rcases List.mem_cons.mp hin with h | h
        · exact hhead (h ▸ List.mem_map.mpr ⟨n, hn, rfl⟩)
        · exact hseen' n hn h
      dsimp only
      rw [if_neg (hseen m List.mem_cons_self), hfault m List.mem_cons_self f hf]
      exact ih (i + 1) (m.1 :: seen) htail hnew hrest
    | none =>
      dsimp only
      rw [valueFault_others, Option.none_or]
      exact ih (i + 1) seen htail hseen' hrest

theorem missingField_memberDocs (ms : List (String × Value)) (fields : List Field)
    (h : ∀ f ∈ fields, f.presence = .required → (lookup f.name ms).isSome) :
    missingField (Value.memberDocs ms) fields = none := by
  induction fields with
  | nil => rfl
  | cons f rest ih =>
    have hany : ∀ ms : List (String × Value), (lookup f.name ms).isSome →
        (Value.memberDocs ms).any (fun m => m.1.key == f.name) := by
      intro ms
      induction ms with
      | nil => exact fun h => by cases h
      | cons m rest ih =>
        obtain ⟨k, v⟩ := m
        intro h
        rw [Value.memberDocs, List.any_cons, Bool.or_eq_true]
        rw [lookup_cons] at h
        split at h
        · rename_i hk
          exact Or.inl (beq_iff_eq.mpr hk)
        · exact Or.inr (ih h)
    unfold missingField
    rw [if_neg fun hc => hc.2 (hany ms (h f List.mem_cons_self hc.1))]
    exact ih fun g hg => h g (List.mem_cons_of_mem _ hg)

/-- What a record makes of the members that no field declares. -/
theorem undeclared_memberDocs (fields : List Field) {ms : List (String × Value)}
    (hasc : Ascending ms) (htidy : ∀ m ∈ ms, m.2.Tidy) :
    undeclared fields (Value.memberDocs ms) =
      ms.filter fun m => (findField m.1 fields).isNone := by
  rw [undeclared, Value.memberValues_memberDocs ms (Value.membersTidy_iff.mpr htidy),
    sorted_of_ascending (hasc.filter _)]

theorem keys_memberValues (ms : List (String × Value)) :
    (Doc.memberValues (Value.memberDocs ms)).map Prod.fst = ms.map Prod.fst := by
  induction ms with
  | nil => rfl
  | cons m rest ih =>
    obtain ⟨k, v⟩ := m
    exact congrArg (k :: ·) ih

/-- Nothing is undeclared among members that are all declared. -/
theorem undeclared_eq_nil {fields : List Field} {ms : List (String × Value)}
    (declares : ∀ key ∈ ms.map Prod.fst, key ∈ fields.map Field.name) :
    undeclared fields (Value.memberDocs ms) = [] := by
  have none : (Doc.memberValues (Value.memberDocs ms)).filter
      (fun m => (findField m.1 fields).isNone) = [] := by
    refine List.filter_eq_nil_iff.mpr fun m hm undeclared => ?_
    have key : m.1 ∈ ms.map Prod.fst := keys_memberValues ms ▸ List.mem_map_of_mem hm
    exact findField_isNone_iff.mp undeclared (declares m.1 key)
  unfold undeclared
  rw [none]
  rfl

/-- A record has nothing to object to in an object whose keys are distinct and whose members its
fields accept. -/
theorem fault_record {fs : Fields α} {title : String} {others : Others}
    {ms rest : List (String × Value)} {a : α} (distinct : (ms.map Prod.fst).Nodup)
    (h : fs.Accepts (fun name => lookup name ms) rest a) :
    (record title others fs).fault (Value.obj ms).doc = none := by
  show (recordFault fs.declared others 0 [] (Value.memberDocs ms)).or
    (Option.or none (missingField (Value.memberDocs ms) fs.declared)) = none
  rw [recordFault_memberDocs _ 0 [] distinct (fun _ _ => List.not_mem_nil),
    missingField_memberDocs _ _ h.present]
  · rfl
  · intro m hm f hf
    obtain ⟨declared, name⟩ := mem_of_findField hf
    exact h.fault f declared m.2 (name ▸ lookup_of_mem distinct hm)

/-- What a record makes of an object is what its fields make of the members. -/
theorem value_record {fs : Fields α} {title : String} {others : Others}
    {ms rest : List (String × Value)} {a : α}
    (left : undeclared fs.declared (Value.memberDocs ms) = rest)
    (h : fs.Accepts (fun name => lookup name ms) rest a) :
    (record title others fs).value (Value.obj ms).doc = a := by
  show fs.build ⟨fun name => docOf name (Value.memberDocs ms),
    undeclared fs.declared (Value.memberDocs ms)⟩ = a
  rw [left, funext fun name => docOf_memberDocs name ms]
  exact h.build

/-- A record reads an object whose members its fields accept. -/
theorem reads_object {fs : Fields α} {title : String} {others : Others}
    {ms : List (String × Value)} {a : α} (htidy : ∀ m ∈ ms, m.2.Tidy)
    (h : fs.Accepts (fun name => lookup name (sorted ms))
      ((sorted ms).filter fun m => (findField m.1 fs.declared).isNone) a) :
    (record title others fs).Reads (Value.object ms) a := by
  have hasc := ascending_sorted ms
  have htidy' : ∀ m ∈ sorted ms, m.2.Tidy := fun m hm => htidy m (mem_sorted hm)
  exact ⟨fault_record hasc.nodup_keys h, value_record (undeclared_memberDocs _ hasc htidy') h⟩

/-- A record that has no use for undeclared members reads any object whose keys are distinct and
whose members its fields accept. -/
theorem reads_distinct {fs : Fields α} {title : String} {ms : List (String × Value)} {a : α}
    (hdistinct : (ms.map Prod.fst).Nodup)
    (h : ∀ rest, fs.Accepts (fun name => lookup name ms) rest a) :
    (record title .dropped fs).Reads (.obj ms) a :=
  ⟨fault_record hdistinct (h []), value_record rfl (h _)⟩

/-- A record reads an object whose keys are distinct and all declared, and whose members its fields
accept. Nothing is kept on the side. -/
theorem reads_declared {fs : Fields α} {title : String} {others : Others}
    {ms : List (String × Value)} {a : α} (distinct : (ms.map Prod.fst).Nodup)
    (declares : ∀ key ∈ ms.map Prod.fst, key ∈ fs.declared.map Field.name)
    (h : fs.Accepts (fun name => lookup name ms) [] a) :
    (record title others fs).Reads (.obj ms) a :=
  ⟨fault_record distinct h, value_record (undeclared_eq_nil declares) h⟩

/-- A record with a single field, which drops the others, reads it off any object whose keys are
distinct. -/
theorem reads_member [Inhabited α] {r : Reader α} {title name : String}
    {ms : List (String × Value)} {v : Value} {a : α} (hdistinct : (ms.map Prod.fst).Nodup)
    (hfind : lookup name ms = some v) (h : r.Reads v a) :
    (record title .dropped (requiredField name r)).Reads (.obj ms) a :=
  reads_distinct hdistinct fun _ => Fields.accepts_required hfind h

/-! ## Undeclared members -/

/-- Members that a record with the declared keys `names` keeps on the side. -/
structure Undeclared (names : List String) (ms : List (String × Value)) : Prop where
  ascending : Ascending ms
  tidy : ∀ m ∈ ms, m.2.Tidy
  foreign : ∀ m ∈ ms, m.1 ∉ names

theorem Undeclared.nil (names : List String) : Undeclared names [] :=
  ⟨Ascending.nil, fun _ h => absurd h List.not_mem_nil, fun _ h => absurd h List.not_mem_nil⟩

/-- Whatever document is read as a record, the members that no field declares are as they should
be. -/
theorem undeclared_others (fields : List Field) (d : Doc) :
    Undeclared (fields.map Field.name) (membersOf fields d).others := by
  cases d with
  | obj members tail =>
    refine ⟨ascending_sorted _, fun m hm => ?_, fun m hm => ?_⟩
    · exact Doc.tidy_memberValues members m (List.mem_filter.mp (mem_sorted hm)).1
    · exact findField_isNone_iff.mp (List.mem_filter.mp (mem_sorted hm)).2
  | _ => exact Undeclared.nil _

/-- The same for declared keys that are given by their names. -/
theorem undeclared_named {names : List String} {fields : List Field} (d : Doc)
    (declares : fields.map Field.name = names) : Undeclared names (membersOf fields d).others :=
  declares ▸ undeclared_others fields d

/-- Next to declared members, undeclared ones are found again as they are. -/
theorem undeclared_filter_sorted {fields : List Field} {declared extra : List (String × Value)}
    (hextra : Undeclared (fields.map Field.name) extra)
    (hdeclared : ∀ m ∈ declared, m.1 ∈ fields.map Field.name) :
    ((sorted (declared ++ extra)).filter fun m => (findField m.1 fields).isNone) = extra := by
  refine Ascending.ext ((ascending_sorted _).filter _) hextra.ascending fun key => ?_
  rw [lookup_filter fun k => (findField k fields).isNone]
  by_cases hkey : (findField key fields).isNone
  · have hnone : lookup key declared.reverse = none := lookup_eq_none_iff.mpr fun m hm heq =>
      findField_isNone_iff.mp hkey (heq ▸ hdeclared m (List.mem_reverse.mp hm))
    rw [if_pos hkey, lookup_sorted, List.reverse_append, lookup_append, hnone, Option.or_none,
      hextra.ascending.lookup_reverse]
  · have hnone : lookup key extra = none := lookup_eq_none_iff.mpr fun m hm heq =>
      hkey (findField_isNone_iff.mpr (heq ▸ hextra.foreign m hm))
    rw [if_neg hkey, hnone]

/-- A declared member is looked up among the declared ones. -/
theorem lookup_sorted_declared {names : List String} {declared extra : List (String × Value)}
    (hextra : Undeclared names extra) {name : String} (hname : name ∈ names) :
    lookup name (sorted (declared ++ extra)) = lookup name declared.reverse := by
  have hnone : lookup name extra.reverse = none := lookup_eq_none_iff.mpr fun m hm heq =>
    hextra.foreign m (List.mem_reverse.mp hm) (heq ▸ hname)
  rw [lookup_sorted, List.reverse_append, lookup_append, hnone, Option.none_or]

/-- A record reads what is written as its declared members with undeclared ones behind them, if its
fields accept the declared ones and it keeps the others. -/
theorem reads_written {fs : Fields α} {title : String} {others : Others} {names : List String}
    {declared extra : List (String × Value)} {a : α} (declares : fs.declared.map Field.name = names)
    (hextra : Undeclared names extra) (own : ∀ m ∈ declared, m.1 ∈ names)
    (htidy : ∀ m ∈ declared, m.2.Tidy)
    (h : ∀ find : String → Option Value,
      (∀ name ∈ names, find name = lookup name declared.reverse) → fs.Accepts find extra a) :
    (record title others fs).Reads (.object (declared ++ extra)) a := by
  subst declares
  refine reads_object (List.forall_mem_append.mpr ⟨htidy, hextra.tidy⟩) ?_
  rw [undeclared_filter_sorted hextra own]
  exact h _ fun _ hname => lookup_sorted_declared hextra hname

end OneFs.Json
