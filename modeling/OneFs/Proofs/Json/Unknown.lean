import OneFs.Proofs.Json.Record

/-!
# Unknown members

What a record that keeps undeclared members makes of an object: which members of the text it keeps
on the side, with which values, and what is left of them when it is written.

- `lastOf`: the document that counts for a key; of two members with one key the later does;
- `Accepted`, `accepted_of_fault`: the members of an object that a record accepts;
- `KeepsUnknown`, `keepsUnknown_record`: a record keeps what it does not declare;
- `OptionalKept`, `DefaultKept`: what its fields hold is kept in their turn;
- `Reader.Whole`: a reader that accepts nothing that could not be read as a value, with one lemma
  per reader; the text of a record of such fields can be read as a value.
-/

namespace OneFs.Json

variable {α β : Type}

/-! ## Members of documents -/

/-- The members of an object. -/
def Doc.members : Doc → List (Doc × Doc)
  | .obj members _ => members
  | _ => []

/-- The document of the last member with a key. -/
def lastOf (key : String) (members : List (Doc × Doc)) : Option Doc :=
  docOf key members.reverse

theorem docOf_append (key : String) (ms ns : List (Doc × Doc)) :
    docOf key (ms ++ ns) = (docOf key ms).or (docOf key ns) := by
  induction ms with
  | nil => rfl
  | cons m rest ih =>
    obtain ⟨k, d⟩ := m
    rw [List.cons_append, docOf, docOf, ih]
    split <;> rfl

theorem mem_of_docOf {key : String} {d : Doc} {ms : List (Doc × Doc)} (h : docOf key ms = some d) :
    ∃ k, (k, d) ∈ ms ∧ k.key = key := by
  induction ms with
  | nil => cases h
  | cons m rest ih =>
    obtain ⟨k, e⟩ := m
    rw [docOf] at h
    split at h
    · rename_i hk
      cases h
      exact ⟨k, List.mem_cons_self, hk⟩
    · obtain ⟨k', hmem, hk'⟩ := ih h
      exact ⟨k', List.mem_cons_of_mem _ hmem, hk'⟩

theorem mem_of_lastOf {key : String} {d : Doc} {ms : List (Doc × Doc)}
    (h : lastOf key ms = some d) : ∃ k, (k, d) ∈ ms ∧ k.key = key := by
  obtain ⟨k, hmem, hk⟩ := mem_of_docOf h
  exact ⟨k, List.mem_reverse.mp hmem, hk⟩

theorem memberValues_eq_map (ms : List (Doc × Doc)) :
    Doc.memberValues ms = ms.map fun m => (m.1.key, m.2.value) := by
  induction ms with
  | nil => rfl
  | cons m rest ih => exact congrArg ((m.1.key, m.2.value) :: ·) ih

/-- Of values with one key the later is that of the last document. -/
theorem lookup_memberValues_reverse (key : String) (ms : List (Doc × Doc)) :
    lookup key (Doc.memberValues ms).reverse = (lastOf key ms).map Doc.value := by
  have forwards : ∀ ms : List (Doc × Doc),
      lookup key (ms.map fun m => (m.1.key, m.2.value)) = (docOf key ms).map Doc.value := by
    intro ms
    induction ms with
    | nil => rfl
    | cons m rest ih =>
      rw [List.map_cons, lookup_cons, docOf, ih]
      split <;> rfl
  rw [memberValues_eq_map, ← List.map_reverse, forwards]
  rfl

/-! ## Accepted objects -/

/-- Members that a record with these fields accepts, when it keeps the ones that it does not
declare: keys are strings, undeclared members can be read as values, declared ones please their
fields and stand there once. -/
structure Accepted (fields : List Field) (members : List (Doc × Doc)) : Prop where
  keys : ∀ m ∈ members, m.1.keyFault = none
  others : ∀ m ∈ members, findField m.1.key fields = none → m.2.valueFault = none
  declared : ∀ m ∈ members, ∀ f, findField m.1.key fields = some f → f.fault m.2 = none
  once : ∀ key f, findField key fields = some f → lastOf key members = docOf key members

theorem accepted_of_recordFault {fields : List Field} {members : List (Doc × Doc)} {i : Nat}
    {seen : List String} (h : recordFault fields .kept i seen members = none) :
    Accepted fields members ∧
      ∀ key ∈ seen, ∀ f, findField key fields = some f → docOf key members = none := by
  induction members generalizing i seen with
  | nil =>
    exact ⟨⟨fun _ hm => absurd hm List.not_mem_nil, fun _ hm => absurd hm List.not_mem_nil,
      fun _ hm => absurd hm List.not_mem_nil, fun _ _ _ => rfl⟩, fun _ _ _ _ => rfl⟩
  | cons m rest ih =>
    obtain ⟨k, d⟩ := m
    rw [recordFault, Option.or_eq_none_iff] at h
    obtain ⟨proper, h⟩ := h
    -- The last of all members is the last of the others, unless these do not have its key.
    have last : ∀ key, lastOf key ((k, d) :: rest) =
        (lastOf key rest).or (if k.key = key then some d else none) := by
      intro key
      rw [lastOf, List.reverse_cons, docOf_append]
      rfl
    cases found : findField k.key fields with
    | some f =>
      rw [found] at h
      dsimp only at h
      split at h
      · cases h
      · rename_i new
        rw [Option.or_eq_none_iff, Option.map_eq_none_iff] at h
        obtain ⟨later, absent⟩ := ih h.2
        have alone : docOf k.key rest = none := absent k.key List.mem_cons_self f found
        refine ⟨⟨?_, ?_, ?_, ?_⟩, ?_⟩
        · exact List.forall_mem_cons.mpr ⟨proper, later.keys⟩
        · refine List.forall_mem_cons.mpr ⟨fun undeclared => ?_, later.others⟩
          rw [found] at undeclared
          cases undeclared
        · refine List.forall_mem_cons.mpr ⟨fun g hg => ?_, later.declared⟩
          rw [found] at hg
          cases hg
          exact h.1
        · intro key g hg
          rw [last, docOf, later.once key g hg]
          by_cases same : k.key = key
          · subst same
            rw [alone]
            rfl
          · rw [if_neg same, if_neg same, Option.or_none]
        · intro key hkey g hg
          have other : k.key ≠ key := fun same => new (same ▸ hkey)
          rw [docOf, if_neg other]
          exact absent key (List.mem_cons_of_mem _ hkey) g hg
    | none =>
      rw [found] at h
      dsimp only at h
      rw [Option.or_eq_none_iff] at h
      obtain ⟨later, absent⟩ := ih h.2
      have other : ∀ {key g}, findField key fields = some g → k.key ≠ key := by
        rintro key g hg rfl
        rw [found] at hg
        cases hg
      refine ⟨⟨?_, ?_, ?_, ?_⟩, ?_⟩
      · exact List.forall_mem_cons.mpr ⟨proper, later.keys⟩
      · exact List.forall_mem_cons.mpr ⟨fun _ => h.1, later.others⟩
      · exact List.forall_mem_cons.mpr
          ⟨fun g hg => absurd rfl (other hg), later.declared⟩
      · intro key g hg
        rw [last, docOf, later.once key g hg, if_neg (other hg), if_neg (other hg), Option.or_none]
      · intro key hkey g hg
        rw [docOf, if_neg (other hg)]
        exact absent key hkey g hg

/-- Where every member can be read as a value, it makes no difference to a record whether it keeps the
members that it does not declare. -/
theorem recordFault_kept {fields : List Field} {members : List (Doc × Doc)} {i : Nat}
    {seen : List String} (whole : Doc.membersFault members = none)
    (h : recordFault fields .dropped i seen members = none) :
    recordFault fields .kept i seen members = none := by
  induction members generalizing i seen with
  | nil => rfl
  | cons m rest ih =>
    obtain ⟨k, d⟩ := m
    rw [Doc.membersFault, Option.or_eq_none_iff, Option.or_eq_none_iff] at whole
    obtain ⟨proper, readable, others⟩ := whole
    rw [recordFault, Option.or_eq_none_iff] at h ⊢
    refine ⟨proper, ?_⟩
    obtain ⟨-, h⟩ := h
    cases found : findField k.key fields with
    | some f =>
      rw [found] at h
      dsimp only at h ⊢
      split at h
      · cases h
      · rename_i new
        rw [Option.or_eq_none_iff] at h
        rw [if_neg new, Option.or_eq_none_iff]
        exact ⟨h.1, ih others h.2⟩
    | none =>
      rw [found] at h
      dsimp only at h ⊢
      rw [Option.or_eq_none_iff] at h ⊢
      exact ⟨readable, ih others h.2⟩

/-- So is what becomes of an object. -/
theorem fault_record_kept {title : String} {fs : Fields α} {members : List (Doc × Doc)}
    {tail : Option Fault} (whole : (Doc.obj members tail).valueFault = none)
    (h : (record title .dropped fs).fault (.obj members tail) = none) :
    (record title .kept fs).fault (.obj members tail) = none := by
  rw [Doc.valueFault, Option.or_eq_none_iff] at whole
  change (recordFault fs.declared .dropped 0 [] members).or _ = none at h
  show (recordFault fs.declared .kept 0 [] members).or _ = none
  rw [Option.or_eq_none_iff] at h ⊢
  exact ⟨recordFault_kept whole.1 h.1, h.2⟩

/-- A record that keeps undeclared members accepts objects only. -/
theorem accepted_of_fault {title : String} {fs : Fields α} {d : Doc}
    (h : (record title .kept fs).fault d = none) :
    d = .obj d.members none ∧ Accepted fs.declared d.members := by
  cases d with
  | obj members tail =>
    change (recordFault fs.declared .kept 0 [] members).or (tail.or _) = none at h
    rw [Option.or_eq_none_iff, Option.or_eq_none_iff] at h
    obtain ⟨clean, rfl, -⟩ := h
    exact ⟨rfl, (accepted_of_recordFault clean).1⟩
  | beyond inner => cases inner <;> cases h
  | _ => cases h

/-! ## What is kept -/

/-- A record that is read from the document `d`, keeps `extra` on the side and is written as
`written` does right by the members that it does not declare: it is an object in the text, it keeps
the members with other than the declared keys `names`, with the values that reading them as values
gives, the last of those with one key, and no others, and it is written as an object with distinct
keys in which these members are as they were and which has no other key than declared ones and those
of the text. -/
structure KeepsUnknown (names : List String) (d : Doc) (extra : List (String × Value))
    (written : Value) : Prop where
  object : d = .obj d.members none
  proper : ∀ m ∈ d.members, m.1.keyFault = none
  kept : ∀ key, key ∉ names →
    (lookup key extra).map Except.ok = (lastOf key d.members).map anything.read
  generic : ∃ ms, d.value = .obj ms ∧ extra = ms.filter fun m => m.1 ∉ names
  foreign : ∀ m ∈ extra, m.1 ∉ names
  distinct : (extra.map Prod.fst).Nodup
  written : ∃ out, written = .obj out ∧ (out.map Prod.fst).Nodup ∧ (∀ m ∈ extra, m ∈ out) ∧
    ∀ m ∈ out, m.1 ∈ names ∨ ∃ member ∈ d.members, member.1.key = m.1

/-- The undeclared members are those of the whole object but for the declared ones. -/
theorem undeclared_eq_filter (fields : List Field) (members : List (Doc × Doc)) :
    undeclared fields members =
      (sorted (Doc.memberValues members)).filter fun m => m.1 ∉ fields.map Field.name := by
  refine (ascending_sorted _).ext ((ascending_sorted _).filter _) fun key => ?_
  rw [lookup_filter fun k => decide (k ∉ fields.map Field.name), lookup_sorted, lookup_sorted,
    ← List.filter_reverse, lookup_filter fun k => (findField k fields).isNone]
  simp only [findField_isNone_iff, decide_eq_true_eq]

/-- An undeclared member is kept with the value of the last document of its key. -/
theorem lookup_undeclared {fields : List Field} {members : List (Doc × Doc)} {key : String}
    (foreign : key ∉ fields.map Field.name) :
    lookup key (undeclared fields members) = (lastOf key members).map Doc.value := by
  rw [undeclared_eq_filter, lookup_filter fun k => decide (k ∉ fields.map Field.name),
    if_pos (decide_eq_true foreign), lookup_sorted, lookup_memberValues_reverse]

/-- A record keeps what it does not declare if it is written with its undeclared members next to
declared ones. -/
theorem keepsUnknown_record {title : String} {fs : Fields α} {d : Doc} {names : List String}
    (accepted : (record title .kept fs).fault d = none) (declares : fs.declared.map Field.name = names)
    {declared : List (String × Value)} (own : ∀ m ∈ declared, m.1 ∈ names) :
    KeepsUnknown names d (membersOf fs.declared d).others
      (.object (declared ++ (membersOf fs.declared d).others)) := by
  obtain ⟨object, accepts⟩ := accepted_of_fault accepted
  subst declares
  have others : (membersOf fs.declared d).others = undeclared fs.declared d.members := by
    rw [object]
    rfl
  have extra : Undeclared _ (membersOf fs.declared d).others := undeclared_others fs.declared d
  rw [others] at extra ⊢
  refine ⟨object, accepts.keys, fun key foreign => ?_, ?_, extra.foreign, extra.ascending.nodup_keys,
    _, rfl, (ascending_sorted _).nodup_keys, fun m hm => ?_, fun m hm => ?_⟩
  · rw [lookup_undeclared foreign]
    cases last : lastOf key d.members with
    | none => rfl
    | some inner =>
      obtain ⟨k, hmem, rfl⟩ := mem_of_lastOf last
      have unfaulted : inner.valueFault = none := accepts.others _ hmem
        (Option.isNone_iff_eq_none.mp (findField_isNone_iff.mpr foreign))
      show some (Except.ok inner.value) = some (anything.read inner)
      rw [Reader.read, show anything.fault inner = none from unfaulted]
      rfl
  · refine ⟨sorted (Doc.memberValues d.members), ?_, undeclared_eq_filter _ _⟩
    conv_lhs => rw [object]
    rfl
  · -- Sorted in among the declared members, a member is found under its own key.
    have found : lookup m.1 (sorted (declared ++ undeclared fs.declared d.members)) = some m.2 := by
      rw [lookup_sorted, List.reverse_append, lookup_append, extra.ascending.lookup_reverse,
        extra.ascending.lookup_eq_of_mem hm]
      rfl
    exact mem_of_lookup found
  · rcases List.mem_append.mp (mem_sorted hm) with hm | hm
    · exact .inl (own m hm)
    · right
      have kept : lookup m.1 (undeclared fs.declared d.members) = _ :=
        lookup_undeclared (extra.foreign m hm)
      rw [extra.ascending.lookup_eq_of_mem hm] at kept
      obtain ⟨inner, last, -⟩ := Option.map_eq_some_iff.mp kept.symm
      obtain ⟨k, hmem, hk⟩ := mem_of_lastOf last
      exact ⟨(k, inner), hmem, hk⟩

/-! ## Records in records -/

/-- A field with a default is left out and has it, or is read from the document of its key. -/
theorem read_fieldD {title name : String} {r : Reader β} (default : β) {fs : Fields α} {d : Doc}
    (accepted : (record title .kept fs).fault d = none)
    (found : findField name fs.declared = some ⟨name, .defaulted, r.fault⟩) :
    (lastOf name d.members = none ∧
      (fieldD name r default).build (membersOf fs.declared d) = default) ∨
    ∃ inner, lastOf name d.members = some inner ∧ r.fault inner = none ∧
      (fieldD name r default).build (membersOf fs.declared d) = r.value inner := by
  obtain ⟨object, accepts⟩ := accepted_of_fault accepted
  have once := accepts.once name _ found
  have built : (fieldD name r default).build (membersOf fs.declared d) =
      ((docOf name d.members).map r.value).getD default := by
    rw [object]
    rfl
  rw [built, once]
  cases there : docOf name d.members with
  | none => exact .inl ⟨rfl, rfl⟩
  | some inner =>
    obtain ⟨k, hmem, rfl⟩ := mem_of_docOf there
    exact .inr ⟨inner, rfl, accepts.declared _ hmem _ found, rfl⟩

/-- A field with a default holds what its reader makes of some document, or the default. -/
theorem field_holds {title name : String} {r : Reader β} {default : β} {fs : Fields α} {d : Doc}
    {motive : β → Prop} (accepted : (record title .kept fs).fault d = none)
    (found : findField name fs.declared = some ⟨name, .defaulted, r.fault⟩) (blank : motive default)
    (read : ∀ inner, r.fault inner = none → motive (r.value inner)) :
    motive ((fieldD name r default).build (membersOf fs.declared d)) := by
  rcases read_fieldD default accepted found with ⟨-, eq⟩ | ⟨inner, -, fine, eq⟩
  · rw [eq]
    exact blank
  · rw [eq]
    exact read inner fine

/-- What an optional field holds is related to the document of its key, if there is one that is not
`null`; if there is none, it holds nothing. -/
inductive OptionalKept (keeps : Doc → α → Prop) : Option Doc → Option α → Prop where
  | absent : OptionalKept keeps none none
  | null : OptionalKept keeps (some .null) none
  | there {d : Doc} {a : α} (h : keeps d a) : OptionalKept keeps (some d) (some a)

/-- What a field holds is related to the document of its key; without one it is the default. -/
inductive DefaultKept (keeps : Doc → α → Prop) (default : α) : Option Doc → α → Prop where
  | absent : DefaultKept keeps default none default
  | there {d : Doc} {a : α} (h : keeps d a) : DefaultKept keeps default (some d) a

theorem defaultKept_field {title name : String} {r : Reader β} {default : β} {fs : Fields α}
    {d : Doc} {keeps : Doc → β → Prop} (accepted : (record title .kept fs).fault d = none)
    (found : findField name fs.declared = some ⟨name, .defaulted, r.fault⟩)
    (keep : ∀ inner, r.fault inner = none → keeps inner (r.value inner)) :
    DefaultKept keeps default (lastOf name d.members)
      ((fieldD name r default).build (membersOf fs.declared d)) := by
  rcases read_fieldD default accepted found with ⟨last, read⟩ | ⟨inner, last, fine, read⟩
  · rw [last, read]
    exact .absent
  · rw [last, read]
    exact .there (keep inner fine)

theorem optionalKept_field {title name : String} {r : Reader β} {fs : Fields α} {d : Doc}
    {keeps : Doc → β → Prop} (accepted : (record title .kept fs).fault d = none)
    (found : findField name fs.declared = some ⟨name, .defaulted, (optional r).fault⟩)
    (keep : ∀ inner, r.fault inner = none → keeps inner (r.value inner)) :
    OptionalKept keeps (lastOf name d.members)
      ((field? name r).build (membersOf fs.declared d)) := by
  rcases read_fieldD none accepted found with ⟨last, read⟩ | ⟨inner, last, fine, read⟩
  · rw [last]
    exact read.symm ▸ .absent
  · rw [last]
    refine read.symm ▸ ?_
    cases inner with
    | null => exact .null
    | _ => exact .there (keep _ fine)

theorem firstFault_eq_none {r : Reader α} {ds : List Doc} {i : Nat} (h : firstFault r i ds = none) :
    ∀ d ∈ ds, r.fault d = none := by
  induction ds generalizing i with
  | nil => exact fun _ hd => absurd hd List.not_mem_nil
  | cons d rest ih =>
    rw [firstFault, Option.or_eq_none_iff, Option.map_eq_none_iff] at h
    exact List.forall_mem_cons.mpr ⟨h.1, ih h.2⟩

/-- A list is read from a sequence, item by item. -/
theorem items_of_list {r : Reader α} {d : Doc} (h : (list r).fault d = none) :
    ∃ items, d = .arr items none ∧ (∀ item ∈ items, r.fault item = none) ∧
      (list r).value d = items.map r.value := by
  cases d with
  | arr items tail =>
    change (firstFault r 0 items).or tail = none at h
    rw [Option.or_eq_none_iff] at h
    obtain ⟨fine, rfl⟩ := h
    exact ⟨items, rfl, firstFault_eq_none fine, rfl⟩
  | beyond inner => cases inner <;> cases h
  | _ => cases h

/-! ## Texts that can be read as values -/

theorem itemsFault_eq_none {ds : List Doc} (h : ∀ d ∈ ds, d.valueFault = none) :
    Doc.itemsFault ds = none := by
  induction ds with
  | nil => rfl
  | cons d rest ih =>
    obtain ⟨first, later⟩ := List.forall_mem_cons.mp h
    rw [Doc.itemsFault, first, ih later]
    rfl

theorem membersFault_eq_none {ms : List (Doc × Doc)} (keys : ∀ m ∈ ms, m.1.keyFault = none)
    (h : ∀ m ∈ ms, m.2.valueFault = none) : Doc.membersFault ms = none := by
  induction ms with
  | nil => rfl
  | cons m rest ih =>
    obtain ⟨key, otherKeys⟩ := List.forall_mem_cons.mp keys
    obtain ⟨first, later⟩ := List.forall_mem_cons.mp h
    rw [Doc.membersFault, key, first, ih otherKeys later]
    rfl

namespace Reader

/-- What the reader accepts can be read as a value. -/
def Whole (r : Reader α) : Prop :=
  ∀ d, r.fault d = none → d.valueFault = none

theorem whole_anything : anything.Whole :=
  fun _ h => h

theorem whole_string : string.Whole := by
  intro d h
  cases d with
  | str read _ =>
    cases read with
    | ok s => rfl
    | error f => cases h
  | _ => cases h

theorem whole_boolean : boolean.Whole := by
  intro d h
  cases d with
  | bool b => rfl
  | _ => cases h

theorem whole_int64 : int64.Whole := by
  intro d h
  cases d with
  | num read _ =>
    cases read with
    | ok n => rfl
    | error f => cases h
  | _ => cases h

theorem whole_double : double.Whole := by
  intro d h
  cases d with
  | num read _ =>
    cases read with
    | ok n => rfl
    | error f => cases h
  | _ => cases h

theorem Whole.optional {r : Reader α} (h : r.Whole) : (optional r).Whole := by
  intro d accepted
  cases d with
  | null => rfl
  | _ => exact h _ accepted

theorem Whole.checked [Inhabited β] {r : Reader α} {f : α → Except Fault β} (h : r.Whole) :
    (r.checked f).Whole :=
  fun d accepted => h d (Option.or_eq_none_iff.mp accepted).1

theorem Whole.list {r : Reader α} (h : r.Whole) : (list r).Whole := by
  intro d accepted
  obtain ⟨items, rfl, fine, -⟩ := items_of_list accepted
  rw [Doc.valueFault, itemsFault_eq_none fun item hitem => h item (fine item hitem)]
  rfl

theorem whole_unitVariant (ofName : String → α) : (unitVariant ofName).Whole := by
  intro d h
  cases d with
  | str read _ =>
    cases read with
    | ok s => rfl
    | error f => cases h
  | obj members tail =>
    cases members with
    | nil => cases h
    | cons m rest =>
      obtain ⟨k, inner⟩ := m
      cases k with
      | str read _ =>
        cases read with
        | ok s =>
          cases inner with
          | null =>
            change afterVariant rest tail = none at h
            unfold afterVariant at h
            split at h
            · rename_i alone
              obtain rfl := List.isEmpty_iff.mp alone
              exact h
            · cases h
          | _ => cases h
        | error f => cases h
      | _ => cases h
  | beyond inner => cases inner <;> cases h
  | _ => cases h

end Reader

/-- All fields but those in `passed` accept nothing that could not be read as a value. -/
def Fields.WholeBut (passed : List String) (fs : Fields α) : Prop :=
  ∀ f ∈ fs.declared, f.name ∉ passed → ∀ d, f.fault d = none → d.valueFault = none

namespace Fields

variable {passed : List String}

theorem WholeBut.seq {f : Fields (α → β)} {x : Fields α} (hf : f.WholeBut passed)
    (hx : x.WholeBut passed) : (f <*> x).WholeBut passed :=
  fun p hp => (List.mem_append.mp hp).elim (hf p) (hx p)

theorem WholeBut.map {x : Fields α} (f : α → β) (hx : x.WholeBut passed) :
    (f <$> x).WholeBut passed :=
  hx

theorem wholeBut_otherMembers : otherMembers.WholeBut passed :=
  fun _ hp => absurd hp List.not_mem_nil

theorem wholeBut_fieldD {name : String} {r : Reader α} (default : α) (h : r.Whole) :
    (fieldD name r default).WholeBut passed := by
  intro p hp _
  cases List.mem_singleton.mp hp
  exact h

theorem wholeBut_field? {name : String} {r : Reader α} (h : r.Whole) :
    (field? name r).WholeBut passed :=
  wholeBut_fieldD none h.optional

theorem wholeBut_passed {name : String} {r : Reader α} (default : α) (h : name ∈ passed) :
    (fieldD name r default).WholeBut passed := by
  intro p hp read
  cases List.mem_singleton.mp hp
  exact absurd h read

end Fields

/-- Every member of an accepted object can be read as a value, but for the fields that are passed
over. -/
theorem member_whole {passed : List String} {title : String} {fs : Fields α} {d : Doc}
    (whole : fs.WholeBut passed) (accepted : (record title .kept fs).fault d = none) :
    ∀ m ∈ d.members, m.1.key ∉ passed → m.2.valueFault = none := by
  obtain ⟨-, accepts⟩ := accepted_of_fault accepted
  intro m hm read
  cases found : findField m.1.key fs.declared with
  | none => exact accepts.others m hm found
  | some f =>
    obtain ⟨declared, named⟩ := mem_of_findField found
    exact whole f declared (named ▸ read) m.2 (accepts.declared m hm f found)

/-- What a record accepts can be read as a value if each member can. -/
theorem valueFault_of_members {title : String} {fs : Fields α} {d : Doc}
    (accepted : (record title .kept fs).fault d = none)
    (fine : ∀ m ∈ d.members, m.2.valueFault = none) : d.valueFault = none := by
  obtain ⟨object, accepts⟩ := accepted_of_fault accepted
  rw [object, Doc.valueFault, membersFault_eq_none accepts.keys fine]
  rfl

/-- A record of whole fields accepts nothing that could not be read as a value. -/
theorem whole_record {title : String} {fs : Fields α} (whole : fs.WholeBut []) :
    (record title .kept fs).Whole :=
  fun _ accepted => valueFault_of_members accepted fun m hm =>
    member_whole whole accepted m hm List.not_mem_nil

/-- What a text is read as. -/
theorem fault_of_decode {r : Reader α} {text : String} {a : α} (h : r.decode text = .ok a) :
    r.fault (scan text).1 = none ∧ (scan text).2 = none ∧ r.value (scan text).1 = a := by
  obtain ⟨⟨fine, value⟩, after⟩ := Reader.decode_eq_ok_iff.mp h
  exact ⟨fine, after, value⟩

end OneFs.Json
