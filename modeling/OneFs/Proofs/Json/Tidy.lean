import OneFs.Json.Doc
import OneFs.Proofs.Json.Sorted

/-!
# Values and their documents

A value is tidy if each object in it has its keys in increasing order. Documents stand for tidy
values only, and a tidy value is what its own document stands for.

- `Doc.tidy_value`: what a document stands for is tidy;
- `Value.value_doc`: a tidy value written as a document and read again is the same value;
- `Value.valueFault_doc`, `Value.skipFault_doc`: there is nothing to object to in the document of a
  value.
-/

namespace OneFs.Json

namespace Value

mutual

/-- Each object in the value has its keys in increasing order. -/
def Tidy : Value → Prop
  | .arr items => ItemsTidy items
  | .obj members => Ascending members ∧ MembersTidy members
  | _ => True

/-- All items are tidy. -/
def ItemsTidy : List Value → Prop
  | [] => True
  | v :: rest => v.Tidy ∧ ItemsTidy rest

/-- The values of all members are tidy. -/
def MembersTidy : List (String × Value) → Prop
  | [] => True
  | (_, v) :: rest => v.Tidy ∧ MembersTidy rest

end

theorem membersTidy_iff {ms : List (String × Value)} :
    MembersTidy ms ↔ ∀ m ∈ ms, m.2.Tidy := by
  induction ms with
  | nil => simp [MembersTidy]
  | cons m rest ih => rw [MembersTidy, List.forall_mem_cons, ih]

theorem itemsTidy_iff {vs : List Value} : ItemsTidy vs ↔ ∀ v ∈ vs, v.Tidy := by
  induction vs with
  | nil => simp [ItemsTidy]
  | cons v rest ih => rw [ItemsTidy, List.forall_mem_cons, ih]

/-- An object made of tidy values is tidy. -/
theorem tidy_object {ms : List (String × Value)} (h : ∀ m ∈ ms, m.2.Tidy) :
    (Value.object ms).Tidy :=
  ⟨ascending_sorted ms, membersTidy_iff.mpr fun m hm => h m (mem_sorted hm)⟩

/-- So is a list of them. -/
theorem tidy_list {α : Type} {encode : α → Value} {as : List α}
    (h : ∀ a ∈ as, (encode a).Tidy) : (Value.arr (as.map encode)).Tidy := by
  refine itemsTidy_iff.mpr fun v hv => ?_
  obtain ⟨a, ha, rfl⟩ := List.mem_map.mp hv
  exact h a ha

end Value

/-! ## From documents to values -/

namespace Doc

mutual

/-- What a document stands for is tidy. -/
theorem tidy_value : ∀ d : Doc, d.value.Tidy
  | .null => trivial
  | .bool _ => trivial
  | .num (.ok _) _ => trivial
  | .num (.error _) _ => trivial
  | .str (.ok _) _ => trivial
  | .str (.error _) _ => trivial
  | .arr items _ => tidy_itemValues items
  | .obj members _ => Value.tidy_object (tidy_memberValues members)
  | .beyond _ => trivial
  | .absent => trivial
  | .missing _ => trivial
  | .broken _ => trivial

theorem tidy_itemValues : ∀ ds : List Doc, Value.ItemsTidy (itemValues ds)
  | [] => trivial
  | d :: rest => ⟨tidy_value d, tidy_itemValues rest⟩

theorem tidy_memberValues : ∀ ms : List (Doc × Doc), ∀ m ∈ memberValues ms, m.2.Tidy
  | [], _, h => by cases h
  | (_, d) :: rest, m, h => by
    rcases List.mem_cons.mp h with rfl | h
    · exact tidy_value d
    · exact tidy_memberValues rest m h

end

end Doc

/-! ## From values to documents -/

namespace Value

mutual

theorem valueFault_doc : ∀ v : Value, v.doc.valueFault = none
  | .null => rfl
  | .bool _ => rfl
  | .num _ => rfl
  | .str _ => rfl
  | .arr items => by rw [doc, Doc.valueFault, itemsFault_itemDocs items]; rfl
  | .obj members => by rw [doc, Doc.valueFault, membersFault_memberDocs members]; rfl

theorem itemsFault_itemDocs : ∀ vs : List Value, Doc.itemsFault (itemDocs vs) = none
  | [] => rfl
  | v :: rest => by
    rw [itemDocs, Doc.itemsFault, valueFault_doc v, itemsFault_itemDocs rest]
    rfl

theorem membersFault_memberDocs :
    ∀ ms : List (String × Value), Doc.membersFault (memberDocs ms) = none
  | [] => rfl
  | (k, v) :: rest => by
    rw [memberDocs, Doc.membersFault, valueFault_doc v, membersFault_memberDocs rest]
    rfl

end

mutual

theorem skipFault_doc : ∀ v : Value, v.doc.skipFault = none
  | .null => rfl
  | .bool _ => rfl
  | .num _ => rfl
  | .str _ => rfl
  | .arr items => by rw [doc, Doc.skipFault, itemsSkipFault_itemDocs items]; rfl
  | .obj members => by rw [doc, Doc.skipFault, membersSkipFault_memberDocs members]; rfl

theorem itemsSkipFault_itemDocs : ∀ vs : List Value, Doc.itemsSkipFault (itemDocs vs) = none
  | [] => rfl
  | v :: rest => by
    rw [itemDocs, Doc.itemsSkipFault, skipFault_doc v, itemsSkipFault_itemDocs rest]
    rfl

theorem membersSkipFault_memberDocs :
    ∀ ms : List (String × Value), Doc.membersSkipFault (memberDocs ms) = none
  | [] => rfl
  | (k, v) :: rest => by
    rw [memberDocs, Doc.membersSkipFault, skipFault_doc v, membersSkipFault_memberDocs rest]
    rfl

end

mutual

/-- A tidy value written as a document and read again is the same value. -/
theorem value_doc : ∀ v : Value, v.Tidy → v.doc.value = v
  | .null, _ => rfl
  | .bool _, _ => rfl
  | .num _, _ => rfl
  | .str _, _ => rfl
  | .arr items, h => by rw [doc, Doc.value, itemValues_itemDocs items h]
  | .obj members, h => by
    rw [doc, Doc.value, memberValues_memberDocs members h.2, object, sorted_of_ascending h.1]

theorem itemValues_itemDocs :
    ∀ vs : List Value, ItemsTidy vs → Doc.itemValues (itemDocs vs) = vs
  | [], _ => rfl
  | v :: rest, h => by
    rw [itemDocs, Doc.itemValues, value_doc v h.1, itemValues_itemDocs rest h.2]

theorem memberValues_memberDocs :
    ∀ ms : List (String × Value), MembersTidy ms → Doc.memberValues (memberDocs ms) = ms
  | [], _ => rfl
  | (k, v) :: rest, h => by
    rw [memberDocs, Doc.memberValues, value_doc v h.1, memberValues_memberDocs rest h.2]
    rfl

end

end Value

end OneFs.Json
