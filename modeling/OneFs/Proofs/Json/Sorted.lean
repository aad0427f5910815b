import OneFs.Json.Value
import Mathlib.Data.String.Basic
import Mathlib.Data.List.Sort

/-!
# Members in the order of their keys

What `insert` and `sorted` do to a list of members, as seen by `lookup`, and the lists that they
produce.

- `lookup_insert`, `lookup_sorted`: a later member replaces an earlier one of the same key, and
  nothing else is seen of the order;
- `Ascending`: the keys increase strictly, as they do in whatever `sorted` gives;
- `Ascending.ext`: two such lists with the same look-ups are the same list, so that
  `sorted_of_ascending`.
-/

namespace OneFs.Json

variable {α : Type}

/-! ## Looking up -/

@[simp] theorem lookup_nil (key : String) : lookup key ([] : List (String × α)) = none := rfl

theorem lookup_cons (key k : String) (v : α) (rest : List (String × α)) :
    lookup key ((k, v) :: rest) = if k = key then some v else lookup key rest := rfl

theorem lookup_append (key : String) (ms ns : List (String × α)) :
    lookup key (ms ++ ns) = (lookup key ms).or (lookup key ns) := by
  induction ms with
  | nil => rfl
  | cons m rest ih =>
    obtain ⟨k, v⟩ := m
    rw [List.cons_append, lookup_cons, lookup_cons, ih]
    split <;> rfl

theorem lookup_eq_none_iff {key : String} {ms : List (String × α)} :
    lookup key ms = none ↔ ∀ m ∈ ms, m.1 ≠ key := by
  induction ms with
  | nil => simp
  | cons m rest ih =>
    obtain ⟨k, v⟩ := m
    rw [lookup_cons, List.forall_mem_cons]
    by_cases h : k = key
    · simp [h]
    · rw [if_neg h, ih]
      simp [h]

theorem mem_of_lookup {key : String} {v : α} {ms : List (String × α)}
    (h : lookup key ms = some v) : (key, v) ∈ ms := by
  induction ms with
  | nil => cases h
  | cons m rest ih =>
    obtain ⟨k, w⟩ := m
    rw [lookup_cons] at h
    split at h
    · rename_i hk
      cases h
      exact hk ▸ List.mem_cons_self
    · exact List.mem_cons_of_mem _ (ih h)

/-- Of distinct keys each is found with its own value. -/
theorem lookup_of_mem {k : String} {v : α} {ms : List (String × α)}
    (h : (ms.map Prod.fst).Nodup) (hm : (k, v) ∈ ms) : lookup k ms = some v := by
  induction ms with
  | nil => cases hm
  | cons m rest ih =>
    obtain ⟨hhead, htail⟩ := List.nodup_cons.mp h
    rcases List.mem_cons.mp hm with rfl | hm
    · rw [lookup_cons, if_pos rfl]
    · have other : m.1 ≠ k := fun eq => hhead (eq ▸ List.mem_map.mpr ⟨(k, v), hm, rfl⟩)
      rw [lookup_cons, if_neg other, ih htail hm]

theorem lookup_filter (p : String → Bool) (key : String) (ms : List (String × α)) :
    lookup key (ms.filter fun m => p m.1) = if p key then lookup key ms else none := by
  induction ms with
  | nil => simp
  | cons m rest ih =>
    obtain ⟨k, v⟩ := m
    rw [lookup_cons]
    by_cases hk : k = key
    · subst hk
      by_cases hp : p k <;> simp_all [lookup_cons]
    · rw [if_neg hk, ← ih]
      by_cases hp : p k <;> simp [hp, lookup_cons, hk]

theorem lookup_optionalMember (key name : String) (encode : α → Value) (o : Option α) :
    lookup key (optionalMember name encode o) = if name = key then o.map encode else none := by
  cases o <;> simp [optionalMember, lookup_cons]

@[simp] theorem reverse_optionalMember (name : String) (encode : α → Value) (o : Option α) :
    (optionalMember name encode o).reverse = optionalMember name encode o := by
  cases o <;> rfl

/-! ## Inserting -/

theorem lookup_insert (key k : String) (v : Value) (ms : List (String × Value)) :
    lookup key (insert k v ms) = if k = key then some v else lookup key ms := by
  induction ms with
  | nil => rfl
  | cons m rest ih =>
    obtain ⟨k', w⟩ := m
    unfold insert
    split
    · exact lookup_cons ..
    · split
      · rename_i _ h
        subst h
        rw [lookup_cons, lookup_cons]
        split <;> rfl
      · rename_i h
        rw [lookup_cons, ih, lookup_cons]
        by_cases hk : k' = key
        · rw [if_pos hk, if_pos hk, if_neg (fun hkey => h (hkey.trans hk.symm))]
        · rw [if_neg hk, if_neg hk]

theorem mem_insert {k : String} {v : Value} {m : String × Value} {ms : List (String × Value)}
    (h : m ∈ insert k v ms) : m = (k, v) ∨ m ∈ ms := by
  induction ms with
  | nil => exact Or.inl (List.mem_singleton.mp h)
  | cons n rest ih =>
    obtain ⟨k', w⟩ := n
    unfold insert at h
    split at h
    · exact List.mem_cons.mp h
    · split at h
      · rcases List.mem_cons.mp h with h | h
        · exact Or.inl h
        · exact Or.inr (List.mem_cons_of_mem _ h)
      · rcases List.mem_cons.mp h with h | h
        · exact Or.inr (h ▸ List.mem_cons_self)
        · exact (ih h).imp_right (List.mem_cons_of_mem _)

/-- The keys of the members increase strictly. -/
def Ascending (ms : List (String × α)) : Prop :=
  ms.Pairwise fun m n => m.1 < n.1

theorem ascending_insert (k : String) (v : Value) {ms : List (String × Value)}
    (h : Ascending ms) : Ascending (insert k v ms) := by
  induction ms with
  | nil => exact List.pairwise_singleton ..
  | cons m rest ih =>
    obtain ⟨k', w⟩ := m
    obtain ⟨hhead, htail⟩ := List.pairwise_cons.mp h
    unfold insert
    split
    · rename_i hlt
      refine List.pairwise_cons.mpr ⟨fun m hm => ?_, h⟩
      rcases List.mem_cons.mp hm with rfl | hm
      · exact hlt
      · exact lt_trans hlt (hhead m hm)
    · split
      · rename_i _ heq
        exact List.pairwise_cons.mpr ⟨fun m hm => heq ▸ hhead m hm, htail⟩
      · rename_i hlt heq
        refine List.pairwise_cons.mpr ⟨fun m hm => ?_, ih htail⟩
        rcases mem_insert hm with rfl | hm
        · exact lt_of_le_of_ne (not_lt.mp hlt) (Ne.symm heq)
        · exact hhead m hm

/-! ## Sorting -/

/-- Inserting one member after another, into what is there already. -/
theorem lookup_foldl_insert (key : String) (ms acc : List (String × Value)) :
    lookup key (ms.foldl (fun acc m => insert m.1 m.2 acc) acc) =
      (lookup key ms.reverse).or (lookup key acc) := by
  induction ms generalizing acc with
  | nil => rfl
  | cons m rest ih =>
    rw [List.foldl_cons, ih, lookup_insert, List.reverse_cons, lookup_append, lookup_cons,
      Option.or_assoc]
    split <;> rfl

/-- Of two members with one key the later counts. -/
theorem lookup_sorted (key : String) (ms : List (String × Value)) :
    lookup key (sorted ms) = lookup key ms.reverse := by
  rw [sorted, lookup_foldl_insert, lookup_nil, Option.or_none]

theorem mem_sorted {m : String × Value} {ms : List (String × Value)} (h : m ∈ sorted ms) :
    m ∈ ms := by
  have key : ∀ (ms acc : List (String × Value)),
      m ∈ ms.foldl (fun acc m => insert m.1 m.2 acc) acc → m ∈ acc ∨ m ∈ ms := by
    intro ms
    induction ms with
    | nil => exact fun _ h => Or.inl h
    | cons n rest ih =>
      intro acc h
      rcases ih _ h with h | h
      · rcases mem_insert h with rfl | h
        · exact Or.inr List.mem_cons_self
        · exact Or.inl h
      · exact Or.inr (List.mem_cons_of_mem _ h)
  exact (key ms [] h).resolve_left List.not_mem_nil

theorem ascending_sorted (ms : List (String × Value)) : Ascending (sorted ms) := by
  have key : ∀ (ms acc : List (String × Value)), Ascending acc →
      Ascending (ms.foldl (fun acc m => insert m.1 m.2 acc) acc) := by
    intro ms
    induction ms with
    | nil => exact fun _ h => h
    | cons n rest ih => exact fun acc h => ih _ (ascending_insert n.1 n.2 h)
  exact key ms [] List.Pairwise.nil

namespace Ascending

theorem nil : Ascending ([] : List (String × α)) :=
  List.Pairwise.nil

theorem filter {ms : List (String × α)} (h : Ascending ms) (p : String × α → Bool) :
    Ascending (ms.filter p) :=
  List.Pairwise.filter p h

theorem nodup_keys {ms : List (String × α)} (h : Ascending ms) : (ms.map Prod.fst).Nodup :=
  (List.pairwise_map.mpr h).imp ne_of_lt

theorem lookup_eq_of_mem {ms : List (String × α)} (h : Ascending ms) {k : String} {v : α}
    (hm : (k, v) ∈ ms) : lookup k ms = some v :=
  lookup_of_mem h.nodup_keys hm

/-- A member is looked up alike from either end. -/
theorem lookup_reverse {ms : List (String × α)} (h : Ascending ms) (key : String) :
    lookup key ms.reverse = lookup key ms := by
  cases hl : lookup key ms.reverse with
  | none =>
    have hnone := lookup_eq_none_iff.mp hl
    exact (lookup_eq_none_iff.mpr fun m hm => hnone m (List.mem_reverse.mpr hm)).symm
  | some v => exact (h.lookup_eq_of_mem (List.mem_reverse.mp (mem_of_lookup hl))).symm

/-- Lists in the order of their keys are told apart by looking up. -/
theorem ext {ms ns : List (String × α)} (hm : Ascending ms) (hn : Ascending ns)
    (h : ∀ key, lookup key ms = lookup key ns) : ms = ns := by
  induction ms generalizing ns with
  | nil =>
    cases ns with
    | nil => rfl
    | cons n ns =>
      obtain ⟨l, w⟩ := n
      simpa [lookup_cons] using h l
  | cons m ms ih =>
    obtain ⟨k, v⟩ := m
    cases ns with
    | nil => simpa [lookup_cons] using h k
    | cons n ns =>
      obtain ⟨l, w⟩ := n
      obtain ⟨hmhead, hmtail⟩ := List.pairwise_cons.mp hm
      obtain ⟨hnhead, hntail⟩ := List.pairwise_cons.mp hn
      have hk : (k, v) ∈ (l, w) :: ns :=
        mem_of_lookup (by rw [← h k, lookup_cons, if_pos rfl])
      have hl : (l, w) ∈ (k, v) :: ms :=
        mem_of_lookup (by rw [h l, lookup_cons, if_pos rfl])
      -- Each head stands in the other list, so neither key can be the smaller one.
      have heq : (k, v) = (l, w) := by
        rcases List.mem_cons.mp hk with hk | hk
        · exact hk
        · rcases List.mem_cons.mp hl with hl | hl
          · exact hl.symm
          · exact absurd (lt_trans (hmhead _ hl) (hnhead _ hk)) (lt_irrefl _)
      cases heq
      have hrest : ms = ns := by
        refine ih hmtail hntail fun key => ?_
        by_cases hkey : k = key
        · subst hkey
          rw [lookup_eq_none_iff.mpr fun m hm => ne_of_gt (hmhead m hm),
            lookup_eq_none_iff.mpr fun m hm => ne_of_gt (hnhead m hm)]
        · have := h key
          rwa [lookup_cons, lookup_cons, if_neg hkey, if_neg hkey] at this
      rw [hrest]

end Ascending

/-- Sorting leaves a list in the order of its keys alone. -/
theorem sorted_of_ascending {ms : List (String × Value)} (h : Ascending ms) : sorted ms = ms :=
  (ascending_sorted ms).ext h fun key => by rw [lookup_sorted, h.lookup_reverse]

end OneFs.Json
