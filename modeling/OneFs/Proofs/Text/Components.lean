import Mathlib.Data.List.Flatten
import OneFs.Proofs.Url.Form
import OneFs.Proofs.Url.Site

/-!
# Components of paths

A path names a directory by the components between its slashes. It may be spelled with more slashes
than it has components; the cluster has one spelling for each directory.

- `Doubled`, `EndsInSlash`: slashes that no component stands behind;
- `nil_mem_tail_pieces`: they are what makes a piece of a path empty;
- `components`, `clusterPath`: the components of a path, and its spelling on the cluster;
- `IsNeat`, `OnCluster`, `onCluster_iff`: the paths that are spelled like that;
- `clusterPath_below`, `clusterPath_concat`: what is below a directory, and the directory itself.
-/

namespace OneFs

open Text

/-! ## Slashes without a component -/

/-- Two slashes stand next to each other. -/
def Doubled (cs : List Char) : Prop :=
  ['/', '/'] <:+: cs

/-- A slash stands at the end. -/
def EndsInSlash (cs : List Char) : Prop :=
  cs.getLast? = some '/'

instance (cs : List Char) : Decidable (Doubled cs) :=
  inferInstanceAs (Decidable (_ <:+: _))

instance (cs : List Char) : Decidable (EndsInSlash cs) :=
  inferInstanceAs (Decidable (_ = _))

theorem doubled_nil : ¬ Doubled [] := by
  decide

theorem doubled_cons {c : Char} {cs : List Char} :
    Doubled (c :: cs) ↔ c = '/' ∧ cs.head? = some '/' ∨ Doubled cs := by
  unfold Doubled
  rw [List.infix_cons_iff]
  refine or_congr_left ?_
  cases cs with
  | nil => simp
  | cons d ds => simp [List.cons_prefix_cons, eq_comm]

theorem not_endsInSlash_nil : ¬ EndsInSlash [] := by
  decide

theorem endsInSlash_cons {c : Char} {cs : List Char} :
    EndsInSlash (c :: cs) ↔ cs = [] ∧ c = '/' ∨ EndsInSlash cs := by
  unfold EndsInSlash
  cases cs with
  | nil => simp
  | cons d ds => simp

/-- Where two texts meet, slashes stand next to each other if both have one there. -/
theorem doubled_append {xs ys : List Char} :
    Doubled (xs ++ ys) ↔ Doubled xs ∨ Doubled ys ∨ EndsInSlash xs ∧ ys.head? = some '/' := by
  induction xs with
  | nil => simp [doubled_nil, not_endsInSlash_nil]
  | cons c xs ih =>
    rw [List.cons_append, doubled_cons, doubled_cons, endsInSlash_cons, ih]
    cases xs with
    | nil => simp [doubled_nil, not_endsInSlash_nil, or_comm]
    | cons d ds => simp [or_assoc]

theorem endsInSlash_append {xs ys : List Char} :
    EndsInSlash (xs ++ ys) ↔ ys = [] ∧ EndsInSlash xs ∨ EndsInSlash ys := by
  unfold EndsInSlash
  rw [List.getLast?_append]
  cases ys with
  | nil => simp
  | cons d ds => simp [List.getLast?_cons]

/-- A name without slashes adds none. -/
theorem not_doubled_of_not_mem {cs : List Char} (single : '/' ∉ cs) : ¬ Doubled cs :=
  fun doubled => single (doubled.subset List.mem_cons_self)

/-! ## Components -/

/-- The first piece of a path is empty just if nothing stands in front of the first slash. -/
theorem head_pieces_eq_nil {cs p : List Char} {ps : List (List Char)}
    (split : pieces (· == '/') cs = p :: ps) : p = [] ↔ cs = [] ∨ cs.head? = some '/' := by
  cases cs with
  | nil =>
    cases split
    simp
  | cons c cs =>
    obtain ⟨q, qs, rest⟩ := List.exists_cons_of_ne_nil (pieces_ne_nil (· == '/') cs)
    rw [pieces, rest] at split
    by_cases slash : c = '/'
    · rw [if_pos (by simpa using slash)] at split
      cases split
      simp [slash]
    · rw [if_neg (by simpa using slash)] at split
      cases split
      simp [slash]

/-- Behind the first, a piece of a path is empty just if two slashes stand next to each other or one
stands at the end. -/
theorem nil_mem_tail_pieces {cs : List Char} :
    [] ∈ (pieces (· == '/') cs).tail ↔ Doubled cs ∨ EndsInSlash cs := by
  induction cs with
  | nil => simp [pieces, doubled_nil, not_endsInSlash_nil]
  | cons c cs ih =>
    obtain ⟨p, ps, split⟩ := List.exists_cons_of_ne_nil (pieces_ne_nil (· == '/') cs)
    have first := head_pieces_eq_nil split
    rw [split, List.tail_cons] at ih
    rw [doubled_cons, endsInSlash_cons, pieces, split]
    by_cases slash : c = '/'
    · -- All pieces of the rest stand behind this slash, the first of them too.
      rw [if_pos (by simpa using slash), List.tail_cons, List.mem_cons, ih, eq_comm, first]
      simp only [slash, true_and, and_true]
      tauto
    · rw [if_neg (by simpa using slash), List.tail_cons, ih]
      simp only [slash, false_and, and_false, false_or]

/-- The components of a path: what stands between its slashes, if anything does. -/
def components (cs : List Char) : List (List Char) :=
  (pieces (· == '/') cs).filter fun p => !p.isEmpty

/-- The spelling of a path on the cluster, which has every component behind one slash. -/
def clusterPath (path : String) : String :=
  String.ofList ((components path.toList).flatMap ('/' :: ·))

theorem components_nil : components [] = [] := rfl

theorem components_append (xs ys : List Char) :
    components (xs ++ '/' :: ys) = components xs ++ components ys := by
  unfold components
  rw [Url.pieces_append rfl, List.filter_append]

/-- A slash in front adds no component. -/
theorem components_slash (cs : List Char) : components ('/' :: cs) = components cs :=
  components_append [] cs

/-- Nor does one at the end. -/
theorem components_concat (cs : List Char) : components (cs ++ ['/']) = components cs := by
  rw [components_append, components_nil, List.append_nil]

theorem components_single {cs : List Char} (filled : cs ≠ []) (single : '/' ∉ cs) :
    components cs = [cs] := by
  have alone : pieces (· == '/') cs = [cs] :=
    Form.pieces_alone fun c hc => beq_eq_false_iff_ne.mpr fun slash => single (slash ▸ hc)
  unfold components
  rw [alone]
  simp [filled]

/-- Pieces that are put together without the empty ones make the same text just if none is empty. -/
theorem flatMap_filled_iff {ps : List (List Char)} :
    (ps.filter fun p => !p.isEmpty).flatMap ('/' :: ·) = ps.flatMap ('/' :: ·) ↔
      ∀ p ∈ ps, p ≠ [] := by
  induction ps with
  | nil => simp
  | cons p ps ih =>
    cases p with
    | nil =>
      -- Without it, the text is at least one slash shorter.
      refine iff_of_false (fun same => ?_) (fun all => all [] List.mem_cons_self rfl)
      have fewer : (ps.filter fun p => !p.isEmpty).Sublist ps := List.filter_sublist
      have shorter := (fewer.flatMap ('/' :: ·)).length_le
      have lengths := congrArg List.length same
      simp only [List.filter_cons, List.isEmpty_nil, Bool.not_true, Bool.false_eq_true, if_false,
        List.flatMap_cons, List.length_append, List.length_singleton] at lengths
      omega
    | cons c cs => simp [ih]

/-- Every path that begins at the root is spelled as on the cluster, but for slashes that no component
stands behind. -/
theorem flatMap_components_iff {cs : List Char} :
    (components ('/' :: cs)).flatMap ('/' :: ·) = '/' :: cs ↔
      ¬ Doubled ('/' :: cs) ∧ ¬ EndsInSlash ('/' :: cs) := by
  have kept : (components cs).flatMap ('/' :: ·) = '/' :: cs ↔
      ∀ p ∈ pieces (· == '/') cs, p ≠ [] := by
    rw [← Url.flatMap_pieces cs]
    exact flatMap_filled_iff
  have tail : pieces (· == '/') cs = (pieces (· == '/') ('/' :: cs)).tail := rfl
  rw [components_slash, kept, ← not_or, ← nil_mem_tail_pieces, ← tail]
  exact ⟨fun all mem => all [] mem rfl, fun none p mem empty => none (empty ▸ mem)⟩

/-! ## Spellings on the cluster -/

theorem toList_clusterPath (path : String) :
    (clusterPath path).toList = (components path.toList).flatMap ('/' :: ·) :=
  String.toList_ofList

/-- A component stands behind every slash of a path. -/
def IsNeat (path : String) : Prop :=
  ¬ Doubled path.toList ∧ ¬ EndsInSlash path.toList

instance (path : String) : Decidable (IsNeat path) :=
  inferInstanceAs (Decidable (_ ∧ _))

/-- A path is spelled as on the cluster. -/
def OnCluster (path : String) : Prop :=
  clusterPath path = path

instance (path : String) : Decidable (OnCluster path) :=
  inferInstanceAs (Decidable (_ = _))

/-- A path that begins at the root is spelled as on the cluster just if it is neat. -/
theorem onCluster_iff {path : String} (rooted : path.toList.head? = some '/') :
    OnCluster path ↔ IsNeat path := by
  unfold OnCluster IsNeat
  obtain ⟨cs, chars⟩ := List.head?_eq_some_iff.mp rooted
  rw [← String.toList_inj, toList_clusterPath, chars]
  exact flatMap_components_iff

/-- A name below a directory is its last component. -/
theorem clusterPath_below (directory : String) {name : String} (filled : name ≠ "")
    (single : '/' ∉ name.toList) :
    clusterPath (directory ++ "/" ++ name) = clusterPath directory ++ "/" ++ name := by
  have listed : name.toList ≠ [] := fun none => filled (String.toList_eq_nil_iff.mp none)
  apply String.toList_injective
  have chars : (directory ++ "/" ++ name).toList = directory.toList ++ '/' :: name.toList := by
    simp
  rw [toList_clusterPath, chars, components_append, components_single listed single,
    List.flatMap_append]
  simp [toList_clusterPath]

/-- A slash at the end makes no other directory. -/
theorem clusterPath_concat (directory : String) :
    clusterPath (directory ++ "/") = clusterPath directory := by
  apply String.toList_injective
  have chars : (directory ++ "/").toList = directory.toList ++ ['/'] := by simp
  rw [toList_clusterPath, chars, components_concat, toList_clusterPath]

end OneFs
