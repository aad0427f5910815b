import OneFs.Connection.Exports
import OneFs.Proofs.Connection.Reply
import OneFs.Proofs.Json.Text
import OneFs.Proofs.Text.Utf8
import OneFs.Proofs.Url.Site

/-!
# What is sent and received about exports

The bodies that are sent say what they are made to say, whatever the names in them, and the ids in
the URLs are plain.

- `pathsIn_exportBody`, `clientsIn_restriction`: the bodies of a creation and of a restriction;
- `isPlainMark_id`, `size_id`: ids in URLs.
-/

namespace OneFs

open Json

/-! ## Bodies -/

/-- The paths that a body asks to publish. -/
def pathsIn : Reader (List String) :=
  record "struct Creation" .dropped (requiredField "paths" (list string))

/-- The clients that a body asks to admit. -/
def clientsIn : Reader (List String) :=
  record "struct Restriction" .dropped (requiredField "clients" (list string))

theorem legible_ofTexts {level : Nat} (small : level < nestingLimit) (ss : List String) :
    (Value.ofTexts ss).Legible level := by
  refine ⟨small, Value.itemsLegible_iff.mpr fun v hv => ?_⟩
  obtain ⟨s, -, rfl⟩ := List.mem_map.mp hv
  exact trivial

/-- What is sent to publish a path can be read. -/
theorem legible_exportBody (c : Connection) (path : String) : (c.exportBody path).Legible 0 := by
  have paths : (Value.ofTexts [path]).Legible 1 := legible_ofTexts (by decide) _
  unfold Connection.exportBody
  cases c.version with
  | v1 =>
    cases c.group with
    | none => exact ⟨by decide, paths, ⟨by decide, trivial, trivial⟩, trivial⟩
    | some g =>
      have groups : (Value.ofTexts [g]).Legible 2 := legible_ofTexts (by decide) _
      exact ⟨by decide, paths, ⟨by decide, trivial, groups, trivial⟩, trivial⟩
  | v2 =>
    cases c.group with
    | none => exact ⟨by decide, paths, ⟨by decide, trivial, trivial⟩, trivial⟩
    | some g => exact ⟨by decide, paths, ⟨by decide, trivial, trivial, trivial⟩, trivial⟩

/-- It asks to publish that path and no other. -/
theorem pathsIn_exportBody (c : Connection) (path : String) :
    pathsIn.decode (Text.Utf8.text (Text.Utf8.bytes (c.exportBody path).text)) = .ok [path] := by
  rw [Text.Utf8.text_bytes]
  refine Reader.Reads.decode_text ?_ (legible_exportBody c path)
  have distinct : (["paths", "map_all"] : List String).Nodup := by decide
  unfold Connection.exportBody
  cases c.version with
  | v1 => exact reads_member distinct rfl (Reader.reads_texts [path])
  | v2 => exact reads_member distinct rfl (Reader.reads_texts [path])

/-- What is sent to restrict an export asks to admit those clients. -/
theorem clientsIn_restriction (clients : List String) :
    clientsIn.decode (Text.Utf8.text (Text.Utf8.bytes (Export.restriction clients).text)) =
      .ok clients := by
  rw [Text.Utf8.text_bytes]
  have distinct : (["clients"] : List String).Nodup := by decide
  exact Reader.Reads.decode_text (reads_member distinct rfl (Reader.reads_texts clients))
    ⟨by decide, legible_ofTexts (by decide) _, trivial⟩

/-! ## Ids in URLs -/

/-- An id is written in digits, perhaps with a dash in front. -/
theorem text_id (id : Int64) :
    ∃ (dash : List Char) (n : Nat), (dash = [] ∨ dash = ['-']) ∧ n < 10 ^ 19 ∧
      (toString id).toList = dash ++ Nat.toDigits 10 n := by
  have low := id.le_toInt
  have high := id.toInt_lt
  show ∃ dash n, _ ∧ _ ∧ (toString id.toInt).toList = _
  generalize id.toInt = z at low high
  cases z with
  | ofNat n =>
    refine ⟨[], n, .inl rfl, ?_, Nat.toList_repr⟩
    have : (n : Int) < 9223372036854775808 := high
    omega
  | negSucc n =>
    refine ⟨['-'], n + 1, .inr rfl, by omega, ?_⟩
    show ("-" ++ (n + 1).repr).toList = _
    rw [String.toList_append, Nat.toList_repr]
    rfl

theorem mem_id (id : Int64) : ∀ c ∈ (toString id).toList, c = '-' ∨ c.isDigit = true := by
  obtain ⟨dash, n, hdash, -, eq⟩ := text_id id
  intro c hc
  rw [eq] at hc
  rcases List.mem_append.mp hc with hc | hc
  · rcases hdash with rfl | rfl
    · exact absurd hc List.not_mem_nil
    · exact .inl (List.mem_singleton.mp hc)
  · exact .inr (Nat.isDigit_of_mem_toDigits (by omega) (by omega) hc)

/-- A path takes an id as it is. -/
theorem isPlainMark_id (id : Int64) : ∀ c ∈ (toString id).toList, Url.isPlainMark c = true := by
  intro c hc
  rcases mem_id id c hc with rfl | digit
  · decide
  · simp [Url.isPlainMark, Char.isAlphanum, digit]

/-- Characters of plain paths take one byte. -/
theorem utf8ByteSize_plain {s : String} (plain : ∀ c ∈ s.toList, Url.isPlainMark c = true) :
    s.utf8ByteSize = s.toList.length := by
  have all : ∀ cs : List Char, (∀ c ∈ cs, Url.isPlainMark c = true) →
      (String.ofList cs).utf8ByteSize = cs.length := by
    intro cs
    induction cs with
    | nil => exact fun _ => rfl
    | cons c cs ih =>
      intro plain
      have small : c.toNat < 128 := Url.isPlainMark_small (plain c List.mem_cons_self)
      have one : c.utf8Size = 1 := by
        rw [Char.utf8Size_eq_one_iff, UInt32.le_iff_toNat_le]
        exact Nat.le_of_lt_succ small
      rw [String.ofList_cons, String.utf8ByteSize_append, String.utf8ByteSize_singleton, one,
        ih fun d hd => plain d (List.mem_cons_of_mem c hd), List.length_cons, Nat.add_comm]
  have := all s.toList plain
  rwa [String.ofList_toList] at this

/-- An id has no more than twenty characters. -/
theorem size_id (id : Int64) : (toString id).utf8ByteSize ≤ 20 := by
  obtain ⟨dash, n, hdash, small, eq⟩ := text_id id
  have digits : (Nat.toDigits 10 n).length ≤ 19 :=
    (Nat.length_toDigits_le_iff (by omega) (by omega)).mpr small
  rw [utf8ByteSize_plain (isPlainMark_id id), eq, List.length_append]
  rcases hdash with rfl | rfl <;> simp <;> omega

theorem id_ne_empty (id : Int64) : toString id ≠ "" := by
  obtain ⟨dash, n, -, -, eq⟩ := text_id id
  intro empty
  rw [empty] at eq
  have := (List.append_eq_nil_iff.mp eq.symm).2
  exact Nat.toDigits_ne_nil this

/-- Different ids have different texts, since each is read back from its own. -/
theorem id_injective {a b : Int64} (h : toString a = toString b) : a = b := by
  have fits : ∀ id : Int64, fitsNumber id.toInt := fun id =>
    ⟨id.le_toInt, by have := id.toInt_lt; omega⟩
  obtain ⟨c, cs, ha, fromA⟩ := scanNumber_text (fits a) Stops.nil
  obtain ⟨d, ds, hb, fromB⟩ := scanNumber_text (fits b) Stops.nil
  have same : c :: cs = d :: ds := ha.symm.trans ((congrArg String.toList h).trans hb)
  obtain ⟨rfl, rfl⟩ := List.cons.inj same
  have number : ∀ {x y : Int} {rest rest' : List Char},
      (Doc.num (.ok (.int x)) none, rest) = (Doc.num (.ok (.int y)) none, rest') → x = y := by
    intro x y rest rest' eq
    cases eq
    rfl
  apply Int64.toInt_inj.mp
  rcases fromA with ⟨rfl, readA⟩ | ⟨digit, readA⟩
  · rcases fromB with ⟨-, readB⟩ | ⟨digit, -⟩
    · exact number (readA.symm.trans readB)
    · cases digit
  · rcases fromB with ⟨rfl, -⟩ | ⟨-, readB⟩
    · cases digit
    · exact number (readA.symm.trans readB)

end OneFs
