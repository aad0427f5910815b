/-!
# Texts in pieces

- `pieces`: what stands between separators;
- `joined`: pieces with a separator between them, the other direction.
-/

namespace OneFs.Text

/-- The pieces of a text between the characters that satisfy `sep`; always at least one. -/
def pieces (sep : Char → Bool) : List Char → List (List Char)
  | [] => [[]]
  | c :: cs =>
    if sep c then [] :: pieces sep cs
    else
      match pieces sep cs with
      | piece :: rest => (c :: piece) :: rest
      | [] => [[c]]

/-- Pieces with a separator between them. -/
def joined (sep : Char) : List (List Char) → List Char
  | [] => []
  | [p] => p
  | p :: q :: rest => p ++ sep :: joined sep (q :: rest)

theorem pieces_ne_nil (sep : Char → Bool) : ∀ cs : List Char, pieces sep cs ≠ []
  | [] => by simp [pieces]
  | c :: cs => by
    unfold pieces
    split
    · simp
    · split <;> simp

/-- Joining the pieces of a text gives the text back. -/
theorem joined_pieces (sep : Char) :
    ∀ cs : List Char, joined sep (pieces (· == sep) cs) = cs
  | [] => rfl
  | c :: cs => by
    have ih := joined_pieces sep cs
    have hne := pieces_ne_nil (· == sep) cs
    unfold pieces
    split
    · rename_i h
      have hc : c = sep := by simpa using h
      match hp : pieces (· == sep) cs, hne with
      | p :: rest, _ =>
        rw [hp] at ih
        simp [joined, ih, hc]
    · match hp : pieces (· == sep) cs, hne with
      | [p], _ =>
        rw [hp] at ih
        simpa [joined] using ih
      | p :: q :: rest, _ =>
        rw [hp] at ih
        simpa [joined] using ih

end OneFs.Text
