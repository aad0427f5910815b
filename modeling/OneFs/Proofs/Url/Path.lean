import Mathlib.Data.List.TakeWhile
import OneFs.Proofs.Url.Percent
import OneFs.Url.Parse

/-!
# Paths as they are read

When a path is read, some of it is dropped, some is resolved and some is undone, and all of this
makes it shorter but for a backslash, which becomes a slash. So a path stands for itself just if
nothing of this applies.

- `decode_pathChars`: what the text of resolved segments stands for;
- `resolve_plain`, `weight_resolve`: segments are kept as they are, or something gets lost;
- `PlainPath`: the texts of which nothing gets lost;
- `pathBytes_resolve_iff`: these are the paths that stand for themselves.
-/

namespace OneFs.Url

open Text Text.Utf8 Percent

/-! ## Segments -/

/-- The text of a path that consists of segments. -/
def pathChars (segments : List (List Char)) : List Char :=
  segments.flatMap fun s => '/' :: encode inPath s

/-- The bytes that segments stand for, each behind a slash. -/
def pathBytes (segments : List (List Char)) : List UInt8 :=
  segments.flatMap fun s => 0x2F :: decode s

/-- The text of a URL with a path of segments. -/
theorem toList_pathText (u : Url) (segments : List (List Char)) (h : u.path = pathOf segments) :
    u.pathText.toList = pathChars segments := by
  unfold pathText
  rw [h]
  simp only [pathOf, pathChars, String.toList_join, List.map_map, List.flatMap_map,
    String.toList_append, Function.comp_apply, String.toList_ofList]
  rfl

/-- The text of a path stands for what its segments stand for. -/
theorem decode_pathChars : ∀ segments : List (List Char),
    decode (pathChars segments) = pathBytes segments
  | [] => decode_nil
  | [s] => by
    have := decode_append_slash [] (encode inPath s)
    simp only [List.nil_append, decode_nil, decode_encode] at this
    simpa [pathChars, pathBytes] using this
  | s :: t :: rest => by
    have later := decode_pathChars (t :: rest)
    have first := decode_append_slash [] (encode inPath s ++ pathChars (t :: rest))
    have second := decode_append_slash (encode inPath s) (encode inPath t ++ pathChars rest)
    have third := decode_append_slash [] (encode inPath t ++ pathChars rest)
    simp only [pathChars, pathBytes, List.flatMap_cons, List.cons_append, List.nil_append,
      decode_nil, decode_encode] at *
    rw [first, second, ← third, later]

/-! ## Segments that get lost -/

/-- A segment that is kept as it is. -/
structure Kept (segment : List Char) : Prop where
  above : isAbove segment = false
  here : isHere segment = false
  triples : HasNoTriple segment

/-- Segments that name no directories follow those that are there. -/
theorem resolve_plain : ∀ (segments done : List (List Char)),
    (∀ s ∈ segments, isAbove s = false ∧ isHere s = false) →
      resolve false done segments = done.reverse ++ segments
  | [], done, _ => by simp [resolve]
  | [s], done, h => by
    obtain ⟨above, here⟩ := h s List.mem_cons_self
    simp [resolve, above, here, push]
  | s :: t :: rest, done, h => by
    obtain ⟨above, here⟩ := h s List.mem_cons_self
    simp only [resolve, above, here, push, Bool.false_and, Bool.false_eq_true, if_false]
    rw [resolve_plain (t :: rest) (s :: done) fun x hx => h x (List.mem_cons_of_mem s hx)]
    simp

/-- How many bytes segments stand for. -/
def weight (segments : List (List Char)) : Nat :=
  (pathBytes segments).length

/-- How many bytes segments take, each behind a slash. -/
def room (segments : List (List Char)) : Nat :=
  (segments.flatMap fun s => 0x2F :: s.flatMap bytesOfChar).length

@[simp] theorem weight_cons (s : List Char) (ss : List (List Char)) :
    weight (s :: ss) = 1 + (decode s).length + weight ss := by
  simp [weight, pathBytes]
  omega

@[simp] theorem room_cons (s : List Char) (ss : List (List Char)) :
    room (s :: ss) = 1 + (s.flatMap bytesOfChar).length + room ss := by
  simp [room]
  omega

theorem weight_append (ss ts : List (List Char)) : weight (ss ++ ts) = weight ss + weight ts := by
  simp [weight, pathBytes]

@[simp] theorem weight_reverse (ss : List (List Char)) : weight ss.reverse = weight ss := by
  induction ss with
  | nil => rfl
  | cons s ss ih =>
    rw [List.reverse_cons, weight_append, ih, weight_cons, weight_cons]
    simp [weight, pathBytes]
    omega

theorem weight_pop (done : List (List Char)) : weight (pop done) ≤ weight done := by
  cases done with
  | nil => exact Nat.le_refl _
  | cons s done =>
    simp only [pop]
    split
    · exact Nat.le_refl _
    · rw [weight_cons]
      omega

theorem weight_le_room (ss : List (List Char)) : weight ss ≤ room ss := by
  induction ss with
  | nil => exact Nat.le_refl _
  | cons s ss ih =>
    have := length_decode_le s
    rw [weight_cons, room_cons]
    omega

/-- A segment that names a directory is not empty. -/
theorem length_pos_of_dots {s : List Char} (h : isAbove s = true ∨ isHere s = true) :
    0 < (s.flatMap bytesOfChar).length := by
  cases s with
  | nil => rcases h with h | h <;> simp [isAbove, isHere, dots] at h
  | cons c s =>
    have := length_bytesOfChar_pos c
    rw [List.flatMap_cons, List.length_append]
    omega

/-- A segment that names no directory is kept or gets shorter. -/
theorem kept_or_lt {s : List Char} (above : isAbove s = false) (here : isHere s = false) :
    Kept s ∨ (decode s).length < (s.flatMap bytesOfChar).length := by
  rcases decode_eq_or_lt s with eq | lt
  · exact .inl ⟨above, here, (decode_eq_iff s).mp eq⟩
  · exact .inr lt

/-- The last segment is kept, or it gets shorter by being resolved. -/
theorem weight_resolve_last (s : List Char) (done : List (List Char)) :
    Kept s ∨ weight (resolve false done [s]) < weight done + room [s] := by
  have popped := weight_pop done
  have single : room [s] = 1 + (s.flatMap bytesOfChar).length := by
    rw [room_cons]
    rfl
  have empty : (decode []).length = 0 := by
    rw [decode_nil]
    rfl
  rw [resolve, single]
  cases above : isAbove s with
  | true =>
    have := length_pos_of_dots (.inl above)
    right
    rw [if_pos rfl, weight_reverse, weight_cons, empty]
    omega
  | false =>
    cases here : isHere s with
    | true =>
      have := length_pos_of_dots (.inr here)
      right
      rw [if_neg Bool.false_ne_true, if_pos rfl, weight_reverse, weight_cons, empty]
      omega
    | false =>
      rw [if_neg Bool.false_ne_true, if_neg Bool.false_ne_true, weight_reverse]
      simp only [push, Bool.false_and, Bool.false_eq_true, if_false, weight_cons]
      rcases kept_or_lt above here with kept | lt
      · exact .inl kept
      · right
        omega

/-- Segments are all kept, or they get shorter by being resolved. -/
theorem weight_resolve : ∀ (segments done : List (List Char)),
    (∀ s ∈ segments, Kept s) ∨
      weight (resolve false done segments) < weight done + room segments
  | [], done => .inl fun s hs => absurd hs List.not_mem_nil
  | [s], done => by
    rcases weight_resolve_last s done with kept | lt
    · exact .inl fun x hx => by rw [List.mem_singleton.mp hx]; exact kept
    · exact .inr lt
  | s :: t :: rest, done => by
    have popped := weight_pop done
    -- What is kept takes as much as it stands for, so the rest is never the longer for it.
    have bound : ∀ done', weight (resolve false done' (t :: rest)) ≤
        weight done' + room (t :: rest) := by
      intro done'
      rcases weight_resolve (t :: rest) done' with kept | lt
      · rw [resolve_plain _ _ fun x hx => ⟨(kept x hx).above, (kept x hx).here⟩, weight_append,
          weight_reverse]
        have := weight_le_room (t :: rest)
        omega
      · exact Nat.le_of_lt lt
    rw [resolve, room_cons]
    cases above : isAbove s with
    | true =>
      have := bound (pop done)
      right
      rw [if_pos rfl]
      omega
    | false =>
      cases here : isHere s with
      | true =>
        have := bound done
        right
        rw [if_neg Bool.false_ne_true, if_pos rfl]
        omega
      | false =>
        rw [if_neg Bool.false_ne_true, if_neg Bool.false_ne_true]
        simp only [push, Bool.false_and, Bool.false_eq_true, if_false]
        have later := bound (s :: done)
        rw [weight_cons] at later
        rcases kept_or_lt above here with kept | lt
        · rcases weight_resolve (t :: rest) (s :: done) with all | lt
          · left
            intro x hx
            rcases List.mem_cons.mp hx with rfl | hx
            · exact kept
            · exact all x hx
          · have := length_decode_le s
            rw [weight_cons] at lt
            right
            omega
        · right
          omega

/-! ## Pieces -/

theorem isSlash_cases {special : Bool} {c : Char} (h : isSlash special c = true) :
    c = '/' ∨ c = '\\' := by
  simp only [isSlash, Bool.or_eq_true, Bool.and_eq_true, beq_iff_eq] at h
  rcases h with h | ⟨-, h⟩
  · exact .inl h
  · exact .inr h

/-- A backslash as the slash that it is read as. -/
def unslashed (c : Char) : Char :=
  if isSlash true c then '/' else c

/-- The pieces of a text take the bytes of the text, with one slash in front. -/
theorem bytes_pieces (cs : List Char) :
    (pieces (isSlash true) cs).flatMap (fun s => 0x2F :: s.flatMap bytesOfChar) =
      0x2F :: (cs.map unslashed).flatMap bytesOfChar := by
  have slash : bytesOfChar '/' = [0x2F] := by decide
  induction cs with
  | nil => rfl
  | cons c cs ih =>
    unfold pieces
    by_cases h : isSlash true c = true
    · rw [if_pos h, List.flatMap_cons, ih]
      simp [unslashed, h, slash]
    · rw [if_neg h]
      obtain ⟨piece, rest, hp⟩ := List.exists_cons_of_ne_nil (pieces_ne_nil (isSlash true) cs)
      rw [hp] at ih ⊢
      simp only [List.flatMap_cons, List.cons_append, List.cons.injEq, true_and] at ih
      simp only [List.flatMap_cons, List.map_cons, List.cons_append, List.append_assoc, ih,
        unslashed, if_neg h]

theorem length_unslashed (cs : List Char) :
    ((cs.map unslashed).flatMap bytesOfChar).length = (cs.flatMap bytesOfChar).length := by
  induction cs with
  | nil => rfl
  | cons c cs ih =>
    rw [List.map_cons, List.flatMap_cons, List.flatMap_cons, List.length_append,
      List.length_append, ih]
    by_cases h : isSlash true c = true
    · rcases isSlash_cases h with rfl | rfl <;> rfl
    · rw [unslashed, if_neg h]

theorem room_pieces (cs : List Char) :
    room (pieces (isSlash true) cs) = 1 + (cs.flatMap bytesOfChar).length := by
  rw [room, bytes_pieces, List.length_cons, length_unslashed]
  omega

/-- Kept segments stand for the bytes that they take. -/
theorem pathBytes_kept {segments : List (List Char)} (h : ∀ s ∈ segments, Kept s) :
    pathBytes segments = segments.flatMap fun s => 0x2F :: s.flatMap bytesOfChar := by
  induction segments with
  | nil => rfl
  | cons s rest ih =>
    have first := (decode_eq_iff s).mpr (h s List.mem_cons_self).triples
    have later := ih fun x hx => h x (List.mem_cons_of_mem s hx)
    unfold pathBytes at later ⊢
    rw [List.flatMap_cons, List.flatMap_cons, first, later]

/-- The pieces between slashes stand for what the text between them stands for. -/
theorem pathBytes_pieces (cs : List Char) :
    pathBytes (pieces (· == '/') cs) = 0x2F :: decode cs := by
  have joined : ∀ ps : List (List Char), ps ≠ [] →
      pathBytes ps = 0x2F :: decode (joined '/' ps) := by
    intro ps
    induction ps with
    | nil => intro h; exact absurd rfl h
    | cons p ps ih =>
      intro _
      cases ps with
      | nil => simp [pathBytes, Text.joined]
      | cons q rest =>
        rw [Text.joined, decode_append_slash, ← ih (by simp)]
        rfl
  rw [joined _ (pieces_ne_nil _ _), joined_pieces]

theorem pieces_head_prefix (sep : Char → Bool) (cs : List Char) :
    ∃ piece rest after, pieces sep cs = piece :: rest ∧ cs = piece ++ after := by
  induction cs with
  | nil => exact ⟨[], [], [], rfl, rfl⟩
  | cons c cs ih =>
    obtain ⟨piece, rest, after, hp, hcs⟩ := ih
    unfold pieces
    by_cases h : sep c = true
    · exact ⟨[], pieces sep cs, c :: cs, by rw [if_pos h], rfl⟩
    · exact ⟨c :: piece, rest, after, by rw [if_neg h, hp], by rw [hcs]; rfl⟩

/-- A piece stands somewhere in the text. -/
theorem infix_of_mem_pieces (sep : Char → Bool) (cs : List Char) :
    ∀ s ∈ pieces sep cs, ∃ before after, cs = before ++ s ++ after := by
  induction cs with
  | nil =>
    intro s hs
    rw [pieces, List.mem_singleton] at hs
    exact ⟨[], [], by rw [hs]; rfl⟩
  | cons c cs ih =>
    intro s hs
    unfold pieces at hs
    by_cases h : sep c = true
    · rw [if_pos h] at hs
      rcases List.mem_cons.mp hs with rfl | hs
      · exact ⟨[], c :: cs, rfl⟩
      · obtain ⟨before, after, eq⟩ := ih s hs
        exact ⟨c :: before, after, by rw [eq]; rfl⟩
    -- The character goes in front of the first piece of the rest.
    · rw [if_neg h] at hs
      obtain ⟨piece, rest, end_, hp, hcs⟩ := pieces_head_prefix sep cs
      rw [hp] at hs ih
      rcases List.mem_cons.mp hs with rfl | hs
      · exact ⟨[], end_, by rw [hcs]; rfl⟩
      · obtain ⟨before, after, eq⟩ := ih s (List.mem_cons_of_mem piece hs)
        exact ⟨c :: before, after, by rw [eq]; rfl⟩

/-! ## Texts at the end of a URL -/

/-- What counts of a text at the end of a URL. -/
def heard (cs : List Char) : List Char :=
  (trimEnd (fun c => c.toNat ≤ 0x20) cs).filter
    fun c => !(c == '\t' || c == '\n' || c == '\r')

/-- What of it belongs to the path. -/
def front (cs : List Char) : List Char :=
  (heard cs).takeWhile fun c => !endsPath c

theorem trimEnd_sublist (p : Char → Bool) (cs : List Char) : (trimEnd p cs).Sublist cs := by
  have := (List.dropWhile_sublist p (l := cs.reverse)).reverse
  rwa [List.reverse_reverse] at this

theorem front_sublist (cs : List Char) : (front cs).Sublist (trimEnd (·.toNat ≤ 0x20) cs) :=
  (List.takeWhile_sublist _).trans List.filter_sublist

/-- A text loses nothing at its end just if its last character stays. -/
theorem trimEnd_eq_iff (p : Char → Bool) (cs : List Char) :
    trimEnd p cs = cs ↔ ∀ c, cs.getLast? = some c → p c = false := by
  unfold trimEnd
  rw [← List.head?_reverse]
  constructor
  · intro h c hc
    have same : cs.reverse.dropWhile p = cs.reverse := by
      rw [← List.reverse_reverse (cs.reverse.dropWhile p), h]
    obtain ⟨rest, hr⟩ := List.head?_eq_some_iff.mp hc
    rw [hr] at same
    cases hp : p c with
    | false => rfl
    | true =>
      rw [List.dropWhile_cons_of_pos hp] at same
      have := (List.dropWhile_sublist p (l := rest)).length_le
      rw [same, List.length_cons] at this
      omega
  · intro h
    cases hr : cs.reverse with
    | nil =>
      rw [← List.reverse_reverse cs, hr]
      rfl
    | cons d rest =>
      have last : p d = false := h d (by rw [hr]; rfl)
      rw [List.dropWhile_cons_of_neg (by rw [last]; decide), ← hr, List.reverse_reverse]

/-- A text belongs to the path as a whole just if it has no tabs, line ends or marks in it and ends
in no blank. -/
theorem front_eq_iff (cs : List Char) :
    front cs = cs ↔
      (∀ c ∈ cs, c ≠ '\t' ∧ c ≠ '\n' ∧ c ≠ '\r' ∧ c ≠ '?' ∧ c ≠ '#') ∧
        ∀ c, cs.getLast? = some c → 0x20 < c.toNat := by
  constructor
  · intro h
    -- Three steps cut from the text in turn; if nothing is lost, none of them cut anything.
    have trimmed : trimEnd (fun c => decide (c.toNat ≤ 0x20)) cs = cs := by
      refine (trimEnd_sublist _ cs).eq_of_length_le ?_
      have := (front_sublist cs).length_le
      rwa [h] at this
    constructor
    · intro c hc
      rw [← h] at hc
      have stays := List.mem_takeWhile_imp hc
      have heard := List.mem_filter.mp ((List.takeWhile_sublist _).subset hc)
      have h₁ := heard.2
      simp only [endsPath, Bool.not_eq_true', Bool.or_eq_false_iff, beq_eq_false_iff_ne] at stays h₁
      exact ⟨h₁.1.1, h₁.1.2, h₁.2, stays.1, stays.2⟩
    · intro c hc
      have := (trimEnd_eq_iff _ cs).mp trimmed c hc
      simpa using this
  · rintro ⟨marks, last⟩
    have trimmed : trimEnd (fun c => decide (c.toNat ≤ 0x20)) cs = cs :=
      (trimEnd_eq_iff _ cs).mpr fun c hc => by simpa using last c hc
    have filtered : heard cs = cs := by
      rw [heard, trimmed, List.filter_eq_self]
      intro c hc
      simp [(marks c hc).1, (marks c hc).2.1, (marks c hc).2.2.1]
    rw [front, filtered, List.takeWhile_eq_self_iff]
    intro c hc
    simp [endsPath, (marks c hc).2.2.2.1, (marks c hc).2.2.2.2]

/-- What belongs to the path as a whole counts as a whole. -/
theorem heard_eq_front {cs : List Char} (whole : front cs = cs) : heard cs = front cs := by
  refine (List.Sublist.eq_of_length_le (List.takeWhile_sublist _) ?_).symm
  have shorter : (heard cs).length ≤ cs.length :=
    (List.filter_sublist.trans (trimEnd_sublist _ cs)).length_le
  have same := congrArg List.length whole
  unfold front at same
  omega

/-- Characters of a text take no more bytes than the text, and all of them only if they are the
text. -/
theorem bytes_of_sublist {xs ys : List Char} (h : xs.Sublist ys) :
    (xs.flatMap bytesOfChar).length ≤ (ys.flatMap bytesOfChar).length ∧
      ((ys.flatMap bytesOfChar).length ≤ (xs.flatMap bytesOfChar).length → xs = ys) := by
  induction h with
  | slnil => exact ⟨Nat.le_refl _, fun _ => rfl⟩
  | cons c h ih =>
    have := length_bytesOfChar_pos c
    rw [List.flatMap_cons, List.length_append]
    exact ⟨by omega, fun le => absurd le (by omega)⟩
  | cons_cons c h ih =>
    rw [List.flatMap_cons, List.flatMap_cons, List.length_append, List.length_append]
    exact ⟨by omega, fun le => by rw [ih.2 (by omega)]⟩

/-! ## Paths that stand for themselves -/

/-- A text of which nothing gets lost when it ends a URL with a path: it has no tabs, line ends,
marks or backslashes in it and no blank at its end, none of its percent signs begins a triple, and
none of the names between its slashes is one of the two that name directories. -/
structure PlainPath (cs : List Char) : Prop where
  marks : ∀ c ∈ cs, c ≠ '\t' ∧ c ≠ '\n' ∧ c ≠ '\r' ∧ c ≠ '?' ∧ c ≠ '#'
  backslashes : ∀ c ∈ cs, c ≠ '\\'
  last : ∀ c, cs.getLast? = some c → 0x20 < c.toNat
  triples : HasNoTriple cs
  names : ∀ s ∈ pieces (· == '/') cs, s ≠ ['.'] ∧ s ≠ ['.', '.']

theorem dots_of_hasNoTriple {s : List Char} (h : HasNoTriple s) : dots s = s := by
  induction s with
  | nil => rfl
  | cons c s ih =>
    have later := ih h.tail
    unfold dots
    split
    next rest eq => exact absurd (h [] _ _ rest eq) (by decide)
    next rest eq => exact absurd (h [] _ _ rest eq) (by decide)
    next d rest _ _ eq =>
      obtain ⟨rfl, rfl⟩ := List.cons.inj eq
      rw [later]
    next eq => exact absurd eq (by simp)

/-- Without backslashes, the slashes are the only separators. -/
theorem pieces_isSlash {cs : List Char} (h : ∀ c ∈ cs, c ≠ '\\') :
    pieces (isSlash true) cs = pieces (· == '/') cs := by
  induction cs with
  | nil => rfl
  | cons c cs ih =>
    have same : isSlash true c = (c == '/') := by
      simp [isSlash, h c List.mem_cons_self]
    unfold pieces
    rw [same, ih fun x hx => h x (List.mem_cons_of_mem c hx)]

/-- All of a plain text counts, and belongs to the path. -/
theorem PlainPath.front_eq {cs : List Char} (h : PlainPath cs) : front cs = cs :=
  (front_eq_iff cs).mpr ⟨h.marks, h.last⟩

theorem PlainPath.heard_eq {cs : List Char} (h : PlainPath cs) : heard cs = front cs :=
  heard_eq_front h.front_eq

theorem PlainPath.kept {cs : List Char} (h : PlainPath cs) :
    ∀ s ∈ pieces (isSlash true) cs, Kept s := by
  intro s hs
  rw [pieces_isSlash h.backslashes] at hs
  have free := h.triples.infix (infix_of_mem_pieces _ cs s hs)
  obtain ⟨here, above⟩ := h.names s hs
  refine ⟨?_, ?_, free⟩
  · rw [isAbove, dots_of_hasNoTriple free]
    simpa using above
  · rw [isHere, dots_of_hasNoTriple free]
    simpa using here

/-- A text behind segments that are there already stands for itself just if it is plain. -/
theorem pathBytes_resolve_iff (done : List (List Char)) (cs : List Char) :
    pathBytes (resolve false done (pieces (isSlash true) (front cs))) =
        pathBytes done.reverse ++ 0x2F :: cs.flatMap bytesOfChar ↔
      PlainPath cs := by
  constructor
  · intro eq
    -- Nothing may get shorter: not the text, and none of its segments.
    have total := congrArg List.length eq
    obtain ⟨shorter, same⟩ := bytes_of_sublist ((front_sublist cs).trans (trimEnd_sublist _ cs))
    have behind := weight_reverse done
    have space := room_pieces (front cs)
    rw [List.length_append, List.length_cons] at total
    have kept : ∀ s ∈ pieces (isSlash true) (front cs), Kept s := by
      refine (weight_resolve _ done).resolve_right ?_
      unfold weight at behind ⊢
      omega
    rw [resolve_plain _ _ fun s hs => ⟨(kept s hs).above, (kept s hs).here⟩] at eq total
    have whole : front cs = cs := by
      refine same ?_
      have := weight_le_room (pieces (isSlash true) (front cs))
      have := weight_append done.reverse (pieces (isSlash true) (front cs))
      unfold weight at *
      omega
    rw [whole] at eq kept
    -- What is left of the difference is between slashes and backslashes.
    have bytes : (cs.map unslashed).flatMap bytesOfChar = cs.flatMap bytesOfChar := by
      unfold pathBytes at eq
      rw [List.flatMap_append, List.append_cancel_left_eq] at eq
      have := (bytes_pieces cs).symm.trans ((pathBytes_kept kept).symm.trans eq)
      exact (List.cons.inj this).2
    have slashes : ∀ c ∈ cs, c ≠ '\\' := by
      rintro c hc rfl
      have fixed : cs.map unslashed = cs.map id :=
        (flatMap_bytesOfChar_injective bytes).trans (List.map_id cs).symm
      exact absurd (List.map_inj_left.mp fixed _ hc) (by decide)
    obtain ⟨marks, last⟩ := (front_eq_iff cs).mp whole
    rw [pieces_isSlash slashes] at eq kept
    refine ⟨marks, slashes, last, ?_, ?_⟩
    · unfold pathBytes at eq
      rw [List.flatMap_append, List.append_cancel_left_eq] at eq
      have := (pathBytes_pieces cs).symm.trans eq
      exact (decode_eq_iff cs).mp (List.cons.inj this).2
    · intro s hs
      constructor
      · rintro rfl
        exact absurd (kept _ hs).here (by decide)
      · rintro rfl
        exact absurd (kept _ hs).above (by decide)
  · intro h
    have kept := h.kept
    rw [h.front_eq, resolve_plain _ _ fun s hs => ⟨(kept s hs).above, (kept s hs).here⟩,
      pieces_isSlash h.backslashes]
    unfold pathBytes
    rw [List.flatMap_append, List.append_cancel_left_eq, ← (decode_eq_iff cs).mpr h.triples]
    exact pathBytes_pieces cs

end OneFs.Url
