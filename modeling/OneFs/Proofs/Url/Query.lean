import OneFs.Http.Request

/-!
# URLs with parameters

- `queryOf`: the query that consists of parameters;
- `Url.withPairs_eq`, `Url.text_query`: a URL without a query, and its text, with parameters added;
- `Http.scheme_bareUrl`, `Http.path_bareUrl`, `Http.query_bareUrl`: what stays when the user name is
  taken out.
-/

namespace OneFs

open Http Url

/-- A query that consists of parameters. -/
def queryOf (params : List (String × String)) : Option String :=
  if params.isEmpty then none else some (String.ofList (Form.encode params))

section Parts

variable (u : Url) (params : List (String × String))

@[simp] theorem Url.scheme_withPairs : (u.withPairs params).scheme = u.scheme := by
  unfold Url.withPairs
  split
  · rfl
  · dsimp only
    split <;> rfl

@[simp] theorem Url.path_withPairs : (u.withPairs params).path = u.path := by
  unfold Url.withPairs
  split
  · rfl
  · dsimp only
    split <;> rfl

/-- Parameters are all there is in the query that had none. -/
theorem Url.query_withPairs (h : u.query = none) :
    (u.withPairs params).query = queryOf params := by
  unfold Url.withPairs queryOf
  split
  · exact h
  · rw [h]

/-- And nothing else is there that was not before. -/
theorem Url.withPairs_eq (h : u.query = none) :
    u.withPairs params = { u with query := queryOf params } := by
  have query := u.query_withPairs params h
  unfold Url.withPairs at query ⊢
  split
  · rename_i empty
    rw [if_pos empty] at query
    rw [← query]
  · rename_i filled
    rw [if_neg filled] at query
    dsimp only at query ⊢
    rw [h] at query ⊢
    rw [← query]

/-- A query stands at the end of the text of a URL that has nothing behind its path. -/
theorem Url.text_query (h : u.query = none) (fragment : u.fragment = none) (q : Option String) :
    { u with query := q }.text = u.text ++ marked "?" q := by
  show u.scheme ++ ":" ++ u.authority ++ u.guard ++ u.pathText ++ marked "?" q ++
      marked "#" u.fragment = (u.scheme ++ ":" ++ u.authority ++ u.guard ++ u.pathText ++
        marked "?" u.query ++ marked "#" u.fragment) ++ marked "?" q
  rw [h, fragment]
  simp only [marked, String.append_empty]

@[simp] theorem Http.scheme_bareUrl : (bareUrl u).scheme = u.scheme := by
  unfold bareUrl
  split <;> rfl

@[simp] theorem Http.path_bareUrl : (bareUrl u).path = u.path := by
  unfold bareUrl
  split <;> rfl

@[simp] theorem Http.query_bareUrl : (bareUrl u).query = u.query := by
  unfold bareUrl
  split <;> rfl

end Parts

end OneFs
