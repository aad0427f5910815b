import OneFs.Proofs.Base64
import OneFs.Proofs.Call.Redaction
import OneFs.Version

/-!
# Credentials

What a server can tell of a user name and a password from the authorization that is made of them.
A colon stands between the two, and a user name may have colons of its own.

- `Base64.decode?_ofText`, `Base64.isPadded_ofText`: the text of an authorization;
- `Http.credentials?`: an authorization as a server reads it;
- `Http.credentials?_ofText`: the two are read back just when the user name has no colon;
- `Http.basicAuth_exact`: that, what authorizations have in common, and that all can be sent.
-/

namespace OneFs

/-! ## Splitting at a character -/

variable {c : Char} {cs front back : List Char}

/-- A text is split at the first of a character. -/
theorem splitOnce_singleton (free : c ∉ front) :
    splitOnce [c] (front ++ c :: back) = some (front, back) := by
  induction front with
  | nil =>
    rw [List.nil_append, splitOnce, if_pos (by simp [List.isPrefixOf])]
    rfl
  | cons x front ih =>
    obtain ⟨other, free⟩ := not_or.mp fun h => free (List.mem_cons.mpr h)
    rw [List.cons_append, splitOnce, if_neg (by simp [List.isPrefixOf, other]), ih free]
    rfl

/-- What a text is split into in front of a character does not have it. -/
theorem not_mem_of_splitOnce (h : splitOnce [c] cs = some (front, back)) : c ∉ front := by
  induction cs generalizing front with
  | nil => cases h
  | cons x cs ih =>
    rw [splitOnce] at h
    split at h
    · cases h
      exact List.not_mem_nil
    · obtain ⟨⟨front', back'⟩, rest, same⟩ := Option.map_eq_some_iff.mp h
      obtain ⟨rfl, rfl⟩ := Prod.mk.inj same
      intro hc
      cases List.mem_cons.mp hc with
      | inl first =>
        subst first
        rename_i other
        exact other (by simp [List.isPrefixOf])
      | inr later => exact ih rest later

/-! ## The text of an authorization -/

namespace Base64

theorem decode?_ofText (s : String) :
    decode? (ofText s).toList = some (Text.Utf8.bytes s) := by
  unfold ofText
  rw [String.toList_ofList, decode?_encode]

theorem isPadded_ofText (s : String) : IsPadded (ofText s).toList := by
  unfold ofText
  rw [String.toList_ofList]
  exact isPadded_encode _

end Base64

namespace Http

/-- The user name and the password that a server reads of the text of an authorization: what
stands in front of its first colon, and what stands behind it. -/
def credentials? (text : String) : Option (String × String) :=
  ((Base64.decode? text.toList).bind Text.Utf8.decode?).bind fun cs =>
    (splitOnce [':'] cs).map fun pair => (String.ofList pair.1, String.ofList pair.2)

theorem credentials?_eq (name password : String) :
    credentials? (Base64.ofText (name ++ ":" ++ password)) =
      (splitOnce [':'] (name.toList ++ ':' :: password.toList)).map fun pair =>
        (String.ofList pair.1, String.ofList pair.2) := by
  have characters : (name ++ ":" ++ password).toList = name.toList ++ ':' :: password.toList := by
    simp
  have read : Text.Utf8.decode? (Text.Utf8.bytes (name ++ ":" ++ password)) =
      some (name.toList ++ ':' :: password.toList) := by
    rw [← characters]
    unfold Text.Utf8.decode? Text.Utf8.bytes
    rw [Text.Utf8.decodeLossy_flatMap]
    exact if_pos rfl
  unfold credentials?
  rw [Base64.decode?_ofText, Option.bind_some, read, Option.bind_some]

/-- User name and password are read back just when the user name has no colon. -/
theorem credentials?_ofText (name password : String) :
    credentials? (Base64.ofText (name ++ ":" ++ password)) = some (name, password) ↔
      ':' ∉ name.toList := by
  rw [credentials?_eq]
  constructor
  · intro h
    obtain ⟨⟨front, back⟩, split, same⟩ := Option.map_eq_some_iff.mp h
    obtain ⟨rfl, rfl⟩ := Prod.mk.inj same
    rw [String.toList_ofList]
    exact not_mem_of_splitOnce split
  · intro free
    rw [splitOnce_singleton free, Option.map_some, String.ofList_toList, String.ofList_toList]

/-! ## The header -/

theorem isField_basicAuth (name password : String) :
    ∀ c ∈ (basicAuth name password).toList, isField c = true := by
  have scheme : ∀ c ∈ "Basic ".toList, isField c = true := List.all_eq_true.mp (by decide)
  intro c hc
  unfold basicAuth at hc
  rw [String.toList_append, List.mem_append] at hc
  cases hc with
  | inl front => exact scheme c front
  | inr letters =>
    unfold Base64.ofText at letters
    rw [String.toList_ofList] at letters
    exact Base64.isField_encode _ c letters

theorem basicAuth_injective {name password name' password' : String}
    (free : ':' ∉ name.toList) (free' : ':' ∉ name'.toList)
    (same : basicAuth name password = basicAuth name' password') :
    name = name' ∧ password = password' := by
  have text : Base64.ofText (name ++ ":" ++ password) = Base64.ofText (name' ++ ":" ++ password') :=
    (String.append_right_inj "Basic ").mp same
  have read := (credentials?_ofText name password).mpr free
  rw [text, (credentials?_ofText name' password').mpr free'] at read
  obtain ⟨rfl, rfl⟩ := Prod.mk.inj (Option.some.inj read)
  exact ⟨rfl, rfl⟩

theorem isLegal_empty : IsLegal "" := by
  unfold IsLegal
  decide

variable (options : Options) (method : String) (url : Url) (headers : List (String × String))
  (body : Option (List UInt8))

/-- Why a request cannot be made is no matter of the credentials. -/
theorem prepare_error_basicAuth (name password : String) (fault : RequestFault) :
    prepare options method url (basicAuth name password) headers body = .error fault ↔
      prepare options method url "" headers body = .error fault := by
  have alike : (prepare options method url (basicAuth name password) headers body).map
      Request.redacted = (prepare options method url "" headers body).map Request.redacted :=
    prepare_redacted (isLegal_basicAuth name password) isLegal_empty (SentAlike.refl url)
  cases first : prepare options method url (basicAuth name password) headers body with
  | ok r =>
    cases second : prepare options method url "" headers body with
    | ok s => exact ⟨nofun, nofun⟩
    | error fault' => rw [first, second] at alike; cases alike
  | error fault' =>
    cases second : prepare options method url "" headers body with
    | ok s => rw [first, second] at alike; cases alike
    | error fault'' =>
      rw [first, second] at alike
      cases alike
      exact Iff.rfl

/-- Credentials make no header illegal. -/
theorem prepare_illegalHeader_basicAuth (name password : String) :
    prepare options method url (basicAuth name password) headers body = .error .illegalHeader ↔
      headers? headers = none := by
  have legal : header? "authorization" (basicAuth name password) =
      some ⟨"authorization", basicAuth name password⟩ := isLegal_basicAuth name password
  unfold prepare
  rw [headers?, legal]
  cases headers? headers with
  | none => exact ⟨fun _ => rfl, fun _ => rfl⟩
  | some given =>
    constructor
    · intro failed
      dsimp only [Option.bind_eq_bind, Option.bind_some, Option.pure_def] at failed
      split at failed
      · cases failed
      · split at failed <;> cases failed
    · intro absent
      cases absent

/-- What an authorization tells, and that it can always be sent. It is a scheme and a padded text
that is read as the bytes of the credentials; the user name and the password are read back from it
just when the user name has no colon, so different such credentials have different authorizations.
All its characters are those of header values, and no credentials are the reason why a request
cannot be made. -/
theorem basicAuth_exact (name password : String) :
    (∃ text, basicAuth name password = "Basic " ++ text ∧ Base64.IsPadded text.toList ∧
      Base64.decode? text.toList = some (Text.Utf8.bytes (name ++ ":" ++ password)) ∧
      (credentials? text = some (name, password) ↔ ':' ∉ name.toList)) ∧
    (∀ name' password', ':' ∉ name.toList → ':' ∉ name'.toList →
      basicAuth name password = basicAuth name' password' →
      name = name' ∧ password = password') ∧
    (∀ c ∈ (basicAuth name password).toList, isField c = true) ∧
    ∀ options method url headers body,
      (prepare options method url (basicAuth name password) headers body =
        .error .illegalHeader ↔ headers? headers = none) ∧
      ∀ fault,
        prepare options method url (basicAuth name password) headers body = .error fault ↔
          prepare options method url "" headers body = .error fault := by
  refine ⟨⟨Base64.ofText (name ++ ":" ++ password), rfl, Base64.isPadded_ofText _,
    Base64.decode?_ofText _, credentials?_ofText name password⟩, ?_, isField_basicAuth name password,
    ?_⟩
  · intro name' password' free free' same
    exact basicAuth_injective free free' same
  · intro options method url headers body
    exact ⟨prepare_illegalHeader_basicAuth options method url headers body name password,
      prepare_error_basicAuth options method url headers body name password⟩

example : basicAuth "akutz" "password" = "Basic YWt1dHo6cGFzc3dvcmQ=" := by
  decide

/-- A password may have colons, and be read back. -/
theorem basicAuth_exact_colon :
    ':' ∉ "admin".toList ∧
    (∃ text, basicAuth "admin" "p@ss:word" = "Basic " ++ text ∧
      credentials? text = some ("admin", "p@ss:word")) ∧
    ∀ password', basicAuth "admin" "p@ss:word" = basicAuth "admin" password' →
      "p@ss:word" = password' := by
  have free : ':' ∉ "admin".toList := by decide
  obtain ⟨⟨text, eq, -, -, read⟩, unique, -⟩ := basicAuth_exact "admin" "p@ss:word"
  exact ⟨free, ⟨text, eq, read.mpr free⟩, fun password' same =>
    (unique "admin" password' free free same).2⟩

end Http

end OneFs
