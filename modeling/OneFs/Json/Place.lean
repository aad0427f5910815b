import OneFs.Json.Reader

/-!
# Where a text is refused

A place is a line and a number of bytes, as it is told along with a fault. What it is depends on
the kind of fault:

- a text that ends too early is refused at its end;
- a text that is not JSON is refused at the end of its shortest beginning that nothing can mend;
- JSON of the wrong shape is refused where its `Site` leads: `Site.unread` follows the site through
  the text. A reader that has given up on an item still looks for the end of the container around
  it, so blanks and a closing bracket behind the item count as read.
-/

namespace OneFs.Json

/-- A place in a text: the line, and the number of bytes from the beginning of that line. -/
structure Place where
  line : Nat
  column : Nat
  deriving DecidableEq, Inhabited

namespace Place

/-- The place after some characters. -/
def after (cs : List Char) : Place :=
  ⟨1 + cs.count '\n', Text.Utf8.width (cs.reverse.takeWhile (· != '\n'))⟩

/-- The place after the first byte of a character. -/
def into (p : Place) (c : Char) : Place :=
  if c = '\n' then ⟨p.line + 1, 0⟩ else ⟨p.line, p.column + 1⟩

/-- A place in words, as it follows a message. -/
def suffix (p : Place) : String :=
  " at line " ++ toString p.line ++ " column " ++ toString p.column

end Place

/-! ## A text that is not JSON -/

/-- The least number from `lo` on that satisfies `p`, where `p` holds from some number up to `hi`
on. -/
def leastFrom (p : Nat → Bool) (lo hi : Nat) : Nat :=
  if lo < hi then
    let mid := (lo + hi) / 2
    if p mid then leastFrom p lo mid else leastFrom p (mid + 1) hi
  else lo
termination_by hi - lo

/-- The place at which a text is refused for good, for a reason that every longer beginning of it
shares. -/
def breakingPlace (refused : List Char → Bool) (cs : List Char) : Place :=
  let n := leastFrom (fun n => refused (cs.take n)) 1 cs.length
  match cs[n - 1]? with
  | some c => (Place.after (cs.take (n - 1))).into c
  | none => Place.after cs

/-! ## JSON of the wrong shape -/

/-- The text after the value at the beginning of a text. -/
def afterValue (cs : List Char) : List Char :=
  (scanValue (2 * cs.length + 2) 0 cs).2

/-- The text after the token at the beginning of a text; a bracket is not taken. -/
def afterToken (cs : List Char) : List Char :=
  match skipSpace cs with
  | '[' :: cs => '[' :: cs
  | '\x7b' :: cs => '\x7b' :: cs
  | cs => afterValue cs

/-- The text after the key at the beginning of a text. -/
def afterKey (cs : List Char) : List Char :=
  match skipSpace cs with
  | '\x22' :: cs => (scanString cs).2
  | cs => cs

/-- The text from the value of the member at the beginning of a text on. -/
def memberValue (cs : List Char) : List Char :=
  match skipSpace (afterKey cs) with
  | ':' :: cs => cs
  | cs => cs

/-- The text from entry `i` of a container on, where `next` gives the text after an entry. -/
def entryFrom (next : List Char → List Char) : Nat → List Char → List Char
  | 0, cs => cs
  | i + 1, cs =>
    match skipSpace (next cs) with
    | ',' :: cs => entryFrom next i cs
    | cs => cs

/-- The text from item `i` of a list on, from the text after its bracket. -/
def itemFrom : Nat → List Char → List Char :=
  entryFrom afterValue

/-- The text from member `i` of an object on, from the text after its brace. -/
def memberFrom : Nat → List Char → List Char :=
  entryFrom fun cs => afterValue (memberValue cs)

/-- What is left unread by looking for the end of a list. -/
def seekListEnd (cs : List Char) : List Char :=
  match skipSpace cs with
  | ']' :: cs => cs
  | ',' :: cs => skipSpace cs
  | cs => cs

/-- What is left unread by looking for the end of an object. -/
def seekObjectEnd (cs : List Char) : List Char :=
  match skipSpace cs with
  | '\x7d' :: cs => cs
  | cs => cs

/-- What is left unread when the value at the beginning of a text is refused at a site. -/
def Site.unread : Site → List Char → List Char
  | .token, cs => afterToken cs
  | .whole, cs => afterValue cs
  | .behind, cs => afterValue cs
  | .tag, cs => afterToken ((skipSpace cs).drop 1)
  | .key i, cs => seekObjectEnd (afterKey (memberFrom i ((skipSpace cs).drop 1)))
  | .within i site, cs =>
    match skipSpace cs with
    | '[' :: cs =>
      let rest := site.unread (itemFrom i cs)
      if site = .behind then seekListEnd rest else rest
    | cs =>
      let rest := site.unread (memberValue (memberFrom i (cs.drop 1)))
      if site = .behind then seekObjectEnd rest else rest

/-- The place that a site leads to. Behind the outermost value there is none. -/
def Site.place? (site : Site) (cs : List Char) : Option Place :=
  if site = .behind then none
  else some (Place.after (cs.take (cs.length - (site.unread cs).length)))

/-- The place at which a reader refuses a text for the reason `f`. -/
def Reader.place? {α : Type} (r : Reader α) (text : String) (f : Fault) : Option Place :=
  let cs := text.toList
  let refused (cs : List Char) : Bool :=
    match r.decode (String.ofList cs) with
    | .error g => g == f
    | .ok _ => false
  match f with
  | .unfinished _ => some (Place.after cs)
  | .malformed _ => some (breakingPlace refused cs)
  | .misfit _ site => site.place? cs

end OneFs.Json
