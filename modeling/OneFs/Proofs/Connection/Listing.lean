import OneFs.Connection.Snapshots
import OneFs.Proofs.Exchange.Ends
import OneFs.Proofs.Exchange.Sends
import OneFs.Proofs.Volume.Address

/-!
# Listings and their pages

A cluster may answer a listing with a page, and announce that there is more by a token to resume
with. A listing is one request: it has the entries of the page that answers it, whether or not that
page announces more. So it is complete just if no further page has an entry.

- `Listing`: the four listings of a connection, with what is asked and how the reply is read;
- `Listing.page?`, `Listing.whole`: a reply as a page, and the entries of a sequence of pages up to
  the first that announces no more;
- `Listing.call_outcome`, `Listing.listed_iff`: what a listing comes to against any server;
- `listed_is_firstPage`: that it is the first page, and when this is the whole list.
-/

namespace OneFs

open Json Http Exchange

variable {σ : Type}

/-! ## The four listings -/

/-- What a connection lists. -/
inductive Listing where
  | exports
  | quotas
  | snapshots
  | volumes
  deriving DecidableEq

/-- Whether the last member of a name is there and not `null`. -/
def Json.Doc.carries (name : String) : Doc → Bool
  | .obj members _ =>
    match docOf name members.reverse with
    | none => false
    | some .null => false
    | some _ => true
  | _ => false

namespace Listing

/-- What there is a list of. -/
def Entry : Listing → Type
  | .exports => Export
  | .quotas => Quota
  | .snapshots => Snapshot
  | .volumes => Volume

/-- What a reply is read as. -/
def Held : Listing → Type
  | .exports => ExportList
  | .quotas => List Quota
  | .snapshots => SnapshotList
  | .volumes => List Volume

/-- How a reply is read. -/
def reader : (l : Listing) → Reader l.Held
  | .exports => ExportList.reader
  | .quotas => Quota.listing
  | .snapshots => SnapshotList.reader
  | .volumes => Volume.children

/-- The entries that a reply holds. -/
def entries : (l : Listing) → l.Held → List l.Entry
  | .exports => ExportList.exports
  | .quotas => id
  | .snapshots => SnapshotList.snapshots
  | .volumes => id

/-- Whether a document has a token to resume with. Snapshots declare it, in the others it is one of
the members that are kept or dropped. -/
def announces : Listing → Doc → Bool
  | .exports => Doc.carries "resume"
  | .quotas => Doc.carries "resume"
  | .snapshots => fun d => (SnapshotList.reader.value d).resume.isSome
  | .volumes => Doc.carries "resume"

/-- What a connection asks for. -/
def ask (c : Connection) : Listing → Ask
  | .exports => { method := "GET", path := c.version.exportsPath }
  | .quotas => { method := "GET", path := c.version.quotasPath }
  | .snapshots => { method := "GET", path := c.version.snapshotsPath }
  | .volumes => { method := "GET", path := c.namespacePath }

/-- The call of a connection. -/
def call (c : Connection) : (l : Listing) → Exchange (List l.Entry)
  | .exports => c.exports
  | .quotas => c.quotas
  | .snapshots => c.snapshots
  | .volumes => c.volumes

variable (l : Listing)

/-- The entries of a reply, if there is one that is not blank. -/
def taken (reply : Option l.Held) : List l.Entry :=
  reply.elim [] l.entries

/-- A listing is one query, whose reply is taken for the whole list. -/
theorem call_eq (c : Connection) :
    l.call c = c.query (l.ask c) l.reader >>= fun reply => .done (l.taken reply) := by
  -- The calls take the entries out of a reply in different words, which come to the same for a
  -- reply that is there and for one that is blank.
  cases l with
  | exports => exact congrArg (Exchange.bind _) (funext fun reply => by cases reply <;> rfl)
  | quotas => exact congrArg (Exchange.bind _) (funext fun reply => by cases reply <;> rfl)
  | snapshots => exact congrArg (Exchange.bind _) (funext fun reply => by cases reply <;> rfl)
  | volumes => exact congrArg (Exchange.bind _) (funext fun reply => by cases reply <;> rfl)

theorem method_ask (c : Connection) : (l.ask c).method = "GET" := by
  cases l <;> rfl

/-! ## Pages -/

/-- A page of a list, and whether it announces more. -/
structure Page (α : Type) where
  entries : List α
  more : Bool

/-- The page that a delivery brings. One that is blank is empty and the last. -/
def pageOf : Delivery → Option (Page l.Entry)
  | .received status body =>
    if isSuccess status then
      if Text.isBlankText body then some ⟨[], false⟩
      else (l.reader.decode body).toOption.map fun held =>
        ⟨l.entries held, l.announces (scan body).1⟩
    else none
  | _ => none

/-- The page that a reply is. -/
def page? (i : Incoming) : Option (Page l.Entry) :=
  l.pageOf (i.deliver "GET")

/-- The entries of all pages up to the first that announces no more; `none` if there is no such
page, or a reply before it is no page. -/
def whole : List Incoming → Option (List l.Entry)
  | [] => none
  | i :: rest => do
    let page ← l.page? i
    if page.more then (page.entries ++ ·) <$> whole rest else some page.entries

section

variable {l} {first : Incoming} {page : Page l.Entry}

theorem whole_cons (held : l.page? first = some page) (rest : List Incoming) :
    l.whole (first :: rest) =
      if page.more then (page.entries ++ ·) <$> l.whole rest else some page.entries := by
  show (l.page? first).bind _ = _
  rw [held]
  rfl

/-- The first page is the whole list just if the pages behind have no entry, where it announces
some. -/
theorem whole_eq_first_iff (held : l.page? first = some page) (rest : List Incoming) :
    l.whole (first :: rest) = some page.entries ↔ (page.more = true → l.whole rest = some []) := by
  rw [whole_cons held]
  cases page.more with
  | false => simp
  | true => simp

/-- The whole list begins with the first page. -/
theorem first_prefix_whole (held : l.page? first = some page) {rest : List Incoming}
    {all : List l.Entry} (complete : l.whole (first :: rest) = some all) :
    page.entries <+: all := by
  rw [whole_cons held] at complete
  cases more : page.more with
  | false =>
    rw [more] at complete
    cases complete
    exact List.prefix_refl _
  | true =>
    rw [more, if_pos rfl, Option.map_eq_map, Option.map_eq_some_iff] at complete
    obtain ⟨later, -, rfl⟩ := complete
    exact List.prefix_append _ _

end

/-! ## What a listing comes to -/

/-- A reply is accepted just if it is a page, and then for its entries. -/
theorem verdict_page (r : Request) (d : Delivery) {list : List l.Entry} :
    ((replyOf r d).bind (Connection.verdict l.reader)).map l.taken = .ok list ↔
      (l.pageOf d).map Page.entries = some list := by
  cases d with
  | received status body =>
    by_cases success : isSuccess status = true
    · by_cases blank : Text.isBlankText body = true
      · simp [pageOf, success, blank, replyOf, Except.bind, Connection.verdict, Reply.isSuccess,
          Reply.isEmpty, Except.map, taken]
      · cases read : l.reader.decode body <;>
          simp [pageOf, success, blank, replyOf, Except.bind, Connection.verdict, Reply.isSuccess,
            Reply.isEmpty, Except.map, Except.toOption, Connection.decoded, read, taken]
    · simp [pageOf, success, replyOf, Except.bind, Connection.verdict, Reply.isSuccess, Except.map]
  | _ => simp [pageOf, replyOf, Except.bind, Except.map]

variable {c : Connection} {req : Request}

/-- A listing is one request, and its reply decides. -/
theorem call_outcome (request : c.requestFor (l.ask c) = .ok req)
    (answer : σ → Request → Delivery × σ) (server : σ) :
    ((l.call c).run answer server).outcome =
      ⟨((replyOf req (answer server req).1).bind (Connection.verdict l.reader)).map l.taken,
        [(req, (answer server req).1)], (answer server req).2⟩ := by
  rw [call_eq, outcome_bind, Connection.query_outcome, request]
  unfold Outcome.andThen
  dsimp only
  cases (replyOf req (answer server req).1).bind (Connection.verdict l.reader) with
  | error f => rfl
  | ok reply => simp [Run.outcome, sentIn, Except.map]

variable {answer : σ → Request → Delivery × σ} {server : σ} {list : List l.Entry}

/-- A listing has the entries of the page that answers its request. -/
theorem listed_iff (request : c.requestFor (l.ask c) = .ok req) :
    ((l.call c).run answer server).result = .ok list ↔
      (l.pageOf (answer server req).1).map Page.entries = some list := by
  have result := congrArg Outcome.result (l.call_outcome request answer server)
  rw [← l.verdict_page req]
  exact (congrArg (· = Except.ok list) result).to_iff

/-- A listing that succeeds has a request. -/
theorem request_of_listed (listed : ((l.call c).run answer server).result = .ok list) :
    ∃ req, c.requestFor (l.ask c) = .ok req := by
  rw [call_eq] at listed
  obtain ⟨reply, done, -, -⟩ := of_bind_ok listed
  obtain ⟨req, request, -⟩ := Connection.query_sent done
  exact ⟨req, request⟩

end Listing

/-- A listing is the first page. Whatever is listed and whatever pages a cluster replies with: a
listing that succeeds has sent one request and read one reply, and it has the entries of that page,
whether or not the page announces more and whatever would have come. They are a beginning of the
whole list, and all of it just if the pages behind, where more is announced, have no entry. -/
theorem listed_is_firstPage (l : Listing) (c : Connection) {usedUp : Delivery}
    (lost : ∀ status body, usedUp ≠ .received status body) {incoming : List Incoming}
    {list : List l.Entry}
    (listed : ((l.call c).run (replies usedUp) incoming).result = .ok list) :
    ∃ first rest page req, incoming = first :: rest ∧ l.page? first = some page ∧
      list = page.entries ∧ c.requestFor (l.ask c) = .ok req ∧
      requests ((l.call c).run (replies usedUp) incoming).steps = [req] ∧
      ((l.call c).run (replies usedUp) incoming).server = rest ∧
      (∀ others, ((l.call c).run (replies usedUp) (first :: others)).result = .ok list) ∧
      (l.whole incoming = some list ↔ (page.more = true → l.whole rest = some [])) ∧
      ∀ complete, l.whole incoming = some complete → list <+: complete := by
  obtain ⟨req, request⟩ := l.request_of_listed listed
  have get : req.method = "GET" := (Connection.method_of_requestFor request).trans (l.method_ask c)
  have accepted := (l.listed_iff request).mp listed
  cases incoming with
  | nil =>
    -- What comes when no reply is left is no page.
    cases usedUp with
    | received status body => exact absurd rfl (lost status body)
    | _ => cases accepted
  | cons first rest =>
    have outcome := l.call_outcome request (replies usedUp) (first :: rest)
    obtain ⟨page, isPage, rfl⟩ := Option.map_eq_some_iff.mp accepted
    have held : l.page? first = some page := by
      rw [← isPage, Listing.page?, ← get]
      rfl
    refine ⟨first, rest, page, req, rfl, held, rfl, request, ?_, ?_, ?_, ?_, ?_⟩
    · rw [← map_sentIn]
      exact congrArg (fun o => o.sent.map Prod.fst) outcome
    · exact congrArg Outcome.server outcome
    · intro others
      exact (l.listed_iff request).mpr accepted
    · exact Listing.whole_eq_first_iff held rest
    · intro all complete
      exact Listing.first_prefix_whole held complete

/-- A page with one snapshot, which announces more. -/
def firstPage : Incoming :=
  .message 200 (Text.Utf8.bytes
    "\x7b\"snapshots\": [\x7b\"id\": 1, \"name\": \"a\"\x7d], \"resume\": \"t\"\x7d") true

/-- The page behind it. -/
def secondPage : Incoming :=
  .message 200 (Text.Utf8.bytes
    "\x7b\"snapshots\": [\x7b\"id\": 2, \"name\": \"b\"\x7d], \"resume\": null\x7d") true

/-- The snapshot of the second page is not listed. -/
theorem snapshots_cut_short :
    ∃ list, ((Listing.snapshots.call localConnection).run (replies .closed)
        [firstPage, secondPage]).result = .ok list ∧
      list.map Snapshot.name = ["a"] ∧
      ((Listing.snapshots.call localConnection).run (replies .closed)
        [firstPage, secondPage]).server = [secondPage] ∧
      (Listing.snapshots.whole [firstPage, secondPage]).map (List.map Snapshot.name) =
        some ["a", "b"] ∧
      Listing.snapshots.whole [firstPage, secondPage] ≠ some list := by
  have run : ∃ list, (Listing.snapshots.call localConnection).Ends (replies .closed)
      [firstPage, secondPage] (.ok list) [secondPage] ∧ list.map Snapshot.name = ["a"] :=
    Ends.exists_of_view (by decide +kernel)
  obtain ⟨list, ends, names⟩ := run
  have lost : ∀ status body, Delivery.closed ≠ .received status body := by
    intro status body same
    cases same
  obtain ⟨first, rest, page, req, cons, isPage, -, -, -, left, -, iff, -⟩ :=
    listed_is_firstPage .snapshots localConnection lost ends.result_eq
  obtain ⟨rfl, rfl⟩ := List.cons.inj cons
  refine ⟨list, ends.result_eq, names, left, by decide +kernel, ?_⟩
  -- The first page announces more, and what is behind it has an entry.
  have more : page.more = true := by
    have seen : (Listing.snapshots.page? firstPage).map Listing.Page.more = some true := by
      decide +kernel
    rw [isPage] at seen
    exact Option.some.inj seen
  intro whole
  have behind := congrArg (Option.map (List.map Snapshot.name)) (iff.mp whole more)
  exact absurd behind (by decide +kernel)

end OneFs
