import OneFs.Proofs.Exchange.Sends

/-!
# Rounds

What plans tell that are made of queries. One that tells nothing of its own consists of rounds.

- `Round.Faithful`: a round announces what is sent;
- `Logged`: a run that consists of rounds and of what it tells after them;
- `Concludes`, `Wordless`: plans made of queries that tell at most what they end in, with one lemma
  for each way of putting plans together;
- `Concludes.does`, `Concludes.logged`: what such a plan does, and how it is logged.
-/

namespace OneFs

open Json Http Exchange

variable {α β σ : Type}

namespace Round

/-- The refusal that a round ended with. -/
def refusal? (x : Round) : Option Rejection :=
  match x.sent with
  | some (_, .received status body) =>
    if isSuccess status then none else some (Rejection.ofBody status body)
  | _ => none

/-- What was announced is what was sent: the method, the URL but for a login that it embeds, and the
body. -/
def Faithful (x : Round) : Prop :=
  ∀ r d, x.sent = some (r, d) → r.method = x.method ∧ r.url = bareUrl x.url ∧
    r.body = ((x.body.map Text.Utf8.bytes).getD [])

theorem Faithful.unsent {x : Round} (unsent : x.sent = none) : x.Faithful := fun _ _ sent =>
  absurd (sent.symm.trans unsent) (Option.some_ne_none _)

end Round

/-! ## Runs made of rounds -/

/-- The refusal that a failure is. -/
def Failure.refusal? : Failure → Option Rejection
  | .rejected x => some x
  | _ => none

/-- The refusal by which a result failed, as a list. -/
def refusals : Except Failure α → List Rejection
  | .ok _ => []
  | .error f => f.refusal?.toList

/-- A run consists of rounds, in which what is announced is what is sent, and of what it tells after
them. The refusals that were told are those by which it failed. -/
structure Logged (run : Run σ α) (rounds : List Round) (ending : List Event) : Prop where
  steps : run.steps = rounds.flatMap Round.steps ++ ending.map .noted
  faithful : ∀ x ∈ rounds, x.Faithful
  refused : rounds.filterMap Round.refusal? = refusals run.result

namespace Logged

/-- Nothing happened, and nothing was refused. -/
theorem nil {result : Except Failure α} {server : σ} (own : refusals result = []) :
    Logged ⟨result, [], server⟩ [] [] where
  steps := rfl
  faithful _ hx := absurd hx List.not_mem_nil
  refused := own.symm

/-- A run that is one round. -/
theorem single {result : Except Failure α} {x : Round} {server : σ} (faithful : x.Faithful)
    (refused : x.refusal?.toList = refusals result) : Logged ⟨result, x.steps, server⟩ [x] [] where
  steps := by rw [List.flatMap_singleton, List.map_nil, List.append_nil]
  faithful y hy := by rwa [List.mem_singleton.mp hy]
  refused := by
    rw [← refused]
    cases h : x.refusal? <;> simp [h]

variable {run : Run σ α} {k : α → Exchange β} {answer : σ → Request → Delivery × σ}
  {rounds rest : List Round} {ending : List Event}

/-- A run that failed does not go on. -/
theorem cut (first : Logged run rounds []) {f : Failure} (failed : run.result = .error f) :
    Logged (run.andThen answer k) rounds [] := by
  unfold Run.andThen
  rw [failed]
  refine ⟨first.steps, first.faithful, ?_⟩
  rw [first.refused, failed]
  rfl

/-- A run that did not fail goes on with more rounds. -/
theorem andThen (first : Logged run rounds []) {a : α} (done : run.result = .ok a)
    (later : Logged ((k a).run answer run.server) rest ending) :
    Logged (run.andThen answer k) (rounds ++ rest) ending := by
  unfold Run.andThen
  rw [done]
  have unrefused : rounds.filterMap Round.refusal? = [] := by rw [first.refused, done]; rfl
  refine ⟨?_, ?_, ?_⟩
  · simp only [first.steps, later.steps, List.map_nil, List.append_nil, List.flatMap_append,
      List.append_assoc]
  · exact List.forall_mem_append.mpr ⟨first.faithful, later.faithful⟩
  · rw [List.filterMap_append, unrefused, List.nil_append, later.refused]

end Logged

/-- A query fails with a refusal just if a reply is one. -/
theorem Round.refusal?_eq (x : Round) {req : Request} {d : Delivery}
    (sent : x.sent = some (req, d)) (r : Reader α) :
    x.refusal?.toList = refusals ((replyOf req d).bind (Connection.verdict r)) := by
  unfold refusal?
  rw [sent]
  cases d with
  | received status body =>
    show (if isSuccess status then none else some _ : Option Rejection).toList =
      refusals (Connection.verdict r ⟨status, body⟩)
    by_cases success : isSuccess status = true
    · have judged : refusals (Connection.verdict r ⟨status, body⟩) = [] := by
        simp only [Connection.verdict, Reply.isSuccess, success, if_true]
        split
        · rfl
        · unfold Connection.decoded
          cases r.decode body <;> rfl
      rw [if_pos success, judged]
      rfl
    · simp only [Connection.verdict, Reply.isSuccess, success]
      rfl
  | _ => rfl

/-- A query is a round, if there is a URL for it. -/
theorem Connection.query_logged (c : Connection) (ask : Ask) (r : Reader α)
    (answer : σ → Request → Delivery × σ) (server : σ) :
    ∃ rounds, Logged ((c.query ask r).run answer server) rounds [] := by
  rw [query_run]
  cases located : c.url ask.path ask.id ask.params with
  | error f =>
    refine ⟨[], .nil ?_⟩
    unfold Connection.url at located
    dsimp only at located
    split at located
    · cases located
    · cases located
      rfl
  | ok url =>
    dsimp only
    cases prepared : prepare c.options ask.method url c.authorization ask.headers
        ((ask.body.map Value.text).map Text.Utf8.bytes) with
    | error fault => exact ⟨_, .single (.unsent rfl) rfl⟩
    | ok req =>
      obtain ⟨given, -, -, -, rfl⟩ := prepare_spec prepared
      refine ⟨_, .single (fun r d eq => ?_) (Round.refusal?_eq _ rfl r)⟩
      cases eq
      exact ⟨rfl, rfl, rfl⟩

/-- What happens when a connection asks for what it may: requests for that are sent, and told by
their URLs. Nothing is said of other events. -/
def Connection.Does (c : Connection) (may : Ask → Prop) : Step → Prop
  | .sent r _ => ∃ ask, may ask ∧ c.requestFor ask = .ok r
  | .noted (.request _ url) => ∃ ask, may ask ∧ c.url ask.path ask.id ask.params = .ok url
  | .noted _ => True

/-- A round for what may be asked is that. -/
theorem Connection.does_steps {c : Connection} {may : Ask → Prop} {x : Round}
    (told : c.Does may (.noted (.request x.method x.url)))
    (sent : ∀ r d, x.sent = some (r, d) → c.Does may (.sent r d)) :
    ∀ step ∈ x.steps, c.Does may step := by
  have announced : ∀ e ∈ x.announced, c.Does may (.noted e) := by
    refine List.forall_mem_cons.mpr ⟨told, fun e he => ?_⟩
    obtain ⟨body, -, rfl⟩ := Option.map_eq_some_iff.mp (Option.mem_toList.mp he)
    trivial
  have reported (d : Delivery) : ∀ e ∈ Round.reported x.method d, c.Does may (.noted e) := by
    intro e he
    cases d with
    | received status body =>
      rcases List.mem_append.mp he with he | he
      · rcases List.mem_cons.mp he with rfl | he
        · trivial
        · rw [List.mem_singleton.mp he]
          trivial
      · split at he
        · cases he
        · rw [List.mem_singleton.mp he]
          trivial
    | _ => cases he
  unfold Round.steps
  refine List.forall_mem_append.mpr ⟨List.forall_mem_map.mpr announced, ?_⟩
  cases given : x.sent with
  | none => exact List.forall_mem_nil _
  | some exchange =>
    exact List.forall_mem_cons.mpr ⟨sent _ _ given, List.forall_mem_map.mpr (reported exchange.2)⟩

/-- A query does nothing but ask. -/
theorem Connection.query_does (c : Connection) {may : Ask → Prop} {ask : Ask} (asks : may ask)
    (r : Reader α) : (c.query ask r).Does (c.Does may) := by
  intro σ answer server
  rw [query_run]
  cases located : c.url ask.path ask.id ask.params with
  | error f => exact List.forall_mem_nil _
  | ok url =>
    dsimp only
    cases prepared : prepare c.options ask.method url c.authorization ask.headers
        ((ask.body.map Value.text).map Text.Utf8.bytes) with
    | error fault =>
      exact does_steps ⟨ask, asks, located⟩ fun r d none => absurd none.symm (Option.some_ne_none _)
    | ok req =>
      refine does_steps ⟨ask, asks, located⟩ fun r d eq => ?_
      cases eq
      refine ⟨ask, asks, ?_⟩
      unfold requestFor
      rw [located]
      dsimp only
      rw [prepared]

/-! ## Plans made of rounds -/

/-- How a run may end: a failure is told by nothing, and a result by one of the events for it,
unless the run may be quiet. -/
inductive Ending (quiet : Prop) (tells : α → Event → Prop) : Except Failure α → List Event → Prop
  | failed (f : Failure) : Ending quiet tells (.error f) []
  | silent (a : α) (allowed : quiet) : Ending quiet tells (.ok a) []
  | told {a : α} {e : Event} (telling : tells a e) : Ending quiet tells (.ok a) [e]

/-- A plan that is made of queries for what may be asked and tells nothing of its own but, at its
end, what it ends in, unless it may be quiet. It fails of its own with something else than a
refusal. -/
inductive Concludes (c : Connection) (may : Ask → Prop) (quiet : Prop) (tells : α → Event → Prop) :
    Exchange α → Prop
  | silent (a : α) (allowed : quiet) : Concludes c may quiet tells (.done a)
  | told {a : α} {e : Event} (telling : tells a e) :
      Concludes c may quiet tells (.noted e (.done a))
  | failed {f : Failure} (own : f.refusal? = none) : Concludes c may quiet tells (.failed f)
  | asked {β : Type} {ask : Ask} (asks : may ask) (r : Reader β) {next : Option β → Exchange α}
      (concludes : ∀ reply, Concludes c may quiet tells (next reply)) :
      Concludes c may quiet tells (c.query ask r >>= next)

/-- A plan that is made of queries for what may be asked and tells nothing of its own at all. -/
def Wordless (c : Connection) (may : Ask → Prop) (x : Exchange α) : Prop :=
  Concludes c may True (fun _ _ => False) x

namespace Wordless

variable {c : Connection} {may : Ask → Prop}

protected theorem done (a : α) : Wordless c may (.done a) :=
  .silent a trivial

protected theorem query {ask : Ask} (asks : may ask) (r : Reader α) :
    Wordless c may (c.query ask r) := by
  have asked : Wordless c may (c.query ask r >>= .done) := .asked asks r Wordless.done
  rwa [show c.query ask r >>= .done = c.query ask r from bind_done _] at asked

protected theorem bind {quiet : Prop} {tells : β → Event → Prop} {x : Exchange α}
    {k : α → Exchange β} (hx : Wordless c may x) (hk : ∀ a, Concludes c may quiet tells (k a)) :
    Concludes c may quiet tells (x >>= k) := by
  induction hx with
  | silent a _ => exact hk a
  | told telling => exact telling.elim
  | failed own => exact .failed own
  | asked asks r _ ih =>
    rw [LawfulMonad.bind_assoc]
    exact .asked asks r ih

protected theorem ofOption {f : Failure} (own : f.refusal? = none) (o : Option α) :
    Wordless c may (Exchange.ofOption f o) := by
  cases o with
  | none => exact .failed own
  | some a => exact .done a

protected theorem require (present : Bool) (what : String) :
    Wordless c may (Connection.require present what) := by
  cases present with
  | false => exact .failed rfl
  | true => exact .done ()

protected theorem execute {ask : Ask} (asks : may ask) : Wordless c may (c.execute ask) :=
  (Wordless.query asks ignored).bind fun _ => Wordless.done ()

end Wordless

namespace Concludes

variable {c : Connection} {may : Ask → Prop} {quiet : Prop} {tells : α → Event → Prop}
  {x : Exchange α}

/-- A plan may end in something else, if that is told by the same events. -/
protected theorem map {still : Prop} {other : β → Event → Prop} (f : α → β)
    (hx : Concludes c may quiet tells x) (stays : quiet → still)
    (telling : ∀ a e, tells a e → other (f a) e) : Concludes c may still other (f <$> x) := by
  induction hx with
  | silent a allowed => exact .silent (f a) (stays allowed)
  | told tell => exact .told (telling _ _ tell)
  | failed own => exact .failed own
  | asked asks r _ ih =>
    rw [map_bind]
    exact .asked asks r ih

/-- Such a plan does nothing but ask for what may be asked, if what it tells of its own is not
that. -/
theorem does (hx : Concludes c may quiet tells x)
    (own : ∀ a e, tells a e → c.Does may (.noted e)) : x.Does (c.Does may) := by
  induction hx with
  | silent a _ => exact .done a
  | told telling => exact .noted (own _ _ telling) (.done _)
  | failed _ => exact .fail _
  | asked asks r _ ih => exact (c.query_does asks r).bind ih

/-- Such a plan consists of rounds and its ending. -/
theorem logged (hx : Concludes c may quiet tells x) (answer : σ → Request → Delivery × σ)
    (server : σ) :
    ∃ rounds ending, Logged (x.run answer server) rounds ending ∧
      Ending quiet tells (x.run answer server).result ending := by
  induction hx generalizing server with
  | silent a allowed => exact ⟨[], [], .nil rfl, .silent a allowed⟩
  | @told a e telling =>
    exact ⟨[], [e], ⟨rfl, fun _ hx => absurd hx List.not_mem_nil, rfl⟩, .told telling⟩
  | failed own =>
    refine ⟨[], [], .nil ?_, .failed _⟩
    rw [refusals, own]
    rfl
  | @asked β ask _ r next _ ih =>
    have run : (c.query ask r >>= next).run answer server =
        ((c.query ask r).run answer server).andThen answer next :=
      run_bind answer next (c.query ask r) server
    obtain ⟨first, logged⟩ := c.query_logged ask r answer server
    rw [run]
    -- A query that fails ends the run; after any other, what comes next is such a plan.
    cases result : ((c.query ask r).run answer server).result with
    | error f =>
      refine ⟨first, [], logged.cut result, ?_⟩
      rw [show (((c.query ask r).run answer server).andThen answer next).result = .error f by
        unfold Run.andThen
        rw [result]]
      exact .failed f
    | ok reply =>
      obtain ⟨rest, ending, later, ends⟩ := ih reply ((c.query ask r).run answer server).server
      refine ⟨first ++ rest, ending, logged.andThen result later, ?_⟩
      rw [show (((c.query ask r).run answer server).andThen answer next).result =
        ((next reply).run answer ((c.query ask r).run answer server).server).result by
          unfold Run.andThen
          rw [result]]
      exact ends

end Concludes

theorem Wordless.does {c : Connection} {may : Ask → Prop} {x : Exchange α}
    (hx : Wordless c may x) : x.Does (c.Does may) :=
  Concludes.does hx fun _ _ => False.elim

end OneFs
