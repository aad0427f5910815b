import OneFs.Proofs.Connection.Request

/-!
# What plans do

- `Exchange.Does`: a property of everything that can happen in a run of a plan, with one lemma for
  each way of putting plans together;
- `Exchange.Sends`: a property of every request that it can send, which is a property of that;
- `Exchange.MustSend`: a property of some request that it has sent if it succeeds;
- `Exchange.mem_requests_bind`, `Exchange.of_bind_ok`: what is sent by one plan after another;
- `query_sends`, `query_sent`, `execute_sent`: a query sends nothing but the request for what is
  asked, and that if it succeeds.
-/

namespace OneFs

open Json Http Exchange

variable {α β : Type}

/-! ## Everything that happens -/

/-- Everything that a plan does has a property, whatever it is answered. -/
def Exchange.Does (P : Step → Prop) (x : Exchange α) : Prop :=
  ∀ (σ : Type) (answer : σ → Request → Delivery × σ) (server : σ),
    ∀ step ∈ (x.run answer server).steps, P step

namespace Exchange.Does

variable {P : Step → Prop}

protected theorem done (a : α) : (Exchange.done a).Does P :=
  fun _ _ _ _ h => absurd h List.not_mem_nil

protected theorem fail (f : Failure) : (Exchange.failed f : Exchange α).Does P :=
  fun _ _ _ _ h => absurd h List.not_mem_nil

protected theorem noted {e : Event} {next : Exchange α} (told : P (.noted e)) (h : next.Does P) :
    (Exchange.noted e next).Does P :=
  fun σ answer server => List.forall_mem_cons.mpr ⟨told, h σ answer server⟩

protected theorem ofOption (f : Failure) (o : Option α) : (Exchange.ofOption f o).Does P := by
  cases o with
  | none => exact .fail f
  | some a => exact .done a

protected theorem bind {x : Exchange α} {k : α → Exchange β} (hx : x.Does P)
    (hk : ∀ a, (k a).Does P) : (x >>= k).Does P := by
  intro σ answer server
  have run : (x >>= k).run answer server = (x.run answer server).andThen answer k :=
    run_bind answer k x server
  rw [run]
  unfold Run.andThen
  split
  · exact hx σ answer server
  · exact List.forall_mem_append.mpr ⟨hx σ answer server, hk _ σ answer _⟩

/-- Going on after a failure does nothing more. -/
protected theorem attempt {x : Exchange α} (hx : x.Does P) : x.attempt.Does P := by
  intro σ answer server
  rw [run_attempt]
  exact hx σ answer server

protected theorem map (f : α → β) {x : Exchange α} (hx : x.Does P) : (f <$> x).Does P := by
  rw [map_eq_pure_bind]
  exact hx.bind fun a => .done (f a)

/-- What is made of the result is nothing that a plan does. -/
protected theorem of_map {f : α → β} {x : Exchange α} (h : (f <$> x).Does P) : x.Does P := by
  intro σ answer server step mem
  have all := h σ answer server
  rw [run_map] at all
  exact all step mem

end Exchange.Does

/-! ## Requests and events -/

theorem Exchange.mem_requests_iff {steps : List Step} {r : Request} :
    r ∈ requests steps ↔ ∃ d, .sent r d ∈ steps := by
  induction steps with
  | nil => simp [requests]
  | cons step rest ih =>
    cases step with
    | noted e => simp [requests, ih]
    | sent req d => simp [requests, ih, exists_or]

theorem Exchange.mem_events_iff {steps : List Step} {e : Event} :
    e ∈ events steps ↔ .noted e ∈ steps := by
  induction steps with
  | nil => simp [events]
  | cons step rest ih =>
    cases step with
    | noted told => simp [events, ih]
    | sent req d => simp [events, ih]

/-- What is sent by one plan after another is sent by the first, or by the second for what the first
came to. -/
theorem Exchange.mem_requests_bind {σ : Type} {x : Exchange α} {k : α → Exchange β}
    {answer : σ → Request → Delivery × σ} {server : σ} {r : Request}
    (sent : r ∈ requests ((x >>= k).run answer server).steps) :
    r ∈ requests (x.run answer server).steps ∨
      ∃ a, (x.run answer server).result = .ok a ∧
        r ∈ requests ((k a).run answer (x.run answer server).server).steps := by
  have run : (x >>= k).run answer server = (x.run answer server).andThen answer k :=
    run_bind answer k x server
  rw [run, ← map_sentIn] at sent
  unfold Run.andThen at sent
  cases result : (x.run answer server).result with
  | error f =>
    rw [result, map_sentIn] at sent
    exact .inl sent
  | ok a =>
    rw [result, sentIn_append, List.map_append, map_sentIn, map_sentIn] at sent
    rcases List.mem_append.mp sent with first | later
    · exact .inl first
    · exact .inr ⟨a, rfl, later⟩

/-- One plan after another succeeds if both do, and has sent what both send. -/
theorem Exchange.of_bind_ok {σ : Type} {x : Exchange α} {k : α → Exchange β}
    {answer : σ → Request → Delivery × σ} {server : σ} {b : β}
    (done : ((x >>= k).run answer server).result = .ok b) :
    ∃ a, (x.run answer server).result = .ok a ∧
      ((k a).run answer (x.run answer server).server).result = .ok b ∧
      requests ((x >>= k).run answer server).steps =
        requests (x.run answer server).steps ++
          requests ((k a).run answer (x.run answer server).server).steps := by
  have run : (x >>= k).run answer server = (x.run answer server).andThen answer k :=
    run_bind answer k x server
  rw [run] at done ⊢
  unfold Run.andThen at done ⊢
  cases result : (x.run answer server).result with
  | error f =>
    rw [result] at done
    cases done
  | ok a =>
    rw [result] at done
    refine ⟨a, rfl, done, ?_⟩
    simp only [← map_sentIn, sentIn_append, List.map_append]

/-- Every request that a plan sends has a property, whatever it is answered. -/
def Exchange.Sends (P : Request → Prop) (x : Exchange α) : Prop :=
  ∀ (σ : Type) (answer : σ → Request → Delivery × σ) (server : σ),
    ∀ r ∈ requests (x.run answer server).steps, P r

/-- A property of the requests in what happens. -/
def Exchange.OfRequests (P : Request → Prop) : Step → Prop
  | .sent r _ => P r
  | .noted _ => True

namespace Exchange.Sends

variable {P : Request → Prop}

theorem does {x : Exchange α} (hx : x.Sends P) : x.Does (OfRequests P) := by
  intro σ answer server step mem
  cases step with
  | noted e => trivial
  | sent r d => exact hx σ answer server r (mem_requests_iff.mpr ⟨d, mem⟩)

theorem of_does {x : Exchange α} (hx : x.Does (OfRequests P)) : x.Sends P := by
  intro σ answer server r hr
  obtain ⟨d, mem⟩ := mem_requests_iff.mp hr
  exact hx σ answer server (.sent r d) mem

/-! Requests are something that happens, so that plans are put together as above. -/

protected theorem done (a : α) : (Exchange.done a).Sends P :=
  of_does (.done a)

protected theorem fail (f : Failure) : (Exchange.fail f : Exchange α).Sends P :=
  of_does (.fail f)

protected theorem note (e : Event) : (Exchange.note e).Sends P :=
  of_does (.noted trivial (.done ()))

protected theorem ofOption (f : Failure) (o : Option α) : (Exchange.ofOption f o).Sends P :=
  of_does (.ofOption f o)

protected theorem require (present : Bool) (what : String) :
    (Connection.require present what).Sends P := by
  cases present with
  | false => exact .fail _
  | true => exact .done ()

protected theorem bind {x : Exchange α} {k : α → Exchange β} (hx : x.Sends P)
    (hk : ∀ a, (k a).Sends P) : (x >>= k).Sends P :=
  of_does (hx.does.bind fun a => (hk a).does)

/-- Going on after a failure sends nothing more. -/
protected theorem attempt {x : Exchange α} (hx : x.Sends P) : x.attempt.Sends P :=
  of_does hx.does.attempt

protected theorem map (f : α → β) {x : Exchange α} (hx : x.Sends P) : (f <$> x).Sends P :=
  of_does (hx.does.map f)

/-- A plan of whose requests nothing at all holds sends none. -/
theorem requests_eq_nil {x : Exchange α} (silent : x.Sends fun _ => False) {σ : Type}
    (answer : σ → Request → Delivery × σ) (server : σ) :
    requests (x.run answer server).steps = [] :=
  List.eq_nil_iff_forall_not_mem.mpr fun r hr => silent σ answer server r hr

theorem mono {Q : Request → Prop} {x : Exchange α} (hx : x.Sends P) (h : ∀ r, P r → Q r) :
    x.Sends Q :=
  fun σ answer server r hr => h r (hx σ answer server r hr)

end Exchange.Sends

/-- A plan that succeeds has sent a request with a property, whatever it is answered. -/
def Exchange.MustSend (P : Request → Prop) (x : Exchange α) : Prop :=
  ∀ (σ : Type) (answer : σ → Request → Delivery × σ) (server : σ) (a : α),
    (x.run answer server).result = .ok a → ∃ r ∈ requests (x.run answer server).steps, P r

namespace Exchange.MustSend

variable {P Q : Request → Prop}

/-- One plan after another succeeds if both do, so it is enough that the first must send it. -/
protected theorem bind {x : Exchange α} {k : α → Exchange β} (hx : x.MustSend P) :
    (x >>= k).MustSend P := by
  intro σ answer server b done
  obtain ⟨a, first, -, all⟩ := of_bind_ok done
  obtain ⟨r, sent, h⟩ := hx σ answer server a first
  exact ⟨r, all ▸ List.mem_append_left _ sent, h⟩

/-- Or the one behind it. -/
theorem behind {x : Exchange α} {k : α → Exchange β} (hk : ∀ a, (k a).MustSend P) :
    (x >>= k).MustSend P := by
  intro σ answer server b done
  obtain ⟨a, -, later, all⟩ := of_bind_ok done
  obtain ⟨r, sent, h⟩ := hk a σ answer _ b later
  exact ⟨r, all ▸ List.mem_append_right _ sent, h⟩

theorem mono {x : Exchange α} (hx : x.MustSend P) (h : ∀ r, P r → Q r) : x.MustSend Q := by
  intro σ answer server a done
  obtain ⟨r, sent, hr⟩ := hx σ answer server a done
  exact ⟨r, sent, h r hr⟩

end Exchange.MustSend

namespace Connection

/-- A query sends nothing but the request for what is asked. -/
theorem query_sends (c : Connection) (ask : Ask) (r : Reader α) :
    (c.query ask r).Sends fun req => c.requestFor ask = .ok req := by
  intro σ answer server req hreq
  have sent := congrArg Outcome.sent (query_outcome c ask r answer server)
  rw [← map_sentIn] at hreq
  change (sentIn _) = _ at sent
  rw [sent] at hreq
  cases request : c.requestFor ask with
  | error f =>
    rw [request] at hreq
    exact absurd hreq List.not_mem_nil
  | ok req' =>
    rw [request] at hreq
    rw [List.mem_singleton.mp hreq]

/-- A query that succeeds has sent the request for what is asked. -/
theorem query_sent {c : Connection} {ask : Ask} {r : Reader α} {σ : Type}
    {answer : σ → Request → Delivery × σ} {server : σ} {reply : Option α}
    (done : ((c.query ask r).run answer server).result = .ok reply) :
    ∃ req, c.requestFor ask = .ok req ∧
      requests ((c.query ask r).run answer server).steps = [req] := by
  have outcome := query_outcome c ask r answer server
  cases request : c.requestFor ask with
  | error f =>
    rw [request] at outcome
    cases (congrArg Outcome.result outcome).symm.trans done
  | ok req =>
    rw [request] at outcome
    refine ⟨req, rfl, ?_⟩
    rw [← map_sentIn]
    exact congrArg (fun o => o.sent.map Prod.fst) outcome

/-- So has a call of which only the status counts. -/
theorem execute_sent {c : Connection} {ask : Ask} {σ : Type}
    {answer : σ → Request → Delivery × σ} {server : σ}
    (done : ((c.execute ask).run answer server).result = .ok ()) :
    ∃ req, c.requestFor ask = .ok req ∧
      requests ((c.execute ask).run answer server).steps = [req] := by
  unfold execute at done ⊢
  obtain ⟨_, queried, -, all⟩ := of_bind_ok done
  obtain ⟨req, request, only⟩ := query_sent queried
  refine ⟨req, request, ?_⟩
  rw [all, only]
  rfl

theorem query_mustSend (c : Connection) (ask : Ask) (r : Reader α) :
    (c.query ask r).MustSend fun req => c.requestFor ask = .ok req := by
  intro σ answer server reply done
  obtain ⟨req, request, only⟩ := query_sent done
  exact ⟨req, only ▸ List.mem_singleton_self req, request⟩

theorem query_sends_method (c : Connection) (ask : Ask) (r : Reader α) :
    (c.query ask r).Sends fun req => req.method = ask.method :=
  (query_sends c ask r).mono fun _ => method_of_requestFor

theorem execute_sends (c : Connection) (ask : Ask) :
    (c.execute ask).Sends fun req => c.requestFor ask = .ok req :=
  (query_sends c ask ignored).bind fun _ => .done ()

end Connection

end OneFs
