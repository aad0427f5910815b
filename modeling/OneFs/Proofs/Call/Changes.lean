import Mathlib.Data.Bool.AllAny
import OneFs.Call
import OneFs.Proofs.Exchange.Course
import OneFs.Proofs.Volume.Address

/-!
# Changes

A call that changes something has no use for the body of a reply. It makes nothing of the body but
whether it can be passed over: whether it is blank, or JSON of any kind. Between replies that report
success with such bodies no change sees a difference, and with any other body the change is taken
for failed although it was made.

- `Passable`: the bodies that can be passed over;
- `Errand`, `Change`: plans made of changes, one after another, and such plans with a look-up in
  front;
- `Errand.judged`, `Change.judged`: what follows a reply that reports success;
- `Errand.same`, `Change.same`: two servers between whose replies there is no such difference;
- `changes_judged_by_passable`: the calls that change something.
-/

namespace OneFs

open Json Http Exchange

variable {α β σ : Type}

/-! ## Bodies that are passed over -/

/-- A body that can be passed over: it is blank, or JSON as far as it is looked at. -/
def Passable (body : String) : Prop :=
  Text.isBlankText body = true ∨ ignored.decode body = .ok ()

/-- Two deliveries that are the same but for what a change has no use for. -/
inductive Alike : Delivery → Delivery → Prop where
  | same (d : Delivery) : Alike d d
  | passed {status status' : Nat} {body body' : String} (success : isSuccess status = true)
      (success' : isSuccess status' = true) (passable : Passable body)
      (passable' : Passable body') : Alike (.received status body) (.received status' body')

namespace Connection

/-- What a change comes to by what is delivered. -/
def acknowledged (r : Request) (d : Delivery) : Except Failure Unit :=
  ((replyOf r d).bind (verdict ignored)).map fun _ => ()

/-- A change sends at most one request, and it is made if that is acknowledged. -/
theorem execute_outcome (c : Connection) (ask : Ask) (answer : σ → Request → Delivery × σ)
    (server : σ) :
    ((c.execute ask).run answer server).outcome =
      match c.requestFor ask with
      | .error f => ⟨.error f, [], server⟩
      | .ok req =>
        ⟨acknowledged req (answer server req).1, [(req, (answer server req).1)],
          (answer server req).2⟩ := by
  have asked : ((c.execute ask).run answer server).outcome = _ :=
    outcome_bind (c.query ask ignored) (fun _ => pure ()) answer server
  rw [asked, query_outcome]
  cases c.requestFor ask with
  | error f => rfl
  | ok req =>
    dsimp only
    unfold acknowledged
    cases (replyOf req (answer server req).1).bind (verdict ignored) <;> rfl

theorem acknowledged_passable (r : Request) {status : Nat} {body : String}
    (success : isSuccess status = true) (passable : Passable body) :
    acknowledged r (.received status body) = .ok () := by
  show (verdict ignored ⟨status, body⟩).map _ = _
  unfold verdict
  rw [show Reply.isSuccess ⟨status, body⟩ = true from success, if_pos rfl]
  rcases passable with blank | read
  · rw [show Reply.isEmpty ⟨status, body⟩ = true from blank]
    rfl
  · unfold decoded
    rw [read]
    split <;> rfl

theorem acknowledged_not_passable (r : Request) {status : Nat} {body : String}
    (success : isSuccess status = true) (unread : ¬ Passable body) :
    ∃ fault place, acknowledged r (.received status body) = .error (.json fault place) := by
  obtain ⟨filled, refused⟩ := not_or.mp unread
  have filled : Reply.isEmpty ⟨status, body⟩ = false := by
    rw [← Bool.not_eq_true]
    exact filled
  show ∃ fault place, (verdict ignored ⟨status, body⟩).map _ = _
  unfold verdict decoded
  rw [show Reply.isSuccess ⟨status, body⟩ = true from success, if_pos rfl, filled]
  cases read : ignored.decode body with
  | ok u => exact absurd read refused
  | error fault => exact ⟨fault, _, rfl⟩

/-- Deliveries that are alike come to the same. -/
theorem acknowledged_alike (r : Request) {d d' : Delivery} (alike : Alike d d') :
    acknowledged r d = acknowledged r d' := by
  cases alike with
  | same d => rfl
  | passed success success' passable passable' =>
    rw [acknowledged_passable r success passable, acknowledged_passable r success' passable']

/-! ## Plans made of changes -/

/-- A plan that makes changes one after another and makes nothing of what is answered. -/
inductive Errand (c : Connection) : Exchange α → Prop where
  | done (a : α) : Errand c (.done a)
  | noted (e : Event) {x : Exchange α} (rest : Errand c x) : Errand c (.noted e x)
  | executed (ask : Ask) {x : Exchange α} (rest : Errand c x) :
    Errand c (c.execute ask >>= fun _ => x)

/-- A plan that may look something up or refuse to be carried out, and then makes changes. -/
inductive Change (c : Connection) : Exchange α → Prop where
  | refused (f : Failure) : Change c (.failed f)
  | errand {x : Exchange α} (h : Errand c x) : Change c x
  | lookedUp {β : Type} (ask : Ask) (lookup : ask.method = "GET") (r : Reader β)
      {k : Option β → Exchange α} (rest : ∀ o, Change c (k o)) : Change c (c.query ask r >>= k)

variable {c : Connection}

theorem Errand.map (f : α → β) {x : Exchange α} (h : c.Errand x) : c.Errand (f <$> x) := by
  induction h with
  | done a => exact .done (f a)
  | noted e _ ih => exact .noted e ih
  | executed ask _ ih =>
    rw [map_eq_pure_bind, LawfulMonad.bind_assoc]
    rw [map_eq_pure_bind] at ih
    exact .executed ask ih

theorem Change.map (f : α → β) {x : Exchange α} (h : c.Change x) : c.Change (f <$> x) := by
  induction h with
  | refused e => exact .refused e
  | errand h => exact .errand (h.map f)
  | lookedUp ask lookup r _ ih =>
    rw [map_eq_pure_bind, LawfulMonad.bind_assoc]
    exact .lookedUp ask lookup r fun o => by
      have := ih o
      rwa [map_eq_pure_bind] at this

theorem Errand.last (ask : Ask) : c.Errand (c.execute ask) := by
  have h : c.Errand (c.execute ask >>= fun _ => .done ()) := .executed ask (.done ())
  rwa [show (c.execute ask >>= fun _ => Exchange.done ()) = c.execute ask from
    bind_done (c.execute ask)] at h

theorem Errand.told (ask : Ask) (e : Event) : c.Errand (c.execute ask >>= fun _ => note e) :=
  .executed ask (.noted e (.done ()))

/-- What is required is there or the plan is refused. -/
theorem Change.require {x : Exchange α} (h : c.Change x) (present : Bool) (what : String) :
    c.Change (require present what >>= fun _ => x) := by
  cases present with
  | false => exact .refused _
  | true => exact h

/-! ## What follows a reply -/

/-- What is left of a plan that ends in `result` once some of it is over: more is sent, or the plan
ends well, or it fails since the next request cannot be made. -/
def GoesOn (c : Connection) (result : Except Failure α) (after : List (Request × Delivery)) :
    Prop :=
  after ≠ [] ∨ (∃ a, result = .ok a) ∨ ∃ ask f, c.requestFor ask = .error f ∧ result = .error f

/-- A reply that reports success is judged by whether its body can be passed over: if it can, the
plan goes on; if it cannot, the plan fails and sends nothing more. -/
def Judged (c : Connection) (result : Except Failure α) (sent : List (Request × Delivery)) :
    Prop :=
  ∀ before r status body after, sent = before ++ (r, .received status body) :: after →
    r.method ≠ "GET" → isSuccess status = true →
      (Passable body → c.GoesOn result after) ∧
      (¬ Passable body → after = [] ∧ ∃ fault place, result = .error (.json fault place))

theorem Judged.nil (result : Except Failure α) : c.Judged result [] := by
  intro before r status body after eq
  simp at eq

theorem Judged.cons {result : Except Failure α} {sent : List (Request × Delivery)} {r : Request}
    {d : Delivery} (later : c.Judged result sent)
    (first : r.method ≠ "GET" → ∀ status body, d = .received status body →
      isSuccess status = true → (Passable body → c.GoesOn result sent) ∧
        (¬ Passable body → sent = [] ∧ ∃ fault place, result = .error (.json fault place))) :
    c.Judged result ((r, d) :: sent) := by
  intro before r' status body after eq changes success
  cases before with
  | nil =>
    obtain ⟨same, rfl⟩ := List.cons.inj eq
    obtain ⟨rfl, rfl⟩ := Prod.mk.inj same
    exact first changes status body rfl success
  | cons head before =>
    exact later before r' status body after (List.cons.inj eq).2 changes success

/-- What is left of an errand goes on. -/
theorem Errand.goesOn {x : Exchange α} (h : c.Errand x) (answer : σ → Request → Delivery × σ)
    (s : σ) : c.GoesOn (x.run answer s).outcome.result (x.run answer s).outcome.sent := by
  induction h generalizing s with
  | done a => exact .inr (.inl ⟨a, rfl⟩)
  | noted e _ ih => exact ih s
  | executed ask _ _ =>
    rw [outcome_bind, execute_outcome]
    cases request : c.requestFor ask with
    | error f => exact .inr (.inr ⟨ask, f, request, rfl⟩)
    | ok req =>
      refine .inl ?_
      dsimp only [Outcome.andThen]
      cases acknowledged req (answer s req).1 <;> exact List.cons_ne_nil _ _

/-- Every change of an errand is judged by whether its reply can be passed over. -/
theorem Errand.judged {x : Exchange α} (h : c.Errand x) (answer : σ → Request → Delivery × σ)
    (s : σ) : c.Judged (x.run answer s).outcome.result (x.run answer s).outcome.sent := by
  induction h generalizing s with
  | done a => exact .nil _
  | noted e _ ih => exact ih s
  | executed ask rest ih =>
    rw [outcome_bind, execute_outcome]
    cases c.requestFor ask with
    | error f => exact .nil _
    | ok req =>
      dsimp only [Outcome.andThen]
      cases acked : acknowledged req (answer s req).1 with
      | error f =>
        refine (Judged.nil _).cons fun _ status body eq success => ⟨fun passable => ?_, fun bad => ?_⟩
        · rw [eq, acknowledged_passable req success passable] at acked
          cases acked
        · obtain ⟨fault, place, failed⟩ := acknowledged_not_passable req success bad
          rw [eq, failed] at acked
          cases acked
          exact ⟨rfl, fault, place, rfl⟩
      | ok _ =>
        refine (ih _).cons fun _ status body eq success => ⟨fun _ => rest.goesOn answer _, fun bad => ?_⟩
        obtain ⟨fault, place, failed⟩ := acknowledged_not_passable req success bad
        rw [eq, failed] at acked
        cases acked

/-- A look-up in front of the changes is judged by what it holds, and none of them. -/
theorem Change.judged {x : Exchange α} (h : c.Change x) (answer : σ → Request → Delivery × σ)
    (s : σ) : c.Judged (x.run answer s).outcome.result (x.run answer s).outcome.sent := by
  induction h generalizing s with
  | refused f => exact .nil _
  | errand h => exact h.judged answer s
  | lookedUp ask lookup r _ ih =>
    rw [outcome_bind, query_outcome]
    cases request : c.requestFor ask with
    | error f => exact .nil _
    | ok req =>
      have method : req.method = "GET" := (method_of_requestFor request).trans lookup
      dsimp only [Outcome.andThen]
      cases (replyOf req (answer s req).1).bind (verdict r) with
      | error f => exact (Judged.nil _).cons fun other => absurd method other
      | ok o => exact (ih o _).cons fun other => absurd method other

/-! ## Two servers -/

/-- Two servers that change alike and give replies that are alike, and the same ones to look-ups. -/
structure AnswersAlike (first second : σ → Request → Delivery × σ) : Prop where
  server : ∀ s r, (first s r).2 = (second s r).2
  changes : ∀ s r, Alike (first s r).1 (second s r).1
  lookups : ∀ s r, r.method = "GET" → (first s r).1 = (second s r).1

/-- Two runs that send the same requests, leave the server alike, and come to the same. -/
structure SameCourse (o o' : Outcome σ α) : Prop where
  result : o.result = o'.result
  requests : o.sent.map Prod.fst = o'.sent.map Prod.fst
  server : o.server = o'.server

variable {first second : σ → Request → Delivery × σ}

/-- A step that comes to the same for both servers, and then the same course. -/
theorem SameCourse.andThen {o o' : Outcome σ β} {k k' : β → σ → Outcome σ α}
    (h : SameCourse o o') (next : ∀ b t, SameCourse (k b t) (k' b t)) :
    SameCourse (o.andThen k) (o'.andThen k') := by
  obtain ⟨result, sent, server⟩ := o
  obtain ⟨result', sent', server'⟩ := o'
  obtain ⟨rfl, requests, rfl⟩ := h
  unfold Outcome.andThen
  cases result with
  | error f => exact ⟨rfl, requests, rfl⟩
  | ok b =>
    obtain ⟨results, others, servers⟩ := next b server
    refine ⟨results, ?_, servers⟩
    dsimp only at requests ⊢
    rw [List.map_append, List.map_append, requests, others]

/-- A single change comes to the same. -/
theorem execute_same (alike : AnswersAlike first second) (ask : Ask) (s : σ) :
    SameCourse ((c.execute ask).run first s).outcome ((c.execute ask).run second s).outcome := by
  rw [execute_outcome, execute_outcome]
  cases c.requestFor ask with
  | error f => exact ⟨rfl, rfl, rfl⟩
  | ok req => exact ⟨acknowledged_alike req (alike.changes s req), rfl, alike.server s req⟩

theorem Errand.same {x : Exchange α} (h : c.Errand x) (alike : AnswersAlike first second) (s : σ) :
    SameCourse (x.run first s).outcome (x.run second s).outcome := by
  induction h generalizing s with
  | done a => exact ⟨rfl, rfl, rfl⟩
  | noted e _ ih => exact ih s
  | executed ask _ ih =>
    rw [outcome_bind, outcome_bind]
    exact (execute_same alike ask s).andThen fun _ t => ih t

/-- Between two servers that answer alike a change sees no difference. -/
theorem Change.same {x : Exchange α} (h : c.Change x) (alike : AnswersAlike first second) (s : σ) :
    SameCourse (x.run first s).outcome (x.run second s).outcome := by
  induction h generalizing s with
  | refused f => exact ⟨rfl, rfl, rfl⟩
  | errand h => exact h.same alike s
  | lookedUp ask lookup r _ ih =>
    rw [outcome_bind, outcome_bind]
    refine SameCourse.andThen ?_ fun o t => ih o t
    rw [query_outcome, query_outcome]
    cases request : c.requestFor ask with
    | error f => exact ⟨rfl, rfl, rfl⟩
    | ok req =>
      have method : req.method = "GET" := (method_of_requestFor request).trans lookup
      have same := alike.lookups s req method
      exact ⟨congrArg (fun d => (replyOf req d).bind (verdict r)) same, rfl, alike.server s req⟩

end Connection

/-! ## The calls that change something -/

/-- The calls that have no use for the body of a reply to what they change. -/
def ConnectionCall.changes : ConnectionCall → Bool
  | .createVolume _ => true
  | .deleteVolume _ => true
  | .copyVolume _ _ => true
  | .setExportClients _ _ => true
  | .removeExport _ => true
  | .setQuota _ _ => true
  | .setQuotaHard _ _ => true
  | .updateQuota _ _ => true
  | .updateQuotaHard _ _ => true
  | .deleteQuota _ => true
  | .copySnapshot _ _ _ => true
  | .removeSnapshot _ => true
  | _ => false

theorem Exchange.ofOption_some {α : Type} (f : Failure) (a : α) :
    ofOption f (some a) = pure a :=
  rfl

namespace Connection

variable (c : Connection)

theorem setQuota_change (path : String) (t : QuotaThresholds) : c.Change (c.setQuota path t) :=
  (Change.errand (.told _ _)).require _ _

/-- The quota is looked up first, and there may be none. -/
theorem updateQuota_change (path : String) (t : QuotaThresholds) :
    c.Change (c.updateQuota path t) := by
  unfold updateQuota quota quotas
  rw [LawfulMonad.bind_assoc, LawfulMonad.bind_assoc]
  refine .lookedUp _ rfl _ fun reply => ?_
  simp only [LawfulMonad.pure_bind]
  cases (reply.getD []).find? fun q => q.path == path with
  | none => exact .refused _
  | some q =>
    rw [ofOption_some, LawfulMonad.pure_bind]
    exact .errand (.told _ _)

end Connection

open Connection

/-- Each of these calls makes changes one after another, perhaps after a look-up. -/
theorem ConnectionCall.change (c : Connection) (call : ConnectionCall)
    (changes : call.changes = true) : c.Change (call.run c) := by
  cases call with
  | createVolume name =>
    exact (((Change.errand (.executed _ (.told _ _))).require _ _ :
      c.Change (c.createVolume name))).map _
  | deleteVolume name =>
    exact ((Change.errand (.told _ _)).require _ _ : c.Change (c.deleteVolume name)).map _
  | copyVolume source destination =>
    exact (((Change.errand (.told _ _)).require _ _).require _ _ :
      c.Change (c.copyVolume source destination)).map _
  | setExportClients id clients =>
    exact ((Change.errand (.last _)).require _ _ : c.Change (c.setExportClients id clients)).map _
  | removeExport id =>
    exact ((Change.errand (.told _ _)).require _ _ : c.Change (c.removeExport id)).map _
  | setQuota path t => exact (c.setQuota_change path t).map _
  | setQuotaHard path size => exact (c.setQuota_change path (.ofHard size)).map _
  | updateQuota path t => exact (c.updateQuota_change path t).map _
  | updateQuotaHard path size => exact (c.updateQuota_change path (.ofHard size)).map _
  | deleteQuota path =>
    exact ((Change.errand (.last _)).require _ _ : c.Change (c.deleteQuota path)).map _
  | copySnapshot name source destination =>
    exact ((Change.errand (.told _ _)).require _ _ :
      c.Change (c.copySnapshot name source destination)).map _
  | removeSnapshot id =>
    exact ((Change.errand (.told _ _)).require _ _ : c.Change (c.removeSnapshot id)).map _
  | _ => cases changes

/-- Changes are judged by whether their replies can be passed over. Whatever changes a call makes
and however the cluster is reached: after a reply to a change that reports success with a blank body
or one of JSON, the call goes on or ends well; after one with any other body it fails over that body
and sends nothing more, though the change was made. Two servers that differ in no more than the
bodies that can be passed over, and in which success they report, see the same requests, and the
call comes to the same. -/
theorem changes_judged_by_passable (c : Connection) (call : ConnectionCall)
    (changes : call.changes = true) {σ : Type} :
    (∀ (answer : σ → Request → Delivery × σ) (s : σ), c.Judged
      ((call.run c).run answer s).result (sentIn ((call.run c).run answer s).steps)) ∧
    ∀ first second : σ → Request → Delivery × σ, AnswersAlike first second → ∀ s,
      ((call.run c).run first s).result = ((call.run c).run second s).result ∧
      requests ((call.run c).run first s).steps = requests ((call.run c).run second s).steps ∧
      ((call.run c).run first s).server = ((call.run c).run second s).server := by
  have change := call.change c changes
  refine ⟨fun answer s => change.judged answer s, fun first second alike s => ?_⟩
  obtain ⟨result, sent, server⟩ := change.same alike s
  refine ⟨result, ?_, server⟩
  rw [← map_sentIn, ← map_sentIn]
  exact sent

/-- The server that answers every change alike and hears no look-up. -/
def acknowledging (status : Nat) (body : String) (_ : Unit) (r : Request) : Delivery × Unit :=
  (if r.method = "GET" then .closed else .received status body, ())

/-- Creating a volume ends with its first request if that is answered by a word, and the volume is
handed to nobody. Answered by nothing, or by an empty object, it takes its second request. -/
theorem createVolume_halts :
    let create := (ConnectionCall.createVolume "data").run localConnection
    ¬ Passable "OK" ∧
    (requests (create.run (acknowledging 200 "OK") ()).steps).length = 1 ∧
    (∃ fault place, (create.run (acknowledging 200 "OK") ()).result = .error (.json fault place)) ∧
    AnswersAlike (acknowledging 200 "") (acknowledging 201 "\x7b\x7d") ∧
    requests (create.run (acknowledging 200 "") ()).steps =
      requests (create.run (acknowledging 201 "\x7b\x7d") ()).steps ∧
    (requests (create.run (acknowledging 200 "") ()).steps).length = 2 ∧
    (create.run (acknowledging 200 "") ()).result = .ok .null := by
  intro create
  have word : ¬ Passable "OK" := by
    rintro (blank | read)
    · exact absurd blank (by decide)
    · cases read
  have alike : AnswersAlike (acknowledging 200 "") (acknowledging 201 "\x7b\x7d") := by
    refine ⟨fun _ _ => rfl, fun _ r => ?_, fun _ r lookup => ?_⟩
    · unfold acknowledging
      by_cases lookup : r.method = "GET"
      · rw [if_pos lookup, if_pos lookup]
        exact .same _
      · rw [if_neg lookup, if_neg lookup]
        exact .passed rfl rfl (.inl (by decide)) (.inr rfl)
    · unfold acknowledging
      rw [if_pos lookup, if_pos lookup]
  have judged := (changes_judged_by_passable localConnection (.createVolume "data") rfl).1
    (acknowledging 200 "OK") ()
  have same := (changes_judged_by_passable localConnection (.createVolume "data") rfl).2
    _ _ alike ()
  have sent : (sentIn (create.run (acknowledging 200 "OK") ()).steps).map
      (fun x => (x.1.method, x.2)) = [("PUT", .received 200 "OK")] := by decide +kernel
  obtain ⟨⟨r, d⟩, only, eq⟩ := List.map_eq_singleton_iff.mp sent
  obtain ⟨method, rfl⟩ := Prod.mk.inj eq
  dsimp only at method
  refine ⟨word, ?_, ?_, alike, same.2.1, by decide +kernel, rfl⟩
  · rw [← map_sentIn, only]
    rfl
  · exact ((judged [] r 200 "OK" [] only (by rw [method]; decide) rfl).2 word).2

end OneFs
