import OneFs.Proofs.Exchange.Course

/-!
# Scripts

What a plan asks for, without what it makes of the replies. A `Script` names the queries of a plan
and how their replies are read, each query by the replies before it. Where it is over, the plan ends
or fails of its own.

- `Script.attempts`: the queries of a script against a server, up to the first that fails;
- `Account`: a run that consists of attempts, of which only the last may have failed, and then the
  run has failed with it;
- `Follows`: that a plan goes by a script, with one lemma for each way of putting plans together;
- `LosesNoFailure`: that every run of a plan consists of the attempts of a script;
- `Follows.losesNoFailure`: a plan that goes by a script does.
-/

namespace OneFs

open Json Http Exchange

variable {α β σ : Type}

/-! ## What is asked for -/

/-- The queries of a plan, each with the reader of its reply. -/
inductive Script : Type 1 where
  /-- Nothing more is asked for. -/
  | over
  /-- Something is asked for, and what comes next depends on the reply, which may be blank. -/
  | asked {β : Type} (ask : Ask) (r : Reader β) (next : Option β → Script)

namespace Script

/-- A single query. -/
def once (ask : Ask) (r : Reader β) : Script :=
  .asked ask r fun _ => .over

/-- A query of which only the status counts, and what comes next. -/
def executed (ask : Ask) (next : Script) : Script :=
  .asked ask ignored fun _ => next

/-- A script for which something must be there. -/
def given (present : Bool) (s : Script) : Script :=
  if present then s else .over

/-- The queries that are made against a server, up to the first that fails. -/
def attempts (c : Connection) (answer : σ → Request → Delivery × σ) (server : σ) :
    Script → List Attempt
  | .over => []
  | .asked ask r next =>
    let seen := ((c.query ask r).run answer server).outcome
    c.attempted ask r answer server ::
      match seen.result with
      | .error _ => []
      | .ok reply => (next reply).attempts c answer seen.server

end Script

/-! ## Runs that consist of attempts -/

/-- A run consists of attempts: it sends what they send, each goes in one of the ways that there
are, and an attempt that fails is the last one and gives its failure to the run. -/
structure Account (c : Connection) (run : Run σ α) (attempts : List Attempt) : Prop where
  sent : sentIn run.steps = attempts.flatMap Attempt.sent
  faithful : ∀ a ∈ attempts, a.Faithful c
  ends : ∀ before a after, attempts = before ++ a :: after →
    ∀ f, a.failure = some f → after = [] ∧ run.result = .error f
  success : ∀ v, run.result = .ok v →
    ∀ x ∈ sentIn run.steps, ∃ status body, x.2 = .received status body ∧ isSuccess status = true

namespace Account

variable {c : Connection}

/-- A run without requests has an account without attempts. -/
theorem nil {run : Run σ α} (h : sentIn run.steps = []) : Account c run [] where
  sent := h
  faithful a ha := absurd ha (List.not_mem_nil)
  ends before a after h := by simp at h
  success v _ x hx := by rw [h] at hx; exact absurd hx List.not_mem_nil

/-- An event in front of a run leaves its account as it is. -/
theorem noted {run : Run σ α} {attempts : List Attempt} (h : Account c run attempts) (e : Event) :
    Account c (run.after (.noted e)) attempts :=
  ⟨h.sent, h.faithful, h.ends, h.success⟩

/-- A query that fails ends the account. -/
theorem single {run : Run σ α} {a : Attempt} {f : Failure} (sent : sentIn run.steps = a.sent)
    (faithful : a.Faithful c) (result : run.result = .error f) (failure : a.failure = some f) :
    Account c run [a] where
  sent := by rw [sent, List.flatMap_singleton]
  faithful b hb := by rw [List.mem_singleton.mp hb]; exact faithful
  ends before b after split g hg := by
    obtain ⟨rfl, rfl, rfl⟩ : before = [] ∧ b = a ∧ after = [] := by
      cases before with
      | nil =>
        obtain ⟨rfl, rfl⟩ := List.cons.inj split
        exact ⟨rfl, rfl, rfl⟩
      | cons x xs => simp at split
    rw [failure] at hg
    cases hg
    exact ⟨rfl, result⟩
  success v hv := by rw [result] at hv; cases hv

/-- A query that succeeds goes in front of an account. -/
theorem cons {run later : Run σ α} {a : Attempt} {as : List Attempt} (h : Account c later as)
    (sent : sentIn run.steps = a.sent ++ sentIn later.steps) (result : run.result = later.result)
    (faithful : a.Faithful c) (fine : a.failure = none) : Account c run (a :: as) where
  sent := by rw [sent, h.sent, List.flatMap_cons]
  faithful b hb := by
    rcases List.mem_cons.mp hb with rfl | hb
    · exact faithful
    · exact h.faithful b hb
  ends before b after split f hf := by
    cases before with
    | nil =>
      obtain ⟨rfl, -⟩ := List.cons.inj split
      rw [fine] at hf
      cases hf
    | cons x xs =>
      rw [result]
      exact h.ends xs b after (List.cons.inj split).2 f hf
  success v hv x hx := by
    rw [sent, List.mem_append] at hx
    rcases hx with hx | hx
    · exact faithful.success fine x hx
    · exact h.success v (by rw [← result]; exact hv) x hx

end Account

/-! ## Plans that go by a script -/

/-- A plan asks for what a script says, in this order, and for nothing else. It may tell events in
between, and once the script is over it ends in a result or fails. -/
inductive Follows (c : Connection) : Exchange α → Script → Prop where
  | done (a : α) : Follows c (.done a) .over
  | failed (f : Failure) : Follows c (.failed f) .over
  | noted (e : Event) {x : Exchange α} {s : Script} (next : Follows c x s) :
    Follows c (.noted e x) s
  | asked {β : Type} (ask : Ask) (r : Reader β) {k : Option β → Exchange α}
    {later : Option β → Script} (next : ∀ reply, Follows c (k reply) (later reply)) :
    Follows c (c.query ask r >>= k) (.asked ask r later)

namespace Follows

variable {c : Connection} {s : Script}

/-- Every run of a plan that goes by a script consists of the attempts of the script. -/
theorem account {x : Exchange α} (h : Follows c x s) (answer : σ → Request → Delivery × σ) :
    ∀ server, Account c (x.run answer server) (s.attempts c answer server) := by
  induction h with
  | done _ => exact fun _ => .nil rfl
  | failed _ => exact fun _ => .nil rfl
  | noted e _ ih => exact fun server => (ih server).noted e
  | @asked _ ask r k later _ ih =>
    intro server
    have run : (c.query ask r >>= k).run answer server =
        ((c.query ask r).run answer server).andThen answer k :=
      run_bind answer k (c.query ask r) server
    have faithful := c.attempted_faithful ask r answer server
    simp only [Script.attempts]
    -- A query that fails ends the run; after any other, the plan goes by the rest of the script.
    cases result : ((c.query ask r).run answer server).result with
    | error f =>
      simp only [Run.outcome, result]
      refine .single (f := f) ?_ faithful ?_ ?_
      · rw [run]; simp only [Run.andThen, result]; rfl
      · rw [run]; simp only [Run.andThen, result]
      · simp only [Connection.attempted, Run.outcome, result, failureOf]
    | ok reply =>
      simp only [Run.outcome, result]
      refine .cons (ih reply ((c.query ask r).run answer server).server) ?_ ?_ faithful ?_
      · rw [run]; simp only [Run.andThen, result, sentIn_append]; rfl
      · rw [run]; simp only [Run.andThen, result]
      · simp only [Connection.attempted, Run.outcome, result, failureOf]

/-- To go on with a result without asking for anything is to go by the same script. -/
theorem bind_over {x : Exchange α} {k : α → Exchange β} (h : Follows c x s)
    (next : ∀ a, Follows c (k a) .over) : Follows c (x >>= k) s := by
  induction h with
  | done a => exact next a
  | failed f => exact .failed f
  | noted e _ ih => exact .noted e ih
  | asked ask r _ ih =>
    rw [LawfulMonad.bind_assoc]
    exact .asked ask r ih

theorem bind_done (f : α → β) {x : Exchange α} (h : Follows c x s) :
    Follows c (x >>= fun a => .done (f a)) s :=
  h.bind_over fun a => .done (f a)

theorem map (f : α → β) {x : Exchange α} (h : Follows c x s) : Follows c (f <$> x) s := by
  rw [map_eq_pure_bind]
  exact h.bind_done f

/-- Going on with the result as it is changes nothing. -/
theorem of_bind {x : Exchange α} (h : Follows c (x >>= pure) s) : Follows c x s := by
  rwa [bind_pure] at h

/-- A single query. -/
theorem query (ask : Ask) (r : Reader α) : Follows c (c.query ask r) (.once ask r) :=
  .of_bind (.asked ask r fun reply => .done reply)

/-- A query of which only the status counts, and what comes next. -/
theorem execute (ask : Ask) {k : Unit → Exchange α} (next : Follows c (k ()) s) :
    Follows c (c.execute ask >>= k) (.executed ask s) := by
  unfold Connection.execute
  rw [LawfulMonad.bind_assoc]
  exact .asked ask ignored fun _ => next

/-- A plan for which something must be there. -/
theorem require (present : Bool) (what : String) {k : Unit → Exchange α}
    (next : Follows c (k ()) s) :
    Follows c (Connection.require present what >>= k) (.given present s) := by
  cases present with
  | false => exact .failed _
  | true => exact next

/-- An event asks for nothing. -/
theorem note (e : Event) {k : Unit → Exchange α} (next : Follows c (k ()) s) :
    Follows c (Exchange.note e >>= k) s :=
  .noted e next

/-- A plan that goes on only with something. -/
theorem ofOption (f : Failure) (found : Option β) {k : β → Exchange α} {later : β → Script}
    (next : ∀ b, Follows c (k b) (later b)) :
    Follows c (Exchange.ofOption f found >>= k) (found.elim .over later) := by
  cases found with
  | none => exact .failed f
  | some b => exact next b

/-- A plan that goes on only with what is no failure, and asks for nothing more. -/
theorem ofExcept (x : Except Failure β) {k : β → Exchange α} (next : ∀ b, Follows c (k b) .over) :
    Follows c (Exchange.ofExcept x >>= k) .over := by
  cases x with
  | error f => exact .failed f
  | ok b => exact next b

end Follows

/-- No failure of a plan is lost. Whatever it is answered, its run consists of the attempts of the
script, of which only the last may have failed, and then the run has failed with it. -/
def LosesNoFailure (c : Connection) (x : Exchange α) (s : Script) : Prop :=
  ∀ (σ : Type) (answer : σ → Request → Delivery × σ) (server : σ),
    Account c (x.run answer server) (s.attempts c answer server)

theorem Follows.losesNoFailure {c : Connection} {x : Exchange α} {s : Script} (h : Follows c x s) :
    LosesNoFailure c x s :=
  fun _ answer server => h.account answer server

end OneFs
