import GmailGateway.SendFsm.Rows
import GmailGateway.Effect.Guards
import GmailGateway.Effect.Pool

/-!
# GmailGateway.SendFsm.Expiry

**Sends and expiry.** `confirm` refuses a proposal that is no longer live. `dispatch` tests the
status alone: a proposal that was confirmed in time and is dispatched later is sent after it
expired, although `is_live` counts every unsettled proposal as dead by then.

Calls are threads of a pool, so they may be made one after the other, overlap, fail or be
abandoned. No call changes when a proposal expires; a send is therefore in time exactly if the
dispatch that makes it found its proposal in time (`OnTime`).
-/

namespace GmailGateway

open Effect Proc Python

namespace Expiry

open Redispatch Replay

/-- When the stored proposal expires. -/
def expiry? (s : StoreState) (proposalId : PyStr) : Option Int :=
  (s.proposal? proposalId).map (·.expiresAt)

theorem expiry?_congr {s s' : StoreState} {proposalId : PyStr}
    (h : s'.kv proposalId = s.kv proposalId) : expiry? s' proposalId = expiry? s proposalId := by
  rw [expiry?, expiry?, StoreState.proposal?, StoreState.proposal?, h]

@[simp] theorem expiry?_put (s : StoreState) (key : PyStr) (q : Proposal) :
    expiry? { s with kv := Function.update s.kv key (some q.toDict) } key = some q.expiresAt := by
  simp [expiry?, StoreState.proposal?, Except.toOption]

theorem expiry?_of_proposal? {s : StoreState} {proposalId : PyStr} {q : Proposal}
    (h : s.proposal? proposalId = some q) : expiry? s proposalId = some q.expiresAt := by
  rw [expiry?, h]
  rfl

/-! ### What a call has read -/

/-- The call has read this record. -/
def Read (proposalId : PyStr) (q : Proposal) (τ : List StoreEvent) : Prop :=
  ∃ r, ⟨.get proposalId, r⟩ ∈ τ ∧ ProposalStore.decode proposalId r = .ok q

theorem Read.mono {proposalId : PyStr} {q : Proposal} {τ τ' : List StoreEvent}
    (h : Read proposalId q τ) (hτ : τ ⊆ τ') : Read proposalId q τ' := by
  obtain ⟨r, hr, hq⟩ := h
  exact ⟨r, hτ hr, hq⟩

theorem Read.of_get {proposalId : PyStr} {q : Proposal} (τ : List StoreEvent)
    {r : Except Exc (Option KvValue)} (h : ProposalStore.decode proposalId r = .ok q) :
    Read proposalId q (τ ++ [⟨.get proposalId, r⟩]) := ⟨r, by simp, h⟩

/-- What an operation of a call rests on: it writes a record it has read, with another status,
and only a dispatch sends, at a time that is not negative and after it read `CONFIRMED`. -/
def Rests (k : FsmCall) : StoreOp → List StoreEvent → Prop
  | .put key v, τ => ∃ q x, Read key q τ ∧ v = (q.withStatus x).toDict
  | .send proposalId, τ => ∃ now q, k = .dispatch proposalId now ∧ 0 ≤ now ∧
      Read proposalId q τ ∧ q.status = .confirmed
  | .claim _ _, _ | .delete _, _ => False
  | .get _, _ | .append _, _ | .now, _ => True

section Calls
variable {k : FsmCall}

theorem respects_get (proposalId : PyStr) : (ProposalStore.get proposalId).Respects (Rests k) := by
  refine respects_bind (respects_perform fun _ => trivial) fun raw => ?_
  cases raw with
  | none => exact respects_throw _
  | some raw => exact respects_embed _

theorem respects_getLive (proposalId : PyStr) (now : Int) :
    (ProposalStore.getLive proposalId now).Respects (Rests k) :=
  respects_bind (respects_get proposalId) fun _ =>
    respects_bind (respects_bind (respects_raiseIf _ _) fun _ => respects_pure _) fun _ =>
      respects_bind (respects_raiseIf _ _) fun _ => respects_pure _

theorem respects_setStatus (proposalId : PyStr) (x : ProposalStatus) :
    (ProposalStore.setStatus proposalId x).Respects (Rests k) := by
  intro τ hτ
  rw [ProposalStore.sat_setStatus]
  intro r _ _
  have hread : Guarded (Rests k) (τ ++ [⟨.get proposalId, r⟩]) := hτ.concat trivial
  refine ⟨hread, ?_⟩
  cases hq : ProposalStore.decode proposalId r with
  | error e => exact hread
  | ok q =>
      intro r' _ _
      have hput := hread.concat (e := ⟨.put proposalId (q.withStatus x).toDict, r'⟩)
        ⟨q, x, .of_get τ hq, rfl⟩
      exact ⟨hput, hput⟩

theorem respects_record (row : AuditEvent) : (AuditLedger.record row).Respects (Rests k) :=
  respects_bind (respects_raiseIf _ _) fun _ => respects_perform fun _ => trivial

theorem respects_confirm (switchMode : SwitchMode) (proposalId : PyStr) (actor : Actor)
    (now : Int) (agentReachable : Option Bool) :
    (SendFsm.confirm switchMode proposalId actor now agentReachable).Respects (Rests k) :=
  respects_bind (respects_getLive proposalId now) fun _ =>
    respects_bind (respects_raiseIf _ _) fun _ => respects_bind (respects_raiseIf _ _) fun _ =>
      respects_bind (respects_raiseIf _ _) fun _ =>
        respects_bind (respects_setStatus proposalId _) fun _ => respects_record _

theorem respects_settle (proposalId : PyStr) (now : Int) (answer : Except Exc SendResult) :
    (SendFsm.settle proposalId now answer).Respects (Rests k) := by
  rw [SendFsm.settle_eq]
  exact respects_bind (respects_setStatus proposalId _) fun _ =>
    respects_bind (respects_record _) fun _ => respects_pure _

theorem respects_expire (proposalId : PyStr) (now : Int) :
    (SendFsm.expire proposalId now).Respects (Rests k) :=
  respects_bind (respects_get proposalId) fun _ =>
    respects_bind (respects_raiseIf _ _) fun _ => respects_bind (respects_raiseIf _ _) fun _ =>
      respects_bind (respects_setStatus proposalId _) fun _ =>
        respects_bind (respects_record _) fun _ => respects_pure _

/-- Dispatching sends once it has read the proposal as confirmed. -/
theorem respects_dispatch (proposalId : PyStr) (now : Int) :
    (SendFsm.dispatch proposalId now).Respects (Rests (.dispatch proposalId now)) := by
  intro τ hτ
  simp only [SendFsm.dispatch, sat_bind, ProposalStore.sat_get]
  intro r _ _
  have hread : Guarded (Rests (.dispatch proposalId now)) (τ ++ [⟨.get proposalId, r⟩]) :=
    hτ.concat trivial
  refine ⟨hread, ?_⟩
  cases hq : ProposalStore.decode proposalId r with
  | error e => exact hread
  | ok q =>
      simp only [andThen_ok, andThen_error, sat_bind, sat_raiseIf, AuditLedger.sat_record]
      refine ⟨fun _ => hread, fun _ => ⟨fun _ => hread, fun _ => ⟨fun _ => hread,
        fun hconfirmed => ⟨fun _ => hread, fun hnow r' _ _ => ?_⟩⟩⟩⟩
      rw [not_not] at hconfirmed
      have hrow := hread.concat (e := ⟨.append
        { eventType := .sendAttempted, at_ := now, proposalId := proposalId,
          payloadDigest := some q.payloadDigest }, r'⟩) trivial
      refine ⟨hrow, ?_⟩
      cases r' with
      | error e => exact hrow
      | ok u =>
          simp only [andThen_ok, sat_bind, sat_attempt, perform, sat_op, sat_embed]
          intro answer _ _
          have hsend := hrow.concat (e := ⟨.send proposalId, answer⟩)
            ⟨now, q, rfl, hnow, (Read.of_get τ hq).mono (List.subset_append_left _ _), hconfirmed⟩
          exact ⟨hsend, respects_settle proposalId now answer _ hsend⟩

/-- **One call**, whatever it is answered. -/
theorem respects_run (k : FsmCall) : k.run.Respects (Rests k) := by
  cases k with
  | confirm mode proposalId actor now reachable => exact respects_confirm _ _ _ _ _
  | dispatch proposalId now =>
      exact respects_bind (respects_dispatch proposalId now) fun _ => respects_pure _
  | expire proposalId now =>
      exact respects_bind (respects_expire proposalId now) fun _ => respects_pure _

end Calls

/-! ### The pool -/

abbrev Pool := Config StoreSig Exc Unit StoreState

/-- Thread `t` makes the call `calls t`. -/
def callers (calls : Nat → FsmCall) : Nat → Proc StoreSig Exc Unit := fun t => (calls t).run

/-- **The condition.** A dispatch that finds its proposal confirmed is made before the proposal
expires. -/
def OnTime (calls : Nat → FsmCall) (c : Pool) (t : Nat) (e : StoreEvent) : Prop :=
  ∀ proposalId now q, calls t = .dispatch proposalId now → 0 ≤ now → e.op = .get proposalId →
    c.state.proposal? proposalId = some q → q.status = .confirmed → now < q.expiresAt

/-- **The invariant.** No expiry has changed, records were read with that expiry, and the
confirmed ones in time. -/
structure InTime (calls : Nat → FsmCall) (s₀ : StoreState) (c : Pool) : Prop where
  expiry : ∀ proposalId, expiry? c.state proposalId = expiry? s₀ proposalId
  read : ∀ t proposalId q, Read proposalId q (eventsOf t c.history) →
    expiry? s₀ proposalId = some q.expiresAt
  onTime : ∀ t proposalId now q, calls t = .dispatch proposalId now → 0 ≤ now →
    Read proposalId q (eventsOf t c.history) → q.status = .confirmed → now < q.expiresAt

section Runs
variable {calls : Nat → FsmCall} {s₀ : StoreState} {c c' : Pool} {t : Nat} {e : StoreEvent}

/-- Every operation of a run rests on what its thread has read. -/
theorem guarded_of_run {C : Pool → Nat → StoreEvent → Prop}
    (h : Run faultyStores C (.start s₀ (callers calls)) c) (t : Nat) :
    Guarded (Rests (calls t)) (eventsOf t c.history) :=
  (h.localEvents (A := fun _ _ => True) (J := fun t τ => Guarded (Rests (calls t)) τ)
    (Q := fun t _ τ => Guarded (Rests (calls t)) τ) (fun _ _ _ _ _ => trivial) (fun _ => .nil)
    rfl (fun t => respects_run (calls t) [] .nil) t).1

/-- What a thread has read after a step it had read before, or the step has just read it. -/
theorem read_of_step (hstep : Step faultyStores c t e c') {u : Nat} {proposalId : PyStr}
    {q : Proposal} (h : Read proposalId q (eventsOf u c'.history)) :
    Read proposalId q (eventsOf u c.history) ∨
      u = t ∧ e.op = .get proposalId ∧ c.state.proposal? proposalId = some q := by
  obtain ⟨r, hr, hq⟩ := h
  rcases hstep.mem_eventsOf.mp hr with hr | ⟨hu, rfl⟩
  · exact .inl ⟨r, hr, hq⟩
  · exact .inr ⟨hu, rfl, (get_effect hstep.answer).2 q hq⟩

/-- An operation that rests on what was read keeps every expiry. -/
theorem InTime.expiry_step (h : InTime calls s₀ c) (hstep : Step faultyStores c t e c')
    (hrests : Rests (calls t) e.op (eventsOf t c.history)) (proposalId : PyStr) :
    expiry? c'.state proposalId = expiry? c.state proposalId := by
  have hans := hstep.answer
  have hsame : c'.state = c.state →
      expiry? c'.state proposalId = expiry? c.state proposalId := fun heq => by rw [heq]
  obtain ⟨o, r⟩ := e
  cases o with
  | claim | delete => exact hrests.elim
  | get | now =>
      cases r with
      | ok a => exact hsame (by first | exact hans.2 | exact hans)
      | error e => exact hsame hans.2
  | append row =>
      cases r with
      | ok a => exact expiry?_congr (by rw [show c'.state = _ from hans])
      | error e => exact hsame hans.2
  | send key =>
      have hs' : c'.state = { c.state with sends := c.state.sends ++ [key] } := by
        cases r <;> exact hans
      exact expiry?_congr (by rw [hs'])
  | put key v =>
      obtain ⟨q, x, hread, rfl⟩ := hrests
      cases r with
      | error e => exact hsame hans.2
      | ok a =>
          rw [show c'.state = _ from hans]
          by_cases hkey : proposalId = key
          · subst hkey
            rw [expiry?_put, h.expiry, h.read t proposalId q hread]
            rfl
          · exact expiry?_congr (Function.update_of_ne hkey _ _)

/-- **One step** of a call that meets the condition. -/
theorem InTime.step (h : InTime calls s₀ c) (hstep : Step faultyStores c t e c')
    (hrests : Rests (calls t) e.op (eventsOf t c.history)) (hC : OnTime calls c t e) :
    InTime calls s₀ c' where
  expiry proposalId := (h.expiry_step hstep hrests proposalId).trans (h.expiry proposalId)
  read u proposalId q hq := by
    rcases read_of_step hstep hq with hq | ⟨-, -, hq⟩
    · exact h.read u proposalId q hq
    · rw [← h.expiry]
      exact expiry?_of_proposal? hq
  onTime u proposalId now q hcall hnow hq hconfirmed := by
    rcases read_of_step hstep hq with hq | ⟨rfl, hop, hq⟩
    · exact h.onTime u proposalId now q hcall hnow hq hconfirmed
    · exact hC proposalId now q hcall hnow hop hq hconfirmed

/-- **Whole runs** whose dispatches meet the condition. -/
theorem inTime_of_run (h : Run faultyStores (OnTime calls) (.start s₀ (callers calls)) c) :
    InTime calls s₀ c := by
  induction h with
  | start =>
      have hnone : ∀ t proposalId q, ¬ Read proposalId q (eventsOf t []) := by
        intro t proposalId q hq
        obtain ⟨r, hr, -⟩ := hq
        exact absurd hr List.not_mem_nil
      exact ⟨fun _ => rfl, fun t p q hq => absurd hq (hnone t p q),
        fun t p _ q _ _ hq => absurd hq (hnone t p q)⟩
  | step hrun hC hstep ih =>
      exact ih.step hstep (hstep.guard (guarded_of_run (hrun.step hC hstep) _)) hC

theorem isLive_eq {p : Proposal} {now : Int} (hnow : 0 ≤ now) (hlive : now < p.expiresAt) :
    ProposalStore.isLive p now = pure true := by
  have hts : validateTs "now" now = pure () := if_neg (by omega)
  rw [ProposalStore.isLive, hts, pure_bind, decide_eq_true hlive, Bool.or_true]

/-- **No send at or after expiry.** In every run whose dispatches find their proposals confirmed
only before they expire, the sender is invoked for a proposal only at a time at which it is
live. A dispatch of a confirmed proposal does invoke it, late or not, unless a store fails. -/
theorem dispatch_onTime (calls : Nat → FsmCall) (s₀ : StoreState) (c : Pool) :
    (Run faultyStores (OnTime calls) (.start s₀ (callers calls)) c →
      ∀ t proposalId answer, (t, ⟨.send proposalId, answer⟩) ∈ c.history →
        ∃ now p, calls t = .dispatch proposalId now ∧ c.state.proposal? proposalId = some p ∧
          expiry? s₀ proposalId = some p.expiresAt ∧ now < p.expiresAt ∧
          ProposalStore.isLive p now = pure true) ∧
    ∀ (s s' : StoreState) (proposalId : PyStr) (now : Int) (p : Proposal) (τ : List StoreEvent)
      (r : Except Exc ProposalStatus), s.proposal? proposalId = some p → p.status = .confirmed →
      0 ≤ now →
      Exec reliableStores (SendFsm.dispatch proposalId now) s τ (.done r) s' →
      ∃ answer, answersOf τ = [(proposalId, answer)] := by
  constructor
  · intro hrun t proposalId answer hsend
    have hin := inTime_of_run hrun
    obtain ⟨τ₁, hpre, now, q, hcall, hnow, hread, hconfirmed⟩ :=
      (guarded_of_run hrun t).of_mem (mem_eventsOf.mpr hsend)
    have hread' := hread.mono (List.Subset.trans (List.subset_append_left _ _) hpre.subset)
    have hlive := hin.onTime t proposalId now q hcall hnow hread' hconfirmed
    have hexpiry := hin.read t proposalId q hread'
    -- the record may have been rewritten since, with the same expiry
    obtain ⟨p, hp, hpq⟩ := Option.map_eq_some_iff.mp ((hin.expiry proposalId).trans hexpiry)
    refine ⟨now, p, hcall, hp, hpq ▸ hexpiry, hpq ▸ hlive, isLive_eq hnow (hpq ▸ hlive)⟩
  · intro s s' proposalId now p τ r hp hconfirmed hnow hexec
    have hrows := hexec.post
      (SendFsm.dispatch_rows now rfl (decode_of_proposal? hp) hconfirmed)
    generalize answersOf τ = answers at hrows
    cases hrows with
    | refused hneg => omega
    | settled => exact ⟨_, rfl⟩

end Runs

/-! ### A late dispatch -/

/-- Thread 0 confirms the proposal at time 1; every other thread dispatches it at `now`. -/
def confirmThenDispatch (now : Int) : Nat → FsmCall
  | 0 => .confirm .confirmThenSend (str "p1") .human 1 none
  | _ => .dispatch (str "p1") now

/-- The confirmation runs to its end, then one dispatch as far as its send. -/
def confirmedThenSent (now : Int) : Pool :=
  Config.schedule (fun _ => StoreState.perform 1 (.ok { kind := .accepted }))
    (List.replicate 5 0 ++ List.replicate 3 1)
    (.start restartStores (callers (confirmThenDispatch now)))

theorem confirmedThenSent_sends :
    (1, ⟨.send (str "p1"), .ok { kind := .accepted }⟩) ∈ (confirmedThenSent 100).history ∧
      (1, ⟨.send (str "p1"), .ok { kind := .accepted }⟩) ∈ (confirmedThenSent 2).history :=
  ⟨List.mem_of_getLast? rfl, List.mem_of_getLast? rfl⟩

/-- Confirmed at time 1 and dispatched at 100, when it expires: it is sent. -/
theorem dispatch_sendsExpired :
    ¬ ∀ (calls : Nat → FsmCall) (s₀ : StoreState) (c : Pool),
      Run reliableStores anyStep (.start s₀ (callers calls)) c →
      ∀ t proposalId answer, (t, ⟨.send proposalId, answer⟩) ∈ c.history →
        ∃ now p, calls t = .dispatch proposalId now ∧ c.state.proposal? proposalId = some p ∧
          now < p.expiresAt := by
  intro hclaim
  have hrun : Run reliableStores anyStep (.start restartStores (callers (confirmThenDispatch 100)))
      (confirmedThenSent 100) := Config.schedule_anyStep (fun _ s o => s.perform_env _ 1 _ o) _ _
  obtain ⟨now, p, hcall, hp, hlive⟩ := hclaim _ _ _ hrun 1 _ _ confirmedThenSent_sends.1
  have hexpiry : expiry? (confirmedThenSent 100).state (str "p1") = some 100 := by decide
  rw [expiry?_of_proposal? hp] at hexpiry
  obtain rfl : now = 100 := by
    cases hcall
    rfl
  rw [Option.some.inj hexpiry] at hlive
  exact absurd hlive (by decide)

/-- Dispatched at time 2 it is sent in time; dispatched at 100 it is sent all the same. -/
theorem dispatch_onTime_sample :
    (∃ now p, confirmThenDispatch 2 1 = .dispatch (str "p1") now ∧
        (confirmedThenSent 2).state.proposal? (str "p1") = some p ∧
        expiry? restartStores (str "p1") = some p.expiresAt ∧ now < p.expiresAt ∧
        ProposalStore.isLive p now = pure true) ∧
      ∃ answer, answersOf ((SendFsm.dispatch (str "p1") 100).run
        (fun _ => StoreState.perform 1 (.ok { kind := .accepted })) 6
          (confirmedThenSent 2).state).1 = [(str "p1", answer)] := by
  constructor
  · refine (dispatch_onTime (confirmThenDispatch 2) restartStores _).1 ?_ 1 _ _
      confirmedThenSent_sends.2
    have hpasses : Config.passes (fun _ => StoreState.perform 1 (.ok { kind := .accepted }))
        (fun c _ _ => (c.state.proposal? (str "p1")).all fun p => 2 < p.expiresAt)
        (List.replicate 5 0 ++ List.replicate 3 1)
        (.start restartStores (callers (confirmThenDispatch 2))) = true := by decide
    refine Config.schedule_of_passes (fun _ s o => s.perform_env _ 1 _ o)
      (fun c t e _ htest => ?_) _ _ .start hpasses
    intro proposalId now q hcall _ _ hq _
    cases t with
    | zero => cases hcall
    | succ t =>
        cases hcall
        simpa [hq] using htest
  · exact (dispatch_onTime (confirmThenDispatch 2) restartStores (confirmedThenSent 2)).2
      (confirmedThenSent 2).state _ (str "p1") 100
      { proposalId := str "p1", payloadDigest := str "d1", expiresAt := 100, createdAt := 0,
        status := .confirmed } _ (.ok .sent) (by decide) rfl (by decide)
      (run_exec (fun _ s o => s.perform_env _ 1 _ o) 6 _ _)

end Expiry

end GmailGateway
