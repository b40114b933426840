import GmailGateway.SendFsm.Fsm
import GmailGateway.Effect.Session

/-!
# GmailGateway.SendFsm.Redispatch

**FSM calls across faults and restarts.** `confirm`, `dispatch` and `expire` are
called one after the other on the persisted store and ledger. Any store or ledger
operation may fail, and the process may stop before any of them.

`SendFSM.dispatch` appends `SEND_ATTEMPTED`, calls the sender and only then writes a
terminal status. A call that ends between the row and the status leaves the proposal
`CONFIRMED`, and `dispatch` tests the status alone: the next call sends again. What
the code does guarantee is what is left when no call is `Interrupted` there.

`CallEffect` says once what any call may have done to one proposal, at every point
it may have been stopped; the invariant of whole sessions is read off it.
-/

namespace GmailGateway

open Effect Proc Python

namespace Redispatch

/-- A call of the state machine. -/
inductive FsmCall
  | confirm (switchMode : SwitchMode) (proposalId : PyStr) (actor : Actor) (now : Int)
      (agentReachable : Option Bool)
  | dispatch (proposalId : PyStr) (now : Int)
  | expire (proposalId : PyStr) (now : Int)

/-- The method that is called, with its arguments. -/
def FsmCall.run : FsmCall → Proc StoreSig Exc Unit
  | confirm switchMode proposalId actor now agentReachable =>
      SendFsm.confirm switchMode proposalId actor now agentReachable
  | dispatch proposalId now => do
      let _ ← SendFsm.dispatch proposalId now
      pure ()
  | expire proposalId now => do
      let _ ← SendFsm.expire proposalId now
      pure ()

/-- The proposal that the call is about. -/
def FsmCall.proposalId : FsmCall → PyStr
  | confirm _ proposalId _ _ _ | dispatch proposalId _ | expire proposalId _ => proposalId

/-! ### What a call shows of one proposal -/

/-- A row that says a send of the proposal was attempted. -/
def IsAttempt (proposalId : PyStr) (row : AuditEvent) : Prop :=
  row.eventType = .sendAttempted ∧ row.proposalId = proposalId

/-- `SEND_ATTEMPTED` is persisted for the proposal. -/
def Attempted (proposalId : PyStr) (s : StoreState) : Prop :=
  ∃ row ∈ s.ledger, IsAttempt proposalId row

/-- The call persisted `SEND_ATTEMPTED` and no status afterwards: it failed or was
stopped in between. -/
def Interrupted (proposalId : PyStr) (τ : List StoreEvent) : Prop :=
  (∃ row u, ⟨.append row, .ok u⟩ ∈ τ ∧ IsAttempt proposalId row) ∧
    ∀ v u, (⟨.put proposalId v, .ok u⟩ : StoreEvent) ∉ τ

/-- The two states agree on the proposal. -/
structure SameView (proposalId : PyStr) (s s' : StoreState) : Prop where
  kv : s'.kv proposalId = s.kv proposalId
  sends : s'.sends.count proposalId = s.sends.count proposalId
  attempted : Attempted proposalId s' ↔ Attempted proposalId s

theorem SameView.refl (proposalId : PyStr) (s : StoreState) : SameView proposalId s s :=
  ⟨rfl, rfl, Iff.rfl⟩

theorem SameView.trans {proposalId : PyStr} {s₁ s₂ s₃ : StoreState}
    (h : SameView proposalId s₁ s₂) (h' : SameView proposalId s₂ s₃) :
    SameView proposalId s₁ s₃ :=
  ⟨h'.kv.trans h.kv, h'.sends.trans h.sends, h'.attempted.trans h.attempted⟩

theorem SameView.status {proposalId : PyStr} {s s' : StoreState} (h : SameView proposalId s s') :
    s'.status? proposalId = s.status? proposalId := StoreState.status?_congr h.kv

section Store
variable {s s' : StoreState}

theorem attempted_append {proposalId : PyStr} (s : StoreState) (row : AuditEvent) :
    Attempted proposalId { s with ledger := s.ledger ++ [row] } ↔
      Attempted proposalId s ∨ IsAttempt proposalId row := by
  simp [Attempted, or_and_right, exists_or]

/-- A row of another kind or of another proposal. -/
theorem SameView.append {proposalId : PyStr} (s : StoreState) {row : AuditEvent}
    (h : ¬ IsAttempt proposalId row) :
    SameView proposalId s { s with ledger := s.ledger ++ [row] } :=
  ⟨rfl, rfl, (attempted_append s row).trans (or_iff_left h)⟩

/-- Operations on another proposal. -/
theorem sameView_of_other {proposalId other : PyStr} (hne : proposalId ≠ other) {o : StoreOp}
    {r : Except Exc o.Ret} (ho : SendFsm.FsmOp other o) (h : faultyStores s o r s') :
    SameView proposalId s s' := by
  have herr : s' = s → SameView proposalId s s' := fun h => h ▸ .refl _ _
  cases o with
  | claim | delete => exact ho.elim
  | get | now =>
      cases r with
      | ok a => exact herr (by first | exact h.2 | exact h)
      | error e => exact herr h.2
  | put key v =>
      obtain ⟨rfl, -⟩ := ho
      cases r with
      | ok a =>
          rw [show s' = _ from h]
          exact ⟨Function.update_of_ne hne _ _, rfl, Iff.rfl⟩
      | error e => exact herr h.2
  | append row =>
      cases r with
      | ok a =>
          rw [show s' = _ from h]
          exact .append s fun hrow => hne (hrow.2.symm.trans ho)
      | error e => exact herr h.2
  | send key =>
      obtain rfl : key = other := ho
      have hs' : s' = { s with sends := s.sends ++ [key] } := by cases r <;> exact h
      rw [hs']
      refine ⟨rfl, ?_, Iff.rfl⟩
      rw [List.count_append, List.count_singleton, if_neg (by simpa using hne.symm)]
      rfl

/-- The status a read answers is the stored one. -/
theorem get_status {proposalId : PyStr} {r : Except Exc (Option KvValue)}
    (h : faultyStores s (.get proposalId) r s') :
    s' = s ∧ ∀ p, ProposalStore.decode proposalId r = .ok p →
      s.status? proposalId = some p.status := by
  obtain ⟨hs, hread⟩ := get_effect h
  refine ⟨hs, fun p hp => ?_⟩
  rw [StoreState.status?, hread p hp]
  rfl

end Store

/-! ### What a call does -/

/-- What a call started in `s` may have done to the proposal by `s'`, where it may be
stopped. -/
inductive CallEffect (proposalId : PyStr) (s : StoreState) (τ : List StoreEvent)
    (s' : StoreState) : Prop
  | nothing : SameView proposalId s s' → CallEffect proposalId s τ s'
  /-- `confirm` or `expire` wrote its status. -/
  | moved : s.status? proposalId = some .pending →
      s'.sends.count proposalId = s.sends.count proposalId →
      (Attempted proposalId s' ↔ Attempted proposalId s) → CallEffect proposalId s τ s'
  /-- `dispatch` announced its send and has not written a status: it has sent once or
  not yet. -/
  | interrupted : s.status? proposalId = some .confirmed → Interrupted proposalId τ →
      s'.sends.count proposalId ≤ s.sends.count proposalId + 1 → CallEffect proposalId s τ s'
  /-- `dispatch` sent and settled. -/
  | settled (x : ProposalStatus) : s.status? proposalId = some .confirmed →
      x.terminal = true → s'.status? proposalId = some x → Attempted proposalId s' →
      s'.sends.count proposalId = s.sends.count proposalId + 1 → CallEffect proposalId s τ s'

theorem Interrupted.append {proposalId : PyStr} {τ τ' : List StoreEvent}
    (h : Interrupted proposalId τ)
    (hτ' : ∀ v u, (⟨.put proposalId v, .ok u⟩ : StoreEvent) ∉ τ') :
    Interrupted proposalId (τ ++ τ') := by
  obtain ⟨⟨row, u, hmem, hrow⟩, hput⟩ := h
  refine ⟨⟨row, u, List.mem_append_left _ hmem, hrow⟩, fun v u hmem' => ?_⟩
  rcases List.mem_append.mp hmem' with hmem' | hmem'
  · exact hput v u hmem'
  · exact hτ' v u hmem'

/-- The specification of a call: its effect at every point, and at its end. -/
abbrev HasEffect {α : Type} (p : Proc StoreSig Exc α) (proposalId : PyStr) (s₀ : StoreState)
    (τ : List StoreEvent) (s : StoreState) : Prop :=
  p.sat faultyStores (fun τ s => CallEffect proposalId s₀ τ s)
    (fun _ τ s => CallEffect proposalId s₀ τ s) τ s

section Calls
variable {proposalId : PyStr} {s₀ s : StoreState} {τ : List StoreEvent} {α β : Type}

theorem HasEffect.bind_pure {p : Proc StoreSig Exc α} (h : HasEffect p proposalId s₀ τ s)
    (b : β) : HasEffect (do let _ ← p; pure b) proposalId s₀ τ s := by
  rw [HasEffect, sat_bind]
  refine sat_mono h fun r τ' s' hr => ?_
  cases r <;> exact hr

/-- A status write and its row, in a call whose only effect so far may be an
announcement (`hbefore`), and which is accounted for once the status is written
(`hafter`). -/
theorem setStatus_record_effect {x : ProposalStatus} {row : AuditEvent}
    (hrow : ¬ IsAttempt proposalId row)
    (hbefore : ∀ τ', (∀ v u, (⟨.put proposalId v, .ok u⟩ : StoreEvent) ∉ τ') →
      CallEffect proposalId s₀ (τ ++ τ') s)
    (hafter : ∀ τ' s', s'.status? proposalId = some x →
      s'.sends.count proposalId = s.sends.count proposalId →
      (Attempted proposalId s' ↔ Attempted proposalId s) → CallEffect proposalId s₀ τ' s') :
    HasEffect (do let _ ← ProposalStore.setStatus proposalId x; AuditLedger.record row)
      proposalId s₀ τ s := by
  simp only [HasEffect, sat_bind, ProposalStore.sat_setStatus]
  intro r s₁ hr
  obtain ⟨rfl, -⟩ := get_status hr
  have hread := hbefore [⟨.get proposalId, r⟩] (by simp)
  refine ⟨hread, ?_⟩
  cases ProposalStore.decode proposalId r with
  | error e => exact hread
  | ok p =>
      intro r' s₂ hr'
      rcases r' with e | u
      · obtain rfl := hr'.2
        have hput := hbefore [⟨.get proposalId, r⟩,
          ⟨.put proposalId (p.withStatus x).toDict, .error e⟩] (by simp)
        rw [List.append_cons] at hput
        exact ⟨hput, hput⟩
      · have hs₂ : s₂ = { s₁ with kv := _ } := hr'
        have hstatus : s₂.status? proposalId = some x := by
          rw [hs₂, StoreState.status?_put, Proposal.withStatus_status]
        have hsends : s₂.sends.count proposalId = s₁.sends.count proposalId := by rw [hs₂]
        have hatt : Attempted proposalId s₂ ↔ Attempted proposalId s₁ := by
          rw [hs₂]
          rfl
        have hput : ∀ τ', CallEffect proposalId s₀ τ' s₂ :=
          fun τ' => hafter τ' s₂ hstatus hsends hatt
        refine ⟨hput _, ?_⟩
        simp only [Except.map, andThen_ok, AuditLedger.sat_record]
        refine ⟨fun _ => hput _, fun _ r'' s₃ hr'' => ?_⟩
        cases r'' with
        | error e =>
            rw [hr''.2]
            exact ⟨hput _, hput _⟩
        | ok u =>
            have hview : SameView proposalId s₂ s₃ := by
              rw [show s₃ = _ from hr'']
              exact .append s₂ hrow
            have hdone : ∀ τ', CallEffect proposalId s₀ τ' s₃ := fun τ' =>
              hafter τ' s₃ (hview.status.trans hstatus) (hview.sends.trans hsends)
                (hview.attempted.trans hatt)
            exact ⟨hdone _, hdone _⟩

/-- `confirm` and `expire` write once, over a record they read as pending. -/
theorem setStatus_record_effect_pending {x : ProposalStatus} {row : AuditEvent}
    (hrow : ¬ IsAttempt proposalId row) (hpending : s.status? proposalId = some .pending) :
    HasEffect (do let _ ← ProposalStore.setStatus proposalId x; AuditLedger.record row)
      proposalId s τ s :=
  setStatus_record_effect hrow (fun _ _ => .nothing (.refl _ _))
    (fun _ _ _ hsends hatt => .moved hpending hsends hatt)

theorem confirm_effect (switchMode : SwitchMode) (actor : Actor) (now : Int)
    (agentReachable : Option Bool) :
    HasEffect (SendFsm.confirm switchMode proposalId actor now agentReachable) proposalId s [] s := by
  have hnothing : ∀ τ, CallEffect proposalId s τ s := fun _ => .nothing (.refl _ _)
  simp only [HasEffect, SendFsm.confirm, sat_bind, ProposalStore.sat_getLive]
  intro r s₁ hr
  obtain ⟨rfl, hread⟩ := get_status hr
  refine ⟨hnothing _, ?_⟩
  cases hdec : ProposalStore.decode proposalId r with
  | error e => exact hnothing _
  | ok p =>
      refine ⟨fun _ => hnothing _, fun _ => ⟨fun _ => hnothing _, fun _ => ?_⟩⟩
      simp only [andThen_ok, sat_bind, sat_raiseIf]
      refine ⟨fun _ => hnothing _, fun hpending => ⟨fun _ => hnothing _, fun _ =>
        ⟨fun _ => hnothing _, fun _ => ?_⟩⟩⟩
      rw [not_not] at hpending
      have hstatus := (hread p hdec).trans (congrArg some hpending)
      rw [← sat_bind]
      exact setStatus_record_effect_pending (fun h => by cases h.1) hstatus

theorem expire_effect (now : Int) :
    HasEffect (SendFsm.expire proposalId now) proposalId s [] s := by
  have hnothing : ∀ τ, CallEffect proposalId s τ s := fun _ => .nothing (.refl _ _)
  simp only [HasEffect, SendFsm.expire, sat_bind, ProposalStore.sat_get]
  intro r s₁ hr
  obtain ⟨rfl, hread⟩ := get_status hr
  refine ⟨hnothing _, ?_⟩
  cases hdec : ProposalStore.decode proposalId r with
  | error e => exact hnothing _
  | ok p =>
      simp only [andThen_ok, sat_bind, sat_raiseIf]
      refine ⟨fun _ => hnothing _, fun hpending => ⟨fun _ => hnothing _, fun _ => ?_⟩⟩
      rw [not_not] at hpending
      have hstatus := (hread p hdec).trans (congrArg some hpending)
      have hrow : ¬ IsAttempt proposalId
          { eventType := .proposalExpired, at_ := now, proposalId := proposalId,
            outcome := some (str "expired") } := fun h => by cases h.1
      have hwrite := (setStatus_record_effect_pending (x := .failed) hrow hstatus
        (τ := [] ++ [⟨.get proposalId, r⟩])).bind_pure ProposalStatus.failed
      rw [HasEffect, bind_assoc] at hwrite
      simpa only [sat_bind] using hwrite

/-- Settling after the send: interrupted until the status is written. -/
theorem settle_effect {now : Int} {result : Except Exc SendResult}
    (hstatus : s₀.status? proposalId = some .confirmed)
    (hsends : s.sends.count proposalId = s₀.sends.count proposalId + 1)
    (hatt : Attempted proposalId s) (hint : Interrupted proposalId τ) :
    HasEffect (SendFsm.settle proposalId now result) proposalId s₀ τ s := by
  have hwrite (x : ProposalStatus) (row : AuditEvent) (hx : x.terminal = true)
      (hrow : ¬ IsAttempt proposalId row) :
      HasEffect (do let _ ← ProposalStore.setStatus proposalId x; AuditLedger.record row; pure x)
        proposalId s₀ τ s := by
    have h := (setStatus_record_effect (x := x) hrow
      (fun τ' hτ' => .interrupted hstatus (hint.append hτ') hsends.le)
      (fun τ' s' hs' hs'' hatt' =>
        .settled x hstatus hx hs' (hatt'.mpr hatt) (hs''.trans hsends))).bind_pure x
    rwa [bind_assoc] at h
  rcases result with e | ⟨kind, m, t, c, hosts⟩
  · exact hwrite .outcomeUnknown _ rfl fun h => by cases h.1
  · cases kind with
    | accepted => exact hwrite .sent _ rfl fun h => by cases h.1
    | rejected => exact hwrite .failed _ rfl fun h => by cases h.1
    | indeterminate => exact hwrite .outcomeUnknown _ rfl fun h => by cases h.1

/-- **Dispatching.** Nothing before the announcing row; from it to the status write the
call is interrupted wherever it ends. -/
theorem dispatch_effect (now : Int) :
    HasEffect (SendFsm.dispatch proposalId now) proposalId s [] s := by
  have hnothing : ∀ τ, CallEffect proposalId s τ s := fun _ => .nothing (.refl _ _)
  simp only [HasEffect, SendFsm.dispatch, sat_bind, ProposalStore.sat_get]
  intro r s₁ hr
  obtain ⟨rfl, hread⟩ := get_status hr
  refine ⟨hnothing _, ?_⟩
  cases hdec : ProposalStore.decode proposalId r with
  | error e => exact hnothing _
  | ok p =>
      simp only [andThen_ok, andThen_error, sat_bind, sat_raiseIf, AuditLedger.sat_record]
      refine ⟨fun _ => hnothing _, fun _ => ⟨fun _ => hnothing _, fun _ => ⟨fun _ => hnothing _,
        fun hconfirmed => ⟨fun _ => hnothing _, fun _ r' s₂ hr' => ?_⟩⟩⟩⟩
      rw [not_not] at hconfirmed
      have hstatus := (hread p hdec).trans (congrArg some hconfirmed)
      rcases r' with e | u
      · rw [hr'.2]
        exact ⟨hnothing _, hnothing _⟩
      · have hint : Interrupted proposalId ([] ++ [⟨.get proposalId, r⟩] ++ [⟨.append
            { eventType := .sendAttempted, at_ := now, proposalId := proposalId,
              payloadDigest := some p.payloadDigest }, .ok u⟩]) :=
          ⟨⟨_, u, List.mem_append_right _ List.mem_cons_self, rfl, rfl⟩, by simp⟩
        have hs₂ : s₂ = { s₁ with ledger := s₁.ledger ++ [_] } := hr'
        have hsends : s₂.sends = s₁.sends := by rw [hs₂]
        have hatt : Attempted proposalId s₂ := by
          rw [hs₂, attempted_append]
          exact .inr ⟨rfl, rfl⟩
        refine ⟨.interrupted hstatus hint (by rw [hsends]; omega), ?_⟩
        simp only [andThen_ok, sat_bind, sat_attempt, perform, sat_op, sat_embed]
        intro r'' s₃ hr''
        have hs₃ : s₃ = { s₂ with sends := s₂.sends ++ [proposalId] } := by
          cases r'' <;> exact hr''
        have hsend : s₃.sends.count proposalId = s₁.sends.count proposalId + 1 := by
          rw [hs₃, List.count_append, hsends, List.count_singleton_self]
        have hint' : Interrupted proposalId (_ ++ [⟨.send proposalId, r''⟩]) :=
          hint.append (by simp)
        have hatt' : Attempted proposalId s₃ := by
          rw [hs₃]
          exact hatt
        exact ⟨.interrupted hstatus hint' hsend.le, settle_effect hstatus hsend hatt' hint'⟩

end Calls

/-- **One call.** Whatever is called, for this proposal or another, and wherever it
ends. -/
theorem FsmCall.effect (k : FsmCall) {proposalId : PyStr} {s s' : StoreState}
    {τ : List StoreEvent} {out : Outcome Exc Unit} (h : Exec faultyStores k.run s τ out s') :
    CallEffect proposalId s τ s' := by
  by_cases hk : proposalId = k.proposalId
  · subst hk
    have hspec : HasEffect k.run k.proposalId s [] s := by
      cases k with
      | confirm mode p actor now reachable => exact confirm_effect mode actor now reachable
      | dispatch p now => exact (dispatch_effect now).bind_pure ()
      | expire p now => exact (expire_effect now).bind_pure ()
    by_cases hτ : τ = []
    · rw [h.state_eq_of_nil hτ]
      exact .nothing (.refl _ _)
    · simpa using (h.sound hspec).1 hτ
  · have hperf : k.run.Performs (SendFsm.FsmOp k.proposalId) := by
      cases k with
      | confirm mode p actor now reachable =>
          exact (SendFsm.performs_confirm _ _ _ _ _).mono fun _ h => h.1
      | dispatch p now =>
          exact performs_bind (SendFsm.performs_dispatch _ _) fun _ => trivial
      | expire p now => exact performs_bind (SendFsm.performs_expire _ _) fun _ => trivial
    exact .nothing (h.frame hperf (.refl _) (fun _ _ _ => .trans)
      fun _ _ _ _ ho hw => sameView_of_other hk ho hw)

/-! ### Sessions -/

/-- **The condition.** The call did not end between its announcing row and its status
write. -/
def NotInterrupted (proposalId : PyStr) (k : Call StoreSig Exc Unit FsmCall) : Prop :=
  ¬ Interrupted proposalId k.events

/-- **The invariant between calls.** An announced send is settled, and there was one. -/
structure Settled (proposalId : PyStr) (s₀ s : StoreState) : Prop where
  status : Attempted proposalId s →
    ∃ x : ProposalStatus, x.terminal = true ∧ s.status? proposalId = some x
  sends_le : s.sends.count proposalId ≤ s₀.sends.count proposalId + 1
  unsent : ¬ Attempted proposalId s → s.sends.count proposalId = s₀.sends.count proposalId

section Sessions
variable {proposalId : PyStr} {s₀ s s' : StoreState} {τ : List StoreEvent}

/-- Before a call, an announced proposal is neither pending nor confirmed. -/
theorem Settled.not_attempted (h : Settled proposalId s₀ s) {x : ProposalStatus}
    (hx : x.terminal = false) (hstatus : s.status? proposalId = some x) :
    ¬ Attempted proposalId s := by
  intro hatt
  obtain ⟨y, hy, hstatus'⟩ := h.status hatt
  obtain rfl := Option.some.inj (hstatus.symm.trans hstatus')
  rw [hx] at hy
  cases hy

theorem Settled.call (h : Settled proposalId s₀ s) (heff : CallEffect proposalId s τ s')
    (hτ : ¬ Interrupted proposalId τ) : Settled proposalId s₀ s' := by
  cases heff with
  | nothing hview =>
      refine ⟨fun hatt => ?_, hview.sends.trans_le h.sends_le, fun hatt => ?_⟩
      · rw [hview.status]
        exact h.status (hview.attempted.mp hatt)
      · exact hview.sends.trans (h.unsent fun hatt' => hatt (hview.attempted.mpr hatt'))
  | moved hstatus hsends hatt =>
      have hno := h.not_attempted rfl hstatus
      exact ⟨fun hatt' => absurd (hatt.mp hatt') hno, hsends.trans_le h.sends_le,
        fun _ => hsends.trans (h.unsent hno)⟩
  | interrupted _ hint => exact absurd hint hτ
  | settled x hstatus hx hstatus' hatt' hsends =>
      have hunsent := h.unsent (h.not_attempted rfl hstatus)
      exact ⟨fun _ => ⟨x, hx, hstatus'⟩, by omega, fun hno => absurd hatt' hno⟩

/-- The next call sends at most once, and not at all for an announced proposal. -/
theorem Settled.sends_call (h : Settled proposalId s₀ s) (heff : CallEffect proposalId s τ s') :
    s'.sends.count proposalId ≤ s₀.sends.count proposalId + 1 ∧
      (Attempted proposalId s → s'.sends.count proposalId = s.sends.count proposalId) := by
  cases heff with
  | nothing hview => exact ⟨hview.sends.trans_le h.sends_le, fun _ => hview.sends⟩
  | moved _ hsends _ => exact ⟨hsends.trans_le h.sends_le, fun _ => hsends⟩
  | interrupted hstatus _ hsends =>
      have hno := h.not_attempted rfl hstatus
      have hunsent := h.unsent hno
      exact ⟨by omega, fun hatt => absurd hatt hno⟩
  | settled x hstatus _ _ _ hsends =>
      have hno := h.not_attempted rfl hstatus
      have hunsent := h.unsent hno
      exact ⟨by omega, fun hatt => absurd hatt hno⟩

/-- **At most one provider call.** After any session none of whose calls was
interrupted, one more call, wherever it ends, leaves at most one send of the proposal;
and once `SEND_ATTEMPTED` is persisted it sends nothing. -/
theorem session_atMostOneSend {calls : List (Call StoreSig Exc Unit FsmCall)}
    {out : Outcome Exc Unit} (h₀ : ¬ Attempted proposalId s₀)
    (hrun : Session faultyStores FsmCall.run (NotInterrupted proposalId) s₀ calls s)
    (k : FsmCall) (hcall : Exec faultyStores k.run s τ out s') :
    s'.sends.count proposalId ≤ s₀.sends.count proposalId + 1 ∧
      (Attempted proposalId s → s'.sends.count proposalId = s.sends.count proposalId) := by
  have hsettled : Settled proposalId s₀ s :=
    hrun.invariant ⟨fun hatt => absurd hatt h₀, Nat.le_succ _, fun _ => rfl⟩
      fun s k τ out s' hs hexec hC => hs.call (k.effect hexec) hC
  exact hsettled.sends_call (k.effect hcall)

end Sessions

/-! ### A restart before the status write -/

/-- Stores that hold one pending proposal. -/
def restartStores : StoreState :=
  .holding { proposalId := str "p1", payloadDigest := str "d1", expiresAt := 100, createdAt := 0 }

/-- Run one call, stopped after `n` operations; none fails and the provider accepts. -/
def FsmCall.perform (k : FsmCall) (n : Nat) (s : StoreState) :
    List StoreEvent × Outcome Exc Unit × StoreState := 
  k.run.run (fun _ => StoreState.perform 1 (.ok { kind := .accepted })) n s

theorem FsmCall.perform_exec (k : FsmCall) (n : Nat) (s : StoreState) :
    Exec faultyStores k.run s (k.perform n s).1 (k.perform n s).2.1 (k.perform n s).2.2 :=
  run_exec (fun _ s o => s.perform_env _ 1 _ o) n k.run s

/-- A human confirms it. -/
abbrev confirmCall : FsmCall := .confirm .confirmThenSend (str "p1") .human 1 none

/-- It is dispatched. -/
abbrev dispatchCall : FsmCall := .dispatch (str "p1") 1

/-- The process stops once the provider was called; the restarted one dispatches again
and calls the provider a second time. -/
theorem session_sendsTwice :
    ¬ ∀ (proposalId : PyStr) (s₀ s : StoreState) (calls : List (Call StoreSig Exc Unit FsmCall)),
      ¬ Attempted proposalId s₀ → Session faultyStores FsmCall.run anyCall s₀ calls s →
      s.sends.count proposalId ≤ s₀.sends.count proposalId + 1 := by
  intro hclaim
  have hconfirm := confirmCall.perform_exec 5 restartStores
  have hcrash := dispatchCall.perform_exec 3 (confirmCall.perform 5 restartStores).2.2
  have hagain := dispatchCall.perform_exec 6
    (dispatchCall.perform 3 (confirmCall.perform 5 restartStores).2.2).2.2
  have htwo := hclaim (str "p1") _ _ _ (by rintro ⟨row, hrow, -⟩; cases hrow)
    (((Session.start.call hconfirm trivial).call hcrash trivial).call hagain trivial)
  exact absurd htwo (by decide)

/-- Confirm and dispatch to the end, then dispatch again: refused, one send. -/
theorem session_atMostOneSend_settled :
    (dispatchCall.perform 6 (confirmCall.perform 5 restartStores).2.2).2.2.sends = [str "p1"] ∧
      (dispatchCall.perform 6
        (dispatchCall.perform 6 (confirmCall.perform 5 restartStores).2.2).2.2).2.2.sends.count
          (str "p1") ≤ 1 := by
  have hconfirm := confirmCall.perform_exec 5 restartStores
  have hsend := dispatchCall.perform_exec 6 (confirmCall.perform 5 restartStores).2.2
  have hagain := dispatchCall.perform_exec 6
    (dispatchCall.perform 6 (confirmCall.perform 5 restartStores).2.2).2.2
  -- both calls wrote a status, after their other rows
  have hconfirm' : NotInterrupted (str "p1")
      ⟨confirmCall, (confirmCall.perform 5 restartStores).1,
        (confirmCall.perform 5 restartStores).2.1⟩ :=
    fun hint => hint.2 _ () (.tail _ (.tail _ (.head _)))
  have hsend' : NotInterrupted (str "p1")
      ⟨dispatchCall, (dispatchCall.perform 6 (confirmCall.perform 5 restartStores).2.2).1,
        (dispatchCall.perform 6 (confirmCall.perform 5 restartStores).2.2).2.1⟩ :=
    fun hint => hint.2 _ () (.tail _ (.tail _ (.tail _ (.tail _ (.head _)))))
  have hone := session_atMostOneSend (by rintro ⟨row, hrow, -⟩; cases hrow)
    ((Session.start.call hconfirm hconfirm').call hsend hsend') dispatchCall hagain
  exact ⟨by decide, hone.1⟩

end Redispatch

end GmailGateway
