import GmailGateway.Store.Proposals

/-!
# GmailGateway.SendFsm.Fsm

The send state machine (`sendfsm/fsm.py`) and the Option B dispatcher that drives
it (`gateway/send_path.py`, `ConfirmDispatcher`).

A proposal moves `PENDING → CONFIRMED → {SENT | FAILED | OUTCOME_UNKNOWN}`, or
`PENDING → FAILED` on expiry. `confirm` and `dispatch` each read the record, test
its status and write a new one in separate backend operations.
-/

namespace GmailGateway

open Effect Proc Python

/-- Who approved a send. There is no agent member. -/
inductive Actor
  | human
  | autoUnreachable
  deriving DecidableEq, Repr

def Actor.value : Actor → String
  | human => "human"
  | autoUnreachable => "auto_unreachable"

/-- `actionset/switch.py`, `SwitchMode`. -/
inductive SwitchMode
  | confirmThenSend
  | autoSendWhenAgentUnreachable
  deriving DecidableEq, Repr

namespace SendFsm

/-- `PENDING → CONFIRMED`, driven by a human or the auto-unreachable path. -/
def confirm (switchMode : SwitchMode) (proposalId : PyStr) (actor : Actor) (now : Int)
    (agentReachable : Option Bool := none) : Proc StoreSig Exc Unit := do
  let p ← ProposalStore.getLive proposalId now
  raiseIf (p.status ≠ .pending)
    (.illegalTransition ("confirm requires PENDING, got " ++ p.status.value))
  raiseIf (actor = .autoUnreachable ∧ switchMode ≠ .autoSendWhenAgentUnreachable)
    (.autoSendNotEnabled "auto-send requested but switch is confirm-then-send")
  -- Auto only fires on a definitive unreachable signal, not on an unknown one.
  raiseIf (actor = .autoUnreachable ∧ agentReachable ≠ some false)
    (.agentUnreachableRequired "auto-send requires agent_reachable is False")
  let _ ← ProposalStore.setStatus proposalId .confirmed
  AuditLedger.record
    { eventType := .proposalConfirmed, at_ := now, proposalId := proposalId,
      payloadDigest := p.payloadDigest, outcome := str actor.value }

def settleUnknown (proposalId : PyStr) (now : Int) (errorCode : Option PyStr := none)
    (egressHosts : List PyStr := []) : Proc StoreSig Exc ProposalStatus := do
  let _ ← ProposalStore.setStatus proposalId .outcomeUnknown
  AuditLedger.record
    { eventType := .outcomeUnknown, at_ := now, proposalId := proposalId,
      outcome := str "indeterminate", errorCode := errorCode, egressHosts := egressHosts }
  pure .outcomeUnknown

/-- What `dispatch` does with what came back from the sender. -/
def settle (proposalId : PyStr) (now : Int) :
    Except Exc SendResult → Proc StoreSig Exc ProposalStatus
  -- An exception mid-send leaves the true outcome unknown.
  | .error _ => settleUnknown proposalId now (str "sender_raised")
  | .ok result =>
      match result.kind with
      | .accepted => do
          let _ ← ProposalStore.setStatus proposalId .sent
          AuditLedger.record
            { eventType := .sendSucceeded, at_ := now, proposalId := proposalId,
              outcome := str "accepted", messageIdSha256 := result.messageIdSha256,
              threadIdSha256 := result.threadIdSha256, egressHosts := result.egressHosts }
          pure .sent
      | .rejected => do
          let _ ← ProposalStore.setStatus proposalId .failed
          AuditLedger.record
            { eventType := .sendFailed, at_ := now, proposalId := proposalId,
              outcome := str "rejected", errorCode := result.errorCode,
              egressHosts := result.egressHosts }
          pure .failed
      | .indeterminate => settleUnknown proposalId now result.errorCode result.egressHosts

/-- `CONFIRMED → terminal`. Refuses retry of any settled proposal. -/
def dispatch (proposalId : PyStr) (now : Int) : Proc StoreSig Exc ProposalStatus := do
  let p ← ProposalStore.get proposalId
  raiseIf (p.status = .outcomeUnknown) (.noAutoRetry proposalId)
  raiseIf (p.status = .sent ∨ p.status = .failed)
    (.alreadySettled ("proposal already " ++ p.status.value))
  raiseIf (p.status ≠ .confirmed)
    (.illegalTransition ("dispatch requires CONFIRMED, got " ++ p.status.value))
  AuditLedger.record
    { eventType := .sendAttempted, at_ := now, proposalId := proposalId,
      payloadDigest := p.payloadDigest }
  let result ← attempt (sender proposalId)
  settle proposalId now result

/-- A `PENDING` proposal past its expiry becomes terminal `FAILED`. -/
def expire (proposalId : PyStr) (now : Int) : Proc StoreSig Exc ProposalStatus := do
  let p ← ProposalStore.get proposalId
  raiseIf (p.status ≠ .pending)
    (.illegalTransition ("expire requires PENDING, got " ++ p.status.value))
  raiseIf (now < p.expiresAt) (.illegalTransition "proposal not yet expired")
  let _ ← ProposalStore.setStatus proposalId .failed
  AuditLedger.record
    { eventType := .proposalExpired, at_ := now, proposalId := proposalId,
      outcome := str "expired" }
  pure .failed

/-! ### Which operations they perform -/

/-- An operation of the state machine on this proposal. A status it writes is never
`PENDING`. -/
def FsmOp (proposalId : PyStr) : StoreOp → Prop
  | .put key v => key = proposalId ∧ ∃ p : Proposal, v = p.toDict ∧ p.status ≠ .pending
  | .get key | .send key => key = proposalId
  | .append row => row.proposalId = proposalId
  | .claim _ _ | .delete _ => False
  | .now => True

/-- Only `dispatch` sends. -/
def Sendless (o : StoreOp) : Prop := ∀ proposalId, o ≠ .send proposalId

section Performs
variable {proposalId : PyStr}

theorem performs_confirm (switchMode : SwitchMode) (proposalId : PyStr) (actor : Actor)
    (now : Int) (agentReachable : Option Bool) :
    (confirm switchMode proposalId actor now agentReachable).Performs fun o =>
      FsmOp proposalId o ∧ Sendless o := by
  have hget : FsmOp proposalId (.get proposalId) ∧ Sendless (.get proposalId) :=
    ⟨rfl, fun _ h => by cases h⟩
  refine performs_bind (ProposalStore.performs_getLive hget _) fun p => ?_
  refine performs_bind (performs_raiseIf _ _) fun _ => performs_bind (performs_raiseIf _ _) fun _ =>
    performs_bind (performs_raiseIf _ _) fun _ => ?_
  refine performs_bind (ProposalStore.performs_setStatus hget fun q => ?_) fun _ => ?_
  · exact ⟨⟨rfl, _, rfl, fun h => by cases h⟩, fun _ h => by cases h⟩
  · exact AuditLedger.performs_record ⟨rfl, fun _ h => by cases h⟩

/-- A status write that is not `PENDING`, and its row. -/
theorem performs_write {x : ProposalStatus} {row : AuditEvent} (hx : x ≠ .pending)
    (hrow : row.proposalId = proposalId) :
    (do let _ ← ProposalStore.setStatus proposalId x; AuditLedger.record row; pure x :
      Proc StoreSig Exc ProposalStatus).Performs (FsmOp proposalId) :=
  performs_bind (ProposalStore.performs_setStatus rfl fun _ => ⟨rfl, _, rfl, hx⟩) fun _ =>
    performs_bind (AuditLedger.performs_record hrow) fun _ => trivial

theorem performs_settle (now : Int) (result : Except Exc SendResult) :
    (settle proposalId now result).Performs (FsmOp proposalId) := by
  rcases result with e | ⟨kind, m, t, c, hosts⟩
  · exact performs_write (by decide) rfl
  · cases kind <;> exact performs_write (by decide) rfl

theorem performs_dispatch (proposalId : PyStr) (now : Int) :
    (dispatch proposalId now).Performs (FsmOp proposalId) :=
  performs_bind (ProposalStore.performs_get rfl) fun _ =>
    performs_bind (performs_raiseIf _ _) fun _ => performs_bind (performs_raiseIf _ _) fun _ =>
      performs_bind (performs_raiseIf _ _) fun _ =>
        performs_bind (AuditLedger.performs_record rfl) fun _ =>
          performs_bind (performs_attempt (performs_perform rfl)) fun _ => performs_settle _ _

theorem performs_expire (proposalId : PyStr) (now : Int) :
    (expire proposalId now).Performs (FsmOp proposalId) :=
  performs_bind (ProposalStore.performs_get rfl) fun _ =>
    performs_bind (performs_raiseIf _ _) fun _ => performs_bind (performs_raiseIf _ _) fun _ =>
      performs_write (by decide) rfl

end Performs

/-! ### What they leave -/

/-- Past its `PENDING` status, so that it is never confirmed again. -/
def LeftPending (s : StoreState) (proposalId : PyStr) : Prop :=
  ∃ x, s.status? proposalId = some x ∧ x ≠ .pending

section Effects
variable {s s' : StoreState} {proposalId : PyStr}

/-- **One operation.** A proposal that left `PENDING` stays so, and only a send is a send. -/
theorem fsmOp_effect {o : StoreOp} {r : Except Exc o.Ret} (ho : FsmOp proposalId o)
    (h : faultyStores s o r s') :
    (∀ q, LeftPending s q → LeftPending s' q) ∧
      (s'.sends = s.sends ∨ o = .send proposalId ∧ s'.sends = s.sends ++ [proposalId]) := by
  have hsame : s' = s → (∀ q, LeftPending s q → LeftPending s' q) ∧
      (s'.sends = s.sends ∨ o = .send proposalId ∧ s'.sends = s.sends ++ [proposalId]) := by
    intro heq
    rw [heq]
    exact ⟨fun _ h => h, .inl rfl⟩
  cases o with
  | claim | delete => exact ho.elim
  | get | now =>
      cases r with
      | ok a => exact hsame (by first | exact h.2 | exact h)
      | error e => exact hsame h.2
  | append row =>
      cases r with
      | ok a =>
          rw [show s' = _ from h]
          exact ⟨fun _ h => h, .inl rfl⟩
      | error e => exact hsame h.2
  | put key v =>
      obtain ⟨rfl, p, rfl, hp⟩ := ho
      cases r with
      | error e => exact hsame h.2
      | ok a =>
          rw [show s' = _ from h]
          refine ⟨fun q hq => ?_, .inl rfl⟩
          -- the record that is overwritten gets a status past `PENDING` as well
          by_cases hqk : q = key
          · subst hqk
            exact ⟨p.status, StoreState.status?_put s q p, hp⟩
          · obtain ⟨x, hx, hne⟩ := hq
            refine ⟨x, ?_, hne⟩
            rw [StoreState.status?_congr (Function.update_of_ne hqk _ _), hx]
  | send key =>
      obtain rfl : key = proposalId := ho
      have hs' : s' = { s with sends := s.sends ++ [key] } := by cases r <;> exact h
      rw [hs']
      exact ⟨fun _ h => h, .inr ⟨rfl, rfl⟩⟩

/-- Writing a status and its row: the status is the stored one, if both got through. -/
theorem write_meets {x : ProposalStatus} {row : AuditEvent} {τ : List StoreEvent} :
    (do let _ ← ProposalStore.setStatus proposalId x; AuditLedger.record row :
      Proc StoreSig Exc Unit).sat faultyStores (fun _ _ => True)
      (fun r _ s' => r = .ok () → s'.status? proposalId = some x) τ s := by
  simp only [sat_bind, ProposalStore.sat_setStatus]
  intro r s₁ _
  refine ⟨trivial, ?_⟩
  cases ProposalStore.decode proposalId r with
  | error e => exact fun h => by cases h
  | ok p =>
      intro r' s₂ hput
      refine ⟨trivial, ?_⟩
      cases r' with
      | error e => exact fun h => by cases h
      | ok u =>
          have hstatus : s₂.status? proposalId = some x := by
            rw [show s₂ = _ from hput, StoreState.status?_put, Proposal.withStatus_status]
          simp only [Except.map, andThen_ok, AuditLedger.sat_record]
          refine ⟨fun _ h => (by cases h), fun _ r'' s₃ happend => ⟨trivial, fun h => ?_⟩⟩
          subst h
          rw [show s₃ = _ from happend]
          exact hstatus

/-- **Confirming.** It returns only for a proposal that was `PENDING` and no longer is. -/
theorem confirm_meets (switchMode : SwitchMode) (actor : Actor) (now : Int)
    (agentReachable : Option Bool) {τ : List StoreEvent} :
    (confirm switchMode proposalId actor now agentReachable).sat faultyStores (fun _ _ => True)
      (fun r _ s' => r = .ok () →
        s.status? proposalId = some .pending ∧ LeftPending s' proposalId) τ s := by
  simp only [confirm, sat_bind, ProposalStore.sat_getLive]
  intro r s₁ hget
  obtain ⟨rfl, hread⟩ := get_effect hget
  refine ⟨trivial, ?_⟩
  cases hdec : ProposalStore.decode proposalId r with
  | error e => exact fun h => by cases h
  | ok p =>
      refine ⟨fun _ h => (by cases h), fun _ => ⟨fun _ h => (by cases h), fun _ => ?_⟩⟩
      simp only [andThen_ok, sat_bind, sat_raiseIf]
      refine ⟨fun _ h => (by cases h), fun hpending => ⟨fun _ h => (by cases h), fun _ =>
        ⟨fun _ h => (by cases h), fun _ => ?_⟩⟩⟩
      rw [not_not] at hpending
      have hstatus : s₁.status? proposalId = some .pending := by
        rw [StoreState.status?, hread p hdec]
        exact congrArg some hpending
      rw [← sat_bind]
      refine sat_mono write_meets fun r _ s' hwrite hr => ⟨hstatus, ?_⟩
      exact ⟨.confirmed, hwrite hr, by decide⟩

/-- **Dispatching.** The status it returns is the stored one. -/
theorem dispatch_meets (now : Int) {τ : List StoreEvent} :
    (dispatch proposalId now).sat faultyStores (fun _ _ => True)
      (fun r _ s' => ∀ x, r = .ok x → s'.status? proposalId = some x) τ s := by
  have hwrite (x : ProposalStatus) (row : AuditEvent) (s : StoreState) (τ : List StoreEvent) :
      (do let _ ← ProposalStore.setStatus proposalId x; AuditLedger.record row; pure x :
        Proc StoreSig Exc ProposalStatus).sat faultyStores (fun _ _ => True)
        (fun r _ s' => ∀ y, r = .ok y → s'.status? proposalId = some y) τ s := by
    rw [← bind_assoc, sat_bind]
    refine sat_mono write_meets fun r _ s' h => ?_
    cases r with
    | error e => exact fun _ h => by cases h
    | ok u =>
        intro y hy
        cases hy
        exact h rfl
  simp only [dispatch, sat_bind, ProposalStore.sat_get]
  intro r s₁ _
  refine ⟨trivial, ?_⟩
  cases ProposalStore.decode proposalId r with
  | error e => exact fun _ h => by cases h
  | ok p =>
      simp only [andThen_ok, andThen_error, sat_bind, sat_raiseIf, AuditLedger.sat_record]
      refine ⟨fun _ _ h => (by cases h), fun _ => ⟨fun _ _ h => (by cases h), fun _ =>
        ⟨fun _ _ h => (by cases h), fun _ => ⟨fun _ _ h => (by cases h), fun _ r' s₂ _ => ?_⟩⟩⟩⟩
      refine ⟨trivial, ?_⟩
      cases r' with
      | error e => exact fun _ h => by cases h
      | ok u =>
          simp only [andThen_ok, sat_bind, sat_attempt, perform, sat_op, sat_embed]
          refine fun result s₃ _ => ⟨trivial, ?_⟩
          rcases result with e | ⟨kind, m, t, c, hosts⟩
          · exact hwrite .outcomeUnknown _ _ _
          · cases kind with
            | accepted => exact hwrite .sent _ _ _
            | rejected => exact hwrite .failed _ _ _
            | indeterminate => exact hwrite .outcomeUnknown _ _ _

/-- **Confirming, as a step of other calls.** Nothing is sent on the way. -/
theorem confirm_spec (switchMode : SwitchMode) (actor : Actor) (now : Int)
    (agentReachable : Option Bool) :
    (confirm switchMode proposalId actor now agentReachable).sat faultyStores
      (fun τ s' => ((∀ q, LeftPending s q → LeftPending s' q) ∧ s'.sends = s.sends) ∧
        ∀ e ∈ τ, FsmOp proposalId e.op ∧ Sendless e.op)
      (fun r τ s' => (((∀ q, LeftPending s q → LeftPending s' q) ∧ s'.sends = s.sends) ∧
        ∀ e ∈ τ, FsmOp proposalId e.op ∧ Sendless e.op) ∧ (r = .ok () →
          s.status? proposalId = some .pending ∧ LeftPending s' proposalId)) [] s := by
  have hframe := sat_frame (W := faultyStores) (s := s)
    (R := fun s s' => (∀ q, LeftPending s q → LeftPending s' q) ∧ s'.sends = s.sends)
    (performs_confirm switchMode proposalId actor now agentReachable)
    (fun _ _ _ h h' => ⟨fun q hq => h'.1 q (h.1 q hq), h'.2.trans h.2⟩) ?_
    ⟨fun _ h => h, rfl⟩
  · exact sat_weaken (sat_and hframe (confirm_meets switchMode actor now agentReachable))
      (fun _ _ h => h.1) fun _ _ _ h => h
  · rintro s o r s' ⟨ho, hsend⟩ hw
    obtain ⟨hleft, hsends⟩ := fsmOp_effect ho hw
    refine ⟨hleft, ?_⟩
    rcases hsends with hsends | ⟨rfl, -⟩
    · exact hsends
    · exact absurd rfl (hsend proposalId)

/-- **Dispatching, as a step of other calls.** Only its proposal is sent. -/
theorem dispatch_spec (now : Int) :
    (dispatch proposalId now).sat faultyStores
      (fun τ s' => ((∀ q, LeftPending s q → LeftPending s' q) ∧
        ∀ q ∈ s'.sends, q ∈ s.sends ∨ q = proposalId) ∧ ∀ e ∈ τ, FsmOp proposalId e.op)
      (fun r τ s' => (((∀ q, LeftPending s q → LeftPending s' q) ∧
        ∀ q ∈ s'.sends, q ∈ s.sends ∨ q = proposalId) ∧ ∀ e ∈ τ, FsmOp proposalId e.op) ∧
          ∀ x, r = .ok x → s'.status? proposalId = some x) [] s := by
  have hframe := sat_frame (W := faultyStores) (s := s)
    (R := fun s s' => (∀ q, LeftPending s q → LeftPending s' q) ∧
      ∀ q ∈ s'.sends, q ∈ s.sends ∨ q = proposalId)
    (performs_dispatch proposalId now) ?_ ?_ ⟨fun _ h => h, fun _ h => .inl h⟩
  · exact sat_weaken (sat_and hframe (dispatch_meets now)) (fun _ _ h => h.1) fun _ _ _ h => h
  · intro s₁ s₂ s₃ h h'
    refine ⟨fun q hq => h'.1 q (h.1 q hq), fun q hq => ?_⟩
    rcases h'.2 q hq with hq | hq
    · exact h.2 q hq
    · exact .inr hq
  · intro s o r s' ho hw
    obtain ⟨hleft, hsends⟩ := fsmOp_effect ho hw
    refine ⟨hleft, fun q hq => ?_⟩
    rcases hsends with hsends | ⟨-, hsends⟩
    · rw [hsends] at hq
      exact .inl hq
    · rw [hsends] at hq
      rcases List.mem_append.mp hq with hq | hq
      · exact .inl hq
      · exact .inr (List.mem_singleton.mp hq)

end Effects

end SendFsm

/-- `ConfirmDispatcher.confirm_and_dispatch`: confirm as the relayed human, then
dispatch; the terminal status value. -/
def ConfirmDispatcher.confirmAndDispatch (switchMode : SwitchMode) (proposalId : PyStr) :
    Proc StoreSig Exc String := do
  let now ← clockNow
  SendFsm.confirm switchMode proposalId .human now
  let status ← SendFsm.dispatch proposalId now
  pure status.value

end GmailGateway
