import GmailGateway.SendFsm.Replay

/-!
# GmailGateway.SendFsm.Rows

**The rows a confirmation and a dispatch write.** On stores that do not fail, what `confirm` and
`dispatch` do is a function of the stored record, of their arguments and of what the sender
answered: which rows they append, field by field, and which status they store.
-/

namespace GmailGateway

open Effect Proc Python

/-! ### What the sender answered -/

/-- The answer of the sender, if the event is an invocation of it. -/
def answerOf? : StoreEvent → Option (PyStr × Except Exc SendResult)
  | ⟨.send proposalId, r⟩ => some (proposalId, r)
  | _ => none

/-- The answers of the sender, oldest first. -/
def answersOf (τ : List StoreEvent) : List (PyStr × Except Exc SendResult) := τ.filterMap answerOf?

@[simp] theorem answersOf_nil : answersOf [] = [] := rfl

@[simp] theorem answersOf_append (τ τ' : List StoreEvent) :
    answersOf (τ ++ τ') = answersOf τ ++ answersOf τ' := List.filterMap_append

@[simp] theorem answersOf_send (proposalId : PyStr) (r : Except Exc SendResult) :
    answersOf [⟨.send proposalId, r⟩] = [(proposalId, r)] := rfl

theorem answersOf_sendless {o : StoreOp} (ho : SendFsm.Sendless o) (r : Except Exc o.Ret) :
    answersOf [⟨o, r⟩] = [] := by
  cases o with
  | send proposalId => exact absurd rfl (ho proposalId)
  | _ => rfl

@[simp] theorem answersOf_get (key : PyStr) (r : Except Exc (Option KvValue)) :
    answersOf [⟨.get key, r⟩] = [] := rfl

@[simp] theorem answersOf_put (key : PyStr) (v : KvValue) (r : Except Exc Unit) :
    answersOf [⟨.put key v, r⟩] = [] := rfl

@[simp] theorem answersOf_row (row : AuditEvent) (r : Except Exc Unit) :
    answersOf [⟨.append row, r⟩] = [] := rfl

namespace SendFsm

section
variable {σ α : Type} {W : Env StoreSig Exc σ} {τ : List StoreEvent} {s : σ}

/-- A procedure that does not send gets no answers. -/
theorem sat_sendless {p : Proc StoreSig Exc α} (hp : p.Performs Sendless) :
    p.sat W (fun τ' _ => answersOf τ' = answersOf τ) (fun _ τ' _ => answersOf τ' = answersOf τ) τ s := by
  induction p generalizing τ s with
  | ret a => rfl
  | raise e => rfl
  | op o k ih =>
      intro r s' _
      have hsame : answersOf (τ ++ [⟨o, r⟩]) = answersOf τ := by
        rw [answersOf_append, answersOf_sendless hp.1, List.append_nil]
      have hrest := ih r (hp.2 r) (τ := τ ++ [⟨o, r⟩]) (s := s')
      rw [hsame] at hrest
      exact ⟨hsame, hrest⟩

end

/-! ### The rows -/

/-- The status a send is settled with. -/
def settledStatus : Except Exc SendResult → ProposalStatus
  | .error _ => .outcomeUnknown
  | .ok result =>
      match result.kind with
      | .accepted => .sent
      | .rejected => .failed
      | .indeterminate => .outcomeUnknown

/-- The row that says so. -/
def settledRow (proposalId : PyStr) (now : Int) : Except Exc SendResult → AuditEvent
  | .error _ =>
      { eventType := .outcomeUnknown, at_ := now, proposalId,
        outcome := str "indeterminate", errorCode := str "sender_raised" }
  | .ok result =>
      match result.kind with
      | .accepted =>
          { eventType := .sendSucceeded, at_ := now, proposalId, outcome := str "accepted",
            messageIdSha256 := result.messageIdSha256, threadIdSha256 := result.threadIdSha256,
            egressHosts := result.egressHosts }
      | .rejected =>
          { eventType := .sendFailed, at_ := now, proposalId, outcome := str "rejected",
            errorCode := result.errorCode, egressHosts := result.egressHosts }
      | .indeterminate =>
          { eventType := .outcomeUnknown, at_ := now, proposalId,
            outcome := str "indeterminate", errorCode := result.errorCode,
            egressHosts := result.egressHosts }

/-- The row that `confirm` writes. -/
def confirmedRow (p : Proposal) (proposalId : PyStr) (actor : Actor) (now : Int) : AuditEvent :=
  { eventType := .proposalConfirmed, at_ := now, proposalId, payloadDigest := p.payloadDigest,
    outcome := str actor.value }

/-- The row that `dispatch` writes before it invokes the sender. -/
def attemptedRow (p : Proposal) (proposalId : PyStr) (now : Int) : AuditEvent :=
  { eventType := .sendAttempted, at_ := now, proposalId, payloadDigest := p.payloadDigest }

theorem settledRow_at (proposalId : PyStr) (now : Int) (answer : Except Exc SendResult) :
    (settledRow proposalId now answer).at_ = now := by
  rcases answer with e | ⟨kind, m, t, c, hosts⟩
  · rfl
  · cases kind <;> rfl

/-- What was raised does not show. -/
theorem settledRow_toOption (proposalId : PyStr) (now : Int) {answer answer' : Except Exc SendResult}
    (h : answer.toOption = answer'.toOption) :
    settledRow proposalId now answer = settledRow proposalId now answer' := by
  cases answer <;> cases answer' <;> first | rfl | cases h
  rfl

/-- Settling is a status write and its row, whatever the sender answered. -/
theorem settle_eq (proposalId : PyStr) (now : Int) (answer : Except Exc SendResult) :
    settle proposalId now answer = (do
      let _ ← ProposalStore.setStatus proposalId (settledStatus answer)
      AuditLedger.record (settledRow proposalId now answer)
      pure (settledStatus answer)) := by
  rcases answer with e | ⟨kind, m, t, c, hosts⟩
  · rfl
  · cases kind <;> rfl

/-! ### The calls -/

section Calls
open Replay

variable {s : StoreState} {τ : List StoreEvent} {proposalId : PyStr}

/-- At most one answer was needed so far. -/
def OneAnswer (τ : List StoreEvent) (_ : StoreState) : Prop := (answersOf τ).length ≤ 1

/-- A status write and its row, between other statements. -/
theorem write_rows {α : Type} {p : Proposal} {x : ProposalStatus} {row : AuditEvent} {a : α}
    (hone : (answersOf τ).length ≤ 1)
    (hp : ProposalStore.decode proposalId (.ok (s.kv proposalId)) = .ok p) (hat : 0 ≤ row.at_) :
    (do let _ ← ProposalStore.setStatus proposalId x
        AuditLedger.record row
        pure a : Proc StoreSig Exc α).sat reliableStores OneAnswer
      (fun r τ' s' => answersOf τ' = answersOf τ ∧ r = .ok a ∧
        s' = written s p proposalId x row) τ s := by
  have hget : Sendless (.get proposalId) := fun _ h => by cases h
  have hperforms : (do let _ ← ProposalStore.setStatus proposalId x
                       AuditLedger.record row
                       pure a : Proc StoreSig Exc α).Performs Sendless :=
    performs_bind (ProposalStore.performs_setStatus hget fun _ _ h => by cases h) fun _ =>
      performs_bind (AuditLedger.performs_record fun _ h => by cases h) fun _ => trivial
  refine sat_weaken (sat_and (sat_sendless hperforms) (sat_write hp hat)) ?_ ?_
  · intro τ' s' h
    show (answersOf τ').length ≤ 1
    rw [h.1]
    exact hone
  · intro r τ' s' h
    exact ⟨h.1, h.2⟩

/-- What a confirmation asks of the record. -/
structure Confirms (switchMode : SwitchMode) (actor : Actor) (now : Int)
    (agentReachable : Option Bool) (p : Proposal) : Prop where
  now_nonneg : 0 ≤ now
  live : (p.status.terminal || now < p.expiresAt) = true
  pending : p.status = .pending
  licence : actor = .autoUnreachable →
    switchMode = .autoSendWhenAgentUnreachable ∧ agentReachable = some false

/-- How a confirmation ends: it writes its row for a record that meets its conditions, and
otherwise raises and changes nothing. -/
inductive ConfirmRows (switchMode : SwitchMode) (proposalId : PyStr) (actor : Actor) (now : Int)
    (agentReachable : Option Bool) (s : StoreState) : Except Exc Unit → StoreState → Prop
  | confirmed {p : Proposal} :
      ProposalStore.decode proposalId (.ok (s.kv proposalId)) = .ok p →
      Confirms switchMode actor now agentReachable p →
      ConfirmRows switchMode proposalId actor now agentReachable s (.ok ())
        (written s p proposalId .confirmed (confirmedRow p proposalId actor now))
  | refused {e : Exc} :
      (∀ p, ProposalStore.decode proposalId (.ok (s.kv proposalId)) = .ok p →
        ¬ Confirms switchMode actor now agentReachable p) →
      ConfirmRows switchMode proposalId actor now agentReachable s (.error e) s

/-- **Confirming.** -/
theorem confirm_rows (switchMode : SwitchMode) (actor : Actor) (now : Int)
    (agentReachable : Option Bool) (hnone : answersOf τ = []) :
    (confirm switchMode proposalId actor now agentReachable).sat reliableStores OneAnswer
      (fun r τ' s' => answersOf τ' = [] ∧
        ConfirmRows switchMode proposalId actor now agentReachable s r s') τ s := by
  simp only [confirm, sat_bind, ProposalStore.sat_getLive]
  intro r s₁ hget
  obtain ⟨rfl, rfl⟩ := reliable_get hget
  have hτ : answersOf (τ ++ [⟨.get proposalId, .ok (s₁.kv proposalId)⟩]) = [] := by simp [hnone]
  refine ⟨by simp [OneAnswer, hτ], ?_⟩
  cases hp : ProposalStore.decode proposalId (.ok (s₁.kv proposalId)) with
  | error e => exact ⟨hτ, .refused fun p h => by cases hp.symm.trans h⟩
  | ok p =>
      have hrefuse (e : Exc) (h : ¬ Confirms switchMode actor now agentReachable p) :
          answersOf (τ ++ [⟨.get proposalId, .ok (s₁.kv proposalId)⟩]) = [] ∧
            ConfirmRows switchMode proposalId actor now agentReachable s₁ (.error e) s₁ := by
        refine ⟨hτ, .refused fun q hq => ?_⟩
        cases hp.symm.trans hq
        exact h
      refine ⟨fun hneg => hrefuse _ fun h => absurd h.now_nonneg (by omega), fun hnow =>
        ⟨fun hdead => hrefuse _ fun h => ?_, fun hlive => ?_⟩⟩
      · cases hdead.symm.trans h.live
      simp only [andThen_ok, andThen_error, sat_bind, sat_raiseIf]
      refine ⟨fun hne => hrefuse _ fun h => hne h.pending, fun hpending =>
        ⟨fun hmode => hrefuse _ fun h => hmode.2 (h.licence hmode.1).1, fun hmode =>
          ⟨fun hreach => hrefuse _ fun h => hreach.2 (h.licence hreach.1).2, fun hreach => ?_⟩⟩⟩
      rw [← sat_bind, ← bind_pure (AuditLedger.record _)]
      refine sat_mono (write_rows (a := ()) (by simp [hτ]) hp hnow) fun r _ s' h => ?_
      obtain ⟨hanswers, rfl, rfl⟩ := h
      refine ⟨hanswers.trans hτ, .confirmed hp ⟨hnow, hlive, not_not.mp hpending, ?_⟩⟩
      intro hactor
      simp only [hactor, true_and, not_not] at hmode hreach
      exact ⟨hmode, hreach⟩

/-- **Confirming on stores that may fail.** Where it returns, it did what it does on others. -/
theorem confirm_returned (switchMode : SwitchMode) (actor : Actor) (now : Int)
    (agentReachable : Option Bool) :
    (confirm switchMode proposalId actor now agentReachable).sat faultyStores (fun _ _ => True)
      (fun r _ s' => r = .ok () → ∃ p, s.proposal? proposalId = some p ∧ p.status = .pending ∧
        s' = written s p proposalId .confirmed (confirmedRow p proposalId actor now)) τ s := by
  simp only [confirm, sat_bind, ProposalStore.sat_getLive]
  intro r s₁ hget
  obtain ⟨rfl, hread⟩ := get_effect hget
  refine ⟨trivial, ?_⟩
  cases hp : ProposalStore.decode proposalId r with
  | error e => exact fun h => by cases h
  | ok p =>
      refine ⟨fun _ h => (by cases h), fun _ => ⟨fun _ h => (by cases h), fun _ => ?_⟩⟩
      simp only [andThen_ok, andThen_error, sat_bind, sat_raiseIf]
      refine ⟨fun _ h => (by cases h), fun hpending => ⟨fun _ h => (by cases h), fun _ => ⟨fun _ h => (by cases h),
        fun _ => ?_⟩⟩⟩
      rw [ProposalStore.sat_setStatus]
      intro r' s₂ hget'
      obtain ⟨rfl, hread'⟩ := get_effect hget'
      refine ⟨trivial, ?_⟩
      cases hq : ProposalStore.decode proposalId r' with
      | error e => exact fun h => by cases h
      | ok q =>
          -- the record is read twice, from the same store
          obtain rfl : q = p := Option.some.inj ((hread' q hq).symm.trans (hread p hp))
          simp only [andThen_ok]
          intro u s₃ hput
          refine ⟨trivial, ?_⟩
          cases u with
          | error e => exact fun h => by cases h
          | ok u =>
              simp only [Except.map, andThen_ok, AuditLedger.sat_record]
              refine ⟨fun _ h => (by cases h), fun _ w s₄ happend => ⟨trivial, fun hw => ?_⟩⟩
              subst hw
              rw [show s₃ = _ from hput] at happend
              exact ⟨q, hread q hp, not_not.mp hpending, happend⟩

/-- How a dispatch of a confirmed proposal ends. Unless its own time is refused, the sender is
asked once and its answer is stored and recorded. -/
inductive DispatchRows (proposalId : PyStr) (now : Int) (p : Proposal) (s : StoreState) :
    Except Exc ProposalStatus → List (PyStr × Except Exc SendResult) → StoreState → Prop
  | refused {e : Exc} : now < 0 → DispatchRows proposalId now p s (.error e) [] s
  | settled {answer : Except Exc SendResult} {s' : StoreState} : 0 ≤ now →
      s'.kv = Function.update s.kv proposalId
        (some (p.withStatus (settledStatus answer)).toDict) →
      s'.ledger = s.ledger ++
        [attemptedRow p proposalId now, settledRow proposalId now answer] →
      DispatchRows proposalId now p s (.ok (settledStatus answer)) [(proposalId, answer)] s'

/-- **Dispatching a confirmed proposal.** -/
theorem dispatch_rows (now : Int) {p : Proposal} (hnone : answersOf τ = [])
    (hp : ProposalStore.decode proposalId (.ok (s.kv proposalId)) = .ok p)
    (hconfirmed : p.status = .confirmed) :
    (dispatch proposalId now).sat reliableStores OneAnswer
      (fun r τ' s' => DispatchRows proposalId now p s r (answersOf τ') s') τ s := by
  simp only [dispatch, sat_bind, ProposalStore.sat_get]
  intro r s₁ hget
  obtain ⟨rfl, rfl⟩ := reliable_get hget
  have hτ : answersOf (τ ++ [⟨.get proposalId, .ok (s₁.kv proposalId)⟩]) = [] := by simp [hnone]
  refine ⟨by simp [OneAnswer, hτ], ?_⟩
  rw [hp]
  simp only [andThen_ok, andThen_error, sat_bind, sat_raiseIf, AuditLedger.sat_record]
  refine ⟨fun h => ?_, fun _ => ⟨fun h => ?_, fun _ =>
    ⟨fun h => absurd hconfirmed h, fun _ => ⟨fun hneg => ?_, fun hnow r' s₂ happend => ?_⟩⟩⟩⟩
  · cases hconfirmed.symm.trans h
  · rcases h with h | h <;> cases hconfirmed.symm.trans h
  · rw [hτ]
    exact .refused hneg
  obtain ⟨rfl, rfl⟩ := reliable_append happend
  have hτ' (row : AuditEvent) : answersOf (τ ++ [⟨.get proposalId, .ok (s₁.kv proposalId)⟩] ++
      [⟨.append row, .ok ()⟩]) = [] := by
    rw [answersOf_append, hτ]
    rfl
  refine ⟨by rw [OneAnswer, hτ']; exact Nat.zero_le 1, ?_⟩
  simp only [andThen_ok, sat_bind, sat_attempt, perform, sat_op, sat_embed]
  intro answer s₃ hsend
  have hs₃ : s₃ = _ := hsend
  subst hs₃
  have hsent : ∀ τ', answersOf τ' = [] →
      answersOf (τ' ++ [⟨.send proposalId, answer⟩]) = [(proposalId, answer)] := by
    intro τ' h
    rw [answersOf_append, h]
    rfl
  have hone := hsent _ (hτ' (attemptedRow p proposalId now))
  refine ⟨(congrArg List.length hone).le, ?_⟩
  rw [settle_eq]
  refine sat_mono (write_rows (congrArg List.length hone).le hp (settledRow_at _ _ _ ▸ hnow))
    fun r _ s' h => ?_
  obtain ⟨hanswers, rfl, rfl⟩ := h
  rw [hanswers.trans hone]
  exact .settled hnow rfl (by simp [written, attemptedRow])

end Calls

end SendFsm

end GmailGateway
