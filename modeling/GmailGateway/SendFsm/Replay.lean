import GmailGateway.SendFsm.Redispatch

/-!
# GmailGateway.SendFsm.Replay

**The audit ledger replays to the proposal state.** On stores that do not fail, the rows of a
proposal tell its whole life: folding them gives the stored status. A call either raises and
changes nothing, or moves one proposal along one transition and appends that transition's rows
(`Moves`).

The ledger is never read by the state machine, so this is a fact about two records that are
written next to each other.
-/

namespace GmailGateway

open Effect Proc Python

namespace Replay

/-! ### The life of a proposal, from its rows -/

/-- What a row does to the status it is read in. -/
def apply : ProposalStatus → AuditEventType → Option ProposalStatus
  | .pending, .proposalConfirmed => some .confirmed
  | .pending, .proposalExpired => some .failed
  | .confirmed, .sendAttempted => some .confirmed
  | .confirmed, .sendSucceeded => some .sent
  | .confirmed, .sendFailed => some .failed
  | .confirmed, .outcomeUnknown => some .outcomeUnknown
  | _, _ => none

/-- The status that the rows of a proposal amount to. -/
def replay (rows : List AuditEventType) : Option ProposalStatus :=
  rows.foldlM apply .pending

/-- The rows a proposal can have, and the status it has then. -/
inductive Life : List AuditEventType → ProposalStatus → Prop
  | pending : Life [] .pending
  | confirmed : Life [.proposalConfirmed] .confirmed
  | sent : Life [.proposalConfirmed, .sendAttempted, .sendSucceeded] .sent
  | failed : Life [.proposalConfirmed, .sendAttempted, .sendFailed] .failed
  | outcomeUnknown : Life [.proposalConfirmed, .sendAttempted, .outcomeUnknown] .outcomeUnknown
  | expired : Life [.proposalExpired] .failed

/-- What one call may do to a proposal: the rows it appends and the status it writes. -/
inductive Transition : ProposalStatus → List AuditEventType → ProposalStatus → Prop
  | confirm : Transition .pending [.proposalConfirmed] .confirmed
  | send : Transition .confirmed [.sendAttempted, .sendSucceeded] .sent
  | reject : Transition .confirmed [.sendAttempted, .sendFailed] .failed
  | settleUnknown : Transition .confirmed [.sendAttempted, .outcomeUnknown] .outcomeUnknown
  | expire : Transition .pending [.proposalExpired] .failed

theorem Life.replay {rows : List AuditEventType} {x : ProposalStatus} (h : Life rows x) :
    replay rows = some x := by
  cases h <;> rfl

theorem Life.transition {rows new : List AuditEventType} {x y : ProposalStatus} (h : Life rows x)
    (ht : Transition x new y) : Life (rows ++ new) y := by
  cases ht <;> cases h <;> constructor

theorem Transition.not_terminal {new : List AuditEventType} {x y : ProposalStatus}
    (h : Transition x new y) : x.terminal = false := by
  cases h <;> rfl

/-- The rows of a proposal. -/
def rowsOf (proposalId : PyStr) (s : StoreState) : List AuditEvent :=
  s.ledger.filter (·.proposalId = proposalId)

/-- What they say happened. -/
def typesOf (proposalId : PyStr) (s : StoreState) : List AuditEventType :=
  (rowsOf proposalId s).map (·.eventType)

/-! ### Stores that do not fail -/

/-- Only the sender may raise. -/
abbrev reliableStores : Env StoreSig Exc StoreState := storeEnv fun _ => False

section Reliable
variable {s s' : StoreState} {J : List StoreEvent → StoreState → Prop} {τ : List StoreEvent}

theorem reliable_get {key : PyStr} {r : Except Exc (Option KvValue)}
    (h : reliableStores s (.get key) r s') : r = .ok (s.kv key) ∧ s' = s := by
  cases r with
  | error e => exact h.1.elim
  | ok v => exact ⟨congrArg _ h.1, h.2⟩

theorem reliable_put {key : PyStr} {v : KvValue} {r : Except Exc Unit}
    (h : reliableStores s (.put key v) r s') :
    r = .ok () ∧ s' = { s with kv := Function.update s.kv key (some v) } := by
  cases r with
  | error e => exact h.1.elim
  | ok u => exact ⟨rfl, h⟩

theorem reliable_append {row : AuditEvent} {r : Except Exc Unit}
    (h : reliableStores s (.append row) r s') :
    r = .ok () ∧ s' = { s with ledger := s.ledger ++ [row] } := by
  cases r with
  | error e => exact h.1.elim
  | ok u => exact ⟨rfl, h⟩

/-- What a read makes of a stored record. -/
theorem decode_stored {proposalId : PyStr} {p : Proposal}
    (h : ProposalStore.decode proposalId (.ok (s.kv proposalId)) = .ok p) :
    s.proposal? proposalId = some p := by
  cases hrow : s.kv proposalId with
  | none => simp [hrow, ProposalStore.decode] at h
  | some raw =>
      rw [hrow] at h
      simp [StoreState.proposal?, hrow, show Proposal.fromDict raw = .ok p from h, Except.toOption]

theorem decode_of_proposal? {proposalId : PyStr} {p : Proposal}
    (h : s.proposal? proposalId = some p) :
    ProposalStore.decode proposalId (.ok (s.kv proposalId)) = .ok p := by
  cases hrow : s.kv proposalId with
  | none => simp [StoreState.proposal?, hrow] at h
  | some raw =>
      cases hraw : Proposal.fromDict raw with
      | error e => simp [StoreState.proposal?, hrow, hraw, Except.toOption] at h
      | ok q =>
          obtain rfl : q = p := by
            simpa [StoreState.proposal?, hrow, hraw, Except.toOption] using h
          exact hraw

/-- The proposal with another status, and rows about it. -/
def written (s : StoreState) (p : Proposal) (key : PyStr) (x : ProposalStatus)
    (row : AuditEvent) : StoreState :=
  { s with kv := Function.update s.kv key (some (p.withStatus x).toDict),
           ledger := s.ledger ++ [row] }

/-- A status write and its row both get through. -/
theorem sat_write {α : Type} {proposalId : PyStr} {p : Proposal} {x : ProposalStatus}
    {row : AuditEvent} {a : α}
    (hp : ProposalStore.decode proposalId (.ok (s.kv proposalId)) = .ok p) (hat : 0 ≤ row.at_) :
    (do let _ ← ProposalStore.setStatus proposalId x
        AuditLedger.record row
        pure a : Proc StoreSig Exc α).sat reliableStores (fun _ _ => True)
      (fun r _ s' => r = .ok a ∧ s' = written s p proposalId x row) τ s := by
  simp only [sat_bind, ProposalStore.sat_setStatus]
  intro r s₁ hget
  obtain ⟨rfl, rfl⟩ := reliable_get hget
  refine ⟨trivial, ?_⟩
  rw [hp, andThen_ok]
  intro r' s₂ hput
  obtain ⟨rfl, rfl⟩ := reliable_put hput
  refine ⟨trivial, ?_⟩
  simp only [Except.map, andThen_ok, sat_bind, AuditLedger.sat_record]
  refine ⟨fun hneg => absurd hneg (by omega), fun _ r'' s₃ happend => ?_⟩
  obtain ⟨rfl, rfl⟩ := reliable_append happend
  exact ⟨trivial, rfl, rfl⟩

/-- A call moved the proposal to status `x` and appended the rows of that transition. -/
structure Moves (proposalId : PyStr) (s s' : StoreState) (x : ProposalStatus)
    (rows : List AuditEvent) : Prop where
  kv : ∃ p, s.proposal? proposalId = some p ∧
    Transition p.status (rows.map (·.eventType)) x ∧
    s'.kv = Function.update s.kv proposalId (some (p.withStatus x).toDict)
  ledger : s'.ledger = s.ledger ++ rows
  named : ∀ row ∈ rows, row.proposalId = proposalId

/-- How a call of the state machine ends. A confirmation by the auto path has its licence. -/
structure ConfirmEnd (switchMode : SwitchMode) (proposalId : PyStr) (actor : Actor) (now : Int)
    (agentReachable : Option Bool) (s : StoreState) (r : Except Exc Unit) (s' : StoreState) :
    Prop where
  raised : ∀ e, r = .error e → s' = s
  returned : r = .ok () → ∃ row, Moves proposalId s s' .confirmed [row] ∧ row.at_ = now ∧
    row.outcome = some (str actor.value) ∧ (actor = .autoUnreachable →
      switchMode = .autoSendWhenAgentUnreachable ∧ agentReachable = some false)

/-- The others append no confirmation. -/
structure CallEnd (proposalId : PyStr) (s : StoreState) (r : Except Exc ProposalStatus)
    (s' : StoreState) : Prop where
  raised : ∀ e, r = .error e → s' = s
  returned : ∀ x, r = .ok x → ∃ rows, Moves proposalId s s' x rows ∧
    ∀ row ∈ rows, row.eventType ≠ .proposalConfirmed

variable {proposalId : PyStr}

theorem ConfirmEnd.refuse {switchMode : SwitchMode} {actor : Actor} {now : Int}
    {agentReachable : Option Bool} {e : Exc} :
    ConfirmEnd switchMode proposalId actor now agentReachable s (.error e) s where
  raised := fun _ _ => rfl
  returned := nofun

theorem CallEnd.refuse {e : Exc} : CallEnd proposalId s (.error e) s where
  raised := fun _ _ => rfl
  returned := nofun

/-- **Confirming.** -/
theorem confirm_ends (switchMode : SwitchMode) (actor : Actor) (now : Int)
    (agentReachable : Option Bool) :
    (SendFsm.confirm switchMode proposalId actor now agentReachable).sat reliableStores
      (fun _ _ => True) (fun r _ s' => ConfirmEnd switchMode proposalId actor now agentReachable
        s r s') τ s := by
  simp only [SendFsm.confirm, sat_bind, ProposalStore.sat_getLive]
  intro r s₁ hget
  obtain ⟨rfl, rfl⟩ := reliable_get hget
  refine ⟨trivial, ?_⟩
  cases hp : ProposalStore.decode proposalId (.ok (s₁.kv proposalId)) with
  | error e => exact .refuse
  | ok p =>
      refine ⟨fun _ => .refuse, fun hnow => ⟨fun _ => .refuse, fun _ => ?_⟩⟩
      simp only [andThen_ok, andThen_error, sat_bind, sat_raiseIf]
      refine ⟨fun _ => .refuse, fun hpending => ⟨fun _ => .refuse, fun hmode =>
        ⟨fun _ => .refuse, fun hreach => ?_⟩⟩⟩
      rw [not_not] at hpending
      rw [← sat_bind, ← bind_pure (AuditLedger.record _)]
      refine sat_mono (sat_write (a := ()) hp hnow) fun r _ s' hwrite => ?_
      obtain ⟨rfl, rfl⟩ := hwrite
      refine ⟨fun _ h => (by cases h), fun _ => ⟨_, ⟨⟨p, decode_stored hp, ?_, rfl⟩, rfl, ?_⟩, rfl, rfl, ?_⟩⟩
      · rw [hpending]
        exact .confirm
      · simp
      · intro hactor
        simp only [hactor, true_and, not_not] at hmode hreach
        exact ⟨hmode, hreach⟩

/-- Settling, after the attempt was recorded. -/
theorem settle_ends {p : Proposal} {attempted : AuditEvent} {now : Int}
    (result : Except Exc SendResult)
    (hp : ProposalStore.decode proposalId (.ok (s.kv proposalId)) = .ok p)
    (hconfirmed : p.status = .confirmed) (hnow : 0 ≤ now)
    (hattempted : attempted.eventType = .sendAttempted ∧ attempted.proposalId = proposalId)
    (hkv : s'.kv = s.kv) (hledger : s'.ledger = s.ledger ++ [attempted]) :
    (SendFsm.settle proposalId now result).sat reliableStores (fun _ _ => True)
      (fun r _ s'' => CallEnd proposalId s r s'') τ s' := by
  have hp' : ProposalStore.decode proposalId (.ok (s'.kv proposalId)) = .ok p := hkv ▸ hp
  have hwrite (x : ProposalStatus) (row : AuditEvent)
      (ht : Transition .confirmed [.sendAttempted, row.eventType] x) (hat : row.at_ = now)
      (hid : row.proposalId = proposalId) :
      (do let _ ← ProposalStore.setStatus proposalId x
          AuditLedger.record row
          pure x : Proc StoreSig Exc ProposalStatus).sat reliableStores (fun _ _ => True)
        (fun r _ s'' => CallEnd proposalId s r s'') τ s' := by
    refine sat_mono (sat_write hp' (hat ▸ hnow)) fun r _ s'' h => ?_
    obtain ⟨rfl, rfl⟩ := h
    refine ⟨nofun, fun y hy => ?_⟩
    cases hy
    refine ⟨[attempted, row], ⟨⟨p, decode_stored hp, ?_, ?_⟩, ?_, ?_⟩, ?_⟩
    · simpa [hconfirmed, hattempted.1] using ht
    · simp [written, hkv]
    · simp [written, hledger]
    · simp [hattempted.2, hid]
    · have hne : row.eventType ≠ .proposalConfirmed := by
        intro heq
        rw [heq] at ht
        cases ht
      simp [hattempted.1, hne]
  rcases result with e | ⟨kind, m, t, c, hosts⟩
  · exact hwrite _ _ .settleUnknown rfl rfl
  · cases kind with
    | accepted => exact hwrite _ _ .send rfl rfl
    | rejected => exact hwrite _ _ .reject rfl rfl
    | indeterminate => exact hwrite _ _ .settleUnknown rfl rfl

/-- **Dispatching.** Whatever the sender does, the proposal is settled. -/
theorem dispatch_ends (now : Int) :
    (SendFsm.dispatch proposalId now).sat reliableStores (fun _ _ => True)
      (fun r _ s' => CallEnd proposalId s r s') τ s := by
  simp only [SendFsm.dispatch, sat_bind, ProposalStore.sat_get]
  intro r s₁ hget
  obtain ⟨rfl, rfl⟩ := reliable_get hget
  refine ⟨trivial, ?_⟩
  cases hp : ProposalStore.decode proposalId (.ok (s₁.kv proposalId)) with
  | error e => exact .refuse
  | ok p =>
      simp only [andThen_ok, andThen_error, sat_bind, sat_raiseIf, AuditLedger.sat_record]
      refine ⟨fun _ => .refuse, fun _ => ⟨fun _ => .refuse, fun _ => ⟨fun _ => .refuse,
        fun hconfirmed => ⟨fun _ => .refuse, fun hnow r' s₂ happend => ⟨trivial, ?_⟩⟩⟩⟩⟩
      obtain ⟨rfl, rfl⟩ := reliable_append happend
      simp only [andThen_ok, sat_bind, sat_attempt, perform, sat_op, sat_embed]
      refine fun result s₃ hsend => ⟨trivial, ?_⟩
      have hs₃ : s₃ = _ := hsend
      subst hs₃
      exact settle_ends result hp (not_not.mp hconfirmed) hnow ⟨rfl, rfl⟩ rfl rfl

/-- **Expiring.** A stored expiry is positive, so that a time past it is no invalid one. -/
theorem expire_ends (now : Int)
    (hexpires : ∀ p, s.proposal? proposalId = some p → 0 < p.expiresAt) :
    (SendFsm.expire proposalId now).sat reliableStores (fun _ _ => True)
      (fun r _ s' => CallEnd proposalId s r s') τ s := by
  simp only [SendFsm.expire, sat_bind, ProposalStore.sat_get]
  intro r s₁ hget
  obtain ⟨rfl, rfl⟩ := reliable_get hget
  refine ⟨trivial, ?_⟩
  cases hp : ProposalStore.decode proposalId (.ok (s₁.kv proposalId)) with
  | error e => exact .refuse
  | ok p =>
      simp only [andThen_ok, andThen_error, sat_bind, sat_raiseIf]
      refine ⟨fun _ => .refuse, fun hpending => ⟨fun _ => .refuse, fun hpast => ?_⟩⟩
      have hpos := hexpires p (decode_stored hp)
      simp only [← sat_bind]
      refine sat_mono (sat_write hp (by simp only; omega)) fun r _ s' hwrite => ?_
      obtain ⟨rfl, rfl⟩ := hwrite
      refine ⟨fun _ h => (by cases h), fun x hx => ?_⟩
      cases hx
      refine ⟨_, ⟨⟨p, decode_stored hp, ?_, rfl⟩, rfl, ?_⟩, ?_⟩
      · rw [not_not.mp hpending]
        exact .expire
      · simp
      · simp

/-- What creating a proposal does: nothing if it raises, else the record and its index entry are
new. -/
structure CreateEnd (p : Proposal) (s : StoreState) (r : Except Exc Proposal) (s' : StoreState) :
    Prop where
  ledger : s'.ledger = s.ledger
  raised : ∀ e, r = .error e → s'.kv = s.kv
  returned : ∀ q, r = .ok q → s.kv p.proposalId = none ∧ 0 < p.expiresAt ∧
    (s'.kv = Function.update s.kv p.proposalId (some p.toDict) ∨
      ∃ key, key ≠ p.proposalId ∧ s.kv key = none ∧ s'.kv = Function.update
        (Function.update s.kv p.proposalId (some p.toDict)) key (some (.index p.proposalId)))

theorem CreateEnd.refuse {p : Proposal} {e : Exc} : CreateEnd p s (.error e) s where
  ledger := rfl
  raised := fun _ _ => rfl
  returned := nofun

theorem create_ends (p : Proposal) :
    (ProposalStore.create p).sat reliableStores (fun _ _ => True)
      (fun r _ s' => CreateEnd p s r s') τ s := by
  simp only [ProposalStore.create, sat_bind, sat_validateTs]
  refine ⟨fun _ => .refuse, fun _ => ?_⟩
  simp only [andThen_ok, andThen_error, sat_bind, sat_validateTs]
  refine ⟨fun _ => .refuse, fun hcreated => ?_⟩
  simp only [andThen_ok, andThen_error, sat_bind, sat_raiseIf]
  refine ⟨fun _ => .refuse, fun hafter => ?_⟩
  have hpos : 0 < p.expiresAt := by omega
  simp only [perform, sat_op, sat_embed]
  intro r s₁ hget
  obtain ⟨rfl, rfl⟩ := reliable_get hget
  refine ⟨trivial, ?_⟩
  simp only [andThen_ok, andThen_error, sat_bind, sat_raiseIf, sat_op, sat_embed]
  refine ⟨fun _ => .refuse, fun hfree r s₂ hput => ⟨trivial, ?_⟩⟩
  obtain ⟨rfl, rfl⟩ := reliable_put hput
  rw [not_not] at hfree
  cases hkey : p.idempotencyKey with
  | none => exact ⟨rfl, fun _ h => (by cases h), fun _ _ => ⟨hfree, hpos, .inl rfl⟩⟩
  | some key =>
      simp only [andThen_ok, sat_bind, sat_op, sat_embed]
      intro won s₃ hclaim
      refine ⟨trivial, ?_⟩
      rcases won with e | won
      · exact hclaim.1.elim
      obtain ⟨hwon, rfl⟩ := hclaim
      cases won with
      | true =>
          have hindex := Option.isNone_iff_eq_none.mp hwon.symm
          have hne : ProposalStore.idemIndexKey key ≠ p.proposalId := by
            intro heq
            simp [heq] at hindex
          refine ⟨rfl, fun _ h => (by cases h), fun _ _ => ⟨hfree, hpos, .inr ⟨_, hne, ?_, rfl⟩⟩⟩
          simpa [Function.update_of_ne hne] using hindex
      | false =>
          -- the record is rolled back, and the key of it was free
          simp only [andThen_ok, Bool.false_eq_true, if_false, sat_bind, sat_op, sat_embed]
          intro gone s₄ hdelete
          refine ⟨trivial, ?_⟩
          rcases gone with e | ⟨⟩
          · exact hdelete.1.elim
          rw [show s₄ = _ from hdelete]
          refine ⟨rfl, fun _ _ => ?_, fun _ h => by cases h⟩
          rw [Function.update_idem, Function.update_eq_self_iff.mpr hfree.symm]

end Reliable

/-! ### Sessions -/

/-- A call on the store: `propose` creates proposals, as `PENDING`. -/
inductive LedgerCall
  | create (proposalId payloadDigest : PyStr) (expiresAt createdAt : Int)
      (idempotencyKey : Option PyStr)
  | fsm (call : Redispatch.FsmCall)

def LedgerCall.run : LedgerCall → Proc StoreSig Exc Unit
  | .create proposalId payloadDigest expiresAt createdAt idempotencyKey => do
      let _ ← ProposalStore.create
        { proposalId, payloadDigest, expiresAt, createdAt, idempotencyKey }
      pure ()
  | .fsm call => call.run

/-- The rows of every stored proposal tell its life, and there are no others. -/
def Mirrored (s : StoreState) : Prop := ∀ proposalId,
  (∃ p : Proposal, s.kv proposalId = some p.toDict ∧ 0 < p.expiresAt ∧
      Life (typesOf proposalId s) p.status) ∨
    s.proposal? proposalId = none ∧ rowsOf proposalId s = []

section Sessions
variable {s s' : StoreState} {proposalId : PyStr}

theorem proposal?_toDict {p : Proposal} (h : s.kv proposalId = some p.toDict) :
    s.proposal? proposalId = some p := by
  simp [StoreState.proposal?, h, Except.toOption]

theorem Mirrored.expires (h : Mirrored s) :
    ∀ p, s.proposal? proposalId = some p → 0 < p.expiresAt := by
  intro p hp
  rcases h proposalId with ⟨q, hrow, hpos, -⟩ | ⟨hnone, -⟩
  · cases (proposal?_toDict hrow).symm.trans hp
    exact hpos
  · cases hnone.symm.trans hp

theorem Mirrored.life (h : Mirrored s) {p : Proposal} (hp : s.proposal? proposalId = some p) :
    s.kv proposalId = some p.toDict ∧ Life (typesOf proposalId s) p.status := by
  rcases h proposalId with ⟨q, hrow, -, hlife⟩ | ⟨hnone, -⟩
  · cases (proposal?_toDict hrow).symm.trans hp
    exact ⟨hrow, hlife⟩
  · cases hnone.symm.trans hp

/-- Other proposals keep their rows. -/
theorem Moves.rowsOf_of_ne {other : PyStr} {x : ProposalStatus} {rows : List AuditEvent}
    (h : Moves proposalId s s' x rows) (hne : other ≠ proposalId) :
    rowsOf other s' = rowsOf other s := by
  have hnone : rows.filter (·.proposalId = other) = [] := by
    rw [List.filter_eq_nil_iff]
    intro row hrow
    simpa [h.named row hrow] using hne.symm
  rw [rowsOf, h.ledger, List.filter_append, hnone, List.append_nil, rowsOf]

/-- The moved proposal gets the new ones. -/
theorem Moves.rowsOf_self {x : ProposalStatus} {rows : List AuditEvent}
    (h : Moves proposalId s s' x rows) :
    rowsOf proposalId s' = rowsOf proposalId s ++ rows := by
  have hall : rows.filter (·.proposalId = proposalId) = rows := by
    rw [List.filter_eq_self]
    intro row hrow
    simpa using h.named row hrow
  rw [rowsOf, h.ledger, List.filter_append, hall, rowsOf]

/-- **One transition.** It keeps the ledger and the store in step. -/
theorem Mirrored.moves {x : ProposalStatus} {rows : List AuditEvent} (h : Mirrored s)
    (hm : Moves proposalId s s' x rows) : Mirrored s' := by
  obtain ⟨p, hp, ht, hkv⟩ := hm.kv
  intro other
  by_cases hother : other = proposalId
  · subst hother
    refine .inl ⟨p.withStatus x, by rw [hkv, Function.update_self], h.expires p hp, ?_⟩
    rw [typesOf, hm.rowsOf_self, List.map_append]
    exact (h.life hp).2.transition ht
  · have hrow : s'.kv other = s.kv other := by rw [hkv, Function.update_of_ne hother]
    have hsame := h other
    rwa [typesOf, hm.rowsOf_of_ne hother, StoreState.proposal?, hrow]

/-- A new proposal has no rows yet. -/
theorem Mirrored.create {p : Proposal} {r : Except Exc Proposal} (h : Mirrored s)
    (hpending : p.status = .pending) (hc : CreateEnd p s r s') : Mirrored s' := by
  have hrows (other : PyStr) : rowsOf other s' = rowsOf other s := by
    rw [rowsOf, hc.ledger, rowsOf]
  have hframe (other : PyStr) (hrow : s'.kv other = s.kv other) : (∃ p : Proposal,
      s'.kv other = some p.toDict ∧ 0 < p.expiresAt ∧ Life (typesOf other s') p.status) ∨
        s'.proposal? other = none ∧ rowsOf other s' = [] := by
    have hsame := h other
    rwa [typesOf, hrows, StoreState.proposal?, hrow]
  -- a key without a row has no rows in the ledger either
  have hquiet (other : PyStr) (hrow : s.kv other = none) : rowsOf other s = [] := by
    rcases h other with ⟨q, hq, -⟩ | ⟨-, hnil⟩
    · cases hrow.symm.trans hq
    · exact hnil
  cases r with
  | error e => exact fun other => hframe other (by rw [hc.raised e rfl])
  | ok q =>
      obtain ⟨hfree, hpos, hkv⟩ := hc.returned q rfl
      intro other
      by_cases hother : other = p.proposalId
      · subst hother
        refine .inl ⟨p, ?_, hpos, ?_⟩
        · rcases hkv with hkv | ⟨key, hne, -, hkv⟩
          · rw [hkv, Function.update_self]
          · rw [hkv, Function.update_of_ne hne.symm, Function.update_self]
        · rw [typesOf, hrows, hquiet _ hfree, hpending]
          exact .pending
      · rcases hkv with hkv | ⟨key, hne, hnew, hkv⟩
        · exact hframe other (by rw [hkv, Function.update_of_ne hother])
        · by_cases hkey : other = key
          · subst hkey
            refine .inr ⟨?_, by rw [hrows, hquiet _ hnew]⟩
            rw [StoreState.proposal?, hkv, Function.update_self]
            rfl
          · exact hframe other
              (by rw [hkv, Function.update_of_ne hkey, Function.update_of_ne hother])

theorem Moves.absorbing {x y : ProposalStatus} {rows : List AuditEvent} {other : PyStr}
    (h : Moves proposalId s s' x rows) (hy : s.status? other = some y) (hterm : y.terminal = true) :
    s'.status? other = some y ∧ rowsOf other s' = rowsOf other s := by
  obtain ⟨p, hp, ht, hkv⟩ := h.kv
  have hne : other ≠ proposalId := by
    intro heq
    subst heq
    rw [StoreState.status?, hp, Option.map_some] at hy
    cases hy
    rw [ht.not_terminal] at hterm
    cases hterm
  refine ⟨?_, h.rowsOf_of_ne hne⟩
  have hrow : s'.kv other = s.kv other := by rw [hkv, Function.update_of_ne hne]
  rw [StoreState.status?_congr hrow, hy]

/-- A proposal that is stored stays as it is while others are created. -/
theorem CreateEnd.absorbing {p : Proposal} {r : Except Exc Proposal} {y : ProposalStatus}
    {other : PyStr} (h : CreateEnd p s r s') (hy : s.status? other = some y) :
    s'.status? other = some y ∧ rowsOf other s' = rowsOf other s := by
  have hrow : s'.kv other = s.kv other := by
    have hne (key : PyStr) (hnone : s.kv key = none) : other ≠ key := by
      intro heq
      subst heq
      simp [StoreState.status?, StoreState.proposal?, hnone] at hy
    cases r with
    | error e => rw [h.raised e rfl]
    | ok q =>
        obtain ⟨hfree, -, hkv⟩ := h.returned q rfl
        rcases hkv with hkv | ⟨key, -, hnew, hkv⟩
        · rw [hkv, Function.update_of_ne (hne _ hfree)]
        · rw [hkv, Function.update_of_ne (hne _ hnew), Function.update_of_ne (hne _ hfree)]
  refine ⟨?_, by rw [rowsOf, h.ledger, rowsOf]⟩
  rw [StoreState.status?_congr hrow, hy]

/-- The row of a confirmation by the auto path. -/
def AutoConfirmed (row : AuditEvent) : Prop :=
  row.eventType = .proposalConfirmed ∧ row.outcome = some (str Actor.autoUnreachable.value)

/-- The call that may append it. -/
def autoConfirm (row : AuditEvent) : LedgerCall :=
  .fsm (.confirm .autoSendWhenAgentUnreachable row.proposalId .autoUnreachable row.at_ (some false))

/-- What a call that ended did to mirrored stores. -/
structure CallEffect (k : LedgerCall) (s : StoreState) (r : Except Exc Unit) (s' : StoreState) :
    Prop where
  mirrored : Mirrored s'
  raised : ∀ call e, k = .fsm call → r = .error e → s' = s
  absorbing : ∀ proposalId x, s.status? proposalId = some x → x.terminal = true →
    s'.status? proposalId = some x ∧ rowsOf proposalId s' = rowsOf proposalId s
  licensed : ∀ row ∈ s'.ledger, AutoConfirmed row → row ∈ s.ledger ∨ k = autoConfirm row

/-- A call that changed nothing. -/
theorem CallEffect.refuse {k : LedgerCall} {e : Exc} (h : Mirrored s) :
    CallEffect k s (.error e) s where
  mirrored := h
  raised := fun _ _ _ _ => rfl
  absorbing := fun _ _ hx _ => ⟨hx, rfl⟩
  licensed := fun _ hrow _ => .inl hrow

/-- A call that made a transition. -/
theorem CallEffect.of_moves {k : LedgerCall} {x : ProposalStatus} {rows : List AuditEvent}
    (h : Mirrored s) (hm : Moves proposalId s s' x rows)
    (hrows : ∀ row ∈ rows, AutoConfirmed row → k = autoConfirm row) :
    CallEffect k s (.ok ()) s' where
  mirrored := h.moves hm
  raised := fun _ _ _ h => by cases h
  absorbing := fun _ _ hx hterm => hm.absorbing hx hterm
  licensed := fun row hrow hauto => by
    rw [hm.ledger] at hrow
    exact (List.mem_append.mp hrow).imp_right fun hrow => hrows row hrow hauto

theorem CallEffect.of_end {k : LedgerCall} {r : Except Exc ProposalStatus} (h : Mirrored s)
    (hend : CallEnd proposalId s r s') : CallEffect k s (r.map fun _ => ()) s' := by
  cases r with
  | error e =>
      rw [hend.raised e rfl]
      exact .refuse h
  | ok x =>
      obtain ⟨rows, hm, hnone⟩ := hend.returned x rfl
      exact .of_moves h hm fun row hrow hauto => absurd hauto.1 (hnone row hrow)

theorem Actor.value_injective {a b : Actor} (h : str a.value = str b.value) : a = b := by
  cases a <;> cases b <;> first | rfl | exact absurd h (by decide)

/-- **The effect of a call.** -/
theorem call_effect {k : LedgerCall} {τ : List StoreEvent} {r : Except Exc Unit}
    (hs : Mirrored s) (h : Exec reliableStores k.run s τ (.done r) s') : CallEffect k s r s' := by
  -- the result of a call is thrown away
  have hdrop {α : Type} {p : Proc StoreSig Exc α} {Q : Except Exc α → StoreState → Prop}
      (hp : p.sat reliableStores (fun _ _ => True) (fun r _ s' => Q r s') [] s)
      (hQ : ∀ r s', Q r s' → CallEffect k s (r.map fun _ => ()) s') :
      (do let _ ← p; pure () : Proc StoreSig Exc Unit).sat reliableStores (fun _ _ => True)
        (fun r _ s' => CallEffect k s r s') [] s := by
    rw [sat_bind]
    refine sat_mono hp fun r _ s' hr => ?_
    cases r <;> exact hQ _ s' hr
  refine h.post (Q := fun r _ s' => CallEffect k s r s') (J := fun _ _ => True) ?_
  cases k with
  | create proposalId payloadDigest expiresAt createdAt idempotencyKey =>
      refine hdrop (create_ends _) fun r s' hc => ?_
      refine ⟨hs.create rfl hc, ?_, fun _ _ hx _ => hc.absorbing hx, fun row hrow _ => ?_⟩
      · intro call e h
        cases h
      · exact .inl (hc.ledger ▸ hrow)
  | fsm call =>
      cases call with
      | confirm switchMode proposalId actor now agentReachable =>
          refine sat_mono (confirm_ends switchMode actor now agentReachable)
            fun r _ s' hend => ?_
          rcases r with e | ⟨⟩
          · rw [hend.raised e rfl]
            exact .refuse hs
          · obtain ⟨row, hm, hat, houtcome, hlicence⟩ := hend.returned rfl
            refine .of_moves hs hm fun row' hrow' hauto => ?_
            obtain rfl := List.mem_singleton.mp hrow'
            have hactor := Actor.value_injective
              (Option.some.inj (houtcome.symm.trans hauto.2))
            obtain ⟨hmode, hreach⟩ := hlicence hactor
            rw [autoConfirm, hm.named row' hrow', hat, hactor, hmode, hreach]
      | dispatch proposalId now =>
          exact hdrop (dispatch_ends now) fun r s' hend => .of_end hs hend
      | expire proposalId now =>
          exact hdrop (expire_ends now fun p hp => hs.expires p hp) fun r s' hend =>
            .of_end hs hend

end Sessions

/-- Nothing was created yet. -/
def emptyStores : StoreState := ⟨fun _ => none, [], []⟩

theorem mirrored_empty : Mirrored emptyStores := fun _ => .inr ⟨rfl, rfl⟩

abbrev LedgerSession :=
  Session reliableStores LedgerCall.run (fun k => Ends k.outcome) emptyStores

theorem LedgerSession.mirrored {calls : List (Call StoreSig Exc Unit LedgerCall)}
    {s : StoreState} (h : LedgerSession calls s) : Mirrored s := by
  refine h.invariant mirrored_empty fun s k τ out s' hs hexec hends => ?_
  obtain ⟨r, rfl⟩ := hends
  exact (call_effect hs hexec).mirrored

theorem LedgerSession.licensed {calls : List (Call StoreSig Exc Unit LedgerCall)}
    {s : StoreState} (h : LedgerSession calls s) :
    ∀ row ∈ s.ledger, AutoConfirmed row → ∃ k ∈ calls, k.key = autoConfirm row := by
  induction h with
  | start => exact fun row hrow => absurd hrow List.not_mem_nil
  | call hsession hexec hends ih =>
      obtain ⟨r, rfl⟩ := hends
      intro row hrow hauto
      rcases (call_effect (LedgerSession.mirrored hsession) hexec).licensed row hrow hauto with
        hrow | hk
      · obtain ⟨k, hk, hkey⟩ := ih row hrow hauto
        exact ⟨k, List.mem_append_left _ hk, hkey⟩
      · exact ⟨_, List.mem_append_right _ List.mem_cons_self, hk⟩

/-- **The audit ledger replays to the proposal state.** After every run of calls on stores that
do not fail, the rows of each proposal are those of a life that ends in its stored status, and
folding them gives that status. Whatever is called next leaves settled proposals as they are,
and changes nothing if it is a call of the state machine that raises. A confirmation by the
auto path was made in auto mode for an agent known to be unreachable. -/
theorem session_replays {calls : List (Call StoreSig Exc Unit LedgerCall)} {s : StoreState}
    (h : LedgerSession calls s) :
    (∀ proposalId p, s.proposal? proposalId = some p →
      Life (typesOf proposalId s) p.status ∧ replay (typesOf proposalId s) = some p.status) ∧
    (∀ k τ r s', Exec reliableStores (LedgerCall.run k) s τ (.done r) s' →
      (∀ proposalId x, s.status? proposalId = some x → x.terminal = true →
        s'.status? proposalId = some x ∧ rowsOf proposalId s' = rowsOf proposalId s) ∧
      (∀ call e, k = .fsm call → r = .error e → s' = s)) ∧
    ∀ row ∈ s.ledger, AutoConfirmed row → ∃ k ∈ calls, k.key = autoConfirm row := by
  have hs := LedgerSession.mirrored h
  refine ⟨fun proposalId p hp => ?_, fun k τ r s' hexec => ?_, LedgerSession.licensed h⟩
  · have hlife := (hs.life hp).2
    exact ⟨hlife, hlife.replay⟩
  · have heffect := call_effect hs hexec
    exact ⟨heffect.absorbing, heffect.raised⟩

/-- A proposal that is confirmed and sent. -/
def sentScript : List (LedgerCall × (StoreState → (o : StoreOp) → Except Exc o.Ret × StoreState)) :=
  [.create (str "p1") (str "d1") 10 0 none,
    .fsm (.confirm .autoSendWhenAgentUnreachable (str "p1") .autoUnreachable 1 (some false)),
    .fsm (.dispatch (str "p1") 2)].map fun k =>
      (k, StoreState.perform 1 (.ok { kind := .accepted }))

theorem session_replays_sent :
    replay (typesOf (str "p1") (scripted LedgerCall.run 12 sentScript emptyStores).2) =
      some .sent := by
  have hsession : Session reliableStores LedgerCall.run anyCall emptyStores
      ([] ++ (scripted LedgerCall.run 12 sentScript emptyStores).1)
      (scripted LedgerCall.run 12 sentScript emptyStores).2 := by
    refine scripted_session (fun x hx s o => ?_) .start
    obtain ⟨k, -, rfl⟩ := List.mem_map.mp hx
    exact s.perform_env _ 1 _ o
  have hended : ∀ k ∈ (scripted LedgerCall.run 12 sentScript emptyStores).1, Ends k.outcome := by
    decide +kernel
  have hsent : ((scripted LedgerCall.run 12 sentScript emptyStores).2.proposal?
      (str "p1")).map (·.status) = some .sent := by decide +kernel
  obtain ⟨p, hp, hstatus⟩ := Option.map_eq_some_iff.mp hsent
  have h := (session_replays (hsession.of_forall (by simpa using hended))).1 (str "p1") p hp
  rw [h.2, hstatus]

end Replay

end GmailGateway
