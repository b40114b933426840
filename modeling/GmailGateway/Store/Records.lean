import GmailGateway.Effect.Proc
import GmailGateway.Errors

/-!
# GmailGateway.Store.Records

The data of the `store` package and the seams it is written against: proposal
records (`store/proposals.py`), audit events (`store/ledger.py`), the sender's
result (`sendfsm/fsm.py`) and the operations of the injected collaborators
(`store/backend.py`: `KVBackend` and `AppendLog`; the FSM's `sender`; the clock).

A KV row holds one of two record shapes in one keyspace: a proposal dict under its
`proposal_id`, or an idempotency index entry under `"idem:" + key`.
-/

namespace GmailGateway

open Effect Python

/-! ### Proposals -/

/-- `ProposalStatus`. -/
inductive ProposalStatus
  | pending
  | confirmed
  | sent
  | failed
  | outcomeUnknown
  deriving DecidableEq, Repr

namespace ProposalStatus

/-- The string value of the enumeration, which is what a row holds. -/
def value : ProposalStatus → String
  | pending => "pending"
  | confirmed => "confirmed"
  | sent => "sent"
  | failed => "failed"
  | outcomeUnknown => "outcome_unknown"

/-- `ProposalStatus(s)`; `none` where the enum raises `ValueError`. -/
def ofValue? : String → Option ProposalStatus
  | "pending" => some pending
  | "confirmed" => some confirmed
  | "sent" => some sent
  | "failed" => some failed
  | "outcome_unknown" => some outcomeUnknown
  | _ => none

/-- `_TERMINAL`: settled, no longer expiring. -/
def terminal : ProposalStatus → Bool
  | sent | failed | outcomeUnknown => true
  | pending | confirmed => false

@[simp] theorem ofValue?_value (s : ProposalStatus) : ofValue? s.value = some s := by
  cases s <;> rfl

end ProposalStatus

/-- `Proposal`: the record, without the payload. -/
structure Proposal where
  proposalId : PyStr
  payloadDigest : PyStr
  expiresAt : Int
  createdAt : Int
  status : ProposalStatus := .pending
  idempotencyKey : Option PyStr := none
  deriving DecidableEq

/-- `replace(p, status=status)`. -/
def Proposal.withStatus (p : Proposal) (status : ProposalStatus) : Proposal :=
  { p with status := status }

@[simp] theorem Proposal.withStatus_status (p : Proposal) (status : ProposalStatus) :
    (p.withStatus status).status = status := rfl

/-- What a KV row holds. -/
inductive KvValue
  /-- `Proposal.to_dict()`: the status is its string value. -/
  | proposal (proposalId payloadDigest : PyStr) (expiresAt createdAt : Int) (status : String)
      (idempotencyKey : Option PyStr)
  /-- `{"proposal_id": proposal_id}`, an idempotency index entry. -/
  | index (proposalId : PyStr)
  deriving DecidableEq

/-- `row["proposal_id"]`, which both shapes carry. -/
def KvValue.proposalId : KvValue → PyStr
  | .proposal proposalId _ _ _ _ _ => proposalId
  | .index proposalId => proposalId

/-- `Proposal.to_dict`. -/
def Proposal.toDict (p : Proposal) : KvValue :=
  .proposal p.proposalId p.payloadDigest p.expiresAt p.createdAt p.status.value p.idempotencyKey

/-- `Proposal.from_dict`: a missing field (`KeyError`) and an unknown status
(`ValueError`) are both a malformed record. -/
def Proposal.fromDict : KvValue → Except Exc Proposal
  | .proposal proposalId payloadDigest expiresAt createdAt status idempotencyKey =>
      match ProposalStatus.ofValue? status with
      | some status =>
          .ok { proposalId, payloadDigest, expiresAt, createdAt, status, idempotencyKey }
      | none => .error (.proposalState "malformed proposal record: %s")
  | .index _ => .error (.proposalState "malformed proposal record: %s")

@[simp] theorem Proposal.fromDict_toDict (p : Proposal) : fromDict p.toDict = .ok p := by
  simp [fromDict, toDict]

theorem Proposal.toDict_injective {p q : Proposal} (h : p.toDict = q.toDict) : p = q := by
  have hdict := congrArg fromDict h
  rw [fromDict_toDict, fromDict_toDict] at hdict
  exact Except.ok.inj hdict

/-! ### Audit events -/

/-- `AuditEventType`. -/
inductive AuditEventType
  | proposalCreated
  | proposalConfirmed
  | proposalExpired
  | sendAttempted
  | sendSucceeded
  | sendFailed
  | outcomeUnknown
  deriving DecidableEq, Repr

/-- One ledger row: a closed schema of ids, hashes, hosts and codes. -/
structure AuditEvent where
  eventType : AuditEventType
  at_ : Int
  proposalId : PyStr
  payloadDigest : Option PyStr := none
  outcome : Option PyStr := none
  errorCode : Option PyStr := none
  messageIdSha256 : Option PyStr := none
  threadIdSha256 : Option PyStr := none
  egressHosts : List PyStr := []
  deriving DecidableEq

/-! ### The sender's result -/

/-- `SendResultKind`: what the provider made of the message, as far as the sender can tell. -/
inductive SendResultKind
  | accepted
  | rejected
  | indeterminate
  deriving DecidableEq, Repr

/-- `SendResult`: hashes of the ids that were given, never the ids. -/
structure SendResult where
  kind : SendResultKind
  messageIdSha256 : Option PyStr := none
  threadIdSha256 : Option PyStr := none
  errorCode : Option PyStr := none
  egressHosts : List PyStr := []
  deriving DecidableEq

/-! ### The injected collaborators -/

/-- Operations of the KV backend, the audit log, the sender and the clock. -/
inductive StoreOp
  | get (key : PyStr)
  | put (key : PyStr) (value : KvValue)
  /-- Atomic put-if-absent; answers whether this caller won. -/
  | claim (key : PyStr) (value : KvValue)
  | delete (key : PyStr)
  | append (event : AuditEvent)
  | send (proposalId : PyStr)
  | now

/-- What each operation answers. -/
abbrev StoreOp.Ret : StoreOp → Type
  | .get _ => Option KvValue
  | .put _ _ => Unit
  | .claim _ _ => Bool
  | .delete _ => Unit
  | .append _ => Unit
  | .send _ => SendResult
  | .now => Int

/-- The operations that the store logic and the state machine perform. -/
abbrev StoreSig : Signature := ⟨StoreOp, StoreOp.Ret⟩

/-! `KVBackend`, `AppendLog`, the `sender` and the clock, as calls. -/

/-- `KVBackend.get`. -/
abbrev KVBackend.get (key : PyStr) : Proc StoreSig Exc (Option KvValue) :=
  .perform (S := StoreSig) (.get key)

/-- `KVBackend.put`: unconditional. -/
abbrev KVBackend.put (key : PyStr) (value : KvValue) : Proc StoreSig Exc Unit :=
  .perform (S := StoreSig) (.put key value)

/-- `KVBackend.claim`: write if the key is free, as one atomic operation; whether it was. -/
abbrev KVBackend.claim (key : PyStr) (value : KvValue) : Proc StoreSig Exc Bool :=
  .perform (S := StoreSig) (.claim key value)

/-- `KVBackend.delete`. -/
abbrev KVBackend.delete (key : PyStr) : Proc StoreSig Exc Unit :=
  .perform (S := StoreSig) (.delete key)

/-- `AppendLog.append`. -/
abbrev AppendLog.append (event : AuditEvent) : Proc StoreSig Exc Unit :=
  .perform (S := StoreSig) (.append event)

/-- Invoke the sender of the state machine. -/
abbrev sender (proposalId : PyStr) : Proc StoreSig Exc SendResult :=
  .perform (S := StoreSig) (.send proposalId)

/-- Read the clock. -/
abbrev clockNow : Proc StoreSig Exc Int := .perform (S := StoreSig) .now

/-- What the store, the ledger and the provider hold: the KV rows, the audit rows
and the proposals the sender was invoked for, oldest first. -/
structure StoreState where
  kv : PyStr → Option KvValue
  ledger : List AuditEvent
  sends : List PyStr

/-- The collaborators, each operation atomic. An operation in `mayRaise` may raise
anything instead, and then has no effect; the sender may always raise, and then
it was still invoked. Clock readings and send results are unconstrained. -/
def storeEnv (mayRaise : StoreOp → Prop) : Env StoreSig Exc StoreState
  | s, .get key, .ok v, s' => v = s.kv key ∧ s' = s
  | s, .put key v, .ok _, s' => s' = { s with kv := Function.update s.kv key (some v) }
  | s, .claim key v, .ok won, s' => won = (s.kv key).isNone ∧
      s' = if won then { s with kv := Function.update s.kv key (some v) } else s
  | s, .delete key, .ok _, s' => s' = { s with kv := Function.update s.kv key none }
  | s, .append e, .ok _, s' => s' = { s with ledger := s.ledger ++ [e] }
  | s, .send proposalId, _, s' => s' = { s with sends := s.sends ++ [proposalId] }
  | s, .now, .ok _, s' => s' = s
  | s, o, .error _, s' => mayRaise o ∧ s' = s

/-- An operation with its answer. -/
abbrev StoreEvent := Event StoreSig Exc

/-- Stores whose operations are atomic; any of them may fail without an effect. -/
abbrev faultyStores : Env StoreSig Exc StoreState := storeEnv fun _ => True

/-- Collaborators that never fail and answer every clock reading with `now` and every
send with `result`. -/
def StoreState.perform (now : Int) (result : Except Exc SendResult) (s : StoreState) :
    (o : StoreOp) → Except Exc o.Ret × StoreState
  | .get key => (.ok (s.kv key), s)
  | .put key v => (.ok (), { s with kv := Function.update s.kv key (some v) })
  | .claim key v => (.ok (s.kv key).isNone,
      if (s.kv key).isNone then { s with kv := Function.update s.kv key (some v) } else s)
  | .delete key => (.ok (), { s with kv := Function.update s.kv key none })
  | .append e => (.ok (), { s with ledger := s.ledger ++ [e] })
  | .send proposalId => (result, { s with sends := s.sends ++ [proposalId] })
  | .now => (.ok now, s)

theorem StoreState.perform_env (mayRaise : StoreOp → Prop) (now : Int)
    (result : Except Exc SendResult) (s : StoreState) (o : StoreOp) :
    storeEnv mayRaise s o (s.perform now result o).1 (s.perform now result o).2 := by
  cases o with
  | send proposalId => cases result <;> rfl
  | _ => simp [perform, storeEnv]

/-- Stores that hold one proposal. -/
def StoreState.holding (p : Proposal) : StoreState where
  kv := Function.update (fun _ => none) p.proposalId (some p.toDict)
  ledger := []
  sends := []

/-- The decoded proposal stored under `key`, if a well-formed one is. -/
def StoreState.proposal? (s : StoreState) (key : PyStr) : Option Proposal :=
  (s.kv key).bind fun v => (Proposal.fromDict v).toOption

/-- The stored status of a proposal. -/
def StoreState.status? (s : StoreState) (key : PyStr) : Option ProposalStatus :=
  (s.proposal? key).map (·.status)

theorem StoreState.status?_congr {s s' : StoreState} {key : PyStr} (h : s'.kv key = s.kv key) :
    s'.status? key = s.status? key := by
  rw [status?, status?, proposal?, proposal?, h]

@[simp] theorem StoreState.status?_put (s : StoreState) (key : PyStr) (p : Proposal) :
    ({ s with kv := Function.update s.kv key (some p.toDict) } : StoreState).status? key =
      some p.status := by
  simp [status?, proposal?, Except.toOption]

end GmailGateway
