import GmailGateway.Canonicalizer.Payload
import GmailGateway.SendFsm.Fsm
import GmailGateway.Effect.Implement

/-!
# GmailGateway.Gateway.ProposalService

The proposal endpoint's logic (`gateway/proposal_api.py`, `ProposalService`) with the
projection it runs (`actionset/prepare.py`), and the sender that reads the payloads back
(`gateway/gmail_sender.py`).

Proposals and payloads are two stores: `propose` freezes a payload in one, creates a record in
the other, and withdraws both when it lost its idempotency key to another call. Each operation
on either store is a separate step, so calls interleave between them.
-/

namespace GmailGateway

open Effect Proc Python

/-! ### The injected collaborators -/

/-- Operations of the two stores, the factories and the mail client. -/
inductive GatewayOp
  /-- On the proposal store, the ledger or the clock. -/
  | store (storeOp : StoreOp)
  | payloadGet (key : PyStr)
  | payloadPut (key : PyStr) (canonical : Dict)
  | payloadDelete (key : PyStr)
  | newProposalId
  | newMessageId
  /-- Render a payload and post it to Gmail. -/
  | deliver (canonical : Dict)

/-- The answers of stores, payloads, factories and mail client. -/
abbrev GatewayOp.Ret : GatewayOp → Type
  | .store storeOp => storeOp.Ret
  | .payloadGet _ => Option Dict
  | .payloadPut _ _ => Unit
  | .payloadDelete _ => Unit
  | .newProposalId => PyStr
  | .newMessageId => PyVal
  | .deliver _ => SendResult

/-- Everything the gateway works on. -/
abbrev GatewaySig : Signature := ⟨GatewayOp, GatewayOp.Ret⟩

/-- An operation with its answer. -/
abbrev GatewayEvent := Event GatewaySig Exc

/-- What the stores hold. -/
structure GatewayState where
  store : StoreState
  payloads : PyStr → Option Dict

/-- Nothing was proposed yet. -/
def GatewayState.empty : GatewayState := ⟨⟨fun _ => none, [], []⟩, fun _ => none⟩

/-- The collaborators, each operation atomic. Any operation may raise anything, and then has no
effect. What a factory or the mail client answers is unconstrained. -/
def gatewayEnv : Env GatewaySig Exc GatewayState
  | s, .store o, r, s' => ∃ t, faultyStores s.store o r t ∧ s' = { s with store := t }
  | s, .payloadGet key, .ok v, s' => v = s.payloads key ∧ s' = s
  | s, .payloadPut key canonical, .ok _, s' =>
      s' = { s with payloads := Function.update s.payloads key (some canonical) }
  | s, .payloadDelete key, .ok _, s' =>
      s' = { s with payloads := Function.update s.payloads key none }
  | s, .newProposalId, .ok _, s' => s' = s
  | s, .newMessageId, .ok _, s' => s' = s
  | s, .deliver _, .ok _, s' => s' = s
  | s, _, .error _, s' => s' = s

/-- `payloads.get`. -/
abbrev Payloads.get (key : PyStr) : Proc GatewaySig Exc (Option Dict) :=
  .perform (S := GatewaySig) (.payloadGet key)

/-- `payloads.put`. -/
abbrev Payloads.put (key : PyStr) (canonical : Dict) : Proc GatewaySig Exc Unit :=
  .perform (S := GatewaySig) (.payloadPut key canonical)

/-- `payloads.delete`. -/
abbrev Payloads.delete (key : PyStr) : Proc GatewaySig Exc Unit :=
  .perform (S := GatewaySig) (.payloadDelete key)

/-- Mint the id of a proposal. -/
abbrev proposalIdFactory : Proc GatewaySig Exc PyStr := .perform (S := GatewaySig) .newProposalId

/-- Mint a Message-ID. -/
abbrev messageIdFactory : Proc GatewaySig Exc PyVal := .perform (S := GatewaySig) .newMessageId

/-- An operation on the proposal store. -/
abbrev storePerform (storeOp : StoreOp) : Proc GatewaySig Exc storeOp.Ret :=
  .perform (S := GatewaySig) (.store storeOp)

/-- A method of `ProposalStore`, on the proposal store. -/
abbrev onStore {α : Type} (p : Proc StoreSig Exc α) : Proc GatewaySig Exc α :=
  p.implement storePerform

/-! ### `actionset/prepare.py` -/

/-- What the agent gets back: identifiers only. -/
structure PrepareEmailResult where
  proposalId : PyStr
  payloadDigest : PyStr
  expiresAt : Int
  deriving DecidableEq

/-- `prepare_email`: project a `PrepareEmail` action into a proposal result. -/
def prepareEmail (P : Platform) {S : Signature} (params : PyVal) (now ttlSeconds : Int)
    (proposalIdFactory : Proc S Exc PyStr) (messageId : PyVal) :
    Proc S Exc PrepareEmailResult := do
  -- Integers are typed here, so only the signs are left to check.
  raiseIf (now < 0) .valueError
  raiseIf (ttlSeconds ≤ 0) .valueError
  let canonical ← embed (buildCanonicalPayload params messageId)
  embed (enforceV1SendPolicy (.dict canonical))
  let proposalId ← proposalIdFactory
  let payloadDigest ← embed (digest P (.dict canonical))
  pure { proposalId, payloadDigest, expiresAt := now + ttlSeconds }

/-! ### `ProposalService` -/

/-- What a `ProposalService` is constructed with, apart from its collaborators. -/
structure ProposalServiceConfig where
  ttlSeconds : Int
  /-- Whether it has a `message_id_factory`. -/
  mintsMessageId : Bool
  requireMessageId : Bool

namespace ProposalService

/-- `_identifiers` of a stored proposal. -/
def identifiers (p : Proposal) : PrepareEmailResult :=
  { proposalId := p.proposalId, payloadDigest := p.payloadDigest, expiresAt := p.expiresAt }

/-- `params.get("idempotency_key")`: `None` or a string. -/
def idempotencyKey (params : Dict) : Except Exc (Option PyStr) :=
  match params.get (str "idempotency_key") with
  | .none => pure none
  | .str key => pure (some key)
  | _ => throw (payloadSchemaError "idempotency_key must be a string")

/-- An existing proposal for the key. -/
def replay : Option PyStr → Proc GatewaySig Exc (Option Proposal)
  | none => pure none
  | some key => onStore (ProposalStore.findByIdempotency key)

/-- The `except DuplicateIdempotencyError` clause: the winner stands, and the payload that was
frozen under the losing id is dropped. -/
def lostRace (key : Option PyStr) (proposalId : PyStr) :
    Exc → Proc GatewaySig Exc PrepareEmailResult
  | .duplicateIdempotency message => do
      Payloads.delete proposalId
      match key with
      | none => throw .typeError
      | some key =>
          match ← onStore (ProposalStore.findByIdempotency key) with
          | some existing => pure (identifiers existing)
          | none => throw (.duplicateIdempotency message)
  | e => throw e

/-- Freeze the payload and create the proposal. -/
def record (key : Option PyStr) (now : Int) (canonical : Dict) (result : PrepareEmailResult) :
    Proc GatewaySig Exc PrepareEmailResult := do
  -- Content first: a proposal is never live without the bytes it commits to.
  Payloads.put result.proposalId canonical
  tryCatch
    (do
      let _ ← onStore (ProposalStore.create
        { proposalId := result.proposalId, payloadDigest := result.payloadDigest,
          expiresAt := result.expiresAt, createdAt := now, status := .pending,
          idempotencyKey := key })
      pure result)
    (lostRace key result.proposalId)

section
variable (P : Platform) (cfg : ProposalServiceConfig)

/-- The Message-ID, minted once before either digest. -/
def mintMessageId : Proc GatewaySig Exc PyVal :=
  if cfg.mintsMessageId then messageIdFactory else pure .none

/-- A new proposal for the key. -/
def proposeNew (params : Dict) (key : Option PyStr) : Proc GatewaySig Exc PrepareEmailResult := do
  let now ← storePerform .now
  let messageId ← mintMessageId cfg
  raiseIf (cfg.requireMessageId = true ∧ messageId.truthy = false)
    (.messageIdNotConfigured "message_id factory yielded no id")
  let result ← prepareEmail P (.dict params) now cfg.ttlSeconds proposalIdFactory messageId
  let canonical ← embed (buildCanonicalPayload (.dict params) messageId)
  let fresh ← embed (digest P (.dict canonical))
  raiseIf (fresh ≠ result.payloadDigest) (payloadSchemaError "payload digest mismatch")
  record key now canonical result

/-- Create a pending proposal from a closed `PrepareEmail` action. -/
def propose (params : Dict) : Proc GatewaySig Exc PrepareEmailResult := do
  raiseIf (cfg.requireMessageId = true ∧ cfg.mintsMessageId = false)
    (.messageIdNotConfigured "message_id is required but no factory/domain is configured")
  let key ← embed (idempotencyKey params)
  match ← replay key with
  | some existing => pure (identifiers existing)
  | none => proposeNew P cfg params key

end

/-- The frozen canonical payload of a proposal. -/
def loadPayload (proposalId : PyStr) : Proc GatewaySig Exc Dict := do
  match ← Payloads.get proposalId with
  | none => throw (.proposalNotFound proposalId)
  | some raw => pure raw

end ProposalService

/-! ### The send path -/

/-- `GmailSender.__call__`, with `load_payload` as its payload provider. -/
def GmailSender.call (proposalId : PyStr) : Proc GatewaySig Exc SendResult := do
  let canonical ← ProposalService.loadPayload proposalId
  match enforceV1SendPolicy (.dict canonical) with
  | .ok () => .perform (S := GatewaySig) (.deliver canonical)
  | .error .attachmentsNotSupported | .error (.payloadSchema _ _) =>
      pure { kind := .rejected, errorCode := str "policy_blocked" }
  | .error e => throw e

/-- The sender is `GmailSender`; everything else is on the proposal store. -/
def sendPath : (o : StoreOp) → Proc GatewaySig Exc o.Ret
  | .send proposalId => GmailSender.call proposalId
  | o => storePerform o

/-! The operations of the stores, implemented. -/

section Implemented
variable (f : (o : StoreOp) → Proc GatewaySig Exc o.Ret)

@[simp] theorem implement_kvGet (key : PyStr) :
    (KVBackend.get key).implement f = f (.get key) := implement_perform _

@[simp] theorem implement_kvPut (key : PyStr) (value : KvValue) :
    (KVBackend.put key value).implement f = f (.put key value) := implement_perform _

@[simp] theorem implement_kvClaim (key : PyStr) (value : KvValue) :
    (KVBackend.claim key value).implement f = f (.claim key value) := implement_perform _

@[simp] theorem implement_kvDelete (key : PyStr) :
    (KVBackend.delete key).implement f = f (.delete key) := implement_perform _

@[simp] theorem implement_append (event : AuditEvent) :
    (AppendLog.append event).implement f = f (.append event) := implement_perform _

@[simp] theorem implement_sender (proposalId : PyStr) :
    (sender proposalId).implement f = f (.send proposalId) := implement_perform _

@[simp] theorem sendPath_get (key : PyStr) : sendPath (.get key) = storePerform (.get key) := rfl

@[simp] theorem sendPath_put (key : PyStr) (value : KvValue) :
    sendPath (.put key value) = storePerform (.put key value) := rfl

@[simp] theorem sendPath_append (event : AuditEvent) :
    sendPath (.append event) = storePerform (.append event) := rfl

@[simp] theorem sendPath_send (proposalId : PyStr) :
    sendPath (.send proposalId) = GmailSender.call proposalId := rfl

end Implemented

/-- The calls of the gateway. -/
inductive GatewayCall
  | propose (params : Dict)
  | confirm (switchMode : SwitchMode) (proposalId : PyStr) (actor : Actor) (now : Int)
      (agentReachable : Option Bool)
  | dispatch (proposalId : PyStr) (now : Int)
  | expire (proposalId : PyStr) (now : Int)

/-- What a call returned. -/
inductive GatewayResult
  | proposed (result : PrepareEmailResult)
  | confirmed
  | settled (status : ProposalStatus)

/-- Make a call. -/
def GatewayCall.run (P : Platform) (cfg : ProposalServiceConfig) :
    GatewayCall → Proc GatewaySig Exc GatewayResult
  | .propose params => .proposed <$> ProposalService.propose P cfg params
  | .confirm switchMode proposalId actor now agentReachable =>
      (fun _ => .confirmed) <$>
        (SendFsm.confirm switchMode proposalId actor now agentReachable).implement sendPath
  | .dispatch proposalId now => .settled <$> (SendFsm.dispatch proposalId now).implement sendPath
  | .expire proposalId now => .settled <$> (SendFsm.expire proposalId now).implement sendPath

end GmailGateway
