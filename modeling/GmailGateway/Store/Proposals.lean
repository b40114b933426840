import GmailGateway.Store.Records
import GmailGateway.Effect.Session

/-!
# GmailGateway.Store.Proposals

`ProposalStore` (`store/proposals.py`) and `AuditLedger.record` (`store/ledger.py`),
statement by statement over the injected backend operations. `set_status` is a
read and a later write, and `create` writes the record before it claims the
idempotency key: each backend operation is a separate step of the procedure.
-/

namespace GmailGateway

open Effect Proc Python

variable {σ : Type}

/-- `_validate_ts`: integers are typed here, so only the sign is left to check. -/
def validateTs (name : String) (value : Int) : Proc StoreSig Exc Unit :=
  raiseIf (value < 0) (.proposalState (name ++ " must be a non-negative int"))

namespace ProposalStore

/-- `_idem_index_key`. -/
def idemIndexKey (idempotencyKey : PyStr) : PyStr := str "idem:" ++ idempotencyKey

theorem idemIndexKey_injective {k k' : PyStr} (h : idemIndexKey k = idemIndexKey k') : k = k' :=
  List.append_cancel_left h

/-- `ProposalStore.create`: the record first, then the index of its idempotency key. -/
def create (proposal : Proposal) : Proc StoreSig Exc Proposal := do
  validateTs "expires_at" proposal.expiresAt
  validateTs "created_at" proposal.createdAt
  raiseIf (proposal.expiresAt ≤ proposal.createdAt)
    (.proposalState "expires_at must be after created_at")
  let existing ← KVBackend.get proposal.proposalId
  raiseIf (existing ≠ none) (.proposalState "proposal_id already exists")
  KVBackend.put proposal.proposalId proposal.toDict
  match proposal.idempotencyKey with
  | none => pure proposal
  | some key =>
      let won ← KVBackend.claim (idemIndexKey key) (.index proposal.proposalId)
      if won then
        pure proposal
      else
        -- Lost the claim: roll back the record just written, then signal the caller.
        KVBackend.delete proposal.proposalId
        throw (.duplicateIdempotency "idempotency key already has a proposal")

/-- `ProposalStore.get`. -/
def get (proposalId : PyStr) : Proc StoreSig Exc Proposal := do
  match ← KVBackend.get proposalId with
  | none => throw (.proposalNotFound proposalId)
  | some raw => embed (Proposal.fromDict raw)

/-- `ProposalStore.find_by_idempotency`. -/
def findByIdempotency (idempotencyKey : PyStr) : Proc StoreSig Exc (Option Proposal) := do
  match ← KVBackend.get (idemIndexKey idempotencyKey) with
  | none => pure none
  -- Both record shapes carry a `proposal_id`.
  | some (.index proposalId) | some (.proposal proposalId _ _ _ _ _) =>
      some <$> get proposalId

/-- Live: not settled and not past expiry. Terminal states never expire. -/
def isLive (proposal : Proposal) (now : Int) : Proc StoreSig Exc Bool := do
  validateTs "now" now
  pure (proposal.status.terminal || now < proposal.expiresAt)

/-- Fetch a proposal, refusing a pending one that has expired. -/
def getLive (proposalId : PyStr) (now : Int) : Proc StoreSig Exc Proposal := do
  let p ← get proposalId
  let live ← isLive p now
  raiseIf (live = false) (.proposalExpired proposalId)
  pure p

/-- `ProposalStore.set_status`: a reading and a writing, without a test between them. -/
def setStatus (proposalId : PyStr) (status : ProposalStatus) : Proc StoreSig Exc Proposal := do
  let p ← get proposalId
  let updated := p.withStatus status
  KVBackend.put proposalId updated.toDict
  pure updated

end ProposalStore

/-! ### What the store methods do

One equation for each method, in any surroundings: the backend operations it
performs and the result it makes of their answers. Callers are verified with
these and never unfold a method. -/

section Specs

variable {W : Env StoreSig Exc σ} {J : List (Event StoreSig Exc) → σ → Prop}
  {τ : List (Event StoreSig Exc)} {s : σ}

@[simp] theorem sat_validateTs (name : String) (value : Int)
    {Q : Except Exc Unit → List (Event StoreSig Exc) → σ → Prop} :
    (validateTs name value).sat W J Q τ s ↔
      (value < 0 → Q (.error (.proposalState (name ++ " must be a non-negative int"))) τ s) ∧
        (0 ≤ value → Q (.ok ()) τ s) := by
  simp only [validateTs, sat_raiseIf, not_lt]

namespace ProposalStore

/-- What `get` makes of the backend's answer. -/
def decode (proposalId : PyStr) : Except Exc (Option KvValue) → Except Exc Proposal
  | .ok none => .error (.proposalNotFound proposalId)
  | .ok (some raw) => Proposal.fromDict raw
  | .error e => .error e

@[simp] theorem sat_get (proposalId : PyStr)
    {Q : Except Exc Proposal → List (Event StoreSig Exc) → σ → Prop} :
    (get proposalId).sat W J Q τ s ↔ ∀ r s', W s (.get proposalId) r s' →
      J (τ ++ [⟨.get proposalId, r⟩]) s' ∧
        Q (decode proposalId r) (τ ++ [⟨.get proposalId, r⟩]) s' := by
  simp only [get, sat_bind, perform, sat_op, sat_embed]
  refine forall₃_congr fun r s' _ => and_congr_right fun _ => ?_
  rcases r with e | _ | raw <;> simp [decode]

/-- `get_live` reads once; the status and the expiry are tested on what it read. -/
@[simp] theorem sat_getLive (proposalId : PyStr) (now : Int)
    {Q : Except Exc Proposal → List (Event StoreSig Exc) → σ → Prop} :
    (getLive proposalId now).sat W J Q τ s ↔ ∀ r s', W s (.get proposalId) r s' →
      J (τ ++ [⟨.get proposalId, r⟩]) s' ∧
        andThen (fun p τ' s' =>
          (now < 0 → Q (.error (.proposalState "now must be a non-negative int")) τ' s') ∧
          (0 ≤ now → ((p.status.terminal || now < p.expiresAt) = false →
              Q (.error (.proposalExpired proposalId)) τ' s') ∧
            ((p.status.terminal || now < p.expiresAt) = true → Q (.ok p) τ' s')))
          (fun e => Q (.error e)) (decode proposalId r) (τ ++ [⟨.get proposalId, r⟩]) s' := by
  simp only [getLive, isLive, sat_bind, sat_get]
  refine forall₃_congr fun r s' _ => and_congr_right fun _ => ?_
  cases decode proposalId r with
  | error e => rfl
  | ok p =>
      simp only [andThen_ok, andThen_error, sat_bind, sat_validateTs, sat_pure, sat_raiseIf,
        Bool.not_eq_false]
      rfl

/-- `set_status` reads the record and later writes it back with the new status. -/
@[simp] theorem sat_setStatus (proposalId : PyStr) (status : ProposalStatus)
    {Q : Except Exc Proposal → List (Event StoreSig Exc) → σ → Prop} :
    (setStatus proposalId status).sat W J Q τ s ↔ ∀ r s', W s (.get proposalId) r s' →
      J (τ ++ [⟨.get proposalId, r⟩]) s' ∧
        andThen (fun p τ' s' => ∀ r' s'',
            W s' (.put proposalId (p.withStatus status).toDict) r' s'' →
            J (τ' ++ [⟨.put proposalId (p.withStatus status).toDict, r'⟩]) s'' ∧
              Q (r'.map fun _ => p.withStatus status)
                (τ' ++ [⟨.put proposalId (p.withStatus status).toDict, r'⟩]) s'')
          (fun e => Q (.error e)) (decode proposalId r) (τ ++ [⟨.get proposalId, r⟩]) s' := by
  simp only [setStatus, sat_bind, sat_get]
  refine forall₃_congr fun r s' _ => and_congr_right fun _ => ?_
  cases decode proposalId r with
  | error e => rfl
  | ok p =>
      simp only [andThen_ok, sat_bind, perform, sat_op, sat_embed]
      refine forall₃_congr fun r' s'' _ => and_congr_right fun _ => ?_
      cases r' <;> rfl

end ProposalStore

end Specs

namespace AuditLedger

/-- `AuditLedger.record`. -/
def record (event : AuditEvent) : Proc StoreSig Exc Unit := do
  raiseIf (event.at_ < 0) (.auditSchema "at must be a non-negative int")
  AppendLog.append event

/-- `record` validates the timestamp and appends the row. -/
@[simp] theorem sat_record {W : Env StoreSig Exc σ} {J : List (Event StoreSig Exc) → σ → Prop}
    {τ : List (Event StoreSig Exc)} {s : σ} (event : AuditEvent)
    {Q : Except Exc Unit → List (Event StoreSig Exc) → σ → Prop} :
    (record event).sat W J Q τ s ↔
      (event.at_ < 0 → Q (.error (.auditSchema "at must be a non-negative int")) τ s) ∧
      (0 ≤ event.at_ → ∀ r s', W s (.append event) r s' →
        J (τ ++ [⟨.append event, r⟩]) s' ∧ Q r (τ ++ [⟨.append event, r⟩]) s') := by
  simp only [record, sat_bind, sat_raiseIf, andThen_error, andThen_ok, perform, sat_op, sat_embed,
    not_lt]

end AuditLedger

/-! ### Which operations they perform -/

section Performs
variable {P : StoreOp → Prop} {proposalId : PyStr}

theorem ProposalStore.performs_get (hget : P (.get proposalId)) : (get proposalId).Performs P := by
  refine performs_bind (performs_perform hget) fun raw => ?_
  cases raw with
  | none => trivial
  | some raw => exact performs_embed _

theorem ProposalStore.performs_getLive (hget : P (.get proposalId)) (now : Int) :
    (getLive proposalId now).Performs P :=
  performs_bind (performs_get hget) fun _ =>
    performs_bind (performs_bind (performs_raiseIf _ _) fun _ => trivial) fun _ =>
      performs_bind (performs_raiseIf _ _) fun _ => trivial

theorem ProposalStore.performs_setStatus {status : ProposalStatus} (hget : P (.get proposalId))
    (hput : ∀ p : Proposal, P (.put proposalId (p.withStatus status).toDict)) :
    (setStatus proposalId status).Performs P :=
  performs_bind (performs_get hget) fun p => performs_bind (performs_perform (hput p)) fun _ =>
    trivial

theorem AuditLedger.performs_record {event : AuditEvent} (happend : P (.append event)) :
    (record event).Performs P :=
  performs_bind (performs_raiseIf _ _) fun _ => performs_perform happend

end Performs

/-- A read answers the stored record and changes nothing. -/
theorem get_effect {proposalId : PyStr} {s s' : StoreState} {r : Except Exc (Option KvValue)}
    (h : faultyStores s (.get proposalId) r s') :
    s' = s ∧ ∀ p, ProposalStore.decode proposalId r = .ok p → s.proposal? proposalId = some p := by
  rcases r with e | raw
  · exact ⟨h.2, fun p hp => by cases hp⟩
  · obtain ⟨hraw, hs⟩ := h
    refine ⟨hs, fun p hp => ?_⟩
    rcases raw with _ | raw
    · cases hp
    · simp only [ProposalStore.decode] at hp
      simp [StoreState.proposal?, ← hraw, hp, Except.toOption]

end GmailGateway
