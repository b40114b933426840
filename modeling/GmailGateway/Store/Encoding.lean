import GmailGateway.Python.Dumps
import GmailGateway.Store.Records

/-!
# GmailGateway.Store.Encoding

The rows of the stores as the JSON values they are written as: `Proposal.to_dict`, the idempotency
index entry, and `AuditEvent.to_dict`. What is read back of a row is the row, unless one of its
strings holds a high surrogate before a low one.
-/

namespace GmailGateway

open Python

/-! ### Enumerations as text -/

/-- The characters of a text without surrogates. -/
def textOf (s : PyStr) : String := String.ofList (s.map fun c => Char.ofNat c.val)

@[simp] theorem textOf_str (s : String) : textOf (str s) = s := by
  have hchar : ∀ c : Char, Char.ofNat (CodePoint.ofChar c).val = c := by
    intro c
    rw [CodePoint.ofChar_val, Char.ofNat_toNat]
  rw [textOf, str, List.map_map]
  have hmap : (fun c : CodePoint => Char.ofNat c.val) ∘ CodePoint.ofChar = id := funext hchar
  rw [hmap, List.map_id, String.ofList_toList]

namespace AuditEventType

def value : AuditEventType → String
  | proposalCreated => "proposal_created"
  | proposalConfirmed => "proposal_confirmed"
  | proposalExpired => "proposal_expired"
  | sendAttempted => "send_attempted"
  | sendSucceeded => "send_succeeded"
  | sendFailed => "send_failed"
  | outcomeUnknown => "outcome_unknown"

end AuditEventType

/-- A string, or `None`. -/
def optionalStr : Option PyStr → PyVal
  | some s => .str s
  | none => .none

/-! ### Rows -/

/-- The dict that a row is. -/
def KvValue.toDict : KvValue → Dict
  | .proposal proposalId payloadDigest expiresAt createdAt status idempotencyKey =>
      [(str "proposal_id", .str proposalId), (str "payload_digest", .str payloadDigest),
        (str "expires_at", .int expiresAt), (str "created_at", .int createdAt),
        (str "status", .str (str status)), (str "idempotency_key", optionalStr idempotencyKey)]
  | .index proposalId => [(str "proposal_id", .str proposalId)]

/-- The row that a dict is; `none` for what the store never writes. -/
def KvValue.ofVal : PyVal → Option KvValue
  | .dict [(k₁, .str proposalId), (k₂, .str payloadDigest), (k₃, .int expiresAt),
      (k₄, .int createdAt), (k₅, .str status), (k₆, idempotencyKey)] =>
      if [k₁, k₂, k₃, k₄, k₅, k₆] = [str "proposal_id", str "payload_digest", str "expires_at",
          str "created_at", str "status", str "idempotency_key"] then
        match idempotencyKey with
        | .none =>
            some (.proposal proposalId payloadDigest expiresAt createdAt (textOf status) none)
        | .str key =>
            some (.proposal proposalId payloadDigest expiresAt createdAt (textOf status) (some key))
        | _ => none
      else none
  | .dict [(k, .str proposalId)] =>
      if k = str "proposal_id" then some (.index proposalId) else none
  | _ => none

/-- `AuditEvent.to_dict`. -/
def AuditEvent.toDict (e : AuditEvent) : Dict :=
  [(str "event_type", .str (str e.eventType.value)), (str "at", .int e.at_),
    (str "proposal_id", .str e.proposalId), (str "payload_digest", optionalStr e.payloadDigest),
    (str "outcome", optionalStr e.outcome), (str "error_code", optionalStr e.errorCode),
    (str "message_id_sha256", optionalStr e.messageIdSha256),
    (str "thread_id_sha256", optionalStr e.threadIdSha256),
    (str "egress_hosts", .list (e.egressHosts.map .str))]

@[simp] theorem KvValue.ofVal_toDict (v : KvValue) : ofVal (.dict v.toDict) = some v := by
  cases v with
  | index proposalId => rfl
  | proposal proposalId payloadDigest expiresAt createdAt status idempotencyKey =>
      cases idempotencyKey <;> simp [toDict, ofVal, optionalStr]

theorem ProposalStatus.value_of_ofValue? {text : String} {status : ProposalStatus}
    (h : ofValue? text = some status) : status.value = text := by
  unfold ofValue? at h
  split at h <;> cases h <;> rfl

/-! ### What is read back -/

/-- No string of the row holds a high surrogate before a low one. -/
def KvValue.Lossless (v : KvValue) : Prop := Json.surrogatesUnpaired (.dict v.toDict) = true

instance (v : KvValue) : Decidable v.Lossless := inferInstanceAs (Decidable (_ = true))

theorem KvValue.floatFree (v : KvValue) : Json.floatFree (.dict v.toDict) = true := by
  cases v with
  | index proposalId => rfl
  | proposal _ _ _ _ _ idempotencyKey => cases idempotencyKey <;> rfl

theorem KvValue.distinctKeys (v : KvValue) : Json.distinctKeys (.dict v.toDict) = true := by
  cases v with
  | index proposalId => rfl
  | proposal _ _ _ _ _ idempotencyKey => cases idempotencyKey <;> rfl

section
variable {toFloat : PyStr → PyFloat} {floatRepr : PyFloat → PyStr}

/-- A row without such strings is read back. -/
theorem KvValue.Lossless.loads {v : KvValue} (hv : v.Lossless) {text : PyStr}
    (h : Json.dumps floatRepr (.dict v.toDict) = .ok text) :
    Json.loads toFloat text = .ok (.dict v.toDict) :=
  (Json.loads_dumps_iff v.floatFree v.distinctKeys h).mpr hv

end

/-- A row that is read as a proposal is its row. -/
theorem Proposal.toDict_fromDict {row : KvValue} {p : Proposal} (h : fromDict row = .ok p) :
    p.toDict = row := by
  cases row with
  | index proposalId => cases h
  | proposal proposalId payloadDigest expiresAt createdAt status idempotencyKey =>
      simp only [fromDict] at h
      split at h
      case h_1 x hstatus =>
        cases h
        simp [toDict, ProposalStatus.value_of_ofValue? hstatus]
      case h_2 => cases h

/-- The status that is written into a row does not matter. -/
theorem Proposal.lossless_withStatus {p : Proposal} (status : ProposalStatus) :
    (p.withStatus status).toDict.Lossless ↔ p.toDict.Lossless := by
  have hstatus : ∀ status : ProposalStatus, Json.unpaired (str status.value) = true := by
    intro status
    cases status <;> decide
  cases hkey : p.idempotencyKey <;>
    simp [KvValue.Lossless, Json.surrogatesUnpaired, Proposal.toDict, Proposal.withStatus,
      KvValue.toDict, PyVal.every, PyVal.everyMember, optionalStr, hkey, hstatus]

end GmailGateway
