import GmailGateway.Authz.State
import GmailGateway.Effect.Proc

/-!
# GmailGateway.Authz.Service

The pieces the gate shares with the decision service (`authz/service.py`) and the
binding policy of a decision (`authz/decision_policy.py`): requests and decisions,
what their signatures cover, and the check of every decision field against the gate's
own derivation.

A decision comes from an untrusted service: its fields are arbitrary JSON values.
-/

namespace GmailGateway

open Python

/-- `VALIDITY_CAP_SECONDS`. -/
def validityCapSeconds : Int := 7 * 24 * 3600

/-- `CLOCK_SKEW_SECONDS`. -/
def clockSkewSeconds : Int := 300

/-- `REQUEST_FRESHNESS_SECONDS`. -/
def requestFreshnessSeconds : Int := 300

/-- `DECIDED_AT_SLACK_SECONDS`. -/
def decidedAtSlackSeconds : Int := 300

/-- `RESPONSE_DEADLINE_NS`, on the monotonic clock. -/
def responseDeadlineNs : Int := 5 * 1000000000

/-- `Disposition.AUTHORIZED` and `Disposition.NEEDS_APPROVAL`. -/
def dispositionAuthorized : PyStr := str "authorized"

/-- The disposition that is not yet an authorization. -/
def dispositionNeedsApproval : PyStr := str "needs_approval"

/-- `PeerIdentity`, as the peer verifier reports it. -/
structure PeerIdentity where
  machineId : PyStr
  account : PyStr
  deriving DecidableEq

/-- `AuthorizationRequest`, as the caller of the gate fills it in. -/
structure AuthorizationRequest where
  grantEnvelope : PyVal
  requestId : PyStr
  actionDigest : PyStr
  authzStateDigest : PyStr := []
  issuedAt : Int := 0
  channelBinding : PyStr := []
  peerVerified : Bool := false
  peerMachineId : PyStr := []
  peerAccount : PyStr := []
  agentSig : Option Bytes := none

/-- A decision as received. `sig` is `none` where it is not a `bytes`. -/
structure Decision where
  decisionId : PyVal
  grantId : PyVal
  grantVersion : PyVal
  stateVersion : PyVal
  authzStateDigest : PyVal
  requestId : PyVal
  actionDigest : PyVal
  decidedAt : PyVal
  disposition : PyVal
  approvalMode : PyVal
  subjectKind : PyVal
  sig : Option Bytes

/-! ### What the signatures cover -/

/-- What the agent signs for a call. `grant_id` is bound in, so a signature made for one
grant cannot be replayed against another. -/
def requestBindingBody (grantId requestId actionDigest : PyStr) (issuedAt : Int)
    (channelBinding : PyStr) : Dict :=
  [(str "grant_id", .str grantId), (str "request_id", .str requestId),
    (str "action_digest", .str actionDigest), (str "issued_at", .int issuedAt),
    (str "channel_binding", .str channelBinding)]

/-- `request_binding`: what an agent key signs. -/
def requestBinding (grantId requestId actionDigest : PyStr) (issuedAt : Int)
    (channelBinding : PyStr) : Except Exc Bytes :=
  Jcs.canonicalize (.dict (requestBindingBody grantId requestId actionDigest issuedAt
    channelBinding))

/-- `decision_body`: everything a decision says but its signature. -/
def decisionBody (d : Decision) : Dict :=
  [(str "decision_id", d.decisionId), (str "grant_id", d.grantId),
    (str "grant_version", d.grantVersion), (str "state_version", d.stateVersion),
    (str "authz_state_digest", d.authzStateDigest), (str "request_id", d.requestId),
    (str "action_digest", d.actionDigest), (str "decided_at", d.decidedAt),
    (str "disposition", d.disposition), (str "approval_mode", d.approvalMode),
    (str "subject_kind", d.subjectKind)]

/-- `_DECISION_DOMAIN`. -/
def decisionDomain : Bytes := domainTag "decision"

/-- `decision_signing_input`. -/
def decisionSigningInput (d : Decision) : Except Exc Bytes := do
  let bytes ← Jcs.canonicalize (.dict (decisionBody d))
  pure (decisionDomain ++ bytes)

section
variable (P : Platform)

/-- `_verify`: a signature that is not `bytes` never verifies. -/
def verifySig (key : P.PublicKey) (message : Bytes) : Option Bytes → Bool
  | none => false
  | some sig => P.verify key message sig

/-- `verify_decision_sig`. -/
def verifyDecisionSig (key : P.PublicKey) (d : Decision) : Except Exc Bool := do
  let message ← decisionSigningInput d
  pure (verifySig P key message d.sig)

end

/-! ### The binding policy -/

/-- What the gate derives for a request, from the verified grant and the accepted head. -/
structure ExpectedBinding where
  requestId : PyStr
  actionDigest : PyStr
  authzStateDigest : PyStr
  stateVersion : PyStr
  grantId : PyStr
  grantVersion : PyStr
  approvalMode : PyStr
  subjectKind : PyStr
  disposition : PyStr
  deriving DecidableEq

/-- `_cmp`: the field must equal the gate's own value, else `detail`. -/
def cmp (value : PyVal) (expected : PyStr) (detail : String) : Except Exc (Option String) :=
  .ok (if value.eqStr expected then none else some detail)

/-- A field of a closed enumeration that must also equal the gate's own value. Testing
membership hashes the value. -/
def checkEnum (value : PyVal) (allowed : List PyStr) (expected : PyStr) (detail : String) :
    Except Exc (Option String) :=
  match value.hashKey with
  | none => .error .typeError
  | some _ =>
      .ok (if allowed.any value.eqStr = false then some detail
        else if value.eqStr expected then none else some detail)

/-- `_check_approval_mode`. -/
def checkApprovalMode (d : Decision) (e : ExpectedBinding) : Except Exc (Option String) :=
  checkEnum d.approvalMode [ApprovalMode.auto.value, ApprovalMode.perCall.value] e.approvalMode
    detailDecisionApprovalModeMismatch

/-- `_check_subject_kind`. -/
def checkSubjectKind (d : Decision) (e : ExpectedBinding) : Except Exc (Option String) :=
  checkEnum d.subjectKind [SubjectKind.osAccount.value, SubjectKind.agentKey.value] e.subjectKind
    detailDecisionSubjectKindMismatch

/-- `_check_disposition`. -/
def checkDisposition (d : Decision) (e : ExpectedBinding) : Except Exc (Option String) :=
  checkEnum d.disposition [dispositionAuthorized, dispositionNeedsApproval] e.disposition
    detailDecisionDispositionMismatch

/-- The checks of `_POLICY`, in its order. `decision_id` and `decided_at` are the gate's. -/
def bindingChecks (d : Decision) (e : ExpectedBinding) : List (Except Exc (Option String)) :=
  [cmp d.requestId e.requestId detailDecisionRequestMismatch,
    cmp d.actionDigest e.actionDigest detailActionDigestMismatch,
    cmp d.authzStateDigest e.authzStateDigest detailDecisionHeadMismatch,
    cmp d.grantId e.grantId detailDecisionGrantIdMismatch,
    cmp d.grantVersion e.grantVersion detailDecisionGrantVersionMismatch,
    cmp d.stateVersion e.stateVersion detailDecisionVersionMismatch,
    checkApprovalMode d e, checkSubjectKind d e, checkDisposition d e]

/-- The first detail of a list of checks, evaluated up to it. -/
def firstDetail : List (Except Exc (Option String)) → Except Exc (Option String)
  | [] => .ok none
  | check :: checks => do
      match ← check with
      | some detail => pure (some detail)
      | none => firstDetail checks

/-- `check_binding`: the detail of the first field that differs. -/
def checkBinding (d : Decision) (e : ExpectedBinding) : Except Exc (Option String) :=
  firstDetail (bindingChecks d e)

theorem firstDetail_eq_none {checks : List (Except Exc (Option String))} :
    firstDetail checks = .ok none ↔ ∀ check ∈ checks, check = .ok none := by
  induction checks with
  | nil => simp [firstDetail]
  | cons check checks ih =>
      rw [firstDetail, bind_eq_ok, List.forall_mem_cons, ← ih]
      constructor
      · intro h
        obtain ⟨o, ho, h⟩ := h
        cases o with
        | none => exact ⟨ho, h⟩
        | some detail => cases h
      · intro hspec
        obtain ⟨ho, h⟩ := hspec
        exact ⟨none, ho, h⟩

theorem cmp_eq_none {value : PyVal} {expected : PyStr} {detail : String} :
    cmp value expected detail = .ok none ↔ value = .str expected := by
  simp [cmp]

theorem checkEnum_eq_none {value : PyVal} {allowed : List PyStr} {expected : PyStr}
    {detail : String} (h : checkEnum value allowed expected detail = .ok none) :
    value = .str expected := by
  unfold checkEnum at h
  split at h
  · cases h
  · have hdetail := Except.ok.inj h
    split at hdetail
    · cases hdetail
    · split at hdetail
      · rename_i heq
        exact PyVal.eqStr_iff.mp heq
      · cases hdetail

/-- The decision repeats every value the gate derived. -/
structure Bound (d : Decision) (e : ExpectedBinding) : Prop where
  requestId : d.requestId = .str e.requestId
  actionDigest : d.actionDigest = .str e.actionDigest
  authzStateDigest : d.authzStateDigest = .str e.authzStateDigest
  stateVersion : d.stateVersion = .str e.stateVersion
  grantId : d.grantId = .str e.grantId
  grantVersion : d.grantVersion = .str e.grantVersion
  approvalMode : d.approvalMode = .str e.approvalMode
  subjectKind : d.subjectKind = .str e.subjectKind
  disposition : d.disposition = .str e.disposition

/-- **The policy.** A decision without a mismatch is bound in every field. -/
theorem bound_of_checkBinding {d : Decision} {e : ExpectedBinding}
    (h : checkBinding d e = .ok none) : Bound d e := by
  have hall := firstDetail_eq_none.mp h
  simp only [bindingChecks, List.forall_mem_cons, cmp_eq_none] at hall
  obtain ⟨h₁, h₂, h₃, h₄, h₅, h₆, h₇, h₈, h₉, -⟩ := hall
  exact ⟨h₁, h₂, h₃, h₆, h₄, h₅, checkEnum_eq_none h₇, checkEnum_eq_none h₈,
    checkEnum_eq_none h₉⟩

/-- `_decided_at_in_hygiene_window`: a chained comparison, which raises on a value that is
no number. -/
def decidedAtInHygieneWindow (decidedAt : PyVal) (requestNow wallVerified : Int) :
    Except Exc Bool :=
  match decidedAt.geInt (requestNow - decidedAtSlackSeconds) with
  | none => .error .typeError
  | some false => .ok false
  | some true =>
      match decidedAt.leInt (wallVerified + decidedAtSlackSeconds) with
      | none => .error .typeError
      | some b => .ok b

/-! ### Local safety state -/

/-- `LockedConsumer`: the digests consumed so far, under what `consume_once` was called
with as a key. -/
structure LockedConsumer (κ : Type) where
  consumed : List (κ × PyStr)

namespace LockedConsumer
variable {κ : Type} [DecidableEq κ]

/-- The key has been consumed. -/
def holds (c : LockedConsumer κ) (key : κ) : Bool := c.consumed.any (·.1 = key)

/-- One atomic step: whether this caller is the first, and the state after it. -/
def consumeOnce (c : LockedConsumer κ) (key : κ) (actionDigest : PyStr) :
    Bool × LockedConsumer κ :=
  if c.holds key then (false, c) else (true, ⟨c.consumed ++ [(key, actionDigest)]⟩)

theorem holds_append {c : LockedConsumer κ} {key key' : κ} {digest : PyStr} :
    (⟨c.consumed ++ [(key, digest)]⟩ : LockedConsumer κ).holds key' = true ↔
      c.holds key' = true ∨ key = key' := by
  simp [holds]

/-- A key is refused exactly when it is held; afterwards it is held. -/
theorem consumeOnce_fst {c : LockedConsumer κ} {key : κ} {digest : PyStr} :
    (c.consumeOnce key digest).1 = true ↔ c.holds key = false := by
  unfold consumeOnce
  split <;> simp_all

theorem holds_consumeOnce {c : LockedConsumer κ} {key key' : κ} {digest : PyStr} :
    (c.consumeOnce key digest).2.holds key' = true ↔ c.holds key' = true ∨ key = key' := by
  unfold consumeOnce
  split
  case isTrue h =>
    constructor
    · exact .inl
    · rintro (h' | rfl)
      · exact h'
      · exact h
  case isFalse => exact holds_append

end LockedConsumer

/-- `HighWaterMark.raise_to`. -/
def raiseTo (mark version : Int) : Int := if version > mark then version else mark

theorem raiseTo_eq_max (mark version : Int) : raiseTo mark version = max mark version := by
  unfold raiseTo
  split <;> omega

end GmailGateway
