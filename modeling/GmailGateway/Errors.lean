import GmailGateway.Python.Value

/-!
# GmailGateway.Errors

The exceptions of the modelled code: the interpreter's own, and the error classes
of `canonicalizer`, `authz`, `store`, `sendfsm`, `keystore`, `oauth` and `gateway`. An
`except` clause of the source becomes a match on these constructors; `other`
stands for any further exception that code outside the repository lets out.

An error raised with a formatted text carries the source's format string and the
values put into it.
-/

namespace GmailGateway

open Python

/-- Internal, audit-only reason a request was refused (`authz/errors.py`). -/
inductive DenialReason
  | invalidArtifact
  | cloudUnreachable
  | revoked
  | noGrant
  | expired
  | superseded
  | validityExceedsPolicy
  | modeMismatch
  | scope
  | replay
  | versionRegress
  | stateUnavailable
  | internalError
  deriving DecidableEq, Repr

/-- The audit code of a reason. -/
def DenialReason.value : DenialReason → String
  | invalidArtifact => "denied_invalid_artifact"
  | cloudUnreachable => "denied_cloud_unreachable"
  | revoked => "denied_revoked"
  | noGrant => "denied_no_grant"
  | expired => "denied_expired"
  | superseded => "denied_superseded"
  | validityExceedsPolicy => "denied_validity_exceeds_policy"
  | modeMismatch => "denied_mode_mismatch"
  | scope => "denied_scope"
  | replay => "denied_replay"
  | versionRegress => "denied_version_regress"
  | stateUnavailable => "denied_state_unavailable"
  | internalError => "denied_internal"

/-! ### Detail strings (`authz/errors.py`) -/

def detailMissingApprovalMode := "missing_approval_mode"
def detailUntrustedIssuer := "untrusted_issuer"
def detailDecisionReused := "decision_reused"
def detailDecisionHeadMismatch := "decision_head_mismatch"
def detailActionDigestMismatch := "action_digest_mismatch"
def detailDecisionSigInvalid := "decision_sig_invalid"
def detailSubjectIdentityMismatch := "subject_identity_mismatch"
def detailInactiveInVerifiedHead := "inactive_in_verified_head"
def detailDecisionRequestMismatch := "decision_request_mismatch"
def detailDecisionGrantIdMismatch := "decision_grant_id_mismatch"
def detailDecisionGrantVersionMismatch := "decision_grant_version_mismatch"
def detailDecisionVersionMismatch := "decision_version_mismatch"
def detailDecisionApprovalModeMismatch := "decision_approval_mode_mismatch"
def detailDecisionSubjectKindMismatch := "decision_subject_kind_mismatch"
def detailDecisionDispositionMismatch := "decision_disposition_mismatch"
def detailNotYetValid := "not_yet_valid"
def detailRequestIdReused := "request_id_reused"
def detailIssuedAtOutOfWindow := "issued_at_out_of_window"
def detailChannelBindingMismatch := "channel_binding_mismatch"
def detailDecidedAtOutOfWindow := "decided_at_out_of_window"

/-- The subclasses of `OAuthError`, and the class itself. -/
inductive OAuthErrorClass
  | base
  | loopbackRequired
  | scopeViolation
  | stateMismatch
  | missingCode
  | authorization
  | timeout
  | exchange
  | reauthorizationRequired
  | tokenRefresh
  deriving DecidableEq, Repr

/-- The exceptions the modelled code raises or catches. -/
inductive Exc
  /- the interpreter -/
  | typeError
  | valueError
  | keyError
  | unicodeEncodeError
  /- its sockets: `socket.timeout`, `URLError`, any other `OSError` -/
  | timeout (message : PyStr)
  | urlError (message : PyStr)
  | osError (message : PyStr)
  /- canonicalizer -/
  | jcsError (message : String)
  | payloadSchema (message : String) (args : List PyVal)
  | attachmentsNotSupported
  /- authz -/
  | certificateError (message : String) (args : List PyVal) (detail : Option String)
  | authorizationUnavailable
  | denialSignal (reason : DenialReason) (detail : Option String)
  | authorizationDenied
  /- store -/
  | proposalNotFound (proposal_id : PyStr)
  | proposalExpired (proposal_id : PyStr)
  | duplicateIdempotency (message : String)
  | proposalState (message : String)
  | auditSchema (message : String)
  /- sendfsm -/
  | illegalTransition (message : String)
  | autoSendNotEnabled (message : String)
  | agentUnreachableRequired (message : String)
  | noAutoRetry (proposal_id : PyStr)
  | alreadySettled (message : String)
  /- keystore -/
  | keyUnavailable (message : String)
  | keyBackendUnavailable (message : String)
  | keyMaterial (message : String)
  | sealedRecord (message : String)
  | decryption (message : String)
  /- oauth -/
  | oauth (errorClass : OAuthErrorClass) (message : PyStr)
  /- gateway -/
  | egressBlocked (host reason : PyStr)
  | messageIdNotConfigured (message : String)
  | connectionEvicted
  | credentialsMissing (message : String)
  | keychainUnavailable (message : String)
  | credentialsCorrupt (message : String)
  | commitInvalidated (message : String)
  /- anything else -/
  | other

/-- `isinstance(e, ValueError)`. -/
def Exc.isValueError : Exc → Bool
  | .valueError | .unicodeEncodeError | .jcsError _ | .payloadSchema _ _ | .proposalState _
  | .auditSchema _ | .keyMaterial _ | .sealedRecord _ | .messageIdNotConfigured _ => true
  | _ => false

/-! ### Raising, in pure code -/

/-- `if c: raise e`. -/
def rejectIf (c : Prop) [Decidable c] (e : Exc) : Except Exc Unit :=
  if c then .error e else .ok ()

@[simp] theorem rejectIf_eq_ok {c : Prop} [Decidable c] {e : Exc} {u : Unit} :
    rejectIf c e = .ok u ↔ ¬ c := by
  unfold rejectIf
  split <;> simp_all

@[simp] theorem rejectIf_eq_error {c : Prop} [Decidable c] {e e' : Exc} :
    rejectIf c e = .error e' ↔ c ∧ e = e' := by
  unfold rejectIf
  split <;> simp_all

/-- A sequence of statements succeeds when each does. -/
theorem bind_eq_ok {α β : Type} {x : Except Exc α} {f : α → Except Exc β} {b : β} :
    (x >>= f) = .ok b ↔ ∃ a, x = .ok a ∧ f a = .ok b := by
  cases x with
  | error e => simp [bind, Except.bind]
  | ok a => simp [bind, Except.bind]

/-- It raises when one of them does, after the others succeeded. -/
theorem bind_eq_error {α β : Type} {x : Except Exc α} {f : α → Except Exc β} {e : Exc} :
    (x >>= f) = .error e ↔ x = .error e ∨ ∃ a, x = .ok a ∧ f a = .error e := by
  cases x with
  | error e' => simp [bind, Except.bind]
  | ok a => simp [bind, Except.bind]

end GmailGateway
