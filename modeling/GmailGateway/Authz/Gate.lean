import GmailGateway.Authz.Service

/-!
# GmailGateway.Authz.Gate

The authorization gate (`authz/gate.py`), in front of every send. A call syncs and
accepts the state head, verifies the grant and decides locally, consumes the request,
asks the untrusted decision service, checks its decision and records the outcome.

`authorize` is cut after the request consume: `authorizeLocally` is everything before the cloud
call and `settleDecision` everything after the answer arrived.
-/

namespace GmailGateway

open Effect Proc Python

/-- One row of the authorization audit. -/
structure AuthzAuditEvent where
  at_ : Int
  requestId : PyStr
  code : PyStr
  grantId : Option PyStr := none
  grantIdVerified : Bool := false
  subjectKind : Option PyStr := none
  detail : Option PyStr := none
  approvalMode : Option PyStr := none
  decisionId : Option PyVal := none
  stateVersion : Option PyStr := none
  authzStateDigest : Option PyStr := none
  actionDigest : Option PyStr := none

/-- What the gate does to its surroundings: clocks, the relay, the local safety state, the
decision service and the audit. -/
inductive GateOp
  | now
  | clock
  | sync
  | hwGet
  | hwRaise (versionInt : Int)
  | peer (request : AuthorizationRequest)
  | consumeRequest (key actionDigest : PyStr)
  | decide (request : AuthorizationRequest) (now : Int)
  | decisionPublicKey
  | consumeDecision (key : PyVal) (actionDigest : PyStr)
  | record (row : AuthzAuditEvent)

/-- The call of the untrusted decision service. -/
def GateOp.isDecide : GateOp → Bool
  | .decide _ _ => true
  | _ => false

/-- What each operation answers. -/
abbrev GateOp.Ret (P : Platform) : GateOp → Type
  | .now | .clock | .hwGet => Int
  | .sync => PyVal
  | .hwRaise _ | .record _ => Unit
  | .peer _ => Option PeerIdentity
  | .consumeRequest _ _ | .consumeDecision _ _ => Bool
  | .decide _ _ => Decision
  | .decisionPublicKey => P.PublicKey

/-- What a call of the gate performs. -/
abbrev GateSig (P : Platform) : Signature := ⟨GateOp, GateOp.Ret P⟩

/-- What the methods of the gate are. -/
abbrev GateProc (P : Platform) (α : Type) := Proc (GateSig P) Exc α

/-- An operation with its answer. -/
abbrev GateEvent (P : Platform) := Event (GateSig P) Exc

/-- What the gate is constructed with, apart from its collaborators. -/
structure GateConfig (P : Platform) where
  userRootPublicKey : P.PublicKey
  pinnedIssuerFp : PyStr
  gatewayAccount : PyStr
  channelChallenge : PyStr

/-- The gate's result on a clean allow or needs-approval. -/
structure Authorization where
  decision : Decision
  monoDecisionReceived : Int

namespace AuthorizationGate

variable (P : Platform)

/-- Perform one operation. -/
abbrev call (o : GateOp) : GateProc P (o.Ret P) := perform (S := GateSig P) o

/-! ### Denials -/

/-- Opaque ids for a denial audit, from unverified envelope bytes; never raises. -/
def peekIdentifiers (request : AuthorizationRequest) : Option PyStr × Option PyStr :=
  let parsed := do
    let (_, body, _) ← parseEnvelope request.grantEnvelope
    parseGrantBody P body
  match parsed with
  | .ok grant => (some grant.grantId, some grant.subject.kind.value)
  | .error _ =>
      match request.grantEnvelope with
      | .dict env =>
          match (Dict.get? env (str "body")).getD (.dict []) with
          | .dict body =>
              match Dict.get body (str "grant_id") with
              | .str gid => (some gid, none)
              | _ => (none, none)
          | _ => (none, none)
      | _ => (none, none)

/-- The audit row of a denial. -/
def denialRow (request : AuthorizationRequest) (now : Int) (reason : DenialReason)
    (detail : Option String) (vgrant : Option Grant) : AuthzAuditEvent where
  at_ := now
  requestId := request.requestId
  code := str reason.value
  grantId := match vgrant with
    | some g => some g.grantId
    | none => (peekIdentifiers P request).1
  grantIdVerified := vgrant.isSome
  subjectKind := match vgrant with
    | some g => some g.subject.kind.value
    | none => (peekIdentifiers P request).2
  detail := detail.map str

/-- Audit the denial and raise the coarse exception. -/
def deny {α : Type} (request : AuthorizationRequest) (now : Int) (reason : DenialReason)
    (detail : Option String := none) (vgrant : Option Grant := none) : GateProc P α := do
  call P (.record (denialRow P request now reason detail vgrant))
  throw .authorizationDenied

/-! ### ① Sync and accept -/

/-- What a sync delivered, verified. -/
structure SyncedState where
  stateVersion : PyStr
  stateVersionInt : Int
  pairs : List (PyStr × PyStr)
  body : Dict
  seenRevocations : List PyStr

/-- Verify every delivered revocation; the revoked grant ids. -/
def verifyRevocations (cfg : GateConfig P) : List PyVal → Except Exc (List PyStr)
  | [] => .ok []
  | env :: envs => do
      let (artifactType, body, sig) ← parseEnvelope env
      rejectIf (artifactType ≠ str revocationArtifactType)
        (certificateError "delivered artifact is not an authz_revocation")
      let message ← signingInput revocationArtifactType body
      rejectIf (P.verify cfg.userRootPublicKey message sig = false)
        (certificateError "revocation signature invalid")
      let gid ← parseRevocationBody body
      let gids ← verifyRevocations cfg envs
      pure (gid :: gids)

/-- The `try` block of `_sync_and_accept`. -/
def verifySync (cfg : GateConfig P) (env : PyVal) : Except Exc SyncedState := do
  let (headEnv, revocationEnvs) ← parseSyncEnvelope env
  let (artifactType, body, sig) ← parseEnvelope headEnv
  rejectIf (artifactType ≠ str headArtifactType)
    (certificateError "synced artifact is not an authz_state head")
  let message ← signingInput headArtifactType body
  rejectIf (P.verify cfg.userRootPublicKey message sig = false)
    (certificateError "head signature invalid")
  let (stateVersion, stateVersionInt, pairs) ← parseHeadBody body
  let seenRevocations ← verifyRevocations P cfg revocationEnvs
  pure { stateVersion, stateVersionInt, pairs, body, seenRevocations }

/-- Fetch, verify and accept the head, raising the high-water mark to its version. -/
def syncAndAccept (cfg : GateConfig P) (request : AuthorizationRequest) (now : Int) :
    GateProc P VerifiedHead := do
  let env ← tryCatch (call P .sync) fun
    | .authorizationUnavailable => deny P request now .cloudUnreachable
    | e => throw e
  let synced ← tryCatch (embed (verifySync P cfg env)) fun
    | .certificateError _ _ detail => deny P request now .invalidArtifact detail
    | e => throw e
  let hw ← tryCatch (call P .hwGet) fun _ => deny P request now .stateUnavailable
  if synced.stateVersionInt < hw then
    deny P request now .versionRegress
  else do
    tryCatch (call P (.hwRaise synced.stateVersionInt)) fun _ =>
      deny P request now .stateUnavailable
    let headDigest ← embed (digest P (.dict synced.body))
    pure { stateVersion := synced.stateVersion, stateVersionInt := synced.stateVersionInt,
           activeGrants := synced.pairs, digest := headDigest,
           seenRevocations := synced.seenRevocations }

/-! ### The grant -/

/-- `except CertificateError as exc: raise DenialSignal(INVALID_ARTIFACT, exc.detail)`. -/
def asDenial {α : Type} : Except Exc α → Except Exc α
  | .error (.certificateError _ _ detail) => .error (.denialSignal .invalidArtifact detail)
  | x => x

/-- Re-derive the grant of this request with the gate's own anchors. -/
def verifyGrant (cfg : GateConfig P) (request : AuthorizationRequest) : Except Exc Grant := do
  let (artifactType, body, sig) ← asDenial (parseEnvelope request.grantEnvelope)
  rejectIf (artifactType ≠ str "grant") (.denialSignal .invalidArtifact none)
  let message ← signingInput "grant" body
  rejectIf (P.verify cfg.userRootPublicKey message sig = false)
    (.denialSignal .invalidArtifact none)
  let grant ← asDenial (parseGrantBody P body)
  rejectIf (grant.issuerFp ≠ cfg.pinnedIssuerFp)
    (.denialSignal .invalidArtifact (some detailUntrustedIssuer))
  pure grant

/-! ### ② Local decisions -/

/-- A refusal, or nothing. -/
abbrev Refusal := Option (DenialReason × Option String)

/-- The agent's proof: its signature over the request binding, fresh, with the challenge. -/
def checkAgentKey (cfg : GateConfig P) (request : AuthorizationRequest) (now : Int)
    (grantId agentPubkeyHex : PyStr) : Except Exc Refusal :=
  match request.agentSig with
  | none => .ok (some (.modeMismatch, none))
  | some agentSig =>
      match (fromHex agentPubkeyHex).bind P.fromPublicBytes with
      | none => .ok (some (.modeMismatch, none))
      | some agentPub => do
          let binding ← requestBinding grantId request.requestId request.actionDigest
            request.issuedAt request.channelBinding
          if P.verify agentPub binding agentSig = false then pure (some (.modeMismatch, none))
          else if requestFreshnessSeconds < |now - request.issuedAt| then
            pure (some (.invalidArtifact, some detailIssuedAtOutOfWindow))
          else if request.channelBinding ≠ cfg.channelChallenge then
            pure (some (.invalidArtifact, some detailChannelBindingMismatch))
          else pure none

/-- The identity of the subject: of the peer, or of a key. -/
def checkSubject (cfg : GateConfig P) (request : AuthorizationRequest) (now : Int)
    (vgrant : Grant) : GateProc P Refusal :=
  match vgrant.subject with
  | .osAccount machineId account => do
      let peer ← call P (.peer request)
      pure (if peer = some ⟨machineId, account⟩ then none
        else some (.modeMismatch, some detailSubjectIdentityMismatch))
  | .agentKey agentPubkeyHex _ =>
      embed (checkAgentKey P cfg request now vgrant.grantId agentPubkeyHex)

/-- The checks before the subject proof: membership, validity window, span and scope. -/
def checkGrant (cfg : GateConfig P) (now : Int) (head : VerifiedHead) (vgrant : Grant) : Refusal :=
  match head.membership vgrant.grantId vgrant.grantVersion with
  | .revoked => some (.revoked, none)
  | .superseded => some (.superseded, none)
  | .noGrant => some (.noGrant, some detailInactiveInVerifiedHead)
  | .active =>
      if now < vgrant.validFrom - clockSkewSeconds then some (.expired, some detailNotYetValid)
      else if now > vgrant.validUntil + clockSkewSeconds then some (.expired, none)
      else if vgrant.validUntil - vgrant.validFrom > validityCapSeconds then
        some (.validityExceedsPolicy, none)
      else if vgrant.fromAccount ≠ cfg.gatewayAccount then some (.scope, none)
      else none

/-- `_local_decisions`: what is decided without the service. -/
def localDecisions (cfg : GateConfig P) (request : AuthorizationRequest) (now : Int)
    (head : VerifiedHead) (vgrant : Grant) : GateProc P Refusal :=
  match checkGrant P cfg now head vgrant with
  | some refusal => pure (some refusal)
  | none => checkSubject P cfg request now vgrant

/-- `"%s\x00%s" % (grant_id, request_id)`. -/
def requestKey (grantId requestId : PyStr) : PyStr := grantId ++ [0] ++ requestId

/-- Everything before the cloud call; the request is consumed last. -/
def authorizeLocally (cfg : GateConfig P) (request : AuthorizationRequest) (now : Int)
    (expectedActionDigest : PyStr) : GateProc P (VerifiedHead × Grant) := do
  let head ← syncAndAccept P cfg request now
  let vgrant ← tryCatch (embed (verifyGrant P cfg request)) fun
    | .denialSignal reason detail => deny P request now reason detail
    | e => throw e
  match ← localDecisions P cfg request now head vgrant with
  | some (reason, detail) => deny P request now reason detail vgrant
  | none => do
      let consumed ← tryCatch
        (call P (.consumeRequest (requestKey vgrant.grantId request.requestId)
          expectedActionDigest))
        fun _ => deny P request now .stateUnavailable none vgrant
      if consumed then pure (head, vgrant)
      else deny P request now .replay (some detailRequestIdReused) vgrant

/-! ### ③ The cloud decision and ④ the record -/

/-- What a decision has to say. -/
def expectedBinding (request : AuthorizationRequest) (vgrant : Grant) (head : VerifiedHead)
    (expectedActionDigest : PyStr) : ExpectedBinding where
  requestId := request.requestId
  actionDigest := expectedActionDigest
  authzStateDigest := head.digest
  stateVersion := head.stateVersion
  grantId := vgrant.grantId
  grantVersion := vgrant.grantVersion
  approvalMode := vgrant.approvalMode.value
  subjectKind := vgrant.subject.kind.value
  disposition := if vgrant.permitsAuto then dispositionAuthorized else dispositionNeedsApproval

/-- The audit row of a success. -/
def successRow (request : AuthorizationRequest) (now : Int) (vgrant : Grant)
    (head : VerifiedHead) (expected : ExpectedBinding) (decision : Decision) :
    AuthzAuditEvent where
  at_ := now
  requestId := request.requestId
  code := expected.disposition
  grantId := some vgrant.grantId
  grantIdVerified := true
  subjectKind := some vgrant.subject.kind.value
  approvalMode := some vgrant.approvalMode.value
  decisionId := some decision.decisionId
  stateVersion := some head.stateVersion
  authzStateDigest := some head.digest
  actionDigest := some expected.actionDigest

/-- Everything after the decision arrived. -/
def settleDecision (request : AuthorizationRequest) (now : Int) (head : VerifiedHead)
    (vgrant : Grant) (expectedActionDigest : PyStr) (monoSent : Int) (decision : Decision) :
    GateProc P Authorization := do
  let monoDecisionReceived ← call P .clock
  let wallVerified ← call P .now
  let key ← call P .decisionPublicKey
  let authentic ← embed (verifyDecisionSig P key decision)
  if authentic = false then
    deny P request now .invalidArtifact (some detailDecisionSigInvalid) vgrant
  else do
    let expected := expectedBinding request vgrant head expectedActionDigest
    match ← embed (checkBinding decision expected) with
    | some mismatch => deny P request now .invalidArtifact (some mismatch) vgrant
    | none => do
        let inWindow ← embed (decidedAtInHygieneWindow decision.decidedAt now wallVerified)
        if inWindow = false then
          deny P request now .invalidArtifact (some detailDecidedAtOutOfWindow) vgrant
        else do
          -- The deadline covers the response until it is fully verified.
          let monoResponseVerified ← call P .clock
          if responseDeadlineNs < monoResponseVerified - monoSent then
            deny P request now .cloudUnreachable none vgrant
          else do
            let consumed ← tryCatch
              (call P (.consumeDecision decision.decisionId expected.actionDigest))
              fun _ => deny P request now .stateUnavailable none vgrant
            if consumed then do
              call P (.record (successRow request now vgrant head expected decision))
              pure { decision, monoDecisionReceived }
            else deny P request now .replay (some detailDecisionReused) vgrant

/-- Run the four-step flow: return an `Authorization` on a clean allow or needs-approval,
raise coarse `denied` otherwise. -/
def authorize (cfg : GateConfig P) (request : AuthorizationRequest)
    (expectedActionDigest : PyStr) : GateProc P Authorization := do
  let now ← call P .now
  let (head, vgrant) ← authorizeLocally P cfg request now expectedActionDigest
  let monoSent ← call P .clock
  let decision ← tryCatch (call P (.decide request now)) fun
    | .authorizationUnavailable => deny P request now .cloudUnreachable none vgrant
    | .certificateError _ _ detail => deny P request now .invalidArtifact detail vgrant
    | .denialSignal reason detail => deny P request now reason detail vgrant
    | _ => deny P request now .internalError none vgrant
  settleDecision P request now head vgrant expectedActionDigest monoSent decision

end AuthorizationGate

end GmailGateway
