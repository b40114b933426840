import GmailGateway.Authz.Capability

/-!
# GmailGateway.Authz.State

The state head (`authz/state.py`): the sync wrapper, the head and revocation bodies
with their parsers, membership in a verified head, and `HeadState`, the control plane
that advances and signs heads.
-/

namespace GmailGateway

open Python

/-- `HEAD_ARTIFACT_TYPE`. -/
def headArtifactType : String := "authz_state"

/-- `REVOCATION_ARTIFACT_TYPE`. -/
def revocationArtifactType : String := "authz_revocation"

/-! ### Parsers -/

/-- `_HEAD_BODY_KEYS`. -/
def headBodyKeys : List PyStr := [str "state_version", str "active_grants"]

/-- `_ACTIVE_ENTRY_KEYS`. -/
def activeEntryKeys : List PyStr := [str "grant_id", str "grant_version"]

/-- `_REVOCATION_BODY_KEYS`. -/
def revocationBodyKeys : List PyStr := [str "grant_id", str "state_version"]

/-- `_SYNC_ENVELOPE_KEYS`. -/
def syncEnvelopeKeys : List PyStr := [str "head", str "revocations"]

/-- A string field that must match a pattern. -/
def requireMatch (d : Dict) (key : String) (matcher : PyStr → Bool) (message : String) :
    Except Exc PyStr := do
  let s ← expectStr (certificateError message) (d.get (str key))
  rejectIf (matcher s = false) (certificateError message)
  pure s

/-- One entry of `active_grants`. -/
def parseActiveEntry (entry : PyVal) : Except Exc (PyStr × PyStr) := do
  let entry ← expectDict (certificateError "active_grants entry must be an object") entry
  rejectIf (entry.hasExactly activeEntryKeys = false)
    (certificateError "active_grants entry keys must be exactly %s" (sortedKeys activeEntryKeys))
  let gid ← requireMatch entry "grant_id" isGrantIdHex
    "active_grants grant_id must be 32 lowercase hex"
  let gver ← requireMatch entry "grant_version" isCanonicalDecimal
    "active_grants grant_version must be canonical decimal"
  pure (gid, gver)

/-- `(state_version, int(state_version), pairs)` of a head body. -/
def parseHeadBody (body : Dict) : Except Exc (PyStr × Int × List (PyStr × PyStr)) := do
  let unknown := body.unknownKeys headBodyKeys
  rejectIf (unknown ≠ []) (certificateError "unknown head.body keys: %s" (sortedKeys unknown))
  let stateVersion ← requireMatch body "state_version" isCanonicalDecimal
    "head state_version must be a canonical decimal string"
  let active ← expectList (certificateError "head active_grants must be a list")
    (body.get (str "active_grants"))
  let pairs ← active.mapM parseActiveEntry
  let stateVersionInt ← pyInt stateVersion
  pure (stateVersion, stateVersionInt, pairs)

/-- The revoked `grant_id` of a revocation body. -/
def parseRevocationBody (body : Dict) : Except Exc PyStr := do
  rejectIf (body.hasExactly revocationBodyKeys = false)
    (certificateError "revocation body keys must be exactly %s" (sortedKeys revocationBodyKeys))
  let gid ← requireMatch body "grant_id" isGrantIdHex "revocation grant_id must be 32 lowercase hex"
  let _ ← requireMatch body "state_version" isCanonicalDecimal
    "revocation state_version must be canonical decimal"
  pure gid

/-- Split the sync wrapper into the head envelope and the revocation envelopes. -/
def parseSyncEnvelope (env : PyVal) : Except Exc (PyVal × List PyVal) := do
  let env ← expectDict (certificateError "sync envelope must be an object") env
  let unknown := env.unknownKeys syncEnvelopeKeys
  rejectIf (unknown ≠ []) (certificateError "unknown sync envelope keys: %s" (sortedKeys unknown))
  let headEnv ← expectDict (certificateError "sync envelope head must be an object")
    (env.get (str "head"))
  let revocations ← expectList (certificateError "sync envelope revocations must be a list")
    ((env.get? (str "revocations")).getD (.list []))
  pure (.dict headEnv, revocations)

/-! ### Membership -/

/-- `Membership`. -/
inductive Membership
  | active
  | superseded
  | revoked
  | noGrant
  deriving DecidableEq, Repr

/-- A head the gateway has verified, with the grant ids revoked in the same sync. -/
structure VerifiedHead where
  stateVersion : PyStr
  stateVersionInt : Int
  activeGrants : List (PyStr × PyStr)
  digest : PyStr
  seenRevocations : List PyStr
  deriving DecidableEq

/-- Classify a grant. A delivered revocation wins over a head that still lists it. -/
def VerifiedHead.membership (h : VerifiedHead) (grantId grantVersion : PyStr) : Membership :=
  if grantId ∈ h.seenRevocations then .revoked
  else if (grantId, grantVersion) ∈ h.activeGrants then .active
  else if h.activeGrants.any fun pair => pair.1 = grantId then .superseded
  else .noGrant

theorem VerifiedHead.membership_eq_active {h : VerifiedHead} {grantId grantVersion : PyStr} :
    h.membership grantId grantVersion = .active ↔
      grantId ∉ h.seenRevocations ∧ (grantId, grantVersion) ∈ h.activeGrants := by
  unfold membership
  split
  · simp_all
  · split
    · simp_all
    · split <;> simp_all

/-! ### The control plane -/

/-- The canonical head body: active grants in `(grant_id, grant_version)` order. -/
def headBody (stateVersion : PyStr) (activeGrants : List (PyStr × PyStr)) : Dict :=
  [(str "state_version", .str stateVersion),
    (str "active_grants", .list ((sortPairs activeGrants).map fun pair =>
      .dict [(str "grant_id", .str pair.1), (str "grant_version", .str pair.2)]))]
where
  /-- `sorted(set(pairs))`. -/
  sortPairs (pairs : List (PyStr × PyStr)) : List (PyStr × PyStr) :=
    pairs.dedup.insertionSort fun a b => a.1 < b.1 ∨ a.1 = b.1 ∧ a.2 ≤ b.2

/-- `revocation_body`. -/
def revocationBody (grantId stateVersion : PyStr) : Dict :=
  [(str "grant_id", .str grantId), (str "state_version", .str stateVersion)]

/-- `HeadState`: the active grants, the version and the revocations so far. -/
structure HeadState where
  active : List (PyStr × PyStr)
  versionInt : Int
  revocations : List (PyStr × Int)

namespace HeadState

/-- `d[key] = value` on an association list. -/
def assign {β : Type} (d : List (PyStr × β)) (key : PyStr) (value : β) : List (PyStr × β) :=
  if d.any (·.1 = key) then d.map fun m => if m.1 = key then (key, value) else m
  else d ++ [(key, value)]

/-- `d.pop(key, None)`. -/
def drop {β : Type} (d : List (PyStr × β)) (key : PyStr) : List (PyStr × β) :=
  d.filter (·.1 ≠ key)

/-- `HeadState.state_version`. -/
def stateVersion (h : HeadState) : PyStr := decimal h.versionInt

/-- `HeadState.revoke`: out of the head, and an artifact of its own from this version on. -/
def revoke (h : HeadState) (grantId : PyStr) : HeadState where
  active := drop h.active grantId
  versionInt := h.versionInt + 1
  revocations := assign h.revocations grantId (h.versionInt + 1)

/-- `HeadState.supersede`: the revocations stay as they are. -/
def supersede (h : HeadState) (grantId : PyStr) (newVersion : Int) : HeadState where
  active := assign h.active grantId (decimal newVersion)
  versionInt := h.versionInt + 1
  revocations := h.revocations

/-- `HeadState.add`: a grant that is active again is no longer revoked. -/
def add (h : HeadState) (grantId grantVersion : PyStr) : HeadState where
  active := assign h.active grantId grantVersion
  versionInt := h.versionInt + 1
  revocations := drop h.revocations grantId

/-- The body `signed_head` signs. -/
def currentBody (h : HeadState) : Dict := headBody h.stateVersion h.active

end HeadState

end GmailGateway
