import GmailGateway.Authz.GateSpec
import GmailGateway.Effect.Pool
import GmailGateway.Effect.Session

/-!
# GmailGateway.Authz.GateState

**The gate's local safety state.** The high-water mark, the two single-use consumers and
the audit log are the gate's own, each operation on them one atomic step; the clocks, the
relay, the peer resolver and the decision service answer whatever they like. Which
operations may raise, and what, is a parameter.
-/

namespace GmailGateway

open Effect Proc Python

/-- What one gate keeps between calls. -/
structure GateState where
  mark : Int
  requests : LockedConsumer PyStr
  decisions : LockedConsumer PyVal.HashKey
  audit : List AuthzAuditEvent

/-- The surroundings of a gate. An operation that raises has no effect; a decision id that
cannot be hashed makes its consumer raise. -/
def gateEnv {P : Platform} (mayRaise : GateOp → Exc → Prop) : Env (GateSig P) Exc GateState
  | s, .hwGet, .ok v, s' => v = s.mark ∧ s' = s
  | s, .hwRaise v, .ok _, s' => s' = { s with mark := raiseTo s.mark v }
  | s, .consumeRequest key d, .ok b, s' =>
      b = (s.requests.consumeOnce key d).1 ∧
        s' = { s with requests := (s.requests.consumeOnce key d).2 }
  | s, .consumeDecision v d, .ok b, s' => ∃ key, v.hashKey = some key ∧
      b = (s.decisions.consumeOnce key d).1 ∧
        s' = { s with decisions := (s.decisions.consumeOnce key d).2 }
  | s, .record row, .ok _, s' => s' = { s with audit := s.audit ++ [row] }
  | s, .consumeDecision v d, .error e, s' =>
      (v.hashKey = none ∧ e = .typeError ∨ mayRaise (.consumeDecision v d) e) ∧ s' = s
  | s, o, .error e, s' => mayRaise o e ∧ s' = s
  | s, _, .ok _, s' => s' = s

/-- Nothing a gate relies on raises: only the relay, the decision service and the local
safety state may. -/
def reliable : GateOp → Exc → Prop
  | .sync, e => e = .authorizationUnavailable
  | .decide _ _, _ | .hwGet, _ | .hwRaise _, _ | .consumeRequest _ _, _
  | .consumeDecision _ _, _ => True
  | _, _ => False

section Effects
variable {P : Platform} {mayRaise : GateOp → Exc → Prop} {s s' : GateState} {o : GateOp}
  {r : Except Exc (o.Ret P)}

/-- **One operation.** What a step of a gate does to its state. -/
theorem gateEnv_cases (h : gateEnv (P := P) mayRaise s o r s') :
    s' = s ∨ (∃ v, o = .hwRaise v ∧ s' = { s with mark := raiseTo s.mark v }) ∨
      (∃ key d, o = .consumeRequest key d ∧
        s' = { s with requests := (s.requests.consumeOnce key d).2 }) ∨
      (∃ v key d, o = .consumeDecision v d ∧ v.hashKey = some key ∧
        s' = { s with decisions := (s.decisions.consumeOnce key d).2 }) ∨
      (∃ row, o = .record row ∧ s' = { s with audit := s.audit ++ [row] }) := by
  cases o with
  | now | clock | sync | peer | decide | decisionPublicKey =>
      cases r with
      | ok a => exact .inl h
      | error e => exact .inl h.2
  | hwGet =>
      cases r with
      | ok a => exact .inl h.2
      | error e => exact .inl h.2
  | hwRaise v =>
      cases r with
      | ok a => exact .inr (.inl ⟨v, rfl, h⟩)
      | error e => exact .inl h.2
  | consumeRequest key d =>
      cases r with
      | ok a => exact .inr (.inr (.inl ⟨key, d, rfl, h.2⟩))
      | error e => exact .inl h.2
  | consumeDecision v d =>
      cases r with
      | ok a =>
          obtain ⟨key, hkey, -, hs⟩ := h
          exact .inr (.inr (.inr (.inl ⟨v, key, d, rfl, hkey, hs⟩)))
      | error e => exact .inl h.2
  | record row =>
      cases r with
      | ok a => exact .inr (.inr (.inr (.inr ⟨row, rfl, h⟩)))
      | error e => exact .inl h.2

/-- The mark never decreases. -/
theorem mark_le (h : gateEnv (P := P) mayRaise s o r s') : s.mark ≤ s'.mark := by
  rcases gateEnv_cases h with rfl | ⟨v, -, rfl⟩ | ⟨key, d, -, rfl⟩ | ⟨v, key, d, -, -, rfl⟩ |
    ⟨row, -, rfl⟩
  · exact le_rfl
  · show s.mark ≤ raiseTo s.mark v
    rw [raiseTo_eq_max]
    omega
  · exact le_rfl
  · exact le_rfl
  · exact le_rfl

/-- A consumed request stays consumed. -/
theorem requests_holds {key : PyStr} (h : gateEnv (P := P) mayRaise s o r s')
    (hkey : s.requests.holds key = true) : s'.requests.holds key = true := by
  rcases gateEnv_cases h with rfl | ⟨v, -, rfl⟩ | ⟨key', d, -, rfl⟩ | ⟨v, key', d, -, -, rfl⟩ |
    ⟨row, -, rfl⟩
  · exact hkey
  · exact hkey
  · exact LockedConsumer.holds_consumeOnce.mpr (.inl hkey)
  · exact hkey
  · exact hkey

/-- A consumed decision stays consumed. -/
theorem decisions_holds {key : PyVal.HashKey} (h : gateEnv (P := P) mayRaise s o r s')
    (hkey : s.decisions.holds key = true) : s'.decisions.holds key = true := by
  rcases gateEnv_cases h with rfl | ⟨v, -, rfl⟩ | ⟨key', d, -, rfl⟩ | ⟨v, key', d, -, -, rfl⟩ |
    ⟨row, -, rfl⟩
  · exact hkey
  · exact hkey
  · exact hkey
  · exact LockedConsumer.holds_consumeOnce.mpr (.inl hkey)
  · exact hkey

/-- The first consumption of a request. -/
theorem consumeRequest_first {key d : PyStr}
    (h : gateEnv (P := P) mayRaise s (.consumeRequest key d) (.ok true) s') :
    s.requests.holds key = false ∧ s'.requests.holds key = true := by
  obtain ⟨hfirst, rfl⟩ := h
  exact ⟨LockedConsumer.consumeOnce_fst.mp hfirst.symm,
    LockedConsumer.holds_consumeOnce.mpr (.inr rfl)⟩

/-- The first consumption of a decision, whose id can be hashed. -/
theorem consumeDecision_first {v : PyVal} {d : PyStr}
    (h : gateEnv (P := P) mayRaise s (.consumeDecision v d) (.ok true) s') :
    ∃ key, v.hashKey = some key ∧ s.decisions.holds key = false ∧
      s'.decisions.holds key = true := by
  obtain ⟨key, hkey, hfirst, rfl⟩ := h
  exact ⟨key, hkey, LockedConsumer.consumeOnce_fst.mp hfirst.symm,
    LockedConsumer.holds_consumeOnce.mpr (.inr rfl)⟩

end Effects

/-! ### A gate that can be run -/

/-- The answers of everything a gate does not keep itself. -/
structure GateScript (P : Platform) where
  now : Int
  clock : Int
  sync : PyVal
  peer : Option PeerIdentity
  decide : AuthorizationRequest → Int → Decision
  key : P.PublicKey

/-- Perform one operation with the answers of a script; nothing raises. -/
def GateState.perform {P : Platform} (script : GateScript P) (s : GateState) :
    (o : GateOp) → Except Exc (o.Ret P) × GateState
  | .now => (.ok script.now, s)
  | .clock => (.ok script.clock, s)
  | .sync => (.ok script.sync, s)
  | .hwGet => (.ok s.mark, s)
  | .hwRaise v => (.ok (), { s with mark := raiseTo s.mark v })
  | .peer _ => (.ok script.peer, s)
  | .consumeRequest key d => (.ok (s.requests.consumeOnce key d).1,
      { s with requests := (s.requests.consumeOnce key d).2 })
  | .decide request now => (.ok (script.decide request now), s)
  | .decisionPublicKey => (.ok script.key, s)
  | .consumeDecision v d =>
      match v.hashKey with
      | none => (.error .typeError, s)
      | some key => (.ok (s.decisions.consumeOnce key d).1,
          { s with decisions := (s.decisions.consumeOnce key d).2 })
  | .record row => (.ok (), { s with audit := s.audit ++ [row] })

theorem GateState.perform_env {P : Platform} (mayRaise : GateOp → Exc → Prop)
    (script : GateScript P) (s : GateState) (o : GateOp) :
    gateEnv mayRaise s o (s.perform script o).1 (s.perform script o).2 := by
  cases o with
  | consumeDecision v d =>
      cases hkey : v.hashKey <;> simp [perform, gateEnv, hkey]
  | _ => simp [perform, gateEnv]

/-- Run a call with the answers of a script. -/
def AuthorizationGate.scripted {P : Platform} (script : GateScript P) (cfg : GateConfig P)
    (request : AuthorizationRequest) (expected : PyStr) (s : GateState) :
    List (GateEvent P) × Outcome Exc Authorization × GateState :=
  (authorize P cfg request expected).run (fun _ => GateState.perform script) 14 s

theorem AuthorizationGate.scripted_exec {P : Platform} (script : GateScript P)
    (mayRaise : GateOp → Exc → Prop) (cfg : GateConfig P) (request : AuthorizationRequest)
    (expected : PyStr) (s : GateState) :
    Exec (gateEnv mayRaise) (authorize P cfg request expected) s
      (scripted script cfg request expected s).1 (scripted script cfg request expected s).2.1
      (scripted script cfg request expected s).2.2 :=
  run_exec (fun _ s o => s.perform_env mayRaise script o) 14 _ s

/-- The surroundings that answer by the script, and in no other way. -/
def scriptEnv {P : Platform} (script : GateScript P) : Env (GateSig P) Exc GateState :=
  fun s o r s' => (r, s') = s.perform script o

theorem AuthorizationGate.scripted_answers {P : Platform} (script : GateScript P)
    (cfg : GateConfig P) (request : AuthorizationRequest) (expected : PyStr) (s : GateState) :
    Exec (scriptEnv script) (authorize P cfg request expected) s
      (scripted script cfg request expected s).1 (scripted script cfg request expected s).2.1
      (scripted script cfg request expected s).2.2 :=
  run_exec (fun _ _ _ => rfl) 14 _ s

/-- What a call returned. -/
def returned? {α : Type} : Outcome Exc α → Option α
  | .done (.ok a) => some a
  | _ => none

theorem returned?_eq_some {α : Type} {out : Outcome Exc α} {a : α} :
    returned? out = some a ↔ out = .done (.ok a) := by
  unfold returned?
  split <;> simp_all

/-- A gate that has seen nothing. -/
def GateState.initial : GateState := ⟨0, ⟨[]⟩, ⟨[]⟩, []⟩

/-- A platform whose functions can be evaluated. A signature is the key followed by a sum of
the message. -/
def samplePlatform : Platform where
  PublicKey := UInt8
  fromPublicBytes bytes := bytes.head?
  verify key message sig := sig = [key, message.sum]
  sha256Hex bytes := natDecimal bytes.sum.toNat
  fromisoformat s :=
    if s = str "2026-01-01T00:00:00+00:00" then some (true, 1767225600)
    else if s = str "2026-01-02T00:00:00+00:00" then some (true, 1767312000)
    else none

/-- A signed artifact envelope. -/
def sampleEnvelope (artifactType : String) (body : Dict) : PyVal :=
  .dict [(str "v", .int 1), (str "type", .str (str artifactType)), (str "body", .dict body),
    (str "sig", .str (match signingInput artifactType body with
      | .ok message => hexByte 7 ++ hexByte message.sum
      | .error _ => []))]
where
  hexByte (b : UInt8) : PyStr := [hexDigit (b.toNat / 16), hexDigit (b.toNat % 16)]

/-- What the relay delivers. -/
def sampleSync (head : Dict) (revocations : List PyVal) : PyVal :=
  .dict [(str "head", sampleEnvelope headArtifactType head), (str "revocations", .list revocations)]

/-- A well-formed grant id. -/
def sampleGrantId : PyStr := List.replicate 32 (CodePoint.ofChar 'a')

/-- A grant of one day. -/
def sampleGrantBody (approvalMode : ApprovalMode) (subject : Dict) : Dict :=
  [(str "grant_id", .str sampleGrantId), (str "grant_version", .str (str "1")),
    (str "state_version", .str (str "1")), (str "issuer_fp", .str (str "fp")),
    (str "subject", .dict subject), (str "tool", .str (str "gmail")),
    (str "action", .str (str "send")),
    (str "scope", .dict [(str "from_account", .str (str "me"))]),
    (str "approval_mode", .str approvalMode.value),
    (str "valid_from", .str (str "2026-01-01T00:00:00Z")),
    (str "valid_until", .str (str "2026-01-02T00:00:00Z"))]

/-- An account of the operating system. -/
def sampleOsSubject : Dict :=
  [(str "kind", .str (str "os_account")), (str "machine_id", .str (str "m")),
    (str "account", .str (str "u"))]

/-- A gateway for one account. -/
def sampleConfig : GateConfig samplePlatform where
  userRootPublicKey := (7 : UInt8)
  pinnedIssuerFp := str "fp"
  gatewayAccount := str "me"
  channelChallenge := str "ch"

/-- A request under this grant. -/
def sampleRequest (approvalMode : ApprovalMode) (subject : Dict) : AuthorizationRequest where
  grantEnvelope := sampleEnvelope "grant" (sampleGrantBody approvalMode subject)
  requestId := str "r1"
  actionDigest := str "d1"
  channelBinding := str "ch"
  issuedAt := 1767225600

/-- A decision service that signs what the gate expects. -/
def sampleDecide (head : Dict) (approvalMode : ApprovalMode) (subjectKind : SubjectKind)
    (actionDigest decisionId : PyStr) (request : AuthorizationRequest) (now : Int) : Decision :=
  let d : Decision :=
    { decisionId := .str decisionId, grantId := .str sampleGrantId, grantVersion := .str (str "1"),
      stateVersion := head.get (str "state_version"),
      authzStateDigest := match digest samplePlatform (.dict head) with
        | .ok s => .str s
        | .error _ => .none,
      requestId := .str request.requestId, actionDigest := .str actionDigest,
      decidedAt := .int now,
      disposition := .str (if approvalMode = .auto then dispositionAuthorized
        else dispositionNeedsApproval),
      approvalMode := .str approvalMode.value, subjectKind := .str subjectKind.value, sig := none }
  { d with sig := match decisionSigningInput d with
      | .ok message => some [7, message.sum]
      | .error _ => none }

/-- A head in which the grant is active. -/
def sampleHead (version : String) : Dict := headBody (str version) [(sampleGrantId, str "1")]

/-- Surroundings that answer as they should. -/
def sampleScript (head : Dict) (approvalMode : ApprovalMode) (subjectKind : SubjectKind)
    (actionDigest decisionId : PyStr) : GateScript samplePlatform where
  now := 1767225600
  clock := 0
  sync := sampleSync head []
  peer := some ⟨str "m", str "u"⟩
  decide := sampleDecide head approvalMode subjectKind actionDigest decisionId
  key := (7 : UInt8)

end GmailGateway
