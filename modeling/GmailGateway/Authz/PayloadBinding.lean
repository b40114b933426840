import GmailGateway.Authz.Mediation

/-!
# GmailGateway.Authz.PayloadBinding

**What the agent's signature covers.** An agent signs the request's own `action_digest`;
the gate checks the decision against the digest of the payload it is about to send. The
two digests are never compared: whoever controls the decision service can have a request
signed for one payload authorize the send of another.

So the signature covers the payload when the digests are equal, and otherwise only where
no decision could make the call return (`authorize_bindsPayload`).
-/

namespace GmailGateway

open Effect Proc Python

/-! ### Strings of signed bodies -/

/-- Every string of a body with a canonical form can be encoded. -/
theorem Jcs.encodable_of_get {d : Dict} {key s : PyStr} (hd : Jcs.inDomain (.dict d) = true)
    (h : d.get key = .str s) : Jcs.Encodable s := by
  have hmem : (key, PyVal.str s) ∈ d := by
    unfold Dict.get Dict.get? at h
    cases hl : d.lookup key with
    | none => rw [hl] at h; cases h
    | some v =>
        rw [hl] at h
        obtain rfl : v = .str s := h
        obtain ⟨l₁, l₂, rfl, -⟩ := List.lookup_eq_some_iff.mp hl
        simp
  simpa [Jcs.inDomain, Jcs.Encodable] using (Jcs.membersInDomain_iff.mp hd _ hmem).2

theorem requireStr_eq_ok {d : Dict} {key : String} {s : PyStr} (h : requireStr d key = .ok s) :
    d.get (str key) = .str s := by
  obtain ⟨t, ht, h⟩ := bind_eq_ok.mp h
  obtain ⟨_, -, h⟩ := bind_eq_ok.mp h
  cases h
  exact expectStr_eq_ok.mp ht

/-- The ids of a parsed grant are fields of its body. -/
theorem grant_fields {P : Platform} {body : Dict} {grant : Grant}
    (h : parseGrantBody P body = .ok grant) :
    body.get (str "grant_id") = .str grant.grantId ∧
      body.get (str "grant_version") = .str grant.grantVersion := by
  obtain ⟨-, -, h⟩ := bind_eq_ok.mp h
  obtain ⟨grantId, hid, h⟩ := bind_eq_ok.mp h
  obtain ⟨⟨version, i⟩, hversion, h⟩ := bind_eq_ok.mp h
  have hgrant : grant.grantId = grantId ∧ grant.grantVersion = version := by
    iterate 11 obtain ⟨_, -, h⟩ := bind_eq_ok.mp h
    cases h
    exact ⟨rfl, rfl⟩
  obtain ⟨s, hs, hid⟩ := bind_eq_ok.mp hid
  obtain ⟨_, -, hid⟩ := bind_eq_ok.mp hid
  cases hid
  obtain ⟨t, ht, hversion⟩ := bind_eq_ok.mp hversion
  obtain ⟨_, -, hversion⟩ := bind_eq_ok.mp hversion
  obtain ⟨_, -, hversion⟩ := bind_eq_ok.mp hversion
  cases hversion
  rw [hgrant.1, hgrant.2]
  exact ⟨requireStr_eq_ok hs, requireStr_eq_ok ht⟩

/-- The version of a parsed head is a field of its body. -/
theorem head_field {body : Dict} {head : PyStr × Int × List (PyStr × PyStr)}
    (h : parseHeadBody body = .ok head) : body.get (str "state_version") = .str head.1 := by
  obtain ⟨-, -, h⟩ := bind_eq_ok.mp h
  obtain ⟨sv, hsv, h⟩ := bind_eq_ok.mp h
  obtain ⟨_, -, h⟩ := bind_eq_ok.mp h
  obtain ⟨_, -, h⟩ := bind_eq_ok.mp h
  obtain ⟨_, -, h⟩ := bind_eq_ok.mp h
  cases h
  exact (requireMatch_eq_ok.mp hsv).1

/-- A decision id that has not been consumed. -/
theorem exists_fresh (c : LockedConsumer PyVal.HashKey) :
    ∃ id : PyStr, Jcs.Encodable id ∧ c.holds (.str id) = false := by
  let size : PyVal.HashKey × PyStr → Nat := fun
    | (.str s, _) => s.length
    | _ => 0
  let id : PyStr := List.replicate ((c.consumed.map size).sum + 1) (CodePoint.ofChar 'x')
  refine ⟨id, ?_, ?_⟩
  · simp only [Jcs.Encodable, id, List.any_replicate]
    split <;> rfl
  · rw [← Bool.not_eq_true]
    intro hheld
    obtain ⟨entry, hmem, hkey⟩ := List.any_eq_true.mp hheld
    have hsize : size entry = id.length := by
      obtain ⟨key, d⟩ := entry
      obtain rfl : key = .str id := by simpa using hkey
      rfl
    have hle := List.le_sum_of_mem (List.mem_map_of_mem (f := size) hmem)
    rw [hsize] at hle
    simp only [id, List.length_replicate] at hle
    omega

namespace AuthorizationGate

section Binding
variable {P : Platform} {cfg : GateConfig P} {request : AuthorizationRequest}
  {expected : PyStr} {s : GateState} {now : Int} {env : PyVal} {vgrant : Grant}

/-- The gate's own checks let the call reach the decision service: in the state `s`, at the
time `now`, with the delivered sync `env`. -/
def LocallyAuthorized (cfg : GateConfig P) (request : AuthorizationRequest) (s : GateState)
    (now : Int) (env : PyVal) (vgrant : Grant) : Prop :=
  ∃ head, LocalReading.Passed ⟨now, env, s.mark, head, vgrant⟩ cfg request ∧
    s.requests.holds (requestKey vgrant.grantId request.requestId) = false

theorem signedArtifact_inDomain {artifactType : String} {body : Dict}
    (h : SignedArtifact cfg artifactType env body) : Jcs.inDomain (.dict body) = true := by
  obtain ⟨sig, message, -, hm, -⟩ := h
  obtain ⟨bytes, hbytes, -⟩ := signingInput_eq_ok.mp hm
  exact Jcs.canonicalize_isOk.mpr ⟨bytes, hbytes⟩

/-- The decision that repeats what the gate derived. -/
def matchingDecision (e : ExpectedBinding) (decisionId : PyStr) (decidedAt : Int)
    (sig : Option Bytes) : Decision where
  decisionId := .str decisionId
  grantId := .str e.grantId
  grantVersion := .str e.grantVersion
  stateVersion := .str e.stateVersion
  authzStateDigest := .str e.authzStateDigest
  requestId := .str e.requestId
  actionDigest := .str e.actionDigest
  decidedAt := .int decidedAt
  disposition := .str e.disposition
  approvalMode := .str e.approvalMode
  subjectKind := .str e.subjectKind
  sig := sig

/-- It passes the policy. -/
theorem checkBinding_matching {e : ExpectedBinding} {decisionId : PyStr} {decidedAt : Int}
    {sig : Option Bytes}
    (hmode : e.approvalMode ∈ [ApprovalMode.auto.value, ApprovalMode.perCall.value])
    (hkind : e.subjectKind ∈ [SubjectKind.osAccount.value, SubjectKind.agentKey.value])
    (hdisposition : e.disposition ∈ [dispositionAuthorized, dispositionNeedsApproval]) :
    checkBinding (matchingDecision e decisionId decidedAt sig) e = .ok none := by
  refine firstDetail_eq_none.mpr ?_
  simp [bindingChecks, matchingDecision, cmp_eq_none, checkApprovalMode, checkSubjectKind,
    checkDisposition, checkEnum_eq_none_iff hmode, checkEnum_eq_none_iff hkind,
    checkEnum_eq_none_iff hdisposition]

/-- It has a canonical form if its strings do. -/
theorem matchingDecision_inDomain {e : ExpectedBinding} {decisionId : PyStr} {decidedAt : Int}
    {sig : Option Bytes} (hid : Jcs.Encodable decisionId) (hat : |decidedAt| ≤ Jcs.maxSafeInteger)
    (he : ∀ s ∈ [e.grantId, e.grantVersion, e.stateVersion, e.authzStateDigest, e.requestId,
      e.actionDigest, e.disposition, e.approvalMode, e.subjectKind], Jcs.Encodable s) :
    Jcs.inDomain (.dict (decisionBody (matchingDecision e decisionId decidedAt sig))) = true := by
  simp only [List.forall_mem_cons, Jcs.Encodable] at he hid
  obtain ⟨h₁, h₂, h₃, h₄, h₅, h₆, h₇, h₈, h₉, -⟩ := he
  simp only [decisionBody, matchingDecision, Jcs.inDomain, Jcs.membersInDomain, hid, h₁, h₂, h₃, h₄,
    h₅, h₆, h₇, h₈, h₉, hat]
  decide

/-- What the gate derives has a canonical form if the payload's digest does. -/
theorem expectedBinding_encodable (hhex : ∀ bytes, Jcs.Encodable (P.sha256Hex bytes))
    {c : LocalReading} (hc : c.Passed cfg request) (hrequest : Jcs.Encodable request.requestId)
    (hexpected : Jcs.Encodable expected) :
    ∀ t ∈ [(expectedBinding request c.vgrant c.head expected).grantId,
      (expectedBinding request c.vgrant c.head expected).grantVersion,
      (expectedBinding request c.vgrant c.head expected).stateVersion,
      (expectedBinding request c.vgrant c.head expected).authzStateDigest,
      (expectedBinding request c.vgrant c.head expected).requestId,
      (expectedBinding request c.vgrant c.head expected).actionDigest,
      (expectedBinding request c.vgrant c.head expected).disposition,
      (expectedBinding request c.vgrant c.head expected).approvalMode,
      (expectedBinding request c.vgrant c.head expected).subjectKind], Jcs.Encodable t := by
  obtain ⟨body, hgrant⟩ := verifyGrant_eq_ok.mp hc.grant
  have hgrantBody := signedArtifact_inDomain hgrant.signed
  obtain ⟨hid, hversion⟩ := grant_fields hgrant.parsed
  obtain ⟨headEnv, revs, headBody, hhead⟩ := signedHead_of_acceptedHead hc.head
  have hheadBody := signedArtifact_inDomain hhead.signed
  obtain ⟨bytes, -, hdigest⟩ : ∃ bytes, Jcs.canonicalize (.dict headBody) = .ok bytes ∧
      P.sha256Hex bytes = c.head.digest := by
    have hd := hhead.digested
    unfold digest at hd
    cases hcan : Jcs.canonicalize (.dict headBody) with
    | error e => rw [hcan] at hd; cases hd
    | ok bytes => rw [hcan] at hd; exact ⟨bytes, rfl, Except.ok.inj hd⟩
  simp only [expectedBinding, List.forall_mem_cons]
  refine ⟨Jcs.encodable_of_get hgrantBody hid, Jcs.encodable_of_get hgrantBody hversion,
    Jcs.encodable_of_get hheadBody (head_field hhead.parsed), hdigest ▸ hhex bytes, hrequest,
    hexpected, ?_, ?_, ?_, by simp⟩
  · split <;> decide
  · cases c.vgrant.approvalMode <;> decide
  · cases c.vgrant.subject.kind <;> decide

/-- A decision service that can sign makes a call return whose local checks pass. -/
theorem exists_returning (hsign : ∃ key, ∀ message, ∃ sig, P.verify key message sig = true)
    (hhex : ∀ bytes, Jcs.Encodable (P.sha256Hex bytes)) {agentPubkeyHex agentSlug : PyStr}
    (hsubject : vgrant.subject = .agentKey agentPubkeyHex agentSlug)
    (hexpected : Jcs.Encodable expected)
    (hlocal : LocallyAuthorized cfg request s now env vgrant) :
    ∃ (c : Clearance P) (s' : GateState), c.now = now ∧ c.env = env ∧
      Exec (gateEnv reliable) (authorize P cfg request expected) s (c.events request expected)
        (.done (.ok c.result)) s' := by
  obtain ⟨head, hpassed, hfresh⟩ := hlocal
  have hproof := hpassed.proof
  unfold SubjectProof at hproof
  simp only [hsubject] at hproof
  obtain ⟨binding, hagent⟩ := checkAgentKey_eq_none.mp hproof
  have hbody : Jcs.inDomain (.dict (requestBindingBody vgrant.grantId request.requestId
      request.actionDigest request.issuedAt request.channelBinding)) = true :=
    Jcs.canonicalize_isOk.mpr ⟨binding, hagent.bound⟩
  have hrequest : Jcs.Encodable request.requestId :=
    Jcs.encodable_of_get hbody (show Dict.get _ (str "request_id") = _ from rfl)
  have hissued : |request.issuedAt| ≤ Jcs.maxSafeInteger := by
    have hmem := Jcs.membersInDomain_iff.mp hbody (str "issued_at", .int request.issuedAt)
      (by simp [requestBindingBody])
    simpa [Jcs.inDomain] using hmem.2
  obtain ⟨id, hid, hidFresh⟩ := exists_fresh s.decisions
  obtain ⟨key, hkey⟩ := hsign
  let e := expectedBinding request vgrant head expected
  have hmode := approvalMode_mem vgrant.approvalMode
  have hkind := subjectKind_mem vgrant.subject.kind
  have hdisposition : e.disposition ∈ [dispositionAuthorized, dispositionNeedsApproval] := by
    show (if vgrant.permitsAuto then _ else _) ∈ _
    split <;> simp
  -- `decided_at` is the request's own time: in the window, and a safe integer
  have hdomain : Jcs.inDomain
      (.dict (decisionBody (matchingDecision e id request.issuedAt none))) = true :=
    matchingDecision_inDomain hid hissued
      (expectedBinding_encodable hhex hpassed hrequest hexpected)
  obtain ⟨bytes, hbytes⟩ := Jcs.canonicalize_isOk.mp hdomain
  obtain ⟨sig, hsig⟩ := hkey (decisionDomain ++ bytes)
  have hrecent := abs_le.mp hagent.recent
  let c : Clearance P :=
    { now, env, hw := s.mark, head, vgrant, monoSent := 0,
      decision := matchingDecision e id request.issuedAt (some sig), monoReceived := 0,
      wallVerified := now, key, monoVerified := 0 }
  have hmessage : decisionSigningInput c.decision = .ok (decisionDomain ++ bytes) := by
    show (Jcs.canonicalize _ >>= fun bytes => pure (decisionDomain ++ bytes)) = _
    rw [show decisionBody c.decision = decisionBody (matchingDecision e id request.issuedAt none)
      from rfl, hbytes]
    rfl
  have hvalid : c.Valid cfg request expected := by
    refine ⟨hpassed, verifyDecisionSig_eq_true.mpr ⟨_, sig, hmessage, rfl, hsig⟩,
      checkBinding_matching hmode hkind hdisposition, ?_, by simp [c, responseDeadlineNs]⟩
    refine decidedAtInHygieneWindow_eq_true.mpr ?_
    simp only [c, matchingDecision, PyVal.geInt, PyVal.leInt, PyVal.number?, Option.map_some,
      Option.some.injEq, decide_eq_true_eq, Int.cast_le]
    omega
  obtain ⟨s', hs'⟩ : ∃ s', Steps (gateEnv reliable) s (c.events request expected) s' :=
    ⟨_, steps_events.mpr ⟨rfl, hfresh, .str id, rfl, hidFresh, rfl⟩⟩
  exact ⟨c, s', rfl, rfl, exec_of_valid hvalid hs'⟩

/-- **Exactly when the agent's signature covers the payload.** For a request under an
`agent_key` grant: the digests are equal, or no decision makes the call return, because the
gate's own checks stop it or the payload's digest has no canonical form. -/
theorem authorize_bindsPayload (hsign : ∃ key, ∀ message, ∃ sig, P.verify key message sig = true)
    (hhex : ∀ bytes, Jcs.Encodable (P.sha256Hex bytes))
    (hgrant : verifyGrant P cfg request = .ok vgrant) {agentPubkeyHex agentSlug : PyStr}
    (hsubject : vgrant.subject = .agentKey agentPubkeyHex agentSlug) :
    (∀ τ a s', Exec (gateEnv reliable) (authorize P cfg request expected) s τ (.done (.ok a)) s' →
      τ.head? = some ⟨.now, .ok now⟩ → (⟨.sync, .ok env⟩ : GateEvent P) ∈ τ →
      request.actionDigest = expected) ↔
    request.actionDigest = expected ∨ ¬ Jcs.Encodable expected ∨
      ¬ LocallyAuthorized cfg request s now env vgrant := by
  constructor
  · intro hbinds
    by_contra hnot
    simp only [not_or, not_not] at hnot
    obtain ⟨hne, hexpected, hlocal⟩ := hnot
    obtain ⟨c, s', rfl, rfl, hexec⟩ := exists_returning hsign hhex hsubject hexpected hlocal
    refine hne (hbinds _ _ _ hexec ?_ ?_)
    · simp [Clearance.events, LocalReading.events, acceptEvents]
    · simp [Clearance.events, LocalReading.events, acceptEvents]
  · rintro hcond τ a s' hexec hnow henv
    rcases hcond with heq | hcond
    · exact heq
    -- the call returned, so everything it needed was there
    obtain ⟨c, hc, -, rfl, -⟩ := Ended.of_exec hexec
    obtain ⟨hhw, hfresh, -⟩ := steps_events.mp hexec.steps
    cases hc.local_.grant.symm.trans hgrant
    have hnow' : c.now = now := by
      simpa [Clearance.events, LocalReading.events, acceptEvents] using hnow
    have henv' : (⟨.sync, .ok env⟩ : GateEvent P) ∈ c.toLocalReading.events request expected := by
      simpa [Clearance.events] using henv
    obtain rfl := sync_mem_events henv'
    subst hnow'
    rcases hcond with hexpected | hlocal
    · obtain ⟨message, sig, hm, -, -⟩ := verifyDecisionSig_eq_true.mp hc.authentic
      obtain ⟨bytes, hbytes, -⟩ := bind_eq_ok.mp hm
      have hdomain := Jcs.canonicalize_isOk.mpr ⟨bytes, hbytes⟩
      refine absurd ?_ hexpected
      refine Jcs.encodable_of_get hdomain (show Dict.get _ (str "action_digest") = _ from ?_)
      exact (bound_of_checkBinding hc.bound).actionDigest
    · exact absurd ⟨c.head, hhw ▸ hc.local_, hfresh⟩ hlocal

end Binding

/-! ### One signature, two payloads -/

def sampleAgentSubject : Dict :=
  [(str "kind", .str (str "agent_key")), (str "agent_pubkey", .str (str "09")),
    (str "agent_slug", .str (str "s"))]

/-- A request an agent signed for the payload `d1`. -/
def agentRequest : AuthorizationRequest :=
  { sampleRequest .auto sampleAgentSubject with
    agentSig := match requestBinding sampleGrantId (str "r1") (str "d1") 1767225600 (str "ch") with
      | .ok message => some [9, message.sum]
      | .error _ => none }

/-- The grant is verified, and the call that sends `d2` returns. -/
theorem agentRequest_left :
    (verifyGrant samplePlatform sampleConfig agentRequest).toOption.map (·.subject) =
      some (.agentKey (str "09") (str "s")) ∧
    (returned? (scripted (sampleScript (sampleHead "1") .auto .agentKey (str "d2") (str "x1"))
      sampleConfig agentRequest (str "d2") GateState.initial).2.1).isSome = true := by
  decide +kernel

theorem agentRequest_grant : ∃ vgrant, verifyGrant samplePlatform sampleConfig agentRequest =
    .ok vgrant ∧ vgrant.subject = .agentKey (str "09") (str "s") := by
  have hsubject := agentRequest_left.1
  cases hv : verifyGrant samplePlatform sampleConfig agentRequest with
  | error e => rw [hv] at hsubject; cases hsubject
  | ok vgrant =>
      rw [hv] at hsubject
      exact ⟨vgrant, rfl, Option.some.inj hsubject⟩

/-- The decision service signs a decision for `d2`, and the call that sends `d2` returns. -/
theorem agentRequest_exec :
    ∃ a s' τ, Exec (gateEnv reliable) (authorize samplePlatform sampleConfig agentRequest (str "d2"))
      GateState.initial τ (.done (.ok a)) s' := by
  have hexec := scripted_exec (sampleScript (sampleHead "1") .auto .agentKey (str "d2") (str "x1"))
    reliable sampleConfig agentRequest (str "d2") GateState.initial
  obtain ⟨a, ha⟩ := Option.isSome_iff_exists.mp agentRequest_left.2
  rw [returned?_eq_some.mp ha] at hexec
  exact ⟨a, _, _, hexec⟩

/-- A signature for `d1` authorizes `d2`. -/
theorem authorize_otherPayload :
    ¬ ∀ (P : Platform) (cfg : GateConfig P) (request : AuthorizationRequest) (expected : PyStr)
      (vgrant : Grant) (agentPubkeyHex agentSlug : PyStr) (s s' : GateState)
      (τ : List (GateEvent P)) (a : Authorization),
      verifyGrant P cfg request = .ok vgrant →
      vgrant.subject = .agentKey agentPubkeyHex agentSlug →
      Exec (gateEnv reliable) (authorize P cfg request expected) s τ (.done (.ok a)) s' →
      request.actionDigest = expected := by
  intro hclaim
  obtain ⟨vgrant, hgrant, hsubject⟩ := agentRequest_grant
  obtain ⟨a, s', τ, hexec⟩ := agentRequest_exec
  exact absurd (hclaim _ _ _ _ _ _ _ _ _ _ _ hgrant hsubject hexec) (by decide)

/-- The gate's own checks let that call reach the decision service. -/
theorem authorize_bindsPayload_unbound :
    ∃ now env vgrant,
      LocallyAuthorized sampleConfig agentRequest GateState.initial now env vgrant := by
  obtain ⟨vgrant, hgrant, hsubject⟩ := agentRequest_grant
  obtain ⟨a, s', τ, hexec⟩ := agentRequest_exec
  obtain ⟨c, -, -, rfl, -⟩ := Ended.of_exec hexec
  have hsign : ∃ key, ∀ message, ∃ sig, samplePlatform.verify key message sig = true :=
    ⟨(7 : UInt8), fun message => ⟨[7, message.sum], decide_eq_true rfl⟩⟩
  have hhex : ∀ bytes, Jcs.Encodable (samplePlatform.sha256Hex bytes) :=
    fun bytes => Jcs.encodable_natDecimal _
  by_contra hnone
  have hbinds : ∀ τ a s', Exec (gateEnv reliable)
      (authorize samplePlatform sampleConfig agentRequest (str "d2")) GateState.initial τ
      (.done (.ok a)) s' → τ.head? = some ⟨.now, .ok c.now⟩ →
      (⟨.sync, .ok c.env⟩ : GateEvent samplePlatform) ∈ τ → agentRequest.actionDigest = str "d2" :=
    (authorize_bindsPayload hsign hhex hgrant hsubject).mpr
      (.inr (.inr fun hlocal => hnone ⟨_, _, _, hlocal⟩))
  refine absurd (hbinds _ _ _ hexec ?_ ?_) (by decide)
  · simp [Clearance.events, LocalReading.events, acceptEvents]
  · simp [Clearance.events, LocalReading.events, acceptEvents]

end AuthorizationGate

end GmailGateway
