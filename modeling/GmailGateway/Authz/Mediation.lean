import GmailGateway.Authz.GateState

/-!
# GmailGateway.Authz.Mediation

**Complete mediation.** What it takes for `authorize` to return: everything the gate is
meant to check was checked, against its own anchors and its own state (`Mediated`).
-/

namespace GmailGateway

open Effect Proc Python

namespace AuthorizationGate

/-! ### What the checks say -/

section Checks
variable {P : Platform} {cfg : GateConfig P} {request : AuthorizationRequest}

/-- The artifact `env` is of the type and its body is signed with the gate's own anchor. -/
def SignedArtifact (cfg : GateConfig P) (artifactType : String) (env : PyVal) (body : Dict) :
    Prop :=
  ∃ sig message, parseEnvelope env = .ok (str artifactType, body, sig) ∧
    signingInput artifactType body = .ok message ∧
    P.verify cfg.userRootPublicKey message sig = true

/-- A delivered revocation of a grant id, signed. -/
def SignedRevocation (cfg : GateConfig P) (env : PyVal) (grantId : PyStr) : Prop :=
  ∃ body, SignedArtifact cfg revocationArtifactType env body ∧
    parseRevocationBody body = .ok grantId

theorem verifyRevocations_eq_ok {envs : List PyVal} {gids : List PyStr} :
    verifyRevocations P cfg envs = .ok gids ↔ List.Forall₂ (SignedRevocation cfg) envs gids := by
  induction envs generalizing gids with
  | nil => simp [verifyRevocations, eq_comm]
  | cons env envs ih =>
      simp only [verifyRevocations, bind_eq_ok, Prod.exists, rejectIf_eq_ok, not_not,
        Bool.not_eq_false, List.forall₂_cons_left_iff, ← ih]
      constructor
      · intro h
        obtain ⟨_, body, sig, henv, -, rfl, message, hm, -, hv, gid, hgid, gids', hgids, h⟩ := h
        cases h
        exact ⟨gid, gids', ⟨body, ⟨sig, message, henv, hm, hv⟩, hgid⟩, hgids, rfl⟩
      · intro hspec
        obtain ⟨gid, gids', ⟨body, ⟨sig, message, henv, hm, hv⟩, hgid⟩, hgids, rfl⟩ := hspec
        exact ⟨_, body, sig, henv, (), rfl, message, hm, (), hv, gid, hgid, gids', hgids, rfl⟩

/-- The head is what a sync delivered, signed, and so is every revocation it came with. -/
structure SignedHead (cfg : GateConfig P) (env : PyVal) (head : VerifiedHead) (headEnv : PyVal)
    (revocationEnvs : List PyVal) (body : Dict) : Prop where
  wrapper : parseSyncEnvelope env = .ok (headEnv, revocationEnvs)
  signed : SignedArtifact cfg headArtifactType headEnv body
  parsed : parseHeadBody body = .ok (head.stateVersion, head.stateVersionInt, head.activeGrants)
  digested : digest P (.dict body) = .ok head.digest
  revocations : List.Forall₂ (SignedRevocation cfg) revocationEnvs head.seenRevocations

theorem signedHead_of_acceptedHead {env : PyVal} {head : VerifiedHead}
    (h : acceptedHead cfg env = .ok head) :
    ∃ headEnv revocationEnvs body, SignedHead cfg env head headEnv revocationEnvs body := by
  obtain ⟨synced, hsync, h⟩ := bind_eq_ok.mp h
  obtain ⟨d, hd, h⟩ := bind_eq_ok.mp h
  cases h
  obtain ⟨headEnv, revs, sig, message, hwrap, henv, hm, hv, hbody, hrevs⟩ :=
    verifySync_eq_ok.mp hsync
  exact ⟨headEnv, revs, synced.body, hwrap, ⟨sig, message, henv, hm, hv⟩, hbody, hd,
    verifyRevocations_eq_ok.mp hrevs⟩

/-- The grant is signed, well-formed and issued by the pinned issuer. -/
structure SignedGrant (cfg : GateConfig P) (env : PyVal) (vgrant : Grant) (body : Dict) :
    Prop where
  signed : SignedArtifact cfg "grant" env body
  parsed : parseGrantBody P body = .ok vgrant
  issuer : vgrant.issuerFp = cfg.pinnedIssuerFp

theorem verifyGrant_eq_ok {vgrant : Grant} :
    verifyGrant P cfg request = .ok vgrant ↔
      ∃ body, SignedGrant cfg request.grantEnvelope vgrant body := by
  simp only [verifyGrant, bind_eq_ok, Prod.exists, asDenial_eq_ok, rejectIf_eq_ok, not_not,
    Bool.not_eq_false]
  constructor
  · intro h
    obtain ⟨_, body, sig, henv, -, rfl, message, hm, -, hv, g, hg, -, hissuer, h⟩ := h
    cases h
    exact ⟨body, ⟨sig, message, henv, hm, hv⟩, hg, hissuer⟩
  · intro hspec
    obtain ⟨body, ⟨sig, message, henv, hm, hv⟩, hg, hissuer⟩ := hspec
    exact ⟨_, body, sig, henv, (), rfl, message, hm, (), hv, vgrant, hg, (), hissuer, rfl⟩

/-- Active, valid now, short enough and for this account. -/
structure GrantApplies (cfg : GateConfig P) (now : Int) (head : VerifiedHead) (vgrant : Grant) :
    Prop where
  active : (vgrant.grantId, vgrant.grantVersion) ∈ head.activeGrants
  notRevoked : vgrant.grantId ∉ head.seenRevocations
  notBefore : vgrant.validFrom - 300 ≤ now
  notAfter : now ≤ vgrant.validUntil + 300
  span : vgrant.validUntil - vgrant.validFrom ≤ 7 * 24 * 3600
  scope : vgrant.fromAccount = cfg.gatewayAccount

theorem checkGrant_eq_none {now : Int} {head : VerifiedHead} {vgrant : Grant} :
    checkGrant P cfg now head vgrant = none ↔ GrantApplies cfg now head vgrant := by
  unfold checkGrant
  constructor
  · intro h
    split at h
    · cases h
    · cases h
    · cases h
    · rename_i hactive
      obtain ⟨hrevoked, hmem⟩ := VerifiedHead.membership_eq_active.mp hactive
      split_ifs at h with h₁ h₂ h₃ h₄
      simp only [clockSkewSeconds, validityCapSeconds] at h₁ h₂ h₃
      exact ⟨hmem, hrevoked, by omega, by omega, by omega, not_not.mp h₄⟩
  · intro h
    rw [VerifiedHead.membership_eq_active.mpr ⟨h.notRevoked, h.active⟩]
    have hbefore : ¬ now < vgrant.validFrom - clockSkewSeconds := not_lt.mpr h.notBefore
    have hafter : ¬ now > vgrant.validUntil + clockSkewSeconds := not_lt.mpr h.notAfter
    have hspan : ¬ vgrant.validUntil - vgrant.validFrom > validityCapSeconds := not_lt.mpr h.span
    simp only [hbefore, hafter, hspan, h.scope, if_false, ne_eq, not_true_eq_false]

/-- The agent signed this request, recently, with the gate's challenge. -/
structure AgentSigned (cfg : GateConfig P) (request : AuthorizationRequest) (now : Int)
    (grantId agentPubkeyHex : PyStr) (binding : Bytes) : Prop where
  bound : requestBinding grantId request.requestId request.actionDigest request.issuedAt
    request.channelBinding = .ok binding
  signed : ∃ agentSig agentPub, request.agentSig = some agentSig ∧
    (fromHex agentPubkeyHex).bind P.fromPublicBytes = some agentPub ∧
    P.verify agentPub binding agentSig = true
  recent : |now - request.issuedAt| ≤ 300
  challenge : request.channelBinding = cfg.channelChallenge

theorem checkAgentKey_eq_none {now : Int} {grantId agentPubkeyHex : PyStr} :
    checkAgentKey P cfg request now grantId agentPubkeyHex = .ok none ↔
      ∃ binding, AgentSigned cfg request now grantId agentPubkeyHex binding := by
  unfold checkAgentKey
  constructor
  · intro h
    split at h
    · cases h
    rename_i agentSig hsig
    split at h
    · cases h
    rename_i agentPub hpub
    obtain ⟨binding, hbinding, h⟩ := bind_eq_ok.mp h
    split at h
    · cases h
    rename_i hverify
    split at h
    · cases h
    rename_i hrecent
    split at h
    · cases h
    rename_i hchallenge
    exact ⟨binding, hbinding, ⟨agentSig, agentPub, hsig, hpub, Bool.eq_true_of_not_eq_false hverify⟩,
      not_lt.mp hrecent, not_not.mp hchallenge⟩
  · intro hspec
    obtain ⟨binding, hbinding, ⟨agentSig, agentPub, hsig, hpub, hverify⟩, hrecent, hchallenge⟩ := hspec
    have hfresh : ¬ requestFreshnessSeconds < |now - request.issuedAt| := not_lt.mpr hrecent
    simp only [hsig, hpub, hbinding, bind, Except.bind, hverify, Bool.true_eq_false, if_false,
      hfresh]
    rw [if_neg (not_not.mpr hchallenge)]
    rfl

/-- The decision carries a signature of its own body. -/
theorem verifyDecisionSig_eq_true {key : P.PublicKey} {d : Decision} :
    verifyDecisionSig P key d = .ok true ↔ ∃ message sig, decisionSigningInput d = .ok message ∧
      d.sig = some sig ∧ P.verify key message sig = true := by
  simp only [verifyDecisionSig, bind_eq_ok]
  refine exists_congr fun message => ?_
  constructor
  · intro h
    obtain ⟨hm, h⟩ := h
    cases hsig : d.sig with
    | none => rw [hsig] at h; cases h
    | some sig =>
        rw [hsig] at h
        exact ⟨sig, hm, rfl, Except.ok.inj h⟩
  · intro hspec
    obtain ⟨sig, hm, hsig, hv⟩ := hspec
    refine ⟨hm, ?_⟩
    rw [hsig]
    exact congrArg _ hv

/-- `decided_at` is a number in `[request_now - 300, wall_verified + 300]`. -/
theorem decidedAtInHygieneWindow_eq_true {decidedAt : PyVal} {requestNow wallVerified : Int} :
    decidedAtInHygieneWindow decidedAt requestNow wallVerified = .ok true ↔
      decidedAt.geInt (requestNow - 300) = some true ∧
        decidedAt.leInt (wallVerified + 300) = some true := by
  unfold decidedAtInHygieneWindow
  simp only [decidedAtSlackSeconds]
  split
  · simp_all
  · simp_all
  · split <;> simp_all

end Checks

/-! ### What the events do to the gate -/

section Steps
variable {P : Platform} {mayRaise : GateOp → Exc → Prop} {request : AuthorizationRequest}
  {expected : PyStr} {s s' : GateState}

/-- What a subject proof does: nothing. -/
theorem steps_proofEvents {vgrant : Grant} :
    Steps (gateEnv (P := P) mayRaise) s (proofEvents request vgrant) s' ↔ s' = s := by
  unfold proofEvents
  split <;> simp [gateEnv]

/-- The key of a call at the request consumer. -/
def LocalReading.requestKey (c : LocalReading) (request : AuthorizationRequest) : PyStr :=
  AuthorizationGate.requestKey c.vgrant.grantId request.requestId

/-- The local checks read the mark, raise it and consume the request for the first time. -/
theorem steps_localEvents {c : LocalReading} :
    Steps (gateEnv (P := P) mayRaise) s (c.events request expected) s' ↔
      c.hw = s.mark ∧ s.requests.holds (c.requestKey request) = false ∧
        s' = { s with mark := raiseTo s.mark c.head.stateVersionInt,
                      requests := (s.requests.consumeOnce (c.requestKey request) expected).2 } := by
  simp only [LocalReading.events, acceptEvents, steps_append, steps_cons, steps_nil,
    steps_proofEvents, gateEnv]
  constructor
  · intro h
    obtain ⟨_, ⟨_, ⟨_, rfl, _, rfl, _, ⟨hhw, rfl⟩, _, rfl, rfl⟩, rfl⟩, _, ⟨hfirst, rfl⟩, rfl⟩ := h
    exact ⟨hhw, LockedConsumer.consumeOnce_fst.mp hfirst.symm, rfl⟩
  · intro h
    obtain ⟨hhw, hfirst, rfl⟩ := h
    exact ⟨_, ⟨_, ⟨_, rfl, _, rfl, _, ⟨hhw, rfl⟩, _, rfl, rfl⟩, rfl⟩, _,
      ⟨(LockedConsumer.consumeOnce_fst.mpr hfirst).symm, rfl⟩, rfl⟩

/-- A call that returned also consumed its decision for the first time and wrote one row. -/
theorem steps_events {c : Clearance P} :
    Steps (gateEnv mayRaise) s (c.events request expected) s' ↔
      c.hw = s.mark ∧ s.requests.holds (c.requestKey request) = false ∧
        ∃ key, c.decision.decisionId.hashKey = some key ∧ s.decisions.holds key = false ∧
          s' = { mark := raiseTo s.mark c.head.stateVersionInt,
                 requests := (s.requests.consumeOnce (c.requestKey request) expected).2,
                 decisions := (s.decisions.consumeOnce key expected).2,
                 audit := s.audit ++ [successRow request c.now c.vgrant c.head
                   (c.expectedBinding request expected) c.decision] } := by
  simp only [Clearance.events, steps_append, steps_localEvents, steps_cons, steps_nil, gateEnv]
  constructor
  · rintro ⟨_, ⟨hhw, hreq, rfl⟩, _, rfl, _, rfl, _, rfl, _, rfl, _, rfl, _, rfl, _,
      ⟨key, hkey, hfirst, rfl⟩, _, rfl, rfl⟩
    exact ⟨hhw, hreq, key, hkey, LockedConsumer.consumeOnce_fst.mp hfirst.symm, rfl⟩
  · intro h
    obtain ⟨hhw, hreq, key, hkey, hfirst, rfl⟩ := h
    exact ⟨_, ⟨hhw, hreq, rfl⟩, _, rfl, _, rfl, _, rfl, _, rfl, _, rfl, _, rfl, _,
      ⟨key, hkey, (LockedConsumer.consumeOnce_fst.mpr hfirst).symm, rfl⟩, _, rfl, rfl⟩

end Steps

/-! ### Every clearance is a call

Conversely, nothing else is needed for a call to return. -/

section Completeness
variable {P : Platform} {cfg : GateConfig P} {request : AuthorizationRequest} {expected : PyStr}

theorem may_answer {o : GateOp} {r : Except Exc (o.Ret P)} : anything (P := P) () o r () := trivial

theorem syncAndAccept_exec {now : Int} {env : PyVal} {hw : Int} {head : VerifiedHead}
    (hhead : acceptedHead cfg env = .ok head) (hle : hw ≤ head.stateVersionInt) :
    Exec (anything (P := P)) (syncAndAccept P cfg request now) ()
      [⟨.sync, .ok env⟩, ⟨.hwGet, .ok hw⟩, ⟨.hwRaise head.stateVersionInt, .ok ()⟩]
      (.done (.ok head)) () := by
  obtain ⟨synced, hsync, h⟩ := bind_eq_ok.mp hhead
  obtain ⟨d, hd, h⟩ := bind_eq_ok.mp h
  cases h
  unfold syncAndAccept
  refine .try_perform_bind may_answer (.try_embed_bind hsync (.try_perform_bind may_answer ?_))
  rw [if_neg (not_lt.mpr hle)]
  exact .try_perform_bind may_answer (.embed_bind hd .ret)

theorem localDecisions_exec {c : LocalReading} (hc : c.Passed cfg request) :
    Exec (anything (P := P)) (localDecisions P cfg request c.now c.head c.vgrant) ()
      (proofEvents request c.vgrant) (.done (.ok none)) () := by
  have hproof := hc.proof
  unfold SubjectProof at hproof
  unfold localDecisions proofEvents
  rw [hc.checks]
  show Exec _ (checkSubject P cfg request c.now c.vgrant) _ _ _ _
  unfold checkSubject
  cases hsubject : c.vgrant.subject with
  | osAccount machineId account =>
      show Exec _ (call P (.peer request) >>= fun peer => _) _ _ _ _
      refine .perform_bind may_answer ?_
      rw [if_pos rfl]
      exact .ret
  | agentKey agentPubkeyHex agentSlug =>
      rw [hsubject] at hproof
      show Exec _ (embed (checkAgentKey P cfg request c.now c.vgrant.grantId _)) _ _ _ _
      rw [hproof]
      exact .ret

theorem authorizeLocally_exec {c : LocalReading} (hc : c.Passed cfg request) :
    Exec (anything (P := P)) (authorizeLocally P cfg request c.now expected) ()
      (([⟨.sync, .ok c.env⟩, ⟨.hwGet, .ok c.hw⟩,
          ⟨.hwRaise c.head.stateVersionInt, .ok ()⟩] : List (GateEvent P)) ++
        (proofEvents request c.vgrant ++
          [⟨.consumeRequest (requestKey c.vgrant.grantId request.requestId) expected, .ok true⟩]))
      (.done (.ok (c.head, c.vgrant))) () := by
  unfold authorizeLocally
  refine .bind (syncAndAccept_exec hc.head hc.fresh) (.try_embed_bind hc.grant ?_)
  refine .bind (localDecisions_exec hc) ?_
  exact .try_perform_bind may_answer .ret

theorem settleDecision_exec {c : Clearance P} (hc : c.Valid cfg request expected) :
    Exec anything (settleDecision P request c.now c.head c.vgrant expected c.monoSent c.decision) ()
      [⟨.clock, .ok c.monoReceived⟩, ⟨.now, .ok c.wallVerified⟩, ⟨.decisionPublicKey, .ok c.key⟩,
        ⟨.clock, .ok c.monoVerified⟩, ⟨.consumeDecision c.decision.decisionId expected, .ok true⟩,
        ⟨.record (successRow request c.now c.vgrant c.head (c.expectedBinding request expected)
          c.decision), .ok ()⟩] (.done (.ok c.result)) () := by
  unfold settleDecision
  refine .perform_bind may_answer (.perform_bind may_answer (.perform_bind may_answer ?_))
  refine .embed_bind hc.authentic ?_
  rw [if_neg (by simp)]
  refine .embed_bind hc.bound (.embed_bind hc.window ?_)
  rw [if_neg (by simp)]
  refine .perform_bind may_answer ?_
  rw [if_neg (not_lt.mpr hc.deadline)]
  refine .try_perform_bind may_answer ?_
  rw [if_pos rfl]
  exact .perform_bind may_answer .ret

/-- **Completeness.** Where every check passes and the surroundings take its events, the call
returns. -/
theorem exec_of_valid {σ : Type} {W : Env (GateSig P) Exc σ} {s s' : σ} {c : Clearance P}
    (hc : c.Valid cfg request expected) (hs : Steps W s (c.events request expected) s') :
    Exec W (authorize P cfg request expected) s (c.events request expected)
      (.done (.ok c.result)) s' := by
  have hevents : c.events request expected =
      ⟨.now, .ok c.now⟩ :: ((([⟨.sync, .ok c.env⟩, ⟨.hwGet, .ok c.hw⟩,
          ⟨.hwRaise c.head.stateVersionInt, .ok ()⟩] : List (GateEvent P)) ++
        (proofEvents request c.vgrant ++
          [⟨.consumeRequest (requestKey c.vgrant.grantId request.requestId) expected, .ok true⟩])) ++
        (⟨.clock, .ok c.monoSent⟩ :: ⟨.decide request c.now, .ok c.decision⟩ ::
          [⟨.clock, .ok c.monoReceived⟩, ⟨.now, .ok c.wallVerified⟩,
            ⟨.decisionPublicKey, .ok c.key⟩, ⟨.clock, .ok c.monoVerified⟩,
            ⟨.consumeDecision c.decision.decisionId expected, .ok true⟩,
            ⟨.record (successRow request c.now c.vgrant c.head (c.expectedBinding request expected)
              c.decision), .ok ()⟩])) := by
    simp [Clearance.events, LocalReading.events, acceptEvents]
  have hexec : Exec (anything (P := P)) (authorize P cfg request expected) ()
      (c.events request expected) (.done (.ok c.result)) () := by
    rw [hevents]
    refine .perform_bind may_answer (.bind (authorizeLocally_exec hc.local_) ?_)
    exact .perform_bind may_answer (.try_perform_bind may_answer (settleDecision_exec hc))
  exact hexec.of_steps hs

end Completeness

/-! ### Mediation -/

/-- The subject of the grant is the peer the gate resolved, or the agent that signed. -/
def ProvenSubject {P : Platform} (cfg : GateConfig P) (request : AuthorizationRequest)
    (c : Clearance P) (τ : List (GateEvent P)) : Prop :=
  match c.vgrant.subject with
  | .osAccount machineId account =>
      (⟨.peer request, .ok (some ⟨machineId, account⟩)⟩ : GateEvent P) ∈ τ
  | .agentKey agentPubkeyHex _ =>
      ∃ binding, AgentSigned cfg request c.now c.vgrant.grantId agentPubkeyHex binding

/-- **What a returned call rests on**, from the state `s` before it to `s'` after it. -/
structure Mediated {P : Platform} (cfg : GateConfig P) (request : AuthorizationRequest)
    (expected : PyStr) (s : GateState) (c : Clearance P) (τ : List (GateEvent P))
    (s' : GateState) : Prop where
  head : ∃ headEnv revocationEnvs body, SignedHead cfg c.env c.head headEnv revocationEnvs body
  mark_before : s.mark ≤ c.head.stateVersionInt
  mark_after : c.head.stateVersionInt ≤ s'.mark
  grant : ∃ body, SignedGrant cfg request.grantEnvelope c.vgrant body
  applies : GrantApplies cfg c.now c.head c.vgrant
  subject : ProvenSubject cfg request c τ
  request_fresh : s.requests.holds (c.requestKey request) = false ∧
    s'.requests.holds (c.requestKey request) = true
  authentic : ∃ message sig, decisionSigningInput c.decision = .ok message ∧
    c.decision.sig = some sig ∧ P.verify c.key message sig = true
  bound : Bound c.decision (c.expectedBinding request expected)
  window : c.decision.decidedAt.geInt (c.now - 300) = some true ∧
    c.decision.decidedAt.leInt (c.wallVerified + 300) = some true
  deadline : c.monoVerified - c.monoSent ≤ 5 * 1000000000
  decision_fresh : ∃ key, c.decision.decisionId.hashKey = some key ∧
    s.decisions.holds key = false ∧ s'.decisions.holds key = true
  recorded : s'.audit = s.audit ++ [successRow request c.now c.vgrant c.head
    (c.expectedBinding request expected) c.decision]

/-- **Complete mediation.** For every request, state of the gate and answers of its
surroundings, a call that returns has passed every check. -/
theorem authorize_mediated {P : Platform} {mayRaise : GateOp → Exc → Prop} {cfg : GateConfig P}
    {request : AuthorizationRequest} {expected : PyStr} {s s' : GateState}
    {τ : List (GateEvent P)} {a : Authorization}
    (h : Exec (gateEnv mayRaise) (authorize P cfg request expected) s τ (.done (.ok a)) s') :
    ∃ c : Clearance P, a = c.result ∧ τ = c.events request expected ∧
      Mediated cfg request expected s c τ s' := by
  obtain ⟨c, hc, ha, hτ, -⟩ := Ended.of_exec h
  obtain ⟨hhw, hrequest, key, hkey, hdecision, hs'⟩ := steps_events.mp (hτ ▸ h.steps)
  refine ⟨c, ha, hτ, ?_⟩
  exact {
    head := signedHead_of_acceptedHead hc.local_.head
    mark_before := hhw ▸ hc.local_.fresh
    mark_after := by
      rw [hs', raiseTo_eq_max]
      exact le_max_right _ _
    grant := verifyGrant_eq_ok.mp hc.local_.grant
    applies := checkGrant_eq_none.mp hc.local_.checks
    subject := by
      have hproof := hc.local_.proof
      unfold SubjectProof at hproof
      unfold ProvenSubject
      split
      · rename_i machineId account hsubject
        rw [hτ]
        simp [Clearance.events, LocalReading.events, proofEvents, hsubject]
      · rename_i agentPubkeyHex agentSlug hsubject
        rw [hsubject] at hproof
        exact checkAgentKey_eq_none.mp hproof
    request_fresh := by
      rw [hs']
      exact ⟨hrequest, LockedConsumer.holds_consumeOnce.mpr (.inr rfl)⟩
    authentic := verifyDecisionSig_eq_true.mp hc.authentic
    bound := bound_of_checkBinding hc.bound
    window := decidedAtInHygieneWindow_eq_true.mp hc.window
    deadline := hc.deadline
    decision_fresh := by
      rw [hs']
      exact ⟨key, hkey, hdecision, LockedConsumer.holds_consumeOnce.mpr (.inr rfl)⟩
    recorded := by rw [hs'] }

/-- A first call with an `auto` grant returns, with everything checked. -/
theorem authorize_mediated_first :
    ∃ (a : Authorization) (s' : GateState) (c : Clearance samplePlatform)
      (τ : List (GateEvent samplePlatform)), a = c.result ∧
      Mediated sampleConfig (sampleRequest .auto sampleOsSubject) (str "d1") GateState.initial c τ
        s' := by
  have hexec := scripted_exec (sampleScript (sampleHead "1") .auto .osAccount (str "d1") (str "x1"))
    reliable sampleConfig (sampleRequest .auto sampleOsSubject) (str "d1") GateState.initial
  have hreturned : (returned? (scripted (sampleScript (sampleHead "1") .auto .osAccount (str "d1")
      (str "x1")) sampleConfig (sampleRequest .auto sampleOsSubject) (str "d1")
      GateState.initial).2.1).isSome = true := by decide +kernel
  obtain ⟨a, ha⟩ := Option.isSome_iff_exists.mp hreturned
  rw [returned?_eq_some.mp ha] at hexec
  obtain ⟨c, hc, -, hmediated⟩ := authorize_mediated hexec
  exact ⟨a, _, c, _, hc, hmediated⟩

end AuthorizationGate

end GmailGateway
