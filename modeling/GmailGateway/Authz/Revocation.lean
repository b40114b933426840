import GmailGateway.Authz.Delivery
import GmailGateway.Authz.DomainSeparation

/-!
# GmailGateway.Authz.Revocation

**Revocation sticks.** The control plane advances and signs its head, a relay delivers what
it likes, and one gate is called again and again (`AuthzRun`). Nothing connects the two
parties but signatures: whatever a relay delivers, an artifact that verifies was signed
before, by the control plane or as a grant (`Unforged`).

A head that the gate accepts is then one the control plane had at some time, and since every
operation advances the version, at exactly one time. The mark keeps later calls from going
back behind it.
-/

namespace GmailGateway

open Effect Proc Python AuthorizationGate

/-! ### A body equal to a head's -/

/-- A parsed entry that is equal to a written one, up to order, is the written one. -/
theorem parseActiveEntry_of_ordered {entry : PyVal} {p q : PyStr × PyStr}
    (h : Jcs.ordered entry = Jcs.ordered (activeEntry q))
    (hp : parseActiveEntry entry = .ok p) : p = q := by
  obtain ⟨d, rfl, -, ⟨hgid, -⟩, hgver, -⟩ := parseActiveEntry_eq_ok.mp hp
  have h₁ := Jcs.ordered_get h (str "grant_id")
  have h₂ := Jcs.ordered_get h (str "grant_version")
  rw [hgid] at h₁
  rw [hgver] at h₂
  exact Prod.ext (PyVal.str.inj h₁) (PyVal.str.inj h₂)

theorem mapM_parseActiveEntry_of_ordered {entries : List PyVal} {pairs written : List (PyStr × PyStr)}
    (h : entries.map Jcs.ordered = written.map fun q => Jcs.ordered (activeEntry q))
    (hpairs : entries.mapM parseActiveEntry = .ok pairs) : pairs = written := by
  induction entries generalizing pairs written with
  | nil =>
      cases hpairs
      exact (List.map_eq_nil_iff.mp h.symm).symm
  | cons entry entries ih =>
      obtain ⟨p, pairs', hp, hrest, rfl⟩ :=
        List.forall₂_cons_left_iff.mp (Jcs.mapM_eq_ok.mp hpairs)
      cases written with
      | nil => cases h
      | cons q written =>
          obtain ⟨hq, hwritten⟩ := List.cons.inj h
          rw [parseActiveEntry_of_ordered hq hp, ih hwritten (Jcs.mapM_eq_ok.mpr hrest)]

/-- A parsed body that is equal to the head of a state, up to order, has its version and its
active set. -/
theorem parseHeadBody_of_ordered {h : HeadState} {body : Dict} {sv : PyStr} {i : Int}
    {pairs : List (PyStr × PyStr)}
    (heq : Jcs.ordered (.dict body) = Jcs.ordered (.dict h.currentBody))
    (hbody : parseHeadBody body = .ok (sv, i, pairs)) :
    i = h.versionInt ∧ pairs = headBody.sortPairs h.active := by
  obtain ⟨-, ⟨hsv, hdec⟩, ⟨active, hactive, hpairs⟩, hi⟩ := parseHeadBody_eq_ok.mp hbody
  have hversion := Jcs.ordered_get heq (str "state_version")
  have hentries := Jcs.ordered_get heq (str "active_grants")
  rw [hsv] at hversion
  rw [hactive] at hentries
  have hsv' : sv = h.stateVersion := PyVal.str.inj hversion
  have hlist : Jcs.ordered (.list active) =
      Jcs.ordered (.list ((headBody.sortPairs h.active).map activeEntry)) := hentries
  rw [Jcs.ordered_list, Jcs.ordered_list, List.map_map] at hlist
  rw [hsv'] at hdec hi
  have hnonneg : 0 ≤ h.versionInt := isCanonicalDecimal_decimal.mp hdec
  exact ⟨((pyInt_decimal hnonneg).mp hi).2,
    mapM_parseActiveEntry_of_ordered (PyVal.list.inj hlist) hpairs⟩

/-! ### Signatures -/

/-- The messages the user root has signed by the end of a history: the heads and revocations
of its states, and grants. -/
def UserRootSigned (h : HeadState) (ops : List HeadOp) (message : Bytes) : Prop :=
  (∃ pre, pre <+: ops ∧
    signingInput headArtifactType (h.run pre).currentBody = .ok message) ∨
  (∃ pre, pre <+: ops ∧ ∃ p ∈ (h.run pre).revocations,
    signingInput revocationArtifactType (revocationBody p.1 (decimal p.2)) = .ok message) ∨
  ∃ body, signingInput "grant" body = .ok message

section
variable {P : Platform} {cfg : GateConfig P} {h : HeadState} {ops : List HeadOp}

/-- A delivered artifact, of any type, whose signature over the message verifies. -/
def Carries (cfg : GateConfig P) (env : PyVal) (message : Bytes) : Prop :=
  ∃ headEnv revocationEnvs, parseSyncEnvelope env = .ok (headEnv, revocationEnvs) ∧
    ∃ artifact ∈ headEnv :: revocationEnvs, ∃ (artifactType : String) (body : Dict) (sig : Bytes),
      parseEnvelope artifact = .ok (str artifactType, body, sig) ∧
      signingInput artifactType body = .ok message ∧
      P.verify cfg.userRootPublicKey message sig = true

/-- **Unforgeability**, for one call: what verifies in the syncs it was answered had been
signed. -/
def Unforged (cfg : GateConfig P) (h : HeadState) (ops : List HeadOp) (τ : List (GateEvent P)) :
    Prop :=
  ∀ env, (⟨.sync, .ok env⟩ : GateEvent P) ∈ τ → ∀ message, Carries cfg env message →
    UserRootSigned h ops message

/-- **Agreement.** A head the gate accepts is the head of a state the control plane had. -/
theorem acceptedHead_origin {env : PyVal} {head : VerifiedHead}
    (hsigned : ∀ message, Carries cfg env message → UserRootSigned h ops message)
    (haccepted : acceptedHead cfg env = .ok head) :
    ∃ pre, pre <+: ops ∧ (h.run pre).versionInt = head.stateVersionInt ∧
      head.activeGrants = headBody.sortPairs (h.run pre).active := by
  obtain ⟨headEnv, revocationEnvs, body, hhead⟩ := signedHead_of_acceptedHead haccepted
  obtain ⟨sig, message, henv, hmessage, hverify⟩ := hhead.signed
  have hcarries : Carries cfg env message :=
    ⟨headEnv, revocationEnvs, hhead.wrapper, headEnv, List.mem_cons_self, headArtifactType, body,
      sig, henv, hmessage, hverify⟩
  rcases hsigned message hcarries with ⟨pre, hpre, horigin⟩ | ⟨pre, -, p, -, horigin⟩ |
    ⟨grantBody, horigin⟩
  · obtain ⟨-, heq⟩ := signingInput_inj hmessage horigin
    obtain ⟨hversion, hpairs⟩ := parseHeadBody_of_ordered heq hhead.parsed
    exact ⟨pre, hpre, hversion.symm, hpairs⟩
  · -- What was signed in another role is no head.
    exact absurd (signingInput_inj hmessage horigin).1 (by decide)
  · exact absurd (signingInput_inj hmessage horigin).1 (by decide)

end

/-! ### Runs -/

/-- What happens in a run: an operation of the control plane, or a call of the gate. -/
inductive AuthzEvent (P : Platform)
  | advance (headOp : HeadOp)
  | call (request : AuthorizationRequest) (expected : PyStr) (τ : List (GateEvent P))
      (out : Outcome Exc Authorization)

/-- The operations of the control plane in a run. -/
def opsOf {P : Platform} (events : List (AuthzEvent P)) : List HeadOp :=
  events.filterMap fun
    | .advance headOp => some headOp
    | .call .. => none

@[simp] theorem opsOf_append {P : Platform} (events events' : List (AuthzEvent P)) :
    opsOf (events ++ events') = opsOf events ++ opsOf events' := List.filterMap_append

section Runs
variable {P : Platform} {mayRaise : GateOp → Exc → Prop} {cfg : GateConfig P} {h₀ : HeadState}
  {s₀ : GateState}

/-- **Runs.** Operations of the control plane and calls of one gate, one after the other. A
relay answers each call as it likes, apart from forging. -/
inductive AuthzRun (mayRaise : GateOp → Exc → Prop) (cfg : GateConfig P) (h₀ : HeadState)
    (s₀ : GateState) : List (AuthzEvent P) → GateState → Prop
  | start : AuthzRun mayRaise cfg h₀ s₀ [] s₀
  | advance {events s} (headOp : HeadOp) : AuthzRun mayRaise cfg h₀ s₀ events s →
      AuthzRun mayRaise cfg h₀ s₀ (events ++ [.advance headOp]) s
  | call {events s request expected τ out s'} : AuthzRun mayRaise cfg h₀ s₀ events s →
      Exec (gateEnv mayRaise) (authorize P cfg request expected) s τ out s' →
      Unforged cfg h₀ (opsOf events) τ →
      AuthzRun mayRaise cfg h₀ s₀ (events ++ [.call request expected τ out]) s'

/-- A call of the run accepted a head of this version: it raised the mark to it. -/
def AcceptedVersion (events : List (AuthzEvent P)) (v : Int) : Prop :=
  ∃ request expected τ out, .call request expected τ out ∈ events ∧
    (⟨.hwRaise v, .ok ()⟩ : GateEvent P) ∈ τ

/-- What a call does to the mark: it never lowers it, and raises it to what it accepts. -/
theorem steps_mark {s s' : GateState} {τ : List (GateEvent P)}
    (h : Steps (gateEnv mayRaise) s τ s') :
    s.mark ≤ s'.mark ∧ ∀ v, (⟨.hwRaise v, .ok ()⟩ : GateEvent P) ∈ τ → v ≤ s'.mark := by
  induction h with
  | nil => exact ⟨le_rfl, fun v hv => absurd hv List.not_mem_nil⟩
  | @cons ev s s₁ τ s' hstep _ ih =>
      refine ⟨(mark_le hstep).trans ih.1, fun v hv => ?_⟩
      rcases List.mem_cons.mp hv with rfl | hv
      · have hraise : s₁ = { s with mark := raiseTo s.mark v } := hstep
        have hmark : v ≤ s₁.mark := by
          rw [hraise, raiseTo_eq_max]
          exact le_max_right _ _
        exact hmark.trans ih.1
      · exact ih.2 v hv

/-- **The mark** is never below an accepted version. -/
theorem acceptedVersion_le_mark {events : List (AuthzEvent P)} {s : GateState}
    (h : AuthzRun mayRaise cfg h₀ s₀ events s) {v : Int} (hv : AcceptedVersion events v) :
    v ≤ s.mark := by
  induction h with
  | start =>
      obtain ⟨_, _, _, _, hmem, -⟩ := hv
      exact absurd hmem List.not_mem_nil
  | advance headOp _ ih =>
      obtain ⟨request, expected, τ, out, hmem, hraise⟩ := hv
      refine ih ⟨request, expected, τ, out, ?_, hraise⟩
      simpa using hmem
  | @call events s request expected τ out s' _ hexec _ ih =>
      obtain ⟨request', expected', τ', out', hmem, hraise⟩ := hv
      have hmark := steps_mark hexec.steps
      rcases List.mem_append.mp hmem with hmem | hmem
      · exact (ih ⟨request', expected', τ', out', hmem, hraise⟩).trans hmark.1
      · cases List.mem_singleton.mp hmem
        exact hmark.2 v hraise

/-- The run up to a call, and the call. -/
theorem AuthzRun.split {events before after : List (AuthzEvent P)} {s : GateState}
    {request : AuthorizationRequest} {expected : PyStr} {τ : List (GateEvent P)}
    {out : Outcome Exc Authorization} (h : AuthzRun mayRaise cfg h₀ s₀ events s)
    (heq : events = before ++ .call request expected τ out :: after) :
    ∃ s₁ s₂, AuthzRun mayRaise cfg h₀ s₀ before s₁ ∧
      Exec (gateEnv mayRaise) (authorize P cfg request expected) s₁ τ out s₂ ∧
      Unforged cfg h₀ (opsOf before) τ := by
  induction h generalizing after with
  | start => simp at heq
  | @advance events s headOp hrun ih =>
      rcases List.eq_nil_or_concat' after with rfl | ⟨after, last, rfl⟩
      · cases (List.append_inj' heq rfl).2
      · rw [← List.cons_append, ← List.append_assoc] at heq
        exact ih (List.append_inj' heq rfl).1
  | @call events s request' expected' τ' out' s' hrun hexec hunforged ih =>
      rcases List.eq_nil_or_concat' after with rfl | ⟨after, last, rfl⟩
      · obtain ⟨rfl, hlast⟩ := List.append_inj' heq rfl
        cases hlast
        exact ⟨s, s', hrun, hexec, hunforged⟩
      · rw [← List.cons_append, ← List.append_assoc] at heq
        exact ih (List.append_inj' heq rfl).1

/-! ### What a returning call rests on -/

/-- **What the gate and the control plane agree on** when a call returns for a verified grant,
on an accepted head of version `n`. -/
structure Agreed (cfg : GateConfig P) (h₀ : HeadState) (before : List (AuthzEvent P))
    (request : AuthorizationRequest) (τ : List (GateEvent P)) (a : Authorization) (vgrant : Grant)
    (n : Int) : Prop where
  grant : verifyGrant P cfg request = .ok vgrant
  decided : a.decision.grantId = .str vgrant.grantId ∧
    a.decision.grantVersion = .str vgrant.grantVersion
  accepted : (⟨.hwRaise n, .ok ()⟩ : GateEvent P) ∈ τ
  /-- The control plane was at this version, -/
  known : ∃ pre, pre <+: opsOf before ∧ (h₀.run pre).versionInt = n
  /-- and the grant was active there. -/
  active : ∀ pre, pre <+: opsOf before → (h₀.run pre).versionInt = n →
    (vgrant.grantId, vgrant.grantVersion) ∈ (h₀.run pre).active
  monotone : ∀ m, AcceptedVersion before m → m ≤ n
  /-- If an earlier call accepted a version at which it was not, an operation in between made
  it active. -/
  sticks : ∀ m pre, AcceptedVersion before m → pre <+: opsOf before →
    (h₀.run pre).versionInt = m → (vgrant.grantId, vgrant.grantVersion) ∉ (h₀.run pre).active →
    ∃ mid op, pre <+: mid ∧ mid ++ [op] <+: opsOf before ∧
      op.Activates vgrant.grantId vgrant.grantVersion

/-- **Revocation sticks.** In every run, a call that returns does so for a grant that was active
at the version of the head it accepted, and no earlier call accepted a later one. -/
theorem run_revocationSticks {events before after : List (AuthzEvent P)} {s : GateState}
    {request : AuthorizationRequest} {expected : PyStr} {τ : List (GateEvent P)}
    {a : Authorization} (h : AuthzRun mayRaise cfg h₀ s₀ events s)
    (hcall : events = before ++ .call request expected τ (.done (.ok a)) :: after) :
    ∃ vgrant n, Agreed cfg h₀ before request τ a vgrant n := by
  obtain ⟨s₁, s₂, hbefore, hexec, hunforged⟩ := h.split hcall
  obtain ⟨c, hc, rfl, rfl, -⟩ := Ended.of_exec hexec
  obtain ⟨hhw, -⟩ := steps_events.mp hexec.steps
  have hbound := bound_of_checkBinding hc.bound
  have hsync : (⟨.sync, .ok c.env⟩ : GateEvent P) ∈ c.events request expected := by
    simp [Clearance.events, LocalReading.events, acceptEvents]
  have hraise : (⟨.hwRaise c.head.stateVersionInt, .ok ()⟩ : GateEvent P) ∈
      c.events request expected := by
    simp [Clearance.events, LocalReading.events, acceptEvents]
  obtain ⟨pre, hpre, hversion, hgrants⟩ :=
    acceptedHead_origin (hunforged c.env hsync) hc.local_.head
  have hlisted : (c.vgrant.grantId, c.vgrant.grantVersion) ∈ (h₀.run pre).active := by
    have happlies := checkGrant_eq_none.mp hc.local_.checks
    have hmember := happlies.active
    rw [hgrants] at hmember
    exact HeadState.mem_sortPairs.mp hmember
  have hmonotone : ∀ m, AcceptedVersion before m → m ≤ c.head.stateVersionInt := by
    intro m hm
    have hmark := acceptedVersion_le_mark hbefore hm
    rw [← hhw] at hmark
    exact hmark.trans hc.local_.fresh
  refine ⟨c.vgrant, c.head.stateVersionInt, ?_⟩
  exact {
    grant := hc.local_.grant
    decided := ⟨hbound.grantId, hbound.grantVersion⟩
    accepted := hraise
    known := ⟨pre, hpre, hversion⟩
    active := by
      intro pre' hpre' hversion'
      -- The version determines the state.
      have hle := HeadState.prefix_of_versionInt_le hpre' hpre (hversion'.trans hversion.symm).le
      have hge := HeadState.prefix_of_versionInt_le hpre hpre' (hversion.trans hversion'.symm).le
      rw [hle.eq_of_length_le hge.length_le]
      exact hlisted
    monotone := hmonotone
    sticks := by
      intro m earlier hm hearlier hversion' hinactive
      have hle : (h₀.run earlier).versionInt ≤ (h₀.run pre).versionInt := by
        rw [hversion', hversion]
        exact hmonotone m hm
      obtain ⟨between, rfl⟩ := HeadState.prefix_of_versionInt_le hearlier hpre hle
      rw [HeadState.run_append] at hlisted
      obtain ⟨mid, op, hmid, hactivates⟩ := HeadState.exists_activates hinactive hlisted
      refine ⟨earlier ++ mid, op, List.prefix_append earlier mid, ?_, hactivates⟩
      rw [List.append_assoc]
      exact ((List.prefix_append_right_inj earlier).mpr hmid).trans hpre }

end Runs

/-! ### A run with two calls -/

/-- An object that parses as an artifact envelope has the type and the body it is parsed to. -/
theorem get_of_parseEnvelope {d : Dict} {artifactType : PyStr} {body : Dict} {sig : Bytes}
    (h : parseEnvelope (.dict d) = .ok (artifactType, body, sig)) :
    d.get (str "type") = .str artifactType ∧ d.get (str "body") = .dict body := by
  simp only [parseEnvelope, bind_eq_ok, expectDict_eq_ok, expectStr_eq_ok] at h
  obtain ⟨d', hd, -, -, -, -, t, ht, -, -, b, hb, sigHex, -, hsig⟩ := h
  cases hd
  split at hsig
  · cases hsig
  · cases hsig
    exact ⟨ht, hb⟩

/-- A script that delivers the current head forges nothing. -/
theorem unforged_scripted {P : Platform} {script : GateScript P} {cfg : GateConfig P}
    {h : HeadState} {ops : List HeadOp} (hsync : script.sync = sampleSync (h.run ops).currentBody [])
    (request : AuthorizationRequest) (expected : PyStr) (s : GateState) :
    Unforged cfg h ops (scripted script cfg request expected s).1 := by
  intro env henv message hcarries
  obtain ⟨s₁, s₂, hanswer⟩ := (scripted_answers script cfg request expected s).steps.answered henv
  obtain ⟨rfl, -⟩ : env = script.sync ∧ s₂ = s₁ := by
    simpa [scriptEnv, GateState.perform] using hanswer
  obtain ⟨headEnv, revocationEnvs, hwrapper, artifact, hartifact, artifactType, body, sig, hparse,
    hmessage, -⟩ := hcarries
  rw [hsync] at hwrapper
  -- The head is the only artifact there is.
  obtain ⟨rfl, rfl⟩ : headEnv = sampleEnvelope headArtifactType (h.run ops).currentBody ∧
      revocationEnvs = [] := by
    cases hwrapper
    exact ⟨rfl, rfl⟩
  rw [List.mem_singleton.mp hartifact] at hparse
  obtain ⟨htype, hbody⟩ := get_of_parseEnvelope hparse
  have htype' : headArtifactType = artifactType := str_inj (PyVal.str.inj htype)
  have hbody' : (h.run ops).currentBody = body := PyVal.dict.inj hbody
  rw [← htype', ← hbody'] at hmessage
  exact .inl ⟨ops, List.prefix_refl ops, hmessage⟩

def againRequest (requestId : PyStr) : AuthorizationRequest :=
  { sampleRequest .auto sampleOsSubject with requestId := requestId }

/-- A scripted call at the head after `ops`. -/
def revisited (ops : List HeadOp) (requestId decisionId : PyStr) (s : GateState) :
    List (GateEvent samplePlatform) × Outcome Exc Authorization × GateState :=
  scripted (sampleScript (regrantable.run ops).currentBody .auto .osAccount (str "d1") decisionId)
    sampleConfig (againRequest requestId) (str "d1") s

theorem AuthzRun.revisit (ops : List HeadOp) {events : List (AuthzEvent samplePlatform)}
    {s : GateState} (hrun : AuthzRun reliable sampleConfig regrantable .initial events s)
    (hops : opsOf events = ops) (requestId decisionId : PyStr) :
    AuthzRun reliable sampleConfig regrantable .initial
      (events ++ [.call (againRequest requestId) (str "d1")
        (revisited ops requestId decisionId s).1 (revisited ops requestId decisionId s).2.1])
      (revisited ops requestId decisionId s).2.2 := by
  refine .call hrun (scripted_exec _ _ _ _ _ _) ?_
  rw [hops]
  exact unforged_scripted rfl _ _ _

/-- The other grant is revoked between two calls for the same grant: both return. -/
theorem run_revocationSticks_two : ∃ before request τ a vgrant n,
    opsOf before = [.revoke otherGrantId] ∧
      Agreed sampleConfig regrantable before request τ a vgrant n := by
  have hfirst := AuthzRun.start.revisit [] rfl (str "r1") (str "x1")
  have hadvanced := hfirst.advance (.revoke otherGrantId)
  have hsecond := hadvanced.revisit [.revoke otherGrantId] rfl (str "r2") (str "x2")
  obtain ⟨a, ha⟩ := Option.isSome_iff_exists.mp (show (returned? (revisited
    [.revoke otherGrantId] (str "r2") (str "x2")
    (revisited [] (str "r1") (str "x1") .initial).2.2).2.1).isSome = true by decide +kernel)
  rw [returned?_eq_some.mp ha] at hsecond
  obtain ⟨vgrant, n, hagreed⟩ := run_revocationSticks hsecond rfl
  exact ⟨_, _, _, a, vgrant, n, rfl, hagreed⟩

end GmailGateway
