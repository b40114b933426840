import GmailGateway.Authz.Domain

/-!
# GmailGateway.Authz.GateSpec

**The specification of `authorize`.** Whatever a call's surroundings answer or raise, it
ends in one of four ways: it returned, and everything it read and checked is a
`Clearance`; it was refused, with one denial row; a stray exception escaped; or a
collaborator it relies on raised (`Ended`). On the way, the operations that matter to
other calls are guarded by what was done before them (`Guard`).

The later modules are read off `authorize_spec` and never open the procedure again.
-/

namespace GmailGateway

open Effect Proc Python

namespace AuthorizationGate

variable {P : Platform}

/-- Surroundings that may answer or raise anything. -/
abbrev anything : Env (GateSig P) Exc Unit := anyAnswer fun _ _ => True

/-! ### The accepted head -/

/-- The head a sync delivered, as the gate accepts it. -/
def acceptedHead (cfg : GateConfig P) (env : PyVal) : Except Exc VerifiedHead := do
  let synced ← verifySync P cfg env
  let headDigest ← digest P (.dict synced.body)
  pure { stateVersion := synced.stateVersion, stateVersionInt := synced.stateVersionInt,
         activeGrants := synced.pairs, digest := headDigest,
         seenRevocations := synced.seenRevocations }

theorem verifySync_eq_ok {cfg : GateConfig P} {env : PyVal} {synced : SyncedState} :
    verifySync P cfg env = .ok synced ↔
      ∃ headEnv revocationEnvs sig message,
        parseSyncEnvelope env = .ok (headEnv, revocationEnvs) ∧
        parseEnvelope headEnv = .ok (str headArtifactType, synced.body, sig) ∧
        signingInput headArtifactType synced.body = .ok message ∧
        P.verify cfg.userRootPublicKey message sig = true ∧
        parseHeadBody synced.body =
          .ok (synced.stateVersion, synced.stateVersionInt, synced.pairs) ∧
        verifyRevocations P cfg revocationEnvs = .ok synced.seenRevocations := by
  simp only [verifySync, bind_eq_ok, Prod.exists, rejectIf_eq_ok, not_not, Bool.not_eq_false]
  constructor
  · rintro ⟨headEnv, revs, henv, ty, body, sig, hhead, -, rfl, message, hm, -, hv, sv, i, pairs,
      hbody, seen, hseen, h⟩
    cases h
    exact ⟨headEnv, revs, sig, message, henv, hhead, hm, hv, hbody, hseen⟩
  · intro hspec
    obtain ⟨headEnv, revs, sig, message, henv, hhead, hm, hv, hbody, hseen⟩ := hspec
    exact ⟨headEnv, revs, henv, _, _, sig, hhead, (), rfl, message, hm, (), hv, _, _, _, hbody, _,
      hseen, rfl⟩

/-- A body that was verified has a digest: both are made from its canonical form. -/
theorem acceptedHead_of_verifySync {cfg : GateConfig P} {env : PyVal} {synced : SyncedState}
    (h : verifySync P cfg env = .ok synced) :
    ∃ d, digest P (.dict synced.body) = .ok d ∧
      acceptedHead cfg env =
        .ok { stateVersion := synced.stateVersion, stateVersionInt := synced.stateVersionInt,
              activeGrants := synced.pairs, digest := d,
              seenRevocations := synced.seenRevocations } := by
  obtain ⟨-, -, -, message, -, -, hm, -⟩ := verifySync_eq_ok.mp h
  obtain ⟨bytes, hbytes, -⟩ := signingInput_eq_ok.mp hm
  have hd : digest P (.dict synced.body) = .ok (P.sha256Hex bytes) := by
    rw [digest, hbytes]
    rfl
  refine ⟨_, hd, ?_⟩
  simp only [acceptedHead, h, hd, bind, Except.bind, pure, Except.pure]

/-! ### What a call was answered -/

section Calls
variable (cfg : GateConfig P) (request : AuthorizationRequest) (expected : PyStr)

/-- No value that the call gets to verify strays: the sync it was answered; the grant, once
the head was accepted; the subject proof, once the checks before it passed; the decision,
once the decision service's key was read. -/
structure NoStray (τ : List (GateEvent P)) : Prop where
  sync : ∀ env, (⟨.sync, .ok env⟩ : GateEvent P) ∈ τ → ¬ SyncStray cfg env
  grant : ∀ v u, (⟨.hwRaise v, .ok u⟩ : GateEvent P) ∈ τ → ¬ GrantStray cfg request.grantEnvelope
  proof : ∀ now env v u head vgrant, τ.head? = some ⟨.now, .ok now⟩ →
    (⟨.sync, .ok env⟩ : GateEvent P) ∈ τ → (⟨.hwRaise v, .ok u⟩ : GateEvent P) ∈ τ →
    acceptedHead cfg env = .ok head → verifyGrant P cfg request = .ok vgrant →
    checkGrant P cfg now head vgrant = none → ¬ ProofStray (P := P) request vgrant
  decision : ∀ env head vgrant now d key, (⟨.sync, .ok env⟩ : GateEvent P) ∈ τ →
    acceptedHead cfg env = .ok head → verifyGrant P cfg request = .ok vgrant →
    (⟨.decide request now, .ok d⟩ : GateEvent P) ∈ τ →
    (⟨.decisionPublicKey, .ok key⟩ : GateEvent P) ∈ τ →
    ¬ DecisionStray key d (expectedBinding request vgrant head expected)

/-- What was done before an operation: the mark is raised to the version of a verified head
that is not below the mark read before, and the decision service is asked once the request
was consumed. -/
def Guard : GateOp → List (GateEvent P) → Prop
  | .hwRaise v, τ => ∃ env synced hw, (⟨.sync, .ok env⟩ : GateEvent P) ∈ τ ∧
      verifySync P cfg env = .ok synced ∧ v = synced.stateVersionInt ∧
      τ.getLast? = some ⟨.hwGet, .ok hw⟩ ∧ hw ≤ v
  | .decide req _, τ => req = request ∧ ∃ vgrant, verifyGrant P cfg request = .ok vgrant ∧
      (⟨.consumeRequest (requestKey vgrant.grantId request.requestId) expected,
        .ok true⟩ : GateEvent P) ∈ τ
  | _, _ => True

end Calls

/-- A collaborator that the gate relies on raised: a clock, the peer resolver, the audit
log, the decision service's key, or the sync source with anything but
`AuthorizationUnavailable`. -/
def Breaks : GateEvent P → Prop
  | ⟨.now, .error _⟩ | ⟨.clock, .error _⟩ | ⟨.peer _, .error _⟩ | ⟨.record _, .error _⟩
  | ⟨.decisionPublicKey, .error _⟩ => True
  | ⟨.sync, .error e⟩ => e ≠ .authorizationUnavailable
  | _ => False

/-- No row was appended. -/
def NoRecord (τ : List (GateEvent P)) : Prop :=
  ∀ row r, (⟨.record row, r⟩ : GateEvent P) ∉ τ

/-- How a call that raised ended. -/
inductive Failed (cfg : GateConfig P) (request : AuthorizationRequest) (expected : PyStr) :
    Exc → List (GateEvent P) → Prop
  | denied {τ now reason detail vgrant} : NoRecord τ → NoStray cfg request expected τ →
      Failed cfg request expected .authorizationDenied
        (τ ++ [⟨.record (denialRow P request now reason detail vgrant), .ok ()⟩])
  | escaped {τ e} : NoRecord τ → ¬ NoStray cfg request expected τ → IsStray e →
      Failed cfg request expected e τ
  | broke {τ e} : (∃ ev ∈ τ, Breaks ev) → Failed cfg request expected e τ

/-! ### Stages

A stage is specified by what it returns; everything else it may end with is `Failed`. -/

/-- `K` where a stage returned. -/
abbrev Post {α : Type} (cfg : GateConfig P) (request : AuthorizationRequest) (expected : PyStr)
    (K : α → List (GateEvent P) → Prop) : Except Exc α → List (GateEvent P) → Unit → Prop :=
  andThen (fun a τ _ => K a τ) fun e τ _ => Failed cfg request expected e τ

/-- The stage `p`, after the events `τ`. -/
abbrev Meets {α : Type} (cfg : GateConfig P) (request : AuthorizationRequest) (expected : PyStr)
    (p : GateProc P α) (τ : List (GateEvent P)) (K : α → List (GateEvent P) → Prop) : Prop :=
  p.sat anything (fun τ _ => Guarded (Guard cfg request expected) τ)
    (Post cfg request expected K) τ ()

/-- An event that neither records anything nor answers with a value that may stray. -/
def Plain : GateEvent P → Prop
  | ⟨.sync, .ok _⟩ | ⟨.hwRaise _, _⟩ | ⟨.decide _ _, _⟩ | ⟨.decisionPublicKey, .ok _⟩
  | ⟨.record _, _⟩ => False
  | _ => True

/-- Between two stages: nothing recorded, nothing strayed. -/
structure Ready (cfg : GateConfig P) (request : AuthorizationRequest) (expected : PyStr)
    (τ : List (GateEvent P)) : Prop where
  guarded : Guarded (Guard cfg request expected) τ
  noRecord : NoRecord τ
  noStray : NoStray cfg request expected τ

section Stages
variable {cfg : GateConfig P} {request : AuthorizationRequest} {expected : PyStr}
  {τ : List (GateEvent P)} {α : Type} {K : α → List (GateEvent P) → Prop}

theorem Plain.guard {ev : GateEvent P} (h : Plain ev) : Guard cfg request expected ev.op τ := by
  obtain ⟨o, r⟩ := ev
  cases o with
  | hwRaise v => exact h.elim
  | decide req now => exact h.elim
  | _ => trivial

theorem NoRecord.concat (h : NoRecord τ) {ev : GateEvent P}
    (hev : ∀ row r, ev ≠ ⟨.record row, r⟩) : NoRecord (τ ++ [ev]) := by
  intro row r hmem
  rcases List.mem_append.mp hmem with hmem | hmem
  · exact h row r hmem
  · exact hev row r (List.mem_singleton.mp hmem).symm

theorem mem_of_mem_concat {ev e : GateEvent P} (hne : e ≠ ev) (h : e ∈ τ ++ [ev]) : e ∈ τ := by
  rcases List.mem_append.mp h with h | h
  · exact h
  · exact absurd (List.mem_singleton.mp h) hne

/-- After the head was accepted, only a decision can still stray. -/
theorem NoStray.concat_decision (h : NoStray cfg request expected τ) {ev : GateEvent P}
    (hsync : ∀ env, ⟨.sync, .ok env⟩ ≠ ev) (hraise : ∀ v u, ⟨.hwRaise v, .ok u⟩ ≠ ev)
    (hdecision : ∀ env head vgrant now d key, (⟨.sync, .ok env⟩ : GateEvent P) ∈ τ →
      acceptedHead cfg env = .ok head → verifyGrant P cfg request = .ok vgrant →
      (⟨.decide request now, .ok d⟩ : GateEvent P) ∈ τ ++ [ev] →
      (⟨.decisionPublicKey, .ok key⟩ : GateEvent P) ∈ τ ++ [ev] →
      ¬ DecisionStray key d (expectedBinding request vgrant head expected)) :
    NoStray cfg request expected (τ ++ [ev]) := by
  refine ⟨fun env h₁ => h.sync env (mem_of_mem_concat (hsync env) h₁),
    fun v u h₁ => h.grant v u (mem_of_mem_concat (hraise v u) h₁), ?_, ?_⟩
  · intro now env v u head vgrant hhead h₁ h₂
    have h₁ := mem_of_mem_concat (hsync env) h₁
    refine h.proof now env v u head vgrant ?_ h₁ (mem_of_mem_concat (hraise v u) h₂)
    rwa [List.head?_append_of_ne_nil _ (List.ne_nil_of_mem h₁)] at hhead
  · intro env head vgrant now d key h₁
    exact hdecision env head vgrant now d key (mem_of_mem_concat (hsync env) h₁)

/-- Values may stray only where they are answered. -/
theorem NoStray.concat (h : NoStray cfg request expected τ) {ev : GateEvent P}
    (hev : Plain ev ∨ ∃ row r, ev = ⟨.record row, r⟩) :
    NoStray cfg request expected (τ ++ [ev]) := by
  have hne {e : GateEvent P} (he : ¬ (Plain e ∨ ∃ row r, e = ⟨.record row, r⟩)) : e ≠ ev :=
    fun h => he (h ▸ hev)
  refine h.concat_decision (fun env => hne (by simp [Plain])) (fun v u => hne (by simp [Plain])) ?_
  intro env head vgrant now d key h₁ ha hv h₂ h₃
  exact h.decision env head vgrant now d key h₁ ha hv
    (mem_of_mem_concat (hne (by simp [Plain])) h₂) (mem_of_mem_concat (hne (by simp [Plain])) h₃)

theorem Ready.concat (h : Ready cfg request expected τ) {ev : GateEvent P} (hev : Plain ev) :
    Ready cfg request expected (τ ++ [ev]) := by
  refine ⟨h.guarded.concat hev.guard, h.noRecord.concat fun row r heq => ?_,
    h.noStray.concat (.inl hev)⟩
  subst heq
  exact hev

/-- **Denying.** One row, then the coarse exception, in any context that lets it out. -/
theorem sat_deny {Q : Except Exc α → List (GateEvent P) → Unit → Prop}
    (h : Ready cfg request expected τ) (now : Int) (reason : DenialReason)
    (detail : Option String) (vgrant : Option Grant)
    (hQ : ∀ e τ', Failed cfg request expected e τ' → Q (.error e) τ' ()) :
    (deny P request now reason detail vgrant : GateProc P α).sat anything
      (fun τ _ => Guarded (Guard cfg request expected) τ) Q τ () := by
  simp only [deny, sat_bind, call, perform, sat_op, sat_embed]
  intro r _ _
  refine ⟨h.guarded.concat trivial, ?_⟩
  cases r with
  | error e => exact hQ _ _ (.broke ⟨_, List.mem_append_right _ List.mem_cons_self, trivial⟩)
  | ok u => exact hQ _ _ (.denied h.noRecord h.noStray)

/-- An operation that raised where the gate relies on it. -/
theorem failed_of_breaks {ev : GateEvent P} (h : Breaks ev) (e : Exc) :
    Failed cfg request expected e (τ ++ [ev]) :=
  .broke ⟨ev, List.mem_append_right _ List.mem_cons_self, h⟩

end Stages

/-! ### ① The head -/

/-- The events of a sync that was accepted. -/
def acceptEvents (now : Int) (env : PyVal) (hw version : Int) : List (GateEvent P) :=
  [⟨.now, .ok now⟩, ⟨.sync, .ok env⟩, ⟨.hwGet, .ok hw⟩, ⟨.hwRaise version, .ok ()⟩]

section Sync
variable {cfg : GateConfig P} {request : AuthorizationRequest} {expected : PyStr} {now : Int}

theorem ready_now : Ready cfg request expected [⟨.now, .ok now⟩] := by
  refine ⟨Guarded.nil.concat trivial, by simp [NoRecord], ?_⟩
  constructor <;> simp

theorem ready_sync {env : PyVal} (h : ¬ SyncStray cfg env) :
    Ready cfg request expected [⟨.now, .ok now⟩, ⟨.sync, .ok env⟩] := by
  refine ⟨(Guarded.nil.concat trivial).concat trivial, by simp [NoRecord], ?_⟩
  constructor <;> simp
  exact h

/-- Whether the sync strays is whether its verification does. -/
theorem not_syncStray_of_error {env : PyVal} {e : Exc} (h : verifySync P cfg env = .error e)
    (he : IsCertificateError e) : ¬ SyncStray cfg env := by
  intro hstray
  obtain ⟨e', h', hstray'⟩ := (strays_verifySync cfg env).mpr hstray
  cases h.symm.trans h'
  exact he.not_isStray hstray'

theorem not_syncStray_of_ok {env : PyVal} {synced : SyncedState}
    (h : verifySync P cfg env = .ok synced) : ¬ SyncStray cfg env := by
  intro hstray
  obtain ⟨e, h', -⟩ := (strays_verifySync cfg env).mpr hstray
  cases h.symm.trans h'

/-- The mark was read and the head is not below it. -/
theorem guarded_raise {env : PyVal} {synced : SyncedState} {hw : Int}
    (hsync : verifySync P cfg env = .ok synced) (hle : hw ≤ synced.stateVersionInt)
    (r : Except Exc Unit) :
    Guarded (Guard cfg request expected) ([⟨.now, .ok now⟩, ⟨.sync, .ok env⟩, ⟨.hwGet, .ok hw⟩,
      ⟨.hwRaise synced.stateVersionInt, r⟩] : List (GateEvent P)) := by
  have hready : Ready cfg request expected [⟨.now, .ok now⟩, ⟨.sync, .ok env⟩] :=
    ready_sync (not_syncStray_of_ok hsync)
  have hget : Plain (⟨.hwGet, .ok hw⟩ : GateEvent P) := trivial
  refine (hready.concat hget).guarded.concat (e := ⟨.hwRaise synced.stateVersionInt, r⟩) ?_
  exact ⟨env, synced, hw, List.mem_cons_of_mem _ List.mem_cons_self, hsync, rfl, rfl, hle⟩

theorem ready_raise_error {env : PyVal} {synced : SyncedState} {hw : Int} {e : Exc}
    (hsync : verifySync P cfg env = .ok synced) (hle : hw ≤ synced.stateVersionInt) :
    Ready cfg request expected [⟨.now, .ok now⟩, ⟨.sync, .ok env⟩, ⟨.hwGet, .ok hw⟩,
      ⟨.hwRaise synced.stateVersionInt, .error e⟩] := by
  refine ⟨guarded_raise hsync hle _, by simp [NoRecord], ?_⟩
  constructor <;> simp
  exact not_syncStray_of_ok hsync

theorem syncAndAccept_meets :
    Meets cfg request expected (syncAndAccept P cfg request now) [⟨.now, .ok now⟩]
      fun head τ => ∃ env hw, acceptedHead cfg env = .ok head ∧ hw ≤ head.stateVersionInt ∧
        ¬ SyncStray cfg env ∧ Guarded (Guard cfg request expected) τ ∧
        τ = acceptEvents now env hw head.stateVersionInt := by
  have hout (e : Exc) (τ : List (GateEvent P)) (h : Failed cfg request expected e τ) :
      Failed cfg request expected e τ := h
  simp only [Meets, syncAndAccept, sat_bind, sat_handle, call, perform, sat_op, sat_embed]
  intro r _ _
  refine ⟨ready_now.guarded.concat trivial, ?_⟩
  cases r with
  | error e =>
      cases e with
      | authorizationUnavailable =>
          refine sat_deny ?_ _ _ _ _ hout
          exact ready_now.concat trivial
      | _ => exact failed_of_breaks (by simp [Breaks]) _
  | ok env =>
      simp only [andThen_ok, sat_bind, sat_handle, sat_embed]
      cases hsync : verifySync P cfg env with
      | error e =>
          rcases sorted_verifySync cfg env e hsync with he | he
          · obtain ⟨m, args, detail, rfl⟩ := id he
            refine sat_deny ?_ _ _ _ _ hout
            exact ready_sync (not_syncStray_of_error hsync he)
          · have hstray := (strays_verifySync cfg env).mp ⟨e, hsync, he⟩
            have hescape : Failed cfg request expected e
                [⟨.now, .ok now⟩, ⟨.sync, .ok env⟩] :=
              .escaped (by simp [NoRecord])
                (fun h => h.sync env (List.mem_cons_of_mem _ List.mem_cons_self) hstray) he
            rcases he with (rfl | rfl | ⟨m, rfl⟩) | rfl | rfl <;> exact hescape
      | ok synced =>
          have hcalm := not_syncStray_of_ok hsync
          have hready : Ready cfg request expected [⟨.now, .ok now⟩, ⟨.sync, .ok env⟩] :=
            ready_sync hcalm
          simp only [andThen_ok, sat_bind, sat_handle, sat_op, sat_embed]
          intro r _ _
          refine ⟨hready.guarded.concat trivial, ?_⟩
          cases r with
          | error e =>
              refine sat_deny ?_ _ _ _ _ hout
              exact hready.concat trivial
          | ok hw =>
              simp only [andThen_ok]
              split
              · refine sat_deny ?_ _ _ _ _ hout
                exact hready.concat trivial
              · rename_i hlt
                have hle : hw ≤ synced.stateVersionInt := not_lt.mp hlt
                simp only [sat_bind, sat_handle, sat_op, sat_embed]
                intro r _ _
                refine ⟨guarded_raise hsync hle r, ?_⟩
                cases r with
                | error e =>
                    refine sat_deny ?_ _ _ _ _ hout
                    exact ready_raise_error hsync hle
                | ok u =>
                    obtain ⟨d, hd, hhead⟩ := acceptedHead_of_verifySync hsync
                    simp only [andThen_ok, sat_bind, sat_embed, hd, sat_pure]
                    exact ⟨env, hw, hhead, hle, hcalm, guarded_raise hsync hle _, rfl⟩

end Sync

/-! ### ② The local decisions -/

/-- What a call read up to its request consume. -/
structure LocalReading where
  now : Int
  env : PyVal
  hw : Int
  head : VerifiedHead
  vgrant : Grant

/-- The subject's proof, where it is not an event: an OS account is shown by the peer
resolver. -/
def SubjectProof (cfg : GateConfig P) (request : AuthorizationRequest) (now : Int)
    (vgrant : Grant) : Prop :=
  match vgrant.subject with
  | .osAccount _ _ => True
  | .agentKey agentPubkeyHex _ =>
      checkAgentKey P cfg request now vgrant.grantId agentPubkeyHex = .ok none

/-- The events of a subject proof that passed. -/
def proofEvents (request : AuthorizationRequest) (vgrant : Grant) : List (GateEvent P) :=
  match vgrant.subject with
  | .osAccount machineId account => [⟨.peer request, .ok (some ⟨machineId, account⟩)⟩]
  | .agentKey _ _ => []

/-- The local checks passed. -/
structure LocalReading.Passed (c : LocalReading) (cfg : GateConfig P)
    (request : AuthorizationRequest) : Prop where
  head : acceptedHead cfg c.env = .ok c.head
  fresh : c.hw ≤ c.head.stateVersionInt
  grant : verifyGrant P cfg request = .ok c.vgrant
  checks : checkGrant P cfg c.now c.head c.vgrant = none
  proof : SubjectProof cfg request c.now c.vgrant

/-- The events of the local checks that passed, up to the request consume. -/
def LocalReading.events (c : LocalReading) (request : AuthorizationRequest) (expected : PyStr) :
    List (GateEvent P) :=
  acceptEvents c.now c.env c.hw c.head.stateVersionInt ++ proofEvents request c.vgrant ++
    [⟨.consumeRequest (requestKey c.vgrant.grantId request.requestId) expected, .ok true⟩]

section Local
variable {cfg : GateConfig P} {request : AuthorizationRequest} {expected : PyStr} {now : Int}
  {τ : List (GateEvent P)} {env : PyVal} {hw : Int} {head : VerifiedHead} {vgrant : Grant}

theorem not_grantStray_of_error {e : Exc} (h : verifyGrant P cfg request = .error e)
    (he : IsDenialSignal e) : ¬ GrantStray cfg request.grantEnvelope := by
  intro hstray
  obtain ⟨e', h', hstray'⟩ := (strays_verifyGrant cfg).mpr hstray
  cases h.symm.trans h'
  exact he.not_isStray hstray'

theorem not_grantStray_of_ok (h : verifyGrant P cfg request = .ok vgrant) :
    ¬ GrantStray cfg request.grantEnvelope := by
  intro hstray
  obtain ⟨e, h', -⟩ := (strays_verifyGrant cfg).mpr hstray
  cases h.symm.trans h'

/-- After the head was accepted, with a grant and a proof that do not stray. -/
theorem ready_accept (hguard : Guarded (Guard cfg request expected)
      (acceptEvents (P := P) now env hw head.stateVersionInt))
    (hhead : acceptedHead cfg env = .ok head) (hsync : ¬ SyncStray cfg env)
    (hgrant : ¬ GrantStray cfg request.grantEnvelope)
    (hproof : ∀ vgrant, verifyGrant P cfg request = .ok vgrant →
      checkGrant P cfg now head vgrant = none → ¬ ProofStray (P := P) request vgrant) :
    Ready cfg request expected (acceptEvents now env hw head.stateVersionInt) := by
  refine ⟨hguard, by simp [NoRecord, acceptEvents], ?_⟩
  constructor
  · simpa [acceptEvents] using hsync
  · intro _ _ _
    exact hgrant
  · intro now' env' v u head' vgrant hnow henv _ hhead' hv hchecks
    simp only [acceptEvents, List.head?_cons, Option.some.injEq, Event.mk.injEq, heq_eq_eq,
      Except.ok.injEq, true_and] at hnow
    simp only [acceptEvents, List.mem_cons, Event.mk.injEq, heq_eq_eq, Except.ok.injEq, true_and,
      reduceCtorEq, false_and, List.not_mem_nil, or_false, false_or] at henv
    subst hnow henv
    cases hhead.symm.trans hhead'
    exact hproof vgrant hv hchecks
  · simp [acceptEvents]

/-- **The subject check**, once the checks before it passed. -/
theorem checkSubject_meets (hguard : Guarded (Guard cfg request expected)
      (acceptEvents (P := P) now env hw head.stateVersionInt))
    (hhead : acceptedHead cfg env = .ok head) (hsync : ¬ SyncStray cfg env)
    (hgrant : verifyGrant P cfg request = .ok vgrant)
    (hchecks : checkGrant P cfg now head vgrant = none) :
    Meets cfg request expected (checkSubject P cfg request now vgrant)
      (acceptEvents now env hw head.stateVersionInt) fun refusal τ =>
        Ready cfg request expected τ ∧ (refusal = none → SubjectProof cfg request now vgrant ∧
          τ = acceptEvents now env hw head.stateVersionInt ++ proofEvents request vgrant) := by
  have hready (h : ¬ ProofStray (P := P) request vgrant) :
      Ready cfg request expected (acceptEvents now env hw head.stateVersionInt) := by
    refine ready_accept hguard hhead hsync (not_grantStray_of_ok hgrant) fun g hg _ => ?_
    cases hgrant.symm.trans hg
    exact h
  unfold checkSubject SubjectProof proofEvents
  cases hsubject : vgrant.subject with
  | osAccount machineId account =>
      have hno : ¬ ProofStray (P := P) request vgrant := by
        intro hspec
        obtain ⟨_, _, h, -⟩ := hspec
        cases hsubject.symm.trans h
      simp only [Meets, call, perform, sat_bind, sat_op, sat_embed]
      intro r _ _
      refine ⟨(hready hno).guarded.concat trivial, ?_⟩
      cases r with
      | error e =>
          have hbreak : Breaks (⟨.peer request, .error e⟩ : GateEvent P) := trivial
          exact failed_of_breaks hbreak e
      | ok peer =>
          simp only [andThen_ok, sat_pure]
          refine ⟨(hready hno).concat trivial, fun h => ⟨trivial, ?_⟩⟩
          split at h
          · rename_i hpeer
            rw [hpeer]
          · cases h
  | agentKey agentPubkeyHex agentSlug =>
      simp only [Meets, sat_embed]
      cases hcheck : checkAgentKey P cfg request now vgrant.grantId agentPubkeyHex with
      | error e =>
          obtain ⟨he, hsig, hpub, hdom⟩ := checkAgentKey_error cfg hcheck
          refine .escaped (by simp [NoRecord, acceptEvents]) (fun h => ?_) he
          refine h.proof now env head.stateVersionInt () head vgrant rfl ?_ ?_ hhead hgrant hchecks
            ⟨_, _, hsubject, hsig, hpub, hdom⟩
          · simp [acceptEvents]
          · simp [acceptEvents]
      | ok refusal =>
          have hno : ¬ ProofStray (P := P) request vgrant := by
            intro hspec
            obtain ⟨pk, slug, h, hsig, hpub, hdom⟩ := hspec
            cases hsubject.symm.trans h
            rcases checkAgentKey_not_ok cfg hcheck with h | h | h
            · exact hsig h
            · exact hpub h
            · rw [h] at hdom
              cases hdom
          refine ⟨hready hno, ?_⟩
          intro heq
          subst heq
          exact ⟨rfl, (List.append_nil _).symm⟩

/-- **Local authorization.** It returns once every check passed and the request was
consumed by this call. -/
theorem authorizeLocally_meets :
    Meets cfg request expected (authorizeLocally P cfg request now expected) [⟨.now, .ok now⟩]
      fun r τ => Ready cfg request expected τ ∧ ∃ c : LocalReading, c.Passed cfg request ∧
        ¬ SyncStray cfg c.env ∧ c.now = now ∧ r = (c.head, c.vgrant) ∧
        τ = c.events request expected := by
  have hout (e : Exc) (τ : List (GateEvent P)) (h : Failed cfg request expected e τ) :
      Failed cfg request expected e τ := h
  simp only [Meets, authorizeLocally, sat_bind]
  refine sat_mono syncAndAccept_meets fun r τ s h => ?_
  cases r with
  | error e => exact h
  | ok head =>
      obtain ⟨env, hw, hhead, hle, hsync, hguard, rfl⟩ := h
      simp only [andThen_ok, sat_bind, sat_handle, sat_embed]
      cases hgrant : verifyGrant P cfg request with
      | error e =>
          rcases verifyGrant_error cfg hgrant with he | he
          · obtain ⟨reason, detail, rfl⟩ := id he
            refine sat_deny ?_ _ _ _ _ hout
            refine ready_accept hguard hhead hsync (not_grantStray_of_error hgrant he) ?_
            intro g hg
            cases hgrant.symm.trans hg
          · have hstray := (strays_verifyGrant cfg).mp ⟨e, hgrant, he⟩
            have hescape : Failed cfg request expected e
                (acceptEvents (P := P) now env hw head.stateVersionInt) :=
              .escaped (by simp [NoRecord, acceptEvents])
                (fun h => h.grant head.stateVersionInt () (by simp [acceptEvents]) hstray) he
            rcases he with (rfl | rfl | ⟨m, rfl⟩) | rfl | rfl <;> exact hescape
      | ok vgrant =>
          simp only [andThen_ok, sat_bind, localDecisions]
          cases hchecks : checkGrant P cfg now head vgrant with
          | some refusal =>
              simp only [sat_pure, andThen_ok]
              refine sat_deny ?_ _ _ _ _ hout
              refine ready_accept hguard hhead hsync (not_grantStray_of_ok hgrant) ?_
              intro g hg h
              cases hgrant.symm.trans hg
              cases hchecks.symm.trans h
          | none =>
              refine sat_mono (checkSubject_meets hguard hhead hsync hgrant hchecks)
                fun r τ s h => ?_
              cases r with
              | error e => exact h
              | ok refusal =>
                  obtain ⟨hready, hpassed⟩ := h
                  cases refusal with
                  | some refusal =>
                      refine sat_deny ?_ _ _ _ _ hout
                      exact hready
                  | none =>
                      obtain ⟨hproof, rfl⟩ := hpassed rfl
                      simp only [andThen_ok, sat_bind, sat_handle, call, perform, sat_op, sat_embed]
                      intro r _ _
                      refine ⟨hready.guarded.concat trivial, ?_⟩
                      cases r with
                      | error e =>
                          refine sat_deny ?_ _ _ _ _ hout
                          exact hready.concat trivial
                      | ok consumed =>
                          simp only [andThen_ok]
                          cases consumed with
                          | false =>
                              refine sat_deny ?_ _ _ _ _ hout
                              exact hready.concat trivial
                          | true =>
                              exact ⟨hready.concat trivial, ⟨now, env, hw, head, vgrant⟩,
                                ⟨hhead, hle, hgrant, hchecks, hproof⟩, hsync, rfl, rfl, rfl⟩

end Local

/-! ### ③ The decision and ④ the record -/

/-- **What a call that returned has read.** -/
structure Clearance (P : Platform) extends LocalReading where
  monoSent : Int
  decision : Decision
  monoReceived : Int
  wallVerified : Int
  key : P.PublicKey
  monoVerified : Int

namespace Clearance

/-- What the gate derived for the decision. -/
def expectedBinding (c : Clearance P) (request : AuthorizationRequest) (expected : PyStr) :
    ExpectedBinding :=
  AuthorizationGate.expectedBinding request c.vgrant c.head expected

/-- Every check passed. -/
structure Valid (c : Clearance P) (cfg : GateConfig P) (request : AuthorizationRequest)
    (expected : PyStr) : Prop where
  local_ : c.toLocalReading.Passed cfg request
  authentic : verifyDecisionSig P c.key c.decision = .ok true
  bound : checkBinding c.decision (c.expectedBinding request expected) = .ok none
  window : decidedAtInHygieneWindow c.decision.decidedAt c.now c.wallVerified = .ok true
  deadline : c.monoVerified - c.monoSent ≤ responseDeadlineNs

/-- The events from the request consume to the decision. -/
def events (c : Clearance P) (request : AuthorizationRequest) (expected : PyStr) :
    List (GateEvent P) :=
  c.toLocalReading.events request expected ++
    [⟨.clock, .ok c.monoSent⟩, ⟨.decide request c.now, .ok c.decision⟩,
      ⟨.clock, .ok c.monoReceived⟩, ⟨.now, .ok c.wallVerified⟩,
      ⟨.decisionPublicKey, .ok c.key⟩, ⟨.clock, .ok c.monoVerified⟩,
      ⟨.consumeDecision c.decision.decisionId expected, .ok true⟩,
      ⟨.record (successRow request c.now c.vgrant c.head (c.expectedBinding request expected)
        c.decision), .ok ()⟩]

def result (c : Clearance P) : Authorization where
  decision := c.decision
  monoDecisionReceived := c.monoReceived

end Clearance

/-- **How a call ends.** -/
def Ended (cfg : GateConfig P) (request : AuthorizationRequest) (expected : PyStr) :
    Except Exc Authorization → List (GateEvent P) → Prop
  | .ok a, τ => ∃ c : Clearance P, c.Valid cfg request expected ∧ a = c.result ∧
      τ = c.events request expected ∧ NoStray cfg request expected τ
  | .error e, τ => Failed cfg request expected e τ

section Decision
variable {cfg : GateConfig P} {request : AuthorizationRequest} {expected : PyStr}

theorem approvalMode_mem (m : ApprovalMode) :
    m.value ∈ [ApprovalMode.auto.value, ApprovalMode.perCall.value] := by
  cases m <;> simp

theorem subjectKind_mem (k : SubjectKind) :
    k.value ∈ [SubjectKind.osAccount.value, SubjectKind.agentKey.value] := by
  cases k <;> simp

/-- Where the key's decision does not stray, each verification step returns. -/
theorem not_decisionStray {key : P.PublicKey} {d : Decision} {vgrant : Grant}
    {head : VerifiedHead} {authentic : Bool} (hsig : verifyDecisionSig P key d = .ok authentic)
    (h : authentic = true →
      (∃ o, checkBinding d (expectedBinding request vgrant head expected) = .ok o ∧
        (o = none → d.decidedAt.number? ≠ none))) :
    ¬ DecisionStray key d (expectedBinding request vgrant head expected) := by
  rintro (hdom | ⟨htrue, hstray⟩)
  · obtain ⟨e, he, -⟩ := strays_verifyDecisionSig.mpr hdom
    cases hsig.symm.trans he
  · obtain ⟨o, ho, hnum⟩ := h (Except.ok.inj (hsig.symm.trans htrue))
    rcases hstray with hstray | ⟨hbound, hnone⟩
    · obtain ⟨e, he, -⟩ :=
        (strays_checkBinding (approvalMode_mem _) (subjectKind_mem _)).mpr hstray
      cases ho.symm.trans he
    · exact hnum (Except.ok.inj (ho.symm.trans hbound)) hnone

/-- The events up to the answers of the decision service and the clocks. -/
def decisionEvents (c : LocalReading) (request : AuthorizationRequest) (expected : PyStr)
    (monoSent : Int) (d : Decision) (monoReceived wallVerified : Int) : List (GateEvent P) :=
  c.events request expected ++ [⟨.clock, .ok monoSent⟩, ⟨.decide request c.now, .ok d⟩] ++
    [⟨.clock, .ok monoReceived⟩] ++ [⟨.now, .ok wallVerified⟩]

section Readings
variable {c : LocalReading} {monoSent monoReceived wallVerified : Int}

theorem sync_mem_events {env : PyVal}
    (h : (⟨.sync, .ok env⟩ : GateEvent P) ∈ c.events request expected) : env = c.env := by
  unfold LocalReading.events proofEvents at h
  split at h <;> simpa [acceptEvents] using h

theorem decide_not_mem_events {now : Int} {r : Except Exc Decision} :
    (⟨.decide request now, r⟩ : GateEvent P) ∉ c.events request expected := by
  unfold LocalReading.events proofEvents
  split <;> simp [acceptEvents]

theorem key_not_mem_events {r : Except Exc P.PublicKey} :
    (⟨.decisionPublicKey, r⟩ : GateEvent P) ∉ c.events request expected := by
  unfold LocalReading.events proofEvents
  split <;> simp [acceptEvents]

/-- Asking for a decision, once the request was consumed. -/
theorem ready_decide (hc : c.Passed cfg request)
    (h : Ready (P := P) cfg request expected (c.events request expected))
    (r : Except Exc Decision) :
    Ready (P := P) cfg request expected
      (c.events request expected ++ [⟨.clock, .ok monoSent⟩, ⟨.decide request c.now, r⟩]) := by
  have hclock : Plain (⟨.clock, .ok monoSent⟩ : GateEvent P) := trivial
  have hready := h.concat hclock
  rw [List.append_cons]
  refine ⟨hready.guarded.concat ⟨rfl, c.vgrant, hc.grant, ?_⟩, hready.noRecord.concat (by simp),
    hready.noStray.concat_decision (by simp) (by simp) ?_⟩
  · simp [LocalReading.events]
  · intro env head vgrant now d key _ _ _ _ hkey
    simp [key_not_mem_events] at hkey

/-- Reading the key a decision is verified with. -/
theorem ready_key (hc : c.Passed cfg request) {d : Decision} {key : P.PublicKey}
    (h : Ready (P := P) cfg request expected
      (decisionEvents c request expected monoSent d monoReceived wallVerified))
    (hd : ¬ DecisionStray key d (expectedBinding request c.vgrant c.head expected)) :
    Ready cfg request expected
      (decisionEvents c request expected monoSent d monoReceived wallVerified ++
        [⟨.decisionPublicKey, .ok key⟩]) := by
  refine ⟨h.guarded.concat trivial, h.noRecord.concat (by simp),
    h.noStray.concat_decision (by simp) (by simp) ?_⟩
  intro env head vgrant now d' key' henv hhead hv hdecide hkey
  have henv' : (⟨.sync, .ok env⟩ : GateEvent P) ∈ c.events request expected := by
    simpa [decisionEvents] using henv
  have hd' : now = c.now ∧ d' = d := by
    simpa [decisionEvents, decide_not_mem_events] using hdecide
  have hkey' : key' = key := by simpa [decisionEvents, key_not_mem_events] using hkey
  obtain ⟨-, rfl⟩ := hd'
  obtain rfl := sync_mem_events henv'
  subst hkey'
  cases hc.head.symm.trans hhead
  cases hc.grant.symm.trans hv
  exact hd

end Readings

/-- A decision that strays, once it is verified. -/
theorem failed_of_decisionStray {c : LocalReading} {monoSent monoReceived wallVerified : Int}
    {d : Decision} {key : P.PublicKey} {e : Exc} (hc : c.Passed cfg request)
    (h : NoRecord (P := P) (decisionEvents c request expected monoSent d monoReceived wallVerified))
    (hd : DecisionStray key d (expectedBinding request c.vgrant c.head expected))
    (he : IsStray e) :
    Failed cfg request expected e
      (decisionEvents c request expected monoSent d monoReceived wallVerified ++
        [⟨.decisionPublicKey, .ok key⟩]) := by
  refine .escaped (h.concat (by simp)) (fun hno => ?_) he
  refine hno.decision c.env c.head c.vgrant c.now d key ?_ hc.head hc.grant ?_ ?_ hd
  · simp [decisionEvents, LocalReading.events, acceptEvents]
  · simp [decisionEvents]
  · simp

/-- **Settling a decision.** It is authentic, bound, in the window and in time, its id was
consumed by this call, and one row records it. -/
theorem settleDecision_meets {c : LocalReading} {monoSent : Int} {d : Decision}
    (hc : c.Passed cfg request)
    (h : Ready (P := P) cfg request expected
      (c.events request expected ++ [⟨.clock, .ok monoSent⟩, ⟨.decide request c.now, .ok d⟩])) :
    Meets cfg request expected
      (settleDecision P request c.now c.head c.vgrant expected monoSent d)
      (c.events request expected ++ [⟨.clock, .ok monoSent⟩, ⟨.decide request c.now, .ok d⟩])
      fun a τ => ∃ c : Clearance P, c.Valid cfg request expected ∧ a = c.result ∧
        τ = c.events request expected ∧ NoStray cfg request expected τ := by
  have hout (e : Exc) (τ : List (GateEvent P)) (h : Failed cfg request expected e τ) :
      Failed cfg request expected e τ := h
  simp only [Meets, settleDecision, sat_bind, call, perform, sat_op, sat_embed]
  intro r _ _
  refine ⟨h.guarded.concat trivial, ?_⟩
  rcases r with e | monoReceived
  · exact .broke ⟨_, List.mem_append_right _ List.mem_cons_self, trivial⟩
  have hclock : Plain (⟨.clock, .ok monoReceived⟩ : GateEvent P) := trivial
  simp only [andThen_ok, sat_bind, sat_op, sat_embed]
  intro r _ _
  refine ⟨(h.concat hclock).guarded.concat trivial, ?_⟩
  rcases r with e | wallVerified
  · exact .broke ⟨_, List.mem_append_right _ List.mem_cons_self, trivial⟩
  have hnow : Plain (⟨.now, .ok wallVerified⟩ : GateEvent P) := trivial
  have hdecision : Ready (P := P) cfg request expected
      (decisionEvents c request expected monoSent d monoReceived wallVerified) :=
    (h.concat hclock).concat hnow
  simp only [andThen_ok, sat_bind, sat_op, sat_embed]
  intro r _ _
  refine ⟨hdecision.guarded.concat trivial, ?_⟩
  rcases r with e | key
  · exact .broke ⟨_, List.mem_append_right _ List.mem_cons_self, trivial⟩
  have hescape (e : Exc) (he : IsStray e)
      (hd : DecisionStray key d (expectedBinding request c.vgrant c.head expected)) :=
    failed_of_decisionStray hc hdecision.noRecord hd he
  simp only [andThen_ok, sat_bind, sat_embed]
  cases hsig : verifyDecisionSig P key d with
  | error e =>
      have he := verifyDecisionSig_error hsig
      exact hescape e he (.inl (strays_verifyDecisionSig.mp ⟨e, hsig, he⟩))
  | ok authentic =>
      simp only [andThen_ok]
      cases authentic with
      | false =>
          refine sat_deny ?_ _ _ _ _ hout
          exact ready_key hc hdecision (not_decisionStray hsig fun h => by cases h)
      | true =>
          simp only [Bool.true_eq_false, if_false, sat_bind, sat_embed]
          cases hbound : checkBinding d (expectedBinding request c.vgrant c.head expected) with
          | error e =>
              have he := checkBinding_error hbound
              exact hescape e he (.inr ⟨hsig, .inl
                ((strays_checkBinding (approvalMode_mem _) (subjectKind_mem _)).mp
                  ⟨e, hbound, he⟩)⟩)
          | ok mismatch =>
              cases mismatch with
              | some detail =>
                  refine sat_deny ?_ _ _ _ _ hout
                  exact ready_key hc hdecision
                    (not_decisionStray hsig fun _ => ⟨_, hbound, fun h => by cases h⟩)
              | none =>
                  simp only [andThen_ok, sat_bind, sat_embed]
                  cases hwindow : decidedAtInHygieneWindow d.decidedAt c.now wallVerified with
                  | error e =>
                      obtain ⟨hnum, rfl⟩ := decidedAtInHygieneWindow_error.mp hwindow
                      exact hescape _ (.inr (.inr rfl)) (.inr ⟨hsig, .inr ⟨hbound, hnum⟩⟩)
                  | ok inWindow =>
                      have hcalm : ¬ DecisionStray key d
                          (expectedBinding request c.vgrant c.head expected) := by
                        refine not_decisionStray hsig fun _ => ⟨_, hbound, fun _ hnum => ?_⟩
                        rw [decidedAtInHygieneWindow_error.mpr ⟨hnum, rfl⟩] at hwindow
                        cases hwindow
                      have hkey := ready_key hc hdecision hcalm
                      simp only [andThen_ok]
                      cases inWindow with
                      | false =>
                          refine sat_deny ?_ _ _ _ _ hout
                          exact hkey
                      | true =>
                          simp only [Bool.true_eq_false, if_false, sat_bind, sat_op, sat_embed]
                          intro r _ _
                          refine ⟨hkey.guarded.concat trivial, ?_⟩
                          rcases r with e | monoVerified
                          · exact .broke ⟨_, List.mem_append_right _ List.mem_cons_self, trivial⟩
                          have hverified : Plain (⟨.clock, .ok monoVerified⟩ : GateEvent P) :=
                            trivial
                          simp only [andThen_ok]
                          split
                          · refine sat_deny ?_ _ _ _ _ hout
                            exact hkey.concat hverified
                          rename_i hdeadline
                          simp only [sat_bind, sat_handle, sat_op, sat_embed]
                          intro r _ _
                          refine ⟨(hkey.concat hverified).guarded.concat trivial, ?_⟩
                          rcases r with e | consumed
                          · refine sat_deny ?_ _ _ _ _ hout
                            exact (hkey.concat hverified).concat trivial
                          cases consumed with
                          | false =>
                              refine sat_deny ?_ _ _ _ _ hout
                              exact (hkey.concat hverified).concat trivial
                          | true =>
                              have hconsumed : Plain (⟨.consumeDecision d.decisionId expected,
                                .ok true⟩ : GateEvent P) := trivial
                              simp only [andThen_ok, if_true, sat_bind, sat_op, sat_embed]
                              intro r _ _
                              refine ⟨((hkey.concat hverified).concat hconsumed).guarded.concat
                                trivial, ?_⟩
                              rcases r with e | u
                              · exact .broke
                                  ⟨_, List.mem_append_right _ List.mem_cons_self, trivial⟩
                              refine ⟨⟨c, monoSent, d, monoReceived, wallVerified, key,
                                monoVerified⟩, ⟨hc, hsig, hbound, hwindow, not_lt.mp hdeadline⟩,
                                rfl, ?_, ?_⟩
                              · simp [Clearance.events, Clearance.expectedBinding]
                                rfl
                              · exact ((hkey.concat hverified).concat hconsumed).noStray.concat
                                  (.inr ⟨_, _, rfl⟩)

end Decision

/-- **The specification.** In any surroundings a call keeps its guards and ends as
`Ended` says. -/
theorem authorize_spec (cfg : GateConfig P) (request : AuthorizationRequest)
    (expected : PyStr) :
    (authorize P cfg request expected).sat anything
      (fun τ _ => Guarded (Guard cfg request expected) τ)
      (fun r τ _ => Ended cfg request expected r τ) [] () := by
  simp only [authorize, sat_bind, call, perform, sat_op, sat_embed]
  intro r _ _
  refine ⟨Guarded.nil.concat trivial, ?_⟩
  rcases r with e | now
  · exact .broke ⟨_, List.mem_cons_self, trivial⟩
  simp only [andThen_ok, sat_bind]
  refine sat_mono authorizeLocally_meets fun r τ s h => ?_
  rcases r with e | ⟨head, vgrant⟩
  · exact h
  obtain ⟨hready, c, hc, -, rfl, heq, rfl⟩ := h
  cases heq
  simp only [andThen_ok, sat_bind, sat_op, sat_embed]
  intro r _ _
  refine ⟨hready.guarded.concat trivial, ?_⟩
  rcases r with e | monoSent
  · exact .broke ⟨_, List.mem_append_right _ List.mem_cons_self, trivial⟩
  have hdecide (r : Except Exc Decision) : Ready (P := P) cfg request expected
      (c.events request expected ++ [⟨.clock, .ok monoSent⟩, ⟨.decide request c.now, r⟩]) :=
    ready_decide hc hready r
  simp only [andThen_ok, sat_bind, sat_handle, sat_op, sat_embed]
  intro r _ _
  rw [List.append_assoc]
  refine ⟨(hdecide r).guarded, ?_⟩
  rcases r with e | d
  · cases e with
    | _ =>
        refine sat_deny ?_ _ _ _ _ fun _ _ h => h
        exact hdecide _
  · refine sat_mono (settleDecision_meets hc (hdecide (.ok d))) fun r τ s h => ?_
    cases r <;> exact h

/-! ### Executions -/

section Executions
variable {σ : Type} {W : Env (GateSig P) Exc σ} {cfg : GateConfig P}
  {request : AuthorizationRequest} {expected : PyStr} {s s' : σ} {τ : List (GateEvent P)}

/-- What a completed call has done, in any surroundings. -/
theorem Ended.of_exec {r : Except Exc Authorization}
    (h : Exec W (authorize P cfg request expected) s τ (.done r) s') :
    Ended cfg request expected r τ :=
  (h.forget fun _ _ _ _ _ => trivial).post (authorize_spec cfg request expected)

end Executions

end AuthorizationGate

end GmailGateway
