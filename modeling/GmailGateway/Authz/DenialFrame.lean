import GmailGateway.Authz.SingleUse

/-!
# GmailGateway.Authz.DenialFrame

**What a denied call leaves behind.** A call keeps three pieces of local safety state and has
some fifteen ways to be denied between their updates. It raises the mark once the sync is
verified and not below it, consumes the request once every local check has passed, and consumes
the decision last. So a denied call has consumed no decision; a call that is refused before the
request consume has not spent the request id; and one that asked the decision service has spent
it for good.

The relay, the decision service, the clocks and the peer resolver may raise anything; the local
safety state is the in-memory one, which raises only on a decision id that cannot be hashed.
-/

namespace GmailGateway

open Effect Proc Python

namespace AuthorizationGate

variable {P : Platform}

/-- What may raise: everything but the local safety state. The audit log raises no denial of its
own. -/
def outside : GateOp → Exc → Prop
  | .hwGet, _ | .hwRaise _, _ | .consumeRequest _ _, _ | .consumeDecision _ _, _ => False
  | .record _, e => e ≠ .authorizationDenied
  | _, _ => True

/-- The key a call consumes its request under. -/
def LocalReading.key (c : LocalReading) (request : AuthorizationRequest) : PyStr :=
  AuthorizationGate.requestKey c.vgrant.grantId request.requestId

/-- Every local check passed, on what the call was answered and the mark it found. -/
structure Cleared (cfg : GateConfig P) (request : AuthorizationRequest) (mark : Int)
    (τ : List (GateEvent P)) (c : LocalReading) : Prop where
  passed : c.Passed cfg request
  mark : c.hw = mark
  reads : [⟨.now, .ok c.now⟩, ⟨.sync, .ok c.env⟩] <+: τ
  proof : proofEvents request c.vgrant ⊆ τ

/-- The synced head and every delivered revocation were verified and parsed, and the version `v`
of the head is not below the mark. -/
def Accepted (cfg : GateConfig P) (mark : Int) (τ : List (GateEvent P)) (v : Int) : Prop :=
  ∃ env synced, (⟨.sync, .ok env⟩ : GateEvent P) ∈ τ ∧ verifySync P cfg env = .ok synced ∧
    mark ≤ synced.stateVersionInt ∧ v = synced.stateVersionInt

/-- The local safety states agree. -/
structure SameLocal (s s' : GateState) : Prop where
  mark : s'.mark = s.mark
  requests : s'.requests = s.requests
  decisions : s'.decisions = s.decisions

theorem SameLocal.refl (s : GateState) : SameLocal s s := ⟨rfl, rfl, rfl⟩

/-! ### Before the request consume -/

section
variable {cfg : GateConfig P} {request : AuthorizationRequest} {expected : PyStr} {s s' : GateState}
  {τ τ' : List (GateEvent P)} {c : LocalReading} {α : Type}

/-- A call that was refused before it consumed the request: with the mark as it was, or raised
to an accepted head. -/
inductive Refused (cfg : GateConfig P) (request : AuthorizationRequest) (s : GateState)
    (τ : List (GateEvent P)) (s' : GateState) : Prop
  | unsynced : (∀ c, ¬ Cleared cfg request s.mark τ c) → SameLocal s s' → Refused cfg request s τ s'
  | accepted {v : Int} : Accepted cfg s.mark τ v →
      (∀ c, Cleared cfg request s.mark τ c → s.requests.holds (c.key request) = true) →
      SameLocal { s with mark := v } s' → Refused cfg request s τ s'

/-- A call that consumed its request. -/
structure Consumed (cfg : GateConfig P) (request : AuthorizationRequest) (expected : PyStr)
    (s : GateState) (τ : List (GateEvent P)) (s' : GateState) (c : LocalReading) : Prop where
  cleared : Cleared cfg request s.mark τ c
  free : s.requests.holds (c.key request) = false
  won : (⟨.consumeRequest (c.key request) expected, .ok true⟩ : GateEvent P) ∈ τ
  accepted : Accepted cfg s.mark τ s'.mark
  requests : s'.requests = ⟨s.requests.consumed ++ [(c.key request, expected)]⟩

theorem Cleared.mono (h : Cleared cfg request s.mark τ c) (hτ : τ <+: τ') :
    Cleared cfg request s.mark τ' c :=
  ⟨h.passed, h.mark, h.reads.trans hτ, List.Subset.trans h.proof hτ.subset⟩

theorem Accepted.mono {mark v : Int} (h : Accepted cfg mark τ v) (hτ : τ <+: τ') :
    Accepted cfg mark τ' v := by
  obtain ⟨env, synced, hmem, hsync, hle, hv⟩ := h
  exact ⟨env, synced, hτ.subset hmem, hsync, hle, hv⟩

/-- **Denying** leaves the local safety state alone. -/
theorem sat_deny_outside {Q : Except Exc α → List (GateEvent P) → GateState → Prop} {now : Int}
    {reason : DenialReason} {detail : Option String} {vgrant : Option Grant}
    (hQ : ∀ e row r s', SameLocal s s' → Q (.error e) (τ ++ [⟨.record row, r⟩]) s') :
    (deny P request now reason detail vgrant : GateProc P α).sat (gateEnv outside)
      (fun _ _ => True) Q τ s := by
  simp only [deny, sat_bind, call, perform, sat_op, sat_embed]
  intro r s' hw
  refine ⟨trivial, ?_⟩
  cases r with
  | error e =>
      obtain rfl := hw.2
      exact hQ _ _ _ _ (.refl _)
  | ok u =>
      rw [show s' = _ from hw]
      exact hQ _ _ _ _ ⟨rfl, rfl, rfl⟩

/-- What the first two events say of a reading. -/
theorem Cleared.reads_eq {mark now : Int} {env : PyVal} {later : List (GateEvent P)}
    (h : Cleared cfg request mark ([⟨.now, .ok now⟩, ⟨.sync, .ok env⟩] ++ later) c) :
    c.now = now ∧ c.env = env := by
  have hreads := h.reads
  simp only [List.cons_append, List.nil_append, List.cons_prefix_cons, Event.mk.injEq, heq_eq_eq,
    Except.ok.injEq, true_and, List.nil_prefix, and_true] at hreads
  exact hreads

/-- A sync that is not accepted clears nobody. -/
theorem not_cleared_of_sync {mark now : Int} {env : PyVal} (later : List (GateEvent P))
    (h : ∀ synced, verifySync P cfg env = .ok synced → ¬ mark ≤ synced.stateVersionInt) :
    ∀ c, ¬ Cleared cfg request mark ([⟨.now, .ok now⟩, ⟨.sync, .ok env⟩] ++ later) c := by
  intro c hc
  obtain ⟨-, henv⟩ := hc.reads_eq
  have hhead := hc.passed.head
  rw [henv] at hhead
  cases hsync : verifySync P cfg env with
  | error e => simp [acceptedHead, hsync, bind, Except.bind] at hhead
  | ok synced =>
      obtain ⟨d, -, hd⟩ := acceptedHead_of_verifySync hsync
      have hfresh := hc.passed.fresh
      rw [hc.mark, ← Except.ok.inj (hd.symm.trans hhead)] at hfresh
      exact h synced hsync hfresh

/-- Without a delivered sync nobody is cleared. -/
theorem not_cleared_of_error {mark now : Int} {e : Exc} (later : List (GateEvent P)) :
    ∀ c, ¬ Cleared cfg request mark ([⟨.now, .ok now⟩, ⟨.sync, .error e⟩] ++ later) c := by
  intro c hc
  have hreads := hc.reads
  simp at hreads

/-- **The sync.** It returns with the mark raised to the version of the head it accepted. -/
theorem syncAndAccept_frame {now : Int} :
    (syncAndAccept P cfg request now).sat (gateEnv outside) (fun _ _ => True)
      (andThen (fun head τ' s' => ∃ env, acceptedHead cfg env = .ok head ∧
          s.mark ≤ head.stateVersionInt ∧ Accepted cfg s.mark τ' head.stateVersionInt ∧
          s' = { s with mark := head.stateVersionInt } ∧
          τ' = acceptEvents now env s.mark head.stateVersionInt)
        (fun _ τ' s' => Refused cfg request s τ' s')) [⟨.now, .ok now⟩] s := by
  simp only [syncAndAccept, sat_bind, sat_handle, call, perform, sat_op, sat_embed]
  intro r s₁ hw
  refine ⟨trivial, ?_⟩
  cases r with
  | error e =>
      obtain rfl := hw.2
      cases e with
      | authorizationUnavailable =>
          refine sat_deny_outside fun e row r s' hs => .unsynced ?_ hs
          rw [List.append_assoc]
          exact not_cleared_of_error [⟨.record row, r⟩]
      | _ => exact .unsynced (not_cleared_of_error []) (.refl _)
  | ok env =>
      obtain rfl : s₁ = s := hw
      simp only [andThen_ok, sat_bind, sat_handle, sat_embed]
      cases hsync : verifySync P cfg env with
      | error e =>
          have hnone (later : List (GateEvent P)) : ∀ c, ¬ Cleared cfg request s₁.mark
              ([⟨.now, .ok now⟩, ⟨.sync, .ok env⟩] ++ later) c :=
            not_cleared_of_sync later fun synced h => by cases hsync.symm.trans h
          cases e with
          | certificateError m args detail =>
              exact sat_deny_outside fun e row r s' hs => .unsynced (hnone [⟨.record row, r⟩]) hs
          | _ => exact .unsynced (hnone []) (.refl _)
      | ok synced =>
          simp only [andThen_ok, sat_bind, sat_handle, sat_op, sat_embed]
          intro r s₂ hget
          refine ⟨trivial, ?_⟩
          cases r with
          | error e => exact hget.1.elim
          | ok hw =>
              obtain ⟨rfl, rfl⟩ := hget
              simp only [andThen_ok]
              split
              · rename_i hlt
                refine sat_deny_outside fun e row r s' hs => .unsynced ?_ hs
                refine not_cleared_of_sync [⟨.hwGet, _⟩, ⟨.record row, r⟩] fun synced' h => ?_
                cases hsync.symm.trans h
                omega
              · rename_i hlt
                have hle : s₂.mark ≤ synced.stateVersionInt := not_lt.mp hlt
                simp only [sat_bind, sat_handle, sat_op, sat_embed]
                intro r s₃ hraise
                refine ⟨trivial, ?_⟩
                cases r with
                | error e => exact hraise.1.elim
                | ok u =>
                    obtain ⟨d, hd, hhead⟩ := acceptedHead_of_verifySync hsync
                    have hs₃ : s₃ = { s₂ with mark := synced.stateVersionInt } := by
                      rw [show s₃ = _ from hraise, raiseTo_eq_max, max_eq_right hle]
                    simp only [andThen_ok, sat_bind, sat_embed, hd, sat_pure]
                    exact ⟨env, hhead, hle, ⟨env, synced, by simp, hsync, hle, rfl⟩, hs₃, rfl⟩

/-- Where the head was accepted, a cleared reading has that head. -/
theorem Cleared.of_accept {now : Int} {env : PyVal} {hw : Int} {head : VerifiedHead}
    {later : List (GateEvent P)} (hhead : acceptedHead cfg env = .ok head)
    (h : Cleared cfg request s.mark
      (acceptEvents now env hw head.stateVersionInt ++ later) c) :
    c.now = now ∧ c.head = head ∧ verifyGrant P cfg request = .ok c.vgrant ∧
      checkGrant P cfg now head c.vgrant = none ∧ SubjectProof cfg request now c.vgrant := by
  have h' : Cleared cfg request s.mark ([⟨.now, .ok now⟩, ⟨.sync, .ok env⟩] ++
      ([⟨.hwGet, .ok hw⟩, ⟨.hwRaise head.stateVersionInt, .ok ()⟩] ++ later)) c := h
  obtain ⟨hnow, henv⟩ := h'.reads_eq
  have hc := h.passed.head
  rw [henv] at hc
  have hch : c.head = head := Except.ok.inj (hc.symm.trans hhead)
  have hchecks := h.passed.checks
  have hproof := h.passed.proof
  rw [hnow] at hchecks hproof
  rw [hch] at hchecks
  exact ⟨hnow, hch, h.passed.grant, hchecks, hproof⟩

/-- A key that was refused is held, and nothing is added. -/
theorem consumeOnce_refused {κ : Type} [DecidableEq κ] {requests : LockedConsumer κ} {key : κ}
    {actionDigest : PyStr} (h : (requests.consumeOnce key actionDigest).1 = false) :
    requests.holds key = true ∧ (requests.consumeOnce key actionDigest).2 = requests := by
  unfold LockedConsumer.consumeOnce at h ⊢
  split at h
  · rename_i hheld
    exact ⟨hheld, if_pos hheld ▸ rfl⟩
  · cases h

/-- A key that was won was free, and is added. -/
theorem consumeOnce_won {κ : Type} [DecidableEq κ] {requests : LockedConsumer κ} {key : κ}
    {actionDigest : PyStr} (h : (requests.consumeOnce key actionDigest).1 = true) :
    requests.holds key = false ∧
      (requests.consumeOnce key actionDigest).2 = ⟨requests.consumed ++ [(key, actionDigest)]⟩ := by
  have hfree := LockedConsumer.consumeOnce_fst.mp h
  exact ⟨hfree, by rw [LockedConsumer.consumeOnce, if_neg (by simp [hfree])]⟩

/-- The subject of the grant is proved by the request and by what the peer resolver answered. -/
def Proven (cfg : GateConfig P) (request : AuthorizationRequest) (now : Int) (vgrant : Grant)
    (τ : List (GateEvent P)) : Prop :=
  SubjectProof cfg request now vgrant ∧ proofEvents request vgrant ⊆ τ

theorem proven_concat {now : Int} {vgrant : Grant} {ev : GateEvent P}
    (hev : ∀ r, ev ≠ ⟨.peer request, r⟩) :
    Proven cfg request now vgrant (τ ++ [ev]) ↔ Proven cfg request now vgrant τ := by
  refine and_congr_right fun _ => ⟨fun h e he => ?_, fun h => List.subset_append_of_subset_left _ h⟩
  rcases List.mem_append.mp (h he) with hmem | hmem
  · exact hmem
  · obtain rfl := List.mem_singleton.mp hmem
    unfold proofEvents at he
    split at he
    · exact absurd (List.mem_singleton.mp he) (hev _)
    · cases he

/-- **The subject check** finds out whether the subject is proven, and changes nothing. -/
theorem checkSubject_frame {now : Int} {vgrant : Grant}
    (hpeer : ∀ r, (⟨.peer request, r⟩ : GateEvent P) ∉ τ) :
    (checkSubject P cfg request now vgrant).sat (gateEnv outside) (fun _ _ => True)
      (andThen (fun refusal τ' s' => s' = s ∧ τ <+: τ' ∧
          (refusal = none ↔ Proven cfg request now vgrant τ'))
        (fun _ τ' s' => s' = s ∧ τ <+: τ' ∧ ¬ Proven cfg request now vgrant τ')) τ s := by
  unfold checkSubject Proven SubjectProof proofEvents
  cases hsubject : vgrant.subject with
  | osAccount machineId account =>
      simp only [call, perform, sat_bind, sat_op, sat_embed]
      intro r s' hw
      refine ⟨trivial, ?_⟩
      cases r with
      | error e =>
          obtain rfl := hw.2
          exact ⟨rfl, List.prefix_append _ _, fun h => by simpa [hpeer] using h.2⟩
      | ok peer =>
          obtain rfl : s' = s := hw
          simp only [andThen_ok, sat_pure]
          refine ⟨trivial, List.prefix_append _ _, ?_⟩
          simp [hpeer, eq_comm]
  | agentKey agentPubkeyHex agentSlug =>
      simp only [sat_embed]
      cases hcheck : checkAgentKey P cfg request now vgrant.grantId agentPubkeyHex with
      | error e => exact ⟨rfl, List.prefix_rfl, fun h => by cases h.1⟩
      | ok refusal =>
          refine ⟨rfl, List.prefix_rfl, ?_⟩
          simp

/-- **The request consume.** The key was free and is won, or it was held and nothing changes. -/
theorem consumeRequest_frame {now : Int} {head : VerifiedHead} {vgrant : Grant} :
    (do
      let consumed ← tryCatch
        (call P (.consumeRequest (AuthorizationGate.requestKey vgrant.grantId request.requestId)
          expected))
        fun _ => deny P request now .stateUnavailable none vgrant
      if consumed then pure (head, vgrant)
      else deny P request now .replay (some detailRequestIdReused) vgrant :
        GateProc P (VerifiedHead × Grant)).sat (gateEnv outside) (fun _ _ => True)
      (andThen
        (fun _ τ' s' =>
          s.requests.holds (AuthorizationGate.requestKey vgrant.grantId request.requestId) = false ∧
          τ' = τ ++ [⟨.consumeRequest (AuthorizationGate.requestKey vgrant.grantId
            request.requestId) expected, .ok true⟩] ∧
          s' = { s with requests := ⟨s.requests.consumed ++
            [(AuthorizationGate.requestKey vgrant.grantId request.requestId, expected)]⟩ })
        (fun _ τ' s' =>
          s.requests.holds (AuthorizationGate.requestKey vgrant.grantId request.requestId) = true ∧
          τ <+: τ' ∧ SameLocal s s')) τ s := by
  simp only [sat_bind, sat_handle, call, perform, sat_op, sat_embed]
  intro r s₁ hconsume
  refine ⟨trivial, ?_⟩
  cases r with
  | error e => exact hconsume.1.elim
  | ok won =>
      obtain ⟨hwon, hs₁⟩ := hconsume
      simp only [andThen_ok]
      cases won with
      | false =>
          have hheld := consumeOnce_refused hwon.symm
          rw [hheld.2] at hs₁
          obtain rfl : s₁ = s := hs₁
          refine sat_deny_outside fun e row r s' hs => ⟨hheld.1, ?_, hs⟩
          exact (List.prefix_append _ _).trans (List.prefix_append _ _)
      | true =>
          have hfree := consumeOnce_won hwon.symm
          rw [hfree.2] at hs₁
          exact ⟨hfree.1, rfl, hs₁⟩

/-- **The local checks**, up to the request consume. -/
theorem authorizeLocally_frame {now : Int} :
    (authorizeLocally P cfg request now expected).sat (gateEnv outside) (fun _ _ => True)
      (andThen (fun _ τ' s' => s'.decisions = s.decisions ∧
          ∃ c, Consumed cfg request expected s τ' s' c)
        (fun _ τ' s' => Refused cfg request s τ' s')) [⟨.now, .ok now⟩] s := by
  simp only [authorizeLocally, sat_bind]
  refine sat_mono syncAndAccept_frame fun r τ₁ s₁ h => ?_
  cases r with
  | error e => exact h
  | ok head =>
      obtain ⟨env, hhead, hle, haccepted, rfl, rfl⟩ := h
      -- from here on a call is refused with the mark raised, unless it is cleared
      have hrefuse {later : List (GateEvent P)} {s' : GateState}
          (hcleared : ∀ c, Cleared cfg request s.mark
            (acceptEvents now env s.mark head.stateVersionInt ++ later) c →
            s.requests.holds (c.key request) = true)
          (hs : SameLocal { s with mark := head.stateVersionInt } s') :
          Refused cfg request s (acceptEvents now env s.mark head.stateVersionInt ++ later) s' :=
        .accepted (haccepted.mono (List.prefix_append _ _)) hcleared hs
      simp only [andThen_ok, sat_bind, sat_handle, sat_embed]
      cases hgrant : verifyGrant P cfg request with
      | error e =>
          have hnone (later : List (GateEvent P)) : ∀ c, Cleared cfg request s.mark
              (acceptEvents now env s.mark head.stateVersionInt ++ later) c →
              s.requests.holds (c.key request) = true :=
            fun c hc => by cases hgrant.symm.trans (hc.of_accept hhead).2.2.1
          cases e with
          | denialSignal reason detail =>
              exact sat_deny_outside fun e row r s' hs => hrefuse (hnone [⟨.record row, r⟩]) hs
          | _ =>
              have hend := hrefuse (hnone []) (.refl _)
              rw [List.append_nil] at hend
              exact hend
      | ok vgrant =>
          simp only [andThen_ok, sat_bind, localDecisions]
          cases hchecks : checkGrant P cfg now head vgrant with
          | some refusal =>
              simp only [sat_pure, andThen_ok]
              refine sat_deny_outside fun e row r s' hs => hrefuse (fun c hc => ?_) hs
              obtain ⟨-, -, hg, hnone, -⟩ := hc.of_accept hhead
              cases hgrant.symm.trans hg
              cases hchecks.symm.trans hnone
          | none =>
              refine sat_mono (checkSubject_frame (by simp [acceptEvents])) fun r τ₂ s₂ h => ?_
              -- nobody else than this reading is cleared, and this one if the subject is proven
              have hproven {later : List (GateEvent P)} {c : LocalReading} (hc : Cleared cfg request
                  s.mark (acceptEvents now env s.mark head.stateVersionInt ++ later) c) :
                  c.vgrant = vgrant ∧ Proven cfg request now vgrant
                    (acceptEvents now env s.mark head.stateVersionInt ++ later) := by
                obtain ⟨-, -, hg, -, hproof⟩ := hc.of_accept hhead
                obtain rfl : c.vgrant = vgrant := Except.ok.inj (hg.symm.trans hgrant)
                exact ⟨rfl, hproof, hc.proof⟩
              cases r with
              | error e =>
                  obtain ⟨rfl, ⟨later, rfl⟩, hnot⟩ := h
                  exact hrefuse (fun c hc => absurd (hproven hc).2 hnot) (.refl _)
              | ok refusal =>
                  obtain ⟨rfl, ⟨later, rfl⟩, hiff⟩ := h
                  cases refusal with
                  | some refusal =>
                      refine sat_deny_outside fun e row r s' hs => ?_
                      rw [List.append_assoc]
                      refine hrefuse (fun c hc => ?_) hs
                      have hp := (hproven hc).2
                      rw [← List.append_assoc, proven_concat (by simp), ← hiff] at hp
                      cases hp
                  | none =>
                      have hp := hiff.mp rfl
                      simp only [andThen_ok]
                      refine sat_mono consumeRequest_frame fun r τ₃ s₃ h => ?_
                      cases r with
                      | error e =>
                          obtain ⟨hheld, ⟨more, rfl⟩, hs⟩ := h
                          rw [List.append_assoc]
                          refine hrefuse (fun c hc => ?_) hs
                          rw [LocalReading.key, (hproven hc).1]
                          exact hheld
                      | ok reading =>
                          obtain ⟨hfree, rfl, rfl⟩ := h
                          let c : LocalReading := ⟨now, env, s.mark, head, vgrant⟩
                          have hcleared : Cleared cfg request s.mark
                              (acceptEvents now env s.mark head.stateVersionInt ++ later) c :=
                            ⟨⟨hhead, hle, hgrant, hchecks, hp.1⟩, rfl, ⟨_, rfl⟩, hp.2⟩
                          refine ⟨rfl, c, hcleared.mono (List.prefix_append _ _), hfree, ?_,
                            haccepted.mono ⟨_, (List.append_assoc _ _ _).symm⟩, rfl⟩
                          exact List.mem_append_right _ List.mem_cons_self

end

/-! ### From the request consume on -/

/-- What the call does once the request was consumed. -/
def askAndSettle (P : Platform) (request : AuthorizationRequest) (now : Int)
    (expectedActionDigest : PyStr) (local_ : VerifiedHead × Grant) : GateProc P Authorization := do
  let monoSent ← call P .clock
  let decision ← tryCatch (call P (.decide request now)) fun
    | .authorizationUnavailable => deny P request now .cloudUnreachable none local_.2
    | .certificateError _ _ detail => deny P request now .invalidArtifact detail local_.2
    | .denialSignal reason detail => deny P request now reason detail local_.2
    | _ => deny P request now .internalError none local_.2
  settleDecision P request now local_.1 local_.2 expectedActionDigest monoSent decision

theorem authorize_eq (cfg : GateConfig P) (request : AuthorizationRequest) (expected : PyStr) :
    authorize P cfg request expected = (do
      let now ← call P .now
      let local_ ← authorizeLocally P cfg request now expected
      askAndSettle P request now expected local_) := by
  unfold authorize askAndSettle
  rfl

section
variable {request : AuthorizationRequest} {expected : PyStr} {now : Int} {s s' : GateState}
  {τ : List (GateEvent P)} {α : Type}

/-- How the call goes on after the request consume: the mark and the requests stay, and if it is
denied, so do the decisions. -/
structure Settled (s : GateState) (r : Except Exc α) (s' : GateState) : Prop where
  mark : s'.mark = s.mark
  requests : s'.requests = s.requests
  decisions : r = .error .authorizationDenied → s'.decisions = s.decisions

theorem SameLocal.settled (h : SameLocal s s') (r : Except Exc α) : Settled s r s' :=
  ⟨h.mark, h.requests, fun _ => h.decisions⟩

/-- **Settling.** A decision is consumed last, and then the call is not denied. -/
theorem settleDecision_settled {head : VerifiedHead} {vgrant : Grant} {monoSent : Int}
    {d : Decision} :
    (settleDecision P request now head vgrant expected monoSent d).sat (gateEnv outside)
      (fun _ _ => True) (fun r _ s' => Settled s r s') τ s := by
  have hdeny {reason : DenialReason} {detail : Option String} {τ : List (GateEvent P)} :
      (deny P request now reason detail (some vgrant) : GateProc P Authorization).sat
        (gateEnv outside) (fun _ _ => True) (fun r _ s' => Settled s r s') τ s :=
    sat_deny_outside fun e _ _ _ hsame => hsame.settled (.error e)
  have hstay (r : Except Exc Authorization) : Settled s r s := (SameLocal.refl s).settled r
  simp only [settleDecision, sat_bind, call, perform, sat_op, sat_embed]
  intro r s₁ hw
  refine ⟨trivial, ?_⟩
  rcases r with e | monoReceived
  · exact hw.2 ▸ hstay _
  obtain rfl : s₁ = s := hw
  simp only [andThen_ok, sat_bind, sat_op, sat_embed]
  intro r s₁ hw
  refine ⟨trivial, ?_⟩
  rcases r with e | wallVerified
  · exact hw.2 ▸ hstay _
  obtain rfl : s₁ = _ := hw
  simp only [andThen_ok, sat_bind, sat_op, sat_embed]
  intro r s₁ hw
  refine ⟨trivial, ?_⟩
  rcases r with e | key
  · exact hw.2 ▸ hstay _
  obtain rfl : s₁ = _ := hw
  simp only [andThen_ok, sat_bind, sat_embed]
  cases verifyDecisionSig P key d with
  | error e => exact hstay _
  | ok authentic =>
      simp only [andThen_ok]
      split
      · exact hdeny
      simp only [sat_bind, sat_embed]
      cases checkBinding d (expectedBinding request vgrant head expected) with
      | error e => exact hstay _
      | ok mismatch =>
          cases mismatch with
          | some detail => exact hdeny
          | none =>
              simp only [andThen_ok, sat_bind, sat_embed]
              cases decidedAtInHygieneWindow d.decidedAt now wallVerified with
              | error e => exact hstay _
              | ok inWindow =>
                  simp only [andThen_ok]
                  split
                  · exact hdeny
                  simp only [sat_bind, sat_op, sat_embed]
                  intro r s₁ hw
                  refine ⟨trivial, ?_⟩
                  rcases r with e | monoVerified
                  · exact hw.2 ▸ hstay _
                  obtain rfl : s₁ = _ := hw
                  simp only [andThen_ok]
                  split
                  · exact hdeny
                  simp only [sat_bind, sat_handle, sat_op, sat_embed]
                  intro r s₂ hconsume
                  refine ⟨trivial, ?_⟩
                  rcases r with e | consumed
                  · -- only a decision id that cannot be hashed makes the consumer raise
                    obtain rfl := hconsume.2
                    exact sat_deny_outside fun e _ _ _ hsame => hsame.settled (.error e)
                  obtain ⟨key, -, hwon, rfl⟩ := hconsume
                  cases consumed with
                  | false =>
                      rw [(consumeOnce_refused hwon.symm).2]
                      exact hdeny
                  | true =>
                      simp only [andThen_ok, if_true, sat_bind, sat_op, sat_embed]
                      intro r s₃ hrecord
                      refine ⟨trivial, ?_⟩
                      rcases r with e | u
                      · obtain ⟨hne, rfl⟩ := hrecord
                        exact ⟨rfl, rfl, fun h => absurd (Except.error.inj h) hne⟩
                      · rw [show s₃ = _ from hrecord]
                        exact ⟨rfl, rfl, fun h => by cases h⟩

/-- **Asking** for a decision, and settling it. -/
theorem askAndSettle_settled {local_ : VerifiedHead × Grant} :
    (askAndSettle P request now expected local_).sat (gateEnv outside) (fun _ _ => True)
      (fun r _ s' => Settled s r s') τ s := by
  simp only [askAndSettle, sat_bind, call, perform, sat_op, sat_embed]
  intro r s₁ hw
  refine ⟨trivial, ?_⟩
  rcases r with e | monoSent
  · exact hw.2 ▸ (SameLocal.refl s).settled _
  obtain rfl : s₁ = s := hw
  simp only [andThen_ok, sat_bind, sat_handle, sat_op, sat_embed]
  intro r s₂ hw
  refine ⟨trivial, ?_⟩
  rcases r with e | d
  · obtain rfl := hw.2
    cases e with
    | _ => exact sat_deny_outside fun e _ _ _ hsame => hsame.settled (.error e)
  · obtain rfl : s₂ = s₁ := hw
    exact settleDecision_settled

end

/-! ### Whole calls -/

section
variable {cfg : GateConfig P} {request : AuthorizationRequest} {expected : PyStr} {s s' : GateState}
  {τ : List (GateEvent P)}

/-- What a call does to the local safety state. -/
inductive CallFrame (cfg : GateConfig P) (request : AuthorizationRequest) (expected : PyStr)
    (s : GateState) (τ : List (GateEvent P)) (s' : GateState) : Except Exc Authorization → Prop
  | refused {e : Exc} : Refused cfg request s τ s' →
      CallFrame cfg request expected s τ s' (.error e)
  | consumed {c : LocalReading} {r : Except Exc Authorization} :
      Consumed cfg request expected s τ s' c →
      (r = .error .authorizationDenied → s'.decisions = s.decisions) →
      CallFrame cfg request expected s τ s' r

theorem Consumed.later {c : LocalReading} {s₁ : GateState} {τ₁ : List (GateEvent P)}
    (h : Consumed cfg request expected s τ s₁ c) (hτ : τ <+: τ₁) (hmark : s'.mark = s₁.mark)
    (hrequests : s'.requests = s₁.requests) : Consumed cfg request expected s τ₁ s' c where
  cleared := h.cleared.mono hτ
  free := h.free
  won := hτ.subset h.won
  accepted := hmark ▸ h.accepted.mono hτ
  requests := hrequests.trans h.requests

/-- **A call**, whatever it is answered from outside. -/
theorem authorize_frame :
    (authorize P cfg request expected).sat (gateEnv outside) (fun _ _ => True)
      (fun r τ s' => CallFrame cfg request expected s τ s' r) [] s := by
  rw [authorize_eq]
  simp only [sat_bind, call, perform, sat_op, sat_embed]
  intro r s₁ hw
  refine ⟨trivial, ?_⟩
  rcases r with e | now
  · obtain rfl := hw.2
    refine .refused (.unsynced (fun c hc => ?_) (.refl _))
    have hreads := hc.reads
    simp at hreads
  obtain rfl : s₁ = s := hw
  simp only [andThen_ok, sat_bind]
  refine sat_mono authorizeLocally_frame fun r τ₁ s₂ h => ?_
  rcases r with e | local_
  · exact .refused h
  obtain ⟨hdecisions, c, hc⟩ := h
  simp only [andThen_ok]
  have hsettled : (askAndSettle P request now expected local_).sat (gateEnv outside)
      (fun _ _ => True) (fun r _ s' => Settled s₂ r s') τ₁ s₂ := askAndSettle_settled
  have hboth := sat_and (sat_extends (List.prefix_refl τ₁)) hsettled
  refine sat_weaken hboth (fun _ _ _ => trivial) fun r τ₂ s₃ h => ?_
  obtain ⟨hτ, hs⟩ := h
  exact .consumed (hc.later hτ hs.mark hs.requests) fun hr => (hs.decisions hr).trans hdecisions

/-! ### Retrying -/

/-- The next call with these ids consumes its request if its local checks pass. -/
def Retryable (cfg : GateConfig P) (grantId requestId : PyStr) (s : GateState) : Prop :=
  ∀ request expected τ r s' c, request.requestId = requestId →
    Exec (gateEnv outside) (authorize P cfg request expected) s τ (.done r) s' →
    Cleared cfg request s.mark τ c → c.vgrant.grantId = grantId →
    (⟨.consumeRequest (c.key request) expected, .ok true⟩ : GateEvent P) ∈ τ

/-- From now on, whatever is performed on the gate, no call with these ids asks the decision
service. -/
def Spent (cfg : GateConfig P) (grantId requestId : PyStr) (s : GateState) : Prop :=
  ∀ (τ₁ : List (GateEvent P)) s₁, Steps (gateEnv outside) s τ₁ s₁ → ∀ request expected vgrant τ out s',
    request.requestId = requestId → verifyGrant P cfg request = .ok vgrant →
    vgrant.grantId = grantId →
    Exec (gateEnv outside) (authorize P cfg request expected) s₁ τ out s' →
    ∀ e ∈ τ, e.op.isDecide = false

theorem retryable_of_free {grantId requestId : PyStr}
    (h : s.requests.holds (requestKey grantId requestId) = false) :
    Retryable cfg grantId requestId s := by
  intro request expected τ r s' c hid hexec hc hgid
  have hfree : s.requests.holds (c.key request) = false := by
    rw [LocalReading.key, hgid, hid]
    exact h
  cases hexec.post authorize_frame with
  | refused hrefused =>
      cases hrefused with
      | unsynced hnone => exact absurd hc (hnone c)
      | accepted _ hheld => cases (hheld c hc).symm.trans hfree
  | @consumed c' r hconsumed _ =>
      have hgrant := hconsumed.cleared.passed.grant.symm.trans hc.passed.grant
      have hwon := hconsumed.won
      rw [LocalReading.key, Except.ok.inj hgrant] at hwon
      exact hwon

/-- A held key stays held, and nobody wins it. -/
theorem held_steps {key : PyStr} (h : Steps (gateEnv (P := P) outside) s τ s')
    (hkey : s.requests.holds key = true) : s'.requests.holds key = true ∧
      ∀ d, (⟨.consumeRequest key d, .ok true⟩ : GateEvent P) ∉ τ := by
  induction h with
  | nil => exact ⟨hkey, fun _ hmem => absurd hmem List.not_mem_nil⟩
  | @cons e s s₁ τ s' hw _ ih =>
      obtain ⟨hlast, hnone⟩ := ih (requests_holds hw hkey)
      refine ⟨hlast, fun d hmem => ?_⟩
      rcases List.mem_cons.mp hmem with rfl | hmem
      · cases hkey.symm.trans (consumeRequest_first hw).1
      · exact hnone d hmem

/-- A key that was won is held. -/
theorem held_of_won {key d : PyStr} (h : Steps (gateEnv (P := P) outside) s τ s')
    (hwon : (⟨.consumeRequest key d, .ok true⟩ : GateEvent P) ∈ τ) :
    s'.requests.holds key = true := by
  induction h with
  | nil => cases hwon
  | @cons e s s₁ τ s' hw hrest ih =>
      rcases List.mem_cons.mp hwon with rfl | hwon
      · exact (held_steps hrest (consumeRequest_first hw).2).1
      · exact ih hwon

/-- Asking the decision service takes a request that was won in the same call. -/
theorem won_of_decide {out : Outcome Exc Authorization} {e : GateEvent P} (he : e ∈ τ)
    (hask : e.op.isDecide = true)
    (h : Exec (gateEnv outside) (authorize P cfg request expected) s τ out s') :
    ∃ vgrant, verifyGrant P cfg request = .ok vgrant ∧
      (⟨.consumeRequest (requestKey vgrant.grantId request.requestId) expected,
        .ok true⟩ : GateEvent P) ∈ τ := by
  have hguarded := ((h.forget fun _ _ _ _ _ => trivial).sound
    (authorize_spec cfg request expected)).1 (List.ne_nil_of_mem he)
  rw [List.nil_append] at hguarded
  obtain ⟨τ₁, τ₂, rfl⟩ := List.append_of_mem he
  have hguard := hguarded τ₁ e ⟨τ₂, by simp⟩
  obtain ⟨o, r⟩ := e
  cases o with
  | decide req now =>
      obtain ⟨-, vgrant, hv, hwon⟩ := hguard
      exact ⟨vgrant, hv, List.mem_append_left _ hwon⟩
  | _ => cases hask

theorem spent_of_held {grantId requestId : PyStr}
    (h : s.requests.holds (requestKey grantId requestId) = true) :
    Spent cfg grantId requestId s := by
  intro τ₁ s₁ hsteps request expected vgrant τ out s' hid hgrant hgid hexec e he
  by_contra hask
  rw [Bool.not_eq_false] at hask
  obtain ⟨vgrant', hv, hwon⟩ := won_of_decide he hask hexec
  obtain rfl := Except.ok.inj (hv.symm.trans hgrant)
  rw [hgid, hid] at hwon
  exact (held_steps hexec.steps (held_steps hsteps h).1).2 expected hwon

/-- **A denied call changes only what it must.** No decision is consumed. The mark moves only to
a head that was verified, with every revocation delivered beside it, and is not below it. The
request is consumed exactly if every local check passed and its key was free; if no local
reading passed, the same request can be made again, and once the decision service was asked it
never reaches it again. -/
theorem authorize_denied_frame
    (h : Exec (gateEnv outside) (authorize P cfg request expected) s τ
      (.done (.error .authorizationDenied)) s') :
    s'.decisions = s.decisions ∧
    (s'.mark = s.mark ∨ Accepted cfg s.mark τ s'.mark) ∧
    (∀ c, Cleared cfg request s.mark τ c → s.requests.holds (c.key request) = false →
      s'.requests = ⟨s.requests.consumed ++ [(c.key request, expected)]⟩) ∧
    ((∀ c, Cleared cfg request s.mark τ c → s.requests.holds (c.key request) = true) →
      s'.requests = s.requests) ∧
    ((∀ c, ¬ Cleared cfg request s.mark τ c) → ∀ grantId,
      s.requests.holds (requestKey grantId request.requestId) = false →
      Retryable cfg grantId request.requestId s') ∧
    (∀ vgrant, verifyGrant P cfg request = .ok vgrant → (∃ e ∈ τ, e.op.isDecide = true) →
      Spent cfg vgrant.grantId request.requestId s') := by
  have hspent : ∀ vgrant, verifyGrant P cfg request = .ok vgrant →
      (∃ e ∈ τ, e.op.isDecide = true) → Spent cfg vgrant.grantId request.requestId s' := by
    intro vgrant hv hask
    obtain ⟨e, he, hdecide⟩ := hask
    obtain ⟨vgrant', hv', hwon⟩ := won_of_decide he hdecide h
    obtain rfl := Except.ok.inj (hv'.symm.trans hv)
    exact spent_of_held (held_of_won h.steps hwon)
  cases h.post authorize_frame with
  | refused hrefused =>
      have hstay : s'.decisions = s.decisions ∧ s'.requests = s.requests ∧
          (s'.mark = s.mark ∨ Accepted cfg s.mark τ s'.mark) ∧
          ∀ c, Cleared cfg request s.mark τ c → s.requests.holds (c.key request) = true := by
        cases hrefused with
        | unsynced hnone hsame =>
            exact ⟨hsame.decisions, hsame.requests, .inl hsame.mark, fun c hc => absurd hc (hnone c)⟩
        | accepted haccepted hheld hsame =>
            exact ⟨hsame.decisions, hsame.requests, .inr (hsame.mark ▸ haccepted), hheld⟩
      obtain ⟨hdecisions, hrequests, hmark, hheld⟩ := hstay
      refine ⟨hdecisions, hmark, fun c hc hfree => ?_, fun _ => hrequests,
        fun _ grantId hfree => retryable_of_free (hrequests ▸ hfree), hspent⟩
      cases (hheld c hc).symm.trans hfree
  | @consumed c r hconsumed hdecisions =>
      have hunique (c' : LocalReading) (hc' : Cleared cfg request s.mark τ c') :
          c'.key request = c.key request := by
        have hgrant := hc'.passed.grant.symm.trans hconsumed.cleared.passed.grant
        rw [LocalReading.key, LocalReading.key, Except.ok.inj hgrant]
      refine ⟨hdecisions rfl, .inr hconsumed.accepted, fun c' hc' _ => ?_, fun hheld => ?_,
        fun hnone => absurd hconsumed.cleared (hnone c), hspent⟩
      · rw [hunique c' hc']
        exact hconsumed.requests
      · cases (hheld c hconsumed.cleared).symm.trans hconsumed.free

end

/-! ### A decision for other bytes -/

/-- A call that is answered with a signed decision for another action. -/
def wrongDigest : List (GateEvent samplePlatform) × Outcome Exc Authorization × GateState :=
  scripted (sampleScript (sampleHead "1") .auto .osAccount (str "d2") (str "x1")) sampleConfig
    (sampleRequest .auto sampleOsSubject) (str "d1") GateState.initial

/-- Whether a call was denied. -/
def wasDenied {α : Type} : Outcome Exc α → Bool
  | .done (.error .authorizationDenied) => true
  | _ => false

theorem eq_of_wasDenied {α : Type} {out : Outcome Exc α} (h : wasDenied out = true) :
    out = .done (.error .authorizationDenied) := by
  unfold wasDenied at h
  split at h
  · rfl
  · cases h

/-- It is denied after it asked: its request is spent, and no decision is. -/
theorem authorize_denied_frame_wrongDigest :
    wrongDigest.2.2.mark = 1 ∧ wrongDigest.2.2.decisions = GateState.initial.decisions ∧
      Spent sampleConfig sampleGrantId (str "r1") wrongDigest.2.2 := by
  have hrun : wasDenied wrongDigest.2.1 = true ∧ wrongDigest.2.2.mark = 1 ∧
      (∃ e ∈ wrongDigest.1, e.op.isDecide = true) ∧
      (verifyGrant samplePlatform sampleConfig (sampleRequest .auto sampleOsSubject)).toOption.map
        (·.grantId) = some sampleGrantId := by decide +kernel
  obtain ⟨hdenied, hmark, hask, hgrant⟩ := hrun
  have hexec : Exec (gateEnv outside) (authorize samplePlatform sampleConfig
      (sampleRequest .auto sampleOsSubject) (str "d1")) GateState.initial wrongDigest.1
      (.done (.error .authorizationDenied)) wrongDigest.2.2 :=
    eq_of_wasDenied hdenied ▸ scripted_exec _ outside _ _ _ _
  obtain ⟨hdecisions, -, -, -, -, hspent⟩ := authorize_denied_frame hexec
  cases hv : verifyGrant samplePlatform sampleConfig (sampleRequest .auto sampleOsSubject) with
  | error e => simp [hv, Except.toOption] at hgrant
  | ok vgrant =>
      simp only [hv, Except.toOption, Option.map_some, Option.some.injEq] at hgrant
      exact ⟨hmark, hdecisions, hgrant ▸ hspent vgrant hv hask⟩

end AuthorizationGate

end GmailGateway
