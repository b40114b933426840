import GmailGateway.Authz.Orchestrator

/-!
# GmailGateway.Authz.Provenance

**Where a send comes from.** In every run of the orchestrator a send is preceded, in its
own call, by an authorization of the stored payload under a grant of mode `auto` and by a
persisted dispatch row of that very decision; and the dispatch log stays `Paired`.

One invariant of a call, `Progress`, carries both. It is kept by every operation of the
three parties, and each stage of the call is verified in its own party's surroundings.
-/

namespace GmailGateway

open Effect Proc Python

namespace AuthorizedGmailSend

variable {P : Platform}

/-! ### What a send rests on -/

/-- What a call that gets to the state machine has read. -/
structure Attribution (P : Platform) where
  read : Except Exc (Option KvValue)
  proposal : Proposal
  gateEvents : List (GateEvent P)
  authorization : Authorization
  vgrant : Grant

namespace Attribution

/-- The stored payload was authorized, by a verified grant of mode `auto`, and the success
is audited. -/
structure Valid (c : Attribution P) (cfg : SendConfig P) (k : SendCall) (s₀ : SendState) :
    Prop where
  stored : (s₀ .store).proposal? k.proposalId = some c.proposal
  returned : ∃ g, Exec (gateEnv fun _ _ => True)
    (AuthorizationGate.authorize P cfg.gate k.request c.proposal.payloadDigest) (s₀ .gate)
    c.gateEvents (.done (.ok c.authorization)) g
  grant : AuthorizationGate.verifyGrant P cfg.gate k.request = .ok c.vgrant
  auto : c.vgrant.approvalMode = .auto
  audited : ∃ row, (⟨.record row, .ok ()⟩ : GateEvent P) ∈ c.gateEvents ∧
    row.code = dispositionAuthorized ∧ row.actionDigest = some c.proposal.payloadDigest ∧
    row.decisionId = some c.authorization.decision.decisionId

/-- The events up to the gate's return. -/
def events (c : Attribution P) (k : SendCall) : List (SendEvent P) :=
  (⟨.get k.proposalId, c.read⟩ : StoreEvent).at (S := PartySig P) Party.store ::
    c.gateEvents.map (Event.at (S := PartySig P) Party.gate)

end Attribution

/-- What a call has done before it sends: the authorization, and after it the started row
of that decision. -/
def SendGuard (cfg : SendConfig P) (k : SendCall) (s₀ : SendState) :
    (SendSig P).Op → List (SendEvent P) → Prop
  | ⟨.store, .send q⟩, τ => q = k.proposalId ∧ ∃ (c : Attribution P) (τ₂ : List (SendEvent P))
      (start : Int), c.Valid cfg k s₀ ∧ τ = c.events k ++ τ₂ ∧
        ⟨⟨.own, .append (.started
          (dispatchStarted k.proposalId k.request c.proposal c.authorization start))⟩, .ok ()⟩ ∈ τ₂
  | _, _ => True

/-! ### What the log and the stores keep -/

/-- **The invariant between calls.** The log is paired, every send has its started row, and
a proposal with a started row is never confirmed again. -/
structure Recorded (s : SendState) : Prop where
  paired : Paired (s .own)
  started : ∀ q ∈ (s .store).sends, ∃ row, .started row ∈ s .own ∧ row.proposalId = q
  left : ∀ row, .started row ∈ s .own → SendFsm.LeftPending (s .store) row.proposalId

/-- A reading of the monotonic clock. -/
def clockReading? : SendEvent P → Option Int
  | ⟨⟨.gate, .clock⟩, .ok v⟩ | ⟨⟨.own, .clock⟩, .ok v⟩ => some v
  | _ => none

/-- The readings of the clock that the gate and the orchestrator share. -/
def clockReadings (τ : List (SendEvent P)) : List Int := τ.filterMap clockReading?

/-- **The invariant of a call** that started in `s₀`. -/
structure Progress (cfg : SendConfig P) (k : SendCall) (s₀ : SendState)
    (τ : List (SendEvent P)) (s : SendState) : Prop where
  guarded : Guarded (SendGuard cfg k s₀) τ
  recorded : Recorded s₀ → Recorded s
  ordered : (∀ row ∈ s₀ .own, row.Ordered) → (clockReadings τ).Pairwise (· ≤ ·) →
    ∀ row ∈ s .own, row.Ordered

/-- What a report means. -/
structure Reported (k : SendCall) (s₀ : SendState) (τ : List (SendEvent P)) (s : SendState)
    (o : AuthorizedSendOutcome) : Prop where
  refused : o.publicCode = publicCodeDenied ∨ o.publicCode = publicCodePendingApproval →
    s .store = s₀ .store ∧ s .own = s₀ .own ∧ ∀ q r, ⟨⟨.store, .send q⟩, r⟩ ∉ τ
  sent : o.sent = true → (∃ row : DispatchCompleted, row.proposalId = k.proposalId ∧
      .started row.toDispatchStarted ∈ s .own ∧ .completed row ∈ s .own) ∧
    (s .store).status? k.proposalId = some .sent

section Stages
variable {cfg : SendConfig P} {k : SendCall} {s₀ s s' : SendState} {τ τ' : List (SendEvent P)}

theorem clockReadings_append : clockReadings (τ ++ τ') = clockReadings τ ++ clockReadings τ' :=
  List.filterMap_append

@[simp] theorem clockReadings_store (τ : List StoreEvent) :
    clockReadings (τ.map (Event.at (S := PartySig P) Party.store)) = [] := by
  simp [clockReadings, clockReading?, Event.at]

/-! Steps of the invariant: operations that leave the log alone, and an append. -/

theorem Progress.extend (h : Progress cfg k s₀ τ s)
    (hguard : ∀ e ∈ τ', ∀ τ₁, SendGuard cfg k s₀ e.op (τ ++ τ₁)) (hown : s' .own = s .own)
    (hleft : ∀ q, SendFsm.LeftPending (s .store) q → SendFsm.LeftPending (s' .store) q)
    (hsends : ∀ q ∈ (s' .store).sends, q ∈ (s .store).sends ∨
      ∃ row, .started row ∈ s .own ∧ row.proposalId = q) :
    Progress cfg k s₀ (τ ++ τ') s' := by
  refine ⟨h.guarded.append hguard, fun h₀ => ?_, fun h₀ hclock => ?_⟩
  · have hrec := h.recorded h₀
    refine ⟨?_, fun q hq => ?_, fun row hrow => ?_⟩
    · rw [hown]
      exact hrec.paired
    · rw [hown]
      rcases hsends q hq with hq | hq
      · exact hrec.started q hq
      · exact hq
    · rw [hown] at hrow
      exact hleft _ (hrec.left row hrow)
  · rw [hown]
    rw [clockReadings_append, List.pairwise_append] at hclock
    exact h.ordered h₀ hclock.1

/-- Operations without an effect on the stores and the log. -/
theorem Progress.quiet (h : Progress cfg k s₀ τ s)
    (hguard : ∀ e ∈ τ', ∀ τ₁, SendGuard cfg k s₀ e.op τ₁) (hown : s' .own = s .own)
    (hstore : s' .store = s .store) : Progress cfg k s₀ (τ ++ τ') s' := by
  refine h.extend (fun e he τ₁ => hguard e he _) hown ?_ ?_
  · rw [hstore]
    exact fun _ h => h
  · rw [hstore]
    exact fun _ h => .inl h

theorem Progress.append (h : Progress cfg k s₀ τ s) {row : DispatchRow} {r : Except Exc Unit}
    {log : List DispatchRow} (hlog : ownEnv (s .own) (.append row) r log)
    (hpaired : Recorded s₀ → Paired (s .own ++ [row]))
    (hleft : SendFsm.LeftPending (s .store) row.base.proposalId)
    (hordered : (clockReadings τ).Pairwise (· ≤ ·) → row.Ordered) :
    Progress cfg k s₀ (τ ++ [⟨⟨.own, .append row⟩, r⟩]) (Function.update s .own log) := by
  have hlog' : log = s .own ∨ log = s .own ++ [row] := by
    cases r with
    | ok u => exact .inr hlog
    | error e => exact hlog
  rcases hlog' with rfl | rfl
  · rw [Function.update_eq_self]
    refine h.quiet (fun e he τ₁ => ?_) rfl rfl
    rw [List.mem_singleton.mp he]
    trivial
  · refine ⟨h.guarded.concat trivial, fun h₀ => ?_, fun h₀ hclock => ?_⟩
    · have hrec := h.recorded h₀
      refine ⟨?_, fun q hq => ?_, fun row' hrow' => ?_⟩
      · rw [Function.update_self]
        exact hpaired h₀
      · rw [update_own_store] at hq
        obtain ⟨row', hrow', hid⟩ := hrec.started q hq
        refine ⟨row', ?_, hid⟩
        rw [Function.update_self]
        exact List.mem_append_left _ hrow'
      · rw [update_own_store]
        rw [Function.update_self] at hrow'
        rcases List.mem_append.mp hrow' with hrow' | hrow'
        · exact hrec.left row' hrow'
        · rw [← List.mem_singleton.mp hrow'] at hleft
          exact hleft
    · rw [clockReadings_append, List.pairwise_append] at hclock
      rw [Function.update_self]
      intro row' hrow'
      rcases List.mem_append.mp hrow' with hrow' | hrow'
      · exact h.ordered h₀ hclock.1 row' hrow'
      · rw [List.mem_singleton.mp hrow']
        exact hordered hclock.1

/-! Stages of the call. -/

/-- Progress at every point, and a report that is true. -/
abbrev Keeps (cfg : SendConfig P) (k : SendCall) (s₀ : SendState)
    (p : SendProc P AuthorizedSendOutcome) (τ : List (SendEvent P)) (s : SendState) : Prop :=
  p.sat (sendEnv P) (Progress cfg k s₀)
    (fun r τ s => Progress cfg k s₀ τ s ∧ ∀ o, r = .ok o → Reported k s₀ τ s o) τ s

/-- Reading a clock changes nothing. -/
theorem Progress.reading (h : Progress cfg k s₀ τ s) {o : OwnOp} {r : Except Exc o.Ret}
    {log : List DispatchRow} (ho : o = .now ∨ o = .clock) (hw : ownEnv (s .own) o r log) :
    Function.update s .own log = s ∧ Progress cfg k s₀ (τ ++ [⟨⟨.own, o⟩, r⟩]) s := by
  have hsame : log = s .own := by
    rcases ho with rfl | rfl <;> cases r <;> exact hw
  refine ⟨by rw [hsame, Function.update_eq_self], h.quiet (fun e he τ₁ => ?_) rfl rfl⟩
  rw [List.mem_singleton.mp he]
  trivial

/-- A report that is neither a refusal nor a send. -/
theorem reported_other {o : AuthorizedSendOutcome} (hsent : o.sent = false)
    (hcode : ¬ (o.publicCode = publicCodeDenied ∨ o.publicCode = publicCodePendingApproval)) :
    Reported k s₀ τ s o :=
  ⟨fun h => absurd h hcode, fun h => absurd (hsent.symm.trans h) (by decide)⟩

theorem recordUnavailable_not_refusal : ¬ (codeRecordUnavailable = publicCodeDenied ∨
    codeRecordUnavailable = publicCodePendingApproval) := by decide

theorem outcomeUnknown_not_refusal : ¬ (codeOutcomeUnknown = publicCodeDenied ∨
    codeOutcomeUnknown = publicCodePendingApproval) := by decide

/-- The codes of a status are no refusals. -/
theorem status_not_refusal (status : ProposalStatus) :
    ¬ (status.value = publicCodeDenied ∨ status.value = publicCodePendingApproval) := by
  cases status <;> decide

/-- **From the commit on.** The started row is persisted and no completed row is. -/
theorem commit_keeps {now : Int} {row : DispatchStarted} {l : List Int}
    (h : Progress cfg k s₀ τ s) (hid : row.proposalId = k.proposalId)
    (hguard : ∀ τ₁, SendGuard cfg k s₀ ⟨.store, .send k.proposalId⟩ (τ ++ τ₁))
    (hrow : .started row ∈ s .own)
    (hnew : Recorded s₀ → phaseRows (s .own) false k.proposalId = [])
    (hleft : SendFsm.LeftPending (s .store) k.proposalId)
    (hclock : clockReadings τ = l ++ [row.monoGmailCommitStartNs])
    (hordered : (clockReadings τ).Pairwise (· ≤ ·) →
      row.monoDecisionReceivedNs ≤ row.monoGmailCommitStartNs) :
    Keeps cfg k s₀ (commit P k.proposalId now row) τ s := by
  have hdispatch {τ' : List StoreEvent} {t : StoreState}
      (ht : ((∀ q, SendFsm.LeftPending (s .store) q → SendFsm.LeftPending t q) ∧
        ∀ q ∈ t.sends, q ∈ (s .store).sends ∨ q = k.proposalId) ∧
        ∀ e ∈ τ', SendFsm.FsmOp k.proposalId e.op) :
      Progress cfg k s₀ (τ ++ τ'.map (Event.at (S := PartySig P) Party.store))
        (Function.update s .store t) := by
    obtain ⟨⟨hleft, hsends⟩, hops⟩ := ht
    refine h.extend (fun e he τ₁ => ?_) rfl ?_ ?_
    · obtain ⟨⟨o, r⟩, he', rfl⟩ := List.mem_map.mp he
      have ho := hops _ he'
      -- of the state machine's operations only the send has a guard
      cases o with
      | send q =>
          obtain rfl : q = k.proposalId := ho
          exact hguard τ₁
      | _ => trivial
    · rw [Function.update_self]
      exact hleft
    · rw [Function.update_self]
      intro q hq
      rcases hsends q hq with hq | rfl
      · exact .inl hq
      · exact .inr ⟨row, hrow, hid⟩
  simp only [Keeps, commit, sat_bind]
  refine sat_party Party.store ?_
  refine sat_weaken (SendFsm.dispatch_spec now) (fun τ' t ht => hdispatch ht) fun r τ' t ht => ?_
  obtain ⟨ht, hstatus⟩ := ht
  have hprogress := hdispatch ht
  cases r with
  | error e => exact ⟨hprogress, fun _ h => by cases h⟩
  | ok status =>
      simp only [andThen_ok, sat_bind]
      refine sat_own.mpr fun r log hw => ?_
      obtain ⟨hs, hprogress⟩ := hprogress.reading (.inr rfl) hw
      rw [hs]
      refine ⟨hprogress, ?_⟩
      cases r with
      | error e => exact ⟨hprogress, fun _ h => by cases h⟩
      | ok complete =>
          simp only [andThen_ok, sat_bind, sat_attempt]
          refine sat_own.mpr fun r log hlog => ?_
          have hprogress := hprogress.append hlog ?_ ?_ ?_
          · refine ⟨hprogress, ?_⟩
            cases r with
            | error e =>
                refine ⟨hprogress, fun o ho => ?_⟩
                cases ho
                exact reported_other rfl outcomeUnknown_not_refusal
            | ok u =>
                refine ⟨hprogress, fun o ho => ⟨fun h => ?_, fun hsent => ?_⟩⟩
                · cases ho
                  exact absurd h (status_not_refusal status)
                · cases ho
                  have hsent : status = .sent := of_decide_eq_true hsent
                  have hlog : log = s .own ++ [.completed ⟨row, complete, status.value⟩] := hlog
                  rw [← hsent, Function.update_self, update_own_store, Function.update_self, hlog]
                  refine ⟨⟨⟨row, complete, status.value⟩, hid, ?_, ?_⟩, hstatus status rfl⟩
                  · exact List.mem_append_left _ hrow
                  · exact List.mem_append_right _ List.mem_cons_self
          · intro h₀
            rw [update_store_own]
            refine (h.recorded h₀).paired.concat_completed hrow ?_
            rw [← hnew h₀, ← hid]
          · rw [Function.update_self]
            show SendFsm.LeftPending t row.proposalId
            rw [hid]
            exact ht.1.1 _ hleft
          · intro hsorted
            rw [clockReadings_append, clockReadings_append, clockReadings_store, List.append_nil,
              hclock] at hsorted
            obtain ⟨hsorted, -, hlast⟩ := List.pairwise_append.mp hsorted
            refine ⟨hordered (by rwa [hclock]), hlast _ ?_ _ List.mem_cons_self⟩
            exact List.mem_append_right _ List.mem_cons_self

/-- The clock readings of an authorization: the decision is received between the other
two. -/
theorem Attribution.Valid.clockReadings {c : Attribution P} (hc : c.Valid cfg k s₀) :
    ∃ sent verified, AuthorizedGmailSend.clockReadings (c.events k) =
      [sent, c.authorization.monoDecisionReceived, verified] := by
  obtain ⟨g, hexec⟩ := hc.returned
  obtain ⟨clr, -, hresult, hevents, -⟩ := AuthorizationGate.Ended.of_exec hexec
  refine ⟨clr.monoSent, clr.monoVerified, ?_⟩
  rw [events, hevents, hresult]
  unfold AuthorizationGate.Clearance.events AuthorizationGate.LocalReading.events
    AuthorizationGate.proofEvents
  split <;> rfl

/-- **The started row.** The proposal was `PENDING`, so it has no row yet. -/
theorem recordAndCommit_keeps {c : Attribution P} {now start sent verified : Int}
    (hc : c.Valid cfg k s₀) (h : Progress cfg k s₀ τ s) (hτ : c.events k <+: τ) (hown : s .own = s₀ .own)
    (hpending : (s₀ .store).status? k.proposalId = some .pending)
    (hleft : SendFsm.LeftPending (s .store) k.proposalId)
    (hclock : clockReadings τ = [sent, c.authorization.monoDecisionReceived, verified] ++ [start]) :
    Keeps cfg k s₀ (recordAndCommit P k.proposalId now c.proposal
      (dispatchStarted k.proposalId k.request c.proposal c.authorization start)) τ s := by
  have hnew (h₀ : Recorded s₀) : phaseRows (s₀ .own) true k.proposalId = [] := by
    refine phaseRows_eq_nil.mpr fun row hrow hphase hid => ?_
    cases row with
    | completed row => cases hphase
    | started row =>
        obtain ⟨x, hx, hne⟩ := h₀.left row hrow
        rw [show row.proposalId = k.proposalId from hid, hpending] at hx
        exact hne (Option.some.inj hx).symm
  have hordered (hsorted : (clockReadings τ).Pairwise (· ≤ ·)) :
      c.authorization.monoDecisionReceived ≤ start := by
    rw [hclock] at hsorted
    exact (List.pairwise_append.mp hsorted).2.2 _ (by simp) _ List.mem_cons_self
  simp only [Keeps, recordAndCommit, sat_bind, sat_attempt]
  refine sat_own.mpr fun r log hlog => ?_
  have h := h.append hlog (fun h₀ => ?_) hleft hordered
  · refine ⟨h, ?_⟩
    cases r with
    | error e =>
        refine ⟨h, fun o ho => ?_⟩
        cases ho
        exact reported_other rfl recordUnavailable_not_refusal
    | ok u =>
        have hlog : log = s₀ .own ++ [.started (dispatchStarted k.proposalId k.request c.proposal
          c.authorization start)] := by
          rw [← hown]
          exact hlog
        have hclock' : clockReadings (τ ++ [⟨⟨.own, .append (.started (dispatchStarted k.proposalId
            k.request c.proposal c.authorization start))⟩, .ok u⟩]) =
            [sent, c.authorization.monoDecisionReceived, verified] ++ [start] := by
          rw [clockReadings_append, hclock]
          rfl
        refine commit_keeps h rfl (fun τ₁ => ?_) ?_ (fun h₀ => ?_) hleft hclock' fun hsorted => ?_
        · obtain ⟨τ₂, rfl⟩ := hτ
          refine ⟨rfl, c, τ₂ ++ [⟨⟨.own, .append (.started (dispatchStarted k.proposalId k.request
            c.proposal c.authorization start))⟩, .ok u⟩] ++ τ₁, start, hc, ?_, ?_⟩
          · simp only [List.append_assoc]
          · exact List.mem_append_left _ (List.mem_append_right _ List.mem_cons_self)
        · rw [Function.update_self, hlog]
          exact List.mem_append_right _ List.mem_cons_self
        · rw [Function.update_self, hlog, phaseRows_concat, h₀.paired.not_completed (hnew h₀)]
          rfl
        · rw [clockReadings_append] at hsorted
          exact hordered (List.pairwise_append.mp hsorted).1
  · rw [hown]
    exact h₀.paired.concat_started (hnew h₀)

/-- **After a clean decision.** Nothing was done to the stores and the log yet. -/
theorem send_keeps {c : Attribution P} (hc : c.Valid cfg k s₀)
    (h : Progress cfg k s₀ (c.events k) s) (hstore : s .store = s₀ .store)
    (hown : s .own = s₀ .own) :
    Keeps cfg k s₀ (send P cfg k.proposalId k.request c.proposal c.authorization) (c.events k) s := by
  simp only [Keeps, send, sat_bind]
  refine sat_own.mpr fun r log hw => ?_
  obtain ⟨hs, h⟩ := h.reading (.inl rfl) hw
  rw [hs]
  refine ⟨h, ?_⟩
  cases r with
  | error e => exact ⟨h, fun _ h => by cases h⟩
  | ok now =>
      have hconfirm {τ' : List StoreEvent} {t : StoreState}
          (ht : ((∀ q, SendFsm.LeftPending (s .store) q → SendFsm.LeftPending t q) ∧
            t.sends = (s .store).sends) ∧
            ∀ e ∈ τ', SendFsm.FsmOp k.proposalId e.op ∧ SendFsm.Sendless e.op) :
          Progress cfg k s₀ (c.events k ++ [⟨⟨.own, .now⟩, .ok now⟩] ++
            τ'.map (Event.at (S := PartySig P) Party.store)) (Function.update s .store t) := by
        obtain ⟨⟨hleft, hsends⟩, hops⟩ := ht
        refine h.extend (fun e he τ₁ => ?_) rfl ?_ ?_
        · obtain ⟨⟨o, r⟩, he', rfl⟩ := List.mem_map.mp he
          obtain ⟨-, hsendless⟩ := hops _ he'
          cases o with
          | send q => exact absurd rfl (hsendless q)
          | _ => trivial
        · rw [Function.update_self]
          exact hleft
        · rw [Function.update_self, hsends]
          exact fun q hq => .inl hq
      simp only [andThen_ok, sat_bind]
      refine sat_party Party.store ?_
      refine sat_weaken (SendFsm.confirm_spec cfg.switchMode .human now none)
        (fun τ' t ht => hconfirm ht) fun r τ' t ht => ?_
      obtain ⟨ht, hconfirmed⟩ := ht
      have h := hconfirm ht
      cases r with
      | error e => exact ⟨h, fun _ h => by cases h⟩
      | ok u =>
          obtain ⟨hpending, hleft⟩ := hconfirmed rfl
          rw [hstore] at hpending
          simp only [andThen_ok, sat_bind]
          refine sat_own.mpr fun r log hw => ?_
          obtain ⟨hs, h⟩ := h.reading (.inr rfl) hw
          rw [hs]
          refine ⟨h, ?_⟩
          cases r with
          | error e => exact ⟨h, fun _ h => by cases h⟩
          | ok start =>
              obtain ⟨sent, verified, hreadings⟩ := hc.clockReadings
              have hclock : clockReadings (c.events k ++ [⟨⟨.own, .now⟩, .ok now⟩] ++
                  τ'.map (Event.at (S := PartySig P) Party.store) ++ [⟨⟨.own, .clock⟩, .ok start⟩]) =
                  [sent, c.authorization.monoDecisionReceived, verified] ++ [start] := by
                rw [clockReadings_append, clockReadings_append, clockReadings_append, hreadings,
                  clockReadings_store]
                rfl
              refine recordAndCommit_keeps hc h ?_ hown hpending ?_ hclock
              · rw [List.append_assoc, List.append_assoc]
                exact List.prefix_append _ _
              · rw [Function.update_self]
                exact hleft

/-- What the gate returned with a clean decision: the grant is of mode `auto`, because the
decision is bound to the disposition the gate derived from it. -/
theorem exists_valid (read : Except Exc (Option KvValue)) {proposal : Proposal}
    {gateEvents : List (GateEvent P)} {a : Authorization} {g : GateState}
    (hstored : (s₀ .store).proposal? k.proposalId = some proposal)
    (hexec : Exec (gateEnv fun _ _ => True)
      (AuthorizationGate.authorize P cfg.gate k.request proposal.payloadDigest) (s₀ .gate)
      gateEvents (.done (.ok a)) g)
    (hclean : ¬ a.decision.disposition.eqStr dispositionNeedsApproval = true) :
    ∃ vgrant, (⟨read, proposal, gateEvents, a, vgrant⟩ : Attribution P).Valid cfg k s₀ := by
  obtain ⟨clr, hclr, hresult, hevents, -⟩ := AuthorizationGate.Ended.of_exec hexec
  have hbound := (bound_of_checkBinding hclr.bound).disposition
  have hpermits : clr.vgrant.permitsAuto = true := by
    by_contra hno
    refine hclean ?_
    rw [hresult]
    show clr.decision.disposition.eqStr dispositionNeedsApproval = true
    rw [hbound, PyVal.eqStr_iff]
    exact congrArg PyVal.str (if_neg hno)
  refine ⟨clr.vgrant, hstored, ⟨g, hexec⟩, hclr.local_.grant, of_decide_eq_true hpermits, ?_⟩
  refine ⟨AuthorizationGate.successRow k.request clr.now clr.vgrant clr.head
    (clr.expectedBinding k.request proposal.payloadDigest) clr.decision, ?_, if_pos hpermits, rfl, ?_⟩
  · rw [hevents]
    simp [AuthorizationGate.Clearance.events]
  · rw [hresult]
    rfl

theorem Progress.start : Progress cfg k s [] s := ⟨Guarded.nil, id, fun h _ => h⟩

/-- **A call.** -/
theorem call_keeps : Keeps cfg k s (k.run cfg) [] s := by
  simp only [Keeps, SendCall.run, authorizeAndSend, sat_bind]
  refine sat_party Party.store ?_
  rw [ProposalStore.sat_get]
  intro read t hget
  obtain ⟨rfl, hread⟩ := get_effect hget
  rw [Function.update_eq_self]
  have hstart : Progress cfg k s ([] ++ ([⟨.get k.proposalId, read⟩] : List StoreEvent).map
      (Event.at (S := PartySig P) Party.store)) s := by
    refine Progress.start.quiet (fun e he τ₁ => ?_) rfl rfl
    cases List.mem_singleton.mp he
    trivial
  refine ⟨hstart, ?_⟩
  cases hdec : ProposalStore.decode k.proposalId read with
  | error e => exact ⟨hstart, fun _ h => by cases h⟩
  | ok proposal =>
      have hgate (gateEvents : List (GateEvent P)) (g : GateState) :
          Progress cfg k s ([] ++ ([⟨.get k.proposalId, read⟩] : List StoreEvent).map
            (Event.at (S := PartySig P) Party.store) ++ gateEvents.map
            (Event.at (S := PartySig P) Party.gate)) (Function.update s .gate g) := by
        refine hstart.quiet (fun e he τ₁ => ?_) rfl rfl
        obtain ⟨e', -, rfl⟩ := List.mem_map.mp he
        trivial
      have hrefused (gateEvents : List (GateEvent P)) (g : GateState) (o : AuthorizedSendOutcome)
          (ho : o.sent = false) : Reported k s ([] ++ ([⟨.get k.proposalId, read⟩] :
            List StoreEvent).map (Event.at (S := PartySig P) Party.store) ++ gateEvents.map
            (Event.at (S := PartySig P) Party.gate)) (Function.update s .gate g) o := by
        refine ⟨fun _ => ⟨rfl, rfl, fun q r hmem => ?_⟩, fun h => ?_⟩
        · simp [Event.at] at hmem
        · exact absurd (ho.symm.trans h) (by decide)
      simp only [andThen_ok, sat_bind, sat_handle]
      refine sat_party Party.gate ?_
      refine sat_weaken (sat_of_exec (Q := fun r τ g => Exec (gateEnv fun _ _ => True)
        (AuthorizationGate.authorize P cfg.gate k.request proposal.payloadDigest) (s .gate) τ
        (.done r) g) fun τ r g h => h) (fun τ g _ => hgate τ g) fun r gateEvents g hexec => ?_
      cases r with
      | error e =>
          cases e with
          | authorizationDenied =>
              refine ⟨hgate gateEvents g, fun o ho => ?_⟩
              cases ho
              exact hrefused gateEvents g _ rfl
          | _ => exact ⟨hgate gateEvents g, fun _ h => by cases h⟩
      | ok a =>
          simp only [andThen_ok, sat_pure]
          split
          · refine ⟨hgate gateEvents g, fun o ho => ?_⟩
            cases ho
            exact hrefused gateEvents g _ rfl
          · rename_i hclean
            obtain ⟨vgrant, hvalid⟩ := exists_valid read (hread proposal hdec) hexec hclean
            exact send_keeps hvalid (hgate gateEvents g) rfl rfl

end Stages

/-! ### Runs -/

section Runs
variable {cfg : SendConfig P} {k : SendCall} {s₀ s s' : SendState} {τ : List (SendEvent P)}
  {out : Outcome Exc AuthorizedSendOutcome}
  {calls : List (Call (SendSig P) Exc AuthorizedSendOutcome SendCall)}

/-- Wherever a call ends or is stopped. -/
theorem Progress.of_exec (h : Exec (sendEnv P) (k.run cfg) s τ out s') :
    Progress cfg k s τ s' := by
  by_cases hτ : τ = []
  · rw [h.state_eq_of_nil hτ, hτ]
    exact .start
  · exact (h.sound call_keeps).1 hτ

theorem Reported.of_exec {o : AuthorizedSendOutcome}
    (h : Exec (sendEnv P) (k.run cfg) s τ (.done (.ok o)) s') : Reported k s τ s' o :=
  (h.post call_keeps).2 o rfl

/-- What is true of a call from `s₁` to `s₂`: each send follows its authorization and its
started row, and a refused call neither sends nor writes. -/
structure Attributed (cfg : SendConfig P)
    (call : Call (SendSig P) Exc AuthorizedSendOutcome SendCall) (s₁ s₂ : SendState) : Prop where
  sends : Guarded (SendGuard cfg call.key s₁) call.events
  refused : ∀ o, call.outcome = .done (.ok o) →
    o.publicCode = publicCodeDenied ∨ o.publicCode = publicCodePendingApproval →
    s₂ .store = s₁ .store ∧ s₂ .own = s₁ .own ∧ ∀ q r, ⟨⟨.store, .send q⟩, r⟩ ∉ call.events

/-- **No send without a matching authorization.** Every call of every run is `Attributed`,
from the state the calls before it left. -/
theorem session_attributed (h : Session (sendEnv P) (SendCall.run cfg) anyCall s₀ calls s) :
    ∀ call ∈ calls, ∃ before s₁ s₂, before ++ [call] <+: calls ∧
      Session (sendEnv P) (SendCall.run cfg) anyCall s₀ before s₁ ∧
      Exec (sendEnv P) (call.key.run cfg) s₁ call.events call.outcome s₂ ∧
      Attributed cfg call s₁ s₂ := by
  intro call hcall
  obtain ⟨before, s₁, s₂, hbefore, hexec, hpre⟩ := h.split hcall
  refine ⟨before, s₁, s₂, hpre, hbefore, hexec, (Progress.of_exec hexec).guarded, ?_⟩
  intro o ho hcode
  rw [ho] at hexec
  exact (Reported.of_exec hexec).refused hcode

/-- The invariants of a run. -/
theorem session_progress (h : Session (sendEnv P) (SendCall.run cfg) anyCall s₀ calls s)
    (h₀ : Recorded s₀) : Recorded s :=
  h.invariant h₀ fun _ _ _ _ _ hs hexec _ => (Progress.of_exec hexec).recorded hs

theorem session_ordered (h : Session (sendEnv P) (SendCall.run cfg) anyCall s₀ calls s)
    (h₀ : ∀ row ∈ s₀ .own, row.Ordered)
    (hclock : ∀ call ∈ calls, (clockReadings call.events).Pairwise (· ≤ ·)) :
    ∀ row ∈ s .own, row.Ordered :=
  (h.of_forall hclock).invariant (I := fun s => ∀ row ∈ s .own, row.Ordered) h₀
    fun _ _ _ _ _ hs hexec hclock => (Progress.of_exec hexec).ordered hs hclock

/-- **The dispatch records of a run.** Started on an empty log, a run, wherever it ends, has
a started row for every send, written before it in its call; the log is paired; `sent` is
reported with both rows persisted and the status stored; and with a clock that does not go
back the offsets are in order. -/
theorem session_recorded (h : Session (sendEnv P) (SendCall.run cfg) anyCall s₀ calls s)
    (hlog : s₀ .own = []) (hsends : (s₀ .store).sends = []) :
    (∀ q ∈ (s .store).sends, ∃ row, .started row ∈ s .own ∧ row.proposalId = q) ∧
    (∀ call ∈ calls, ∀ τ₁ q r, τ₁ ++ [⟨⟨.store, .send q⟩, r⟩] <+: call.events →
      ∃ row, ⟨⟨.own, .append (.started row)⟩, .ok ()⟩ ∈ τ₁ ∧ row.proposalId = q) ∧
    Paired (s .own) ∧
    (∀ before call o, calls = before ++ [call] → call.outcome = .done (.ok o) → o.sent = true →
      (∃ row : DispatchCompleted, row.proposalId = call.key.proposalId ∧
        .started row.toDispatchStarted ∈ s .own ∧ .completed row ∈ s .own) ∧
      (s .store).status? call.key.proposalId = some .sent) ∧
    ((∀ call ∈ calls, (clockReadings call.events).Pairwise (· ≤ ·)) →
      ∀ row ∈ s .own, row.Ordered) := by
  have h₀ : Recorded s₀ := by
    refine ⟨by rw [hlog]; exact paired_nil, fun q hq => ?_, fun row hrow => ?_⟩
    · rw [hsends] at hq
      cases hq
    · rw [hlog] at hrow
      cases hrow
  have hrec := session_progress h h₀
  refine ⟨hrec.started, ?_, hrec.paired, ?_, ?_⟩
  · intro call hcall τ₁ q r hpre
    obtain ⟨before, s₁, s₂, -, hexec, -⟩ := h.split hcall
    obtain ⟨rfl, c, τ₂, start, -, rfl, hrow⟩ := (Progress.of_exec hexec).guarded _ _ hpre
    exact ⟨_, List.mem_append_right _ hrow, rfl⟩
  · intro before call o hcalls ho hsent
    obtain ⟨s₁, -, hexec⟩ := h.last hcalls
    rw [ho] at hexec
    exact (Reported.of_exec hexec).sent hsent
  · exact session_ordered h (by simp [hlog])

end Runs

/-! ### A run -/

/-- A gateway that sends what is authorized. -/
def sampleSendConfig : SendConfig samplePlatform where
  gate := sampleConfig
  switchMode := .confirmThenSend

/-- A fresh gate and log, and one proposal. -/
def sampleSendState : SendState
  | .gate => GateState.initial
  | .store => .holding
      { proposalId := str "p1", payloadDigest := str "d1", expiresAt := 100, createdAt := 0 }
  | .own => []

/-- A call for the sample proposal. -/
def sampleSendCall : SendCall where
  proposalId := str "p1"
  request := sampleRequest .auto sampleOsSubject

/-- The proposal is authorized, sent and accepted. -/
@[irreducible] def sampleSend : List (SendEvent samplePlatform) × Outcome Exc AuthorizedSendOutcome × SendState :=
  sampleSendCall.scripted
    (sampleScript (sampleHead "1") .auto .osAccount (str "d1") (str "dec1")) 1 0
    { kind := .accepted } sampleSendConfig sampleSendState

theorem sampleSend_session : Session (sendEnv samplePlatform) (SendCall.run sampleSendConfig)
    anyCall sampleSendState [⟨sampleSendCall, sampleSend.1, sampleSend.2.1⟩] sampleSend.2.2 := by
  unfold sampleSend
  exact Session.start.call (sampleSendCall.scripted_exec _ 1 0 { kind := .accepted } _ _) trivial

/-- What the run left, in one evaluation. -/
theorem sampleSend_left : (sampleSend.2.2 .store).sends = [str "p1"] ∧
    returned? sampleSend.2.1 = some ⟨true, true, "sent", some .sent⟩ := by
  decide +kernel

/-- The one call of the run sent, and is attributed. -/
theorem session_attributed_sent : (sampleSend.2.2 .store).sends = [str "p1"] ∧
    ∃ before s₁ s₂, before ++ [⟨sampleSendCall, sampleSend.1, sampleSend.2.1⟩] <+:
        [⟨sampleSendCall, sampleSend.1, sampleSend.2.1⟩] ∧
      Session (sendEnv samplePlatform) (SendCall.run sampleSendConfig) anyCall sampleSendState
        before s₁ ∧
      Exec (sendEnv samplePlatform) (sampleSendCall.run sampleSendConfig) s₁ sampleSend.1
        sampleSend.2.1 s₂ ∧
      Attributed sampleSendConfig ⟨sampleSendCall, sampleSend.1, sampleSend.2.1⟩ s₁ s₂ :=
  ⟨sampleSend_left.1, session_attributed sampleSend_session _ List.mem_cons_self⟩

/-- It reported `sent`, and its two rows are persisted. -/
theorem session_recorded_sent :
    returned? sampleSend.2.1 = some ⟨true, true, "sent", some .sent⟩ ∧
    ((∃ row : DispatchCompleted, row.proposalId = str "p1" ∧
        .started row.toDispatchStarted ∈ sampleSend.2.2 .own ∧
        .completed row ∈ sampleSend.2.2 .own) ∧
      (sampleSend.2.2 .store).status? (str "p1") = some .sent) := by
  obtain ⟨-, hsent⟩ := sampleSend_left
  obtain ⟨-, -, -, hrows, -⟩ := session_recorded sampleSend_session rfl rfl
  exact ⟨hsent, hrows [] _ _ rfl (returned?_eq_some.mp hsent) rfl⟩

end AuthorizedGmailSend

end GmailGateway
