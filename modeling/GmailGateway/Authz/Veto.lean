import GmailGateway.Authz.Mediation

/-!
# GmailGateway.Authz.Veto

**The untrusted decision can only veto.** Two calls with the same request start from the
same state of the gate and are answered the same by the relay and the clocks, but by
different decision services. If both return, the services chose nothing but the decision's
id, its time and its signature: every other field, the audit row and the gate's state are
what the gate derived itself.
-/

namespace GmailGateway

open Effect Proc Python

/-- What a call reads that no decision service answers: the clocks and the synced head. -/
def GateOp.isReading : GateOp → Bool
  | .now | .clock | .sync => true
  | _ => false

/-- A decision without the fields that its service chooses. -/
def Decision.projection (d : Decision) : Decision :=
  { d with decisionId := .none, decidedAt := .none, sig := none }

/-- An audit row without the decision id. -/
def AuthzAuditEvent.projection (row : AuthzAuditEvent) : AuthzAuditEvent :=
  { row with decisionId := none }

namespace AuthorizationGate

section
variable {P : Platform} {cfg : GateConfig P} {request : AuthorizationRequest} {expected : PyStr}

/-- The readings of a call, in order. -/
def readings (τ : List (GateEvent P)) : List (GateEvent P) := τ.filter fun ev => ev.op.isReading

theorem readings_events (c : Clearance P) :
    readings (c.events request expected) =
      [⟨.now, .ok c.now⟩, ⟨.sync, .ok c.env⟩, ⟨.clock, .ok c.monoSent⟩,
        ⟨.clock, .ok c.monoReceived⟩, ⟨.now, .ok c.wallVerified⟩, ⟨.clock, .ok c.monoVerified⟩] := by
  unfold readings Clearance.events LocalReading.events acceptEvents proofEvents
  split <;> simp [GateOp.isReading]

/-- Two clearances with the same readings have verified the same head and the same grant. -/
theorem clearance_agrees {c₁ c₂ : Clearance P} (h₁ : c₁.Valid cfg request expected)
    (h₂ : c₂.Valid cfg request expected)
    (h : readings (c₁.events request expected) = readings (c₂.events request expected)) :
    c₁.now = c₂.now ∧ c₁.head = c₂.head ∧ c₁.vgrant = c₂.vgrant ∧
      c₁.monoReceived = c₂.monoReceived := by
  rw [readings_events, readings_events] at h
  simp only [List.cons.injEq, Event.mk.injEq, heq_eq_eq, Except.ok.injEq, true_and, and_true] at h
  obtain ⟨hnow, henv, -, hreceived, -, -⟩ := h
  have hhead : c₁.head = c₂.head := by
    have hok := h₁.local_.head
    rw [henv, h₂.local_.head] at hok
    exact (Except.ok.inj hok).symm
  have hgrant : c₁.vgrant = c₂.vgrant :=
    Except.ok.inj (h₁.local_.grant.symm.trans h₂.local_.grant)
  exact ⟨hnow, hhead, hgrant, hreceived⟩

/-- A decision that is bound is, up to what its service chooses, the one the gate expects. -/
theorem projection_of_bound {d : Decision} {e : ExpectedBinding} (h : Bound d e) :
    d.projection =
      { decisionId := .none, grantId := .str e.grantId, grantVersion := .str e.grantVersion,
        stateVersion := .str e.stateVersion, authzStateDigest := .str e.authzStateDigest,
        requestId := .str e.requestId, actionDigest := .str e.actionDigest, decidedAt := .none,
        disposition := .str e.disposition, approvalMode := .str e.approvalMode,
        subjectKind := .str e.subjectKind, sig := none } := by
  rw [Decision.projection, h.grantId, h.grantVersion, h.stateVersion, h.authzStateDigest,
    h.requestId, h.actionDigest, h.disposition, h.approvalMode, h.subjectKind]

/-- Two calls from the state `s` that differ in what their decision services chose, and in
nothing else. -/
structure DiffersInChoice (expected : PyStr) (s : GateState) (a₁ : Authorization) (s₁ : GateState)
    (a₂ : Authorization) (s₂ : GateState) : Prop where
  decision : a₁.decision.projection = a₂.decision.projection
  disposition : a₁.decision.disposition = a₂.decision.disposition
  received : a₁.monoDecisionReceived = a₂.monoDecisionReceived
  mark : s₁.mark = s₂.mark
  requests : s₁.requests = s₂.requests
  decisions : ∃ key₁ key₂, a₁.decision.decisionId.hashKey = some key₁ ∧
    a₂.decision.decisionId.hashKey = some key₂ ∧
    s₁.decisions = ⟨s.decisions.consumed ++ [(key₁, expected)]⟩ ∧
    s₂.decisions = ⟨s.decisions.consumed ++ [(key₂, expected)]⟩
  audit : ∃ row₁ row₂, s₁.audit = s.audit ++ [row₁] ∧ s₂.audit = s.audit ++ [row₂] ∧
    row₁.projection = row₂.projection ∧ row₁.decisionId = some a₁.decision.decisionId ∧
    row₂.decisionId = some a₂.decision.decisionId

theorem consumeOnce_first {κ : Type} [DecidableEq κ] {c : LockedConsumer κ} {key : κ}
    (h : c.holds key = false) (digest : PyStr) :
    (c.consumeOnce key digest).2 = ⟨c.consumed ++ [(key, digest)]⟩ := by
  rw [LockedConsumer.consumeOnce, if_neg (by simp [h])]

/-- **Veto only.** Whatever two decision services answer, if the call returns under both then
the two results differ in what the services choose and in nothing else. -/
theorem authorize_vetoOnly {mayRaise : GateOp → Exc → Prop} {s s₁ s₂ : GateState}
    {τ₁ τ₂ : List (GateEvent P)} {a₁ a₂ : Authorization}
    (h₁ : Exec (gateEnv mayRaise) (authorize P cfg request expected) s τ₁ (.done (.ok a₁)) s₁)
    (h₂ : Exec (gateEnv mayRaise) (authorize P cfg request expected) s τ₂ (.done (.ok a₂)) s₂)
    (hreadings : readings τ₁ = readings τ₂) : DiffersInChoice expected s a₁ s₁ a₂ s₂ := by
  obtain ⟨c₁, hc₁, rfl, rfl, -⟩ := Ended.of_exec h₁
  obtain ⟨c₂, hc₂, rfl, rfl, -⟩ := Ended.of_exec h₂
  obtain ⟨hnow, hhead, hgrant, hreceived⟩ := clearance_agrees hc₁ hc₂ hreadings
  obtain ⟨-, -, key₁, hkey₁, hfirst₁, hs₁⟩ := steps_events.mp h₁.steps
  obtain ⟨-, -, key₂, hkey₂, hfirst₂, hs₂⟩ := steps_events.mp h₂.steps
  have hexpected : c₁.expectedBinding request expected = c₂.expectedBinding request expected := by
    rw [Clearance.expectedBinding, Clearance.expectedBinding, hhead, hgrant]
  have hbound₁ := bound_of_checkBinding hc₁.bound
  have hbound₂ := bound_of_checkBinding hc₂.bound
  have hrequestKey : c₁.requestKey request = c₂.requestKey request := by
    rw [LocalReading.requestKey, LocalReading.requestKey, hgrant]
  exact {
    decision := by
      show c₁.decision.projection = c₂.decision.projection
      rw [projection_of_bound hbound₁, projection_of_bound hbound₂, hexpected]
    disposition := by
      show c₁.decision.disposition = c₂.decision.disposition
      rw [hbound₁.disposition, hbound₂.disposition, hexpected]
    received := hreceived
    mark := by rw [hs₁, hs₂, hhead]
    requests := by rw [hs₁, hs₂, hrequestKey]
    decisions := ⟨key₁, key₂, hkey₁, hkey₂, by rw [hs₁, consumeOnce_first hfirst₁],
      by rw [hs₂, consumeOnce_first hfirst₂]⟩
    audit := by
      refine ⟨_, _, by rw [hs₁], by rw [hs₂], ?_, rfl, rfl⟩
      rw [hexpected, hhead, hgrant, hnow]
      rfl }

end

/-! ### Two services -/

/-- The readings of a scripted call that returned are the script's. -/
theorem readings_scripted {P : Platform} {script : GateScript P} {cfg : GateConfig P}
    {request : AuthorizationRequest} {expected : PyStr} {s : GateState} {a : Authorization}
    (ha : (scripted script cfg request expected s).2.1 = .done (.ok a)) :
    readings (scripted script cfg request expected s).1 =
      [⟨.now, .ok script.now⟩, ⟨.sync, .ok script.sync⟩, ⟨.clock, .ok script.clock⟩,
        ⟨.clock, .ok script.clock⟩, ⟨.now, .ok script.now⟩, ⟨.clock, .ok script.clock⟩] := by
  have hexec := scripted_answers script cfg request expected s
  rw [ha] at hexec
  obtain ⟨c, -, -, hτ, -⟩ := Ended.of_exec hexec
  have hanswered : ∀ ev ∈ readings (scripted script cfg request expected s).1,
      ∃ s₁ s₂, scriptEnv script s₁ ev.op ev.ans s₂ := fun ev hev =>
    hexec.steps.answered (List.mem_of_mem_filter hev)
  rw [hτ, readings_events] at hanswered
  simp only [List.forall_mem_cons, scriptEnv, GateState.perform, Prod.mk.injEq,
    Except.ok.injEq, exists_and_left] at hanswered
  obtain ⟨⟨hnow, -⟩, ⟨henv, -⟩, ⟨hsent, -⟩, ⟨hreceived, -⟩, ⟨hwall, -⟩, ⟨hverified, -⟩, -⟩ :=
    hanswered
  rw [hτ, readings_events, hnow, henv, hsent, hreceived, hwall, hverified]

/-- A service that answers with the decision id `id`. -/
def choosing (id : PyStr) : GateScript samplePlatform :=
  sampleScript (sampleHead "1") .auto .osAccount (str "d1") id

/-- Its call at a gate that has seen nothing. -/
def chosen (id : PyStr) :
    List (GateEvent samplePlatform) × Outcome Exc Authorization × GateState :=
  scripted (choosing id) sampleConfig (sampleRequest .auto sampleOsSubject) (str "d1")
    GateState.initial

/-- Where it returns, it does so on the script's readings. -/
theorem chosen_returns {id : PyStr}
    (h : (returned? (chosen id).2.1).map (·.decision.decisionId.hashKey) = some (some (.str id))) :
    ∃ a s' τ, a.decision.decisionId.hashKey = some (.str id) ∧
      Exec (gateEnv reliable) (authorize samplePlatform sampleConfig
        (sampleRequest .auto sampleOsSubject) (str "d1")) GateState.initial τ (.done (.ok a)) s' ∧
      readings τ = [⟨.now, .ok 1767225600⟩, ⟨.sync, .ok (sampleSync (sampleHead "1") [])⟩,
        ⟨.clock, .ok 0⟩, ⟨.clock, .ok 0⟩, ⟨.now, .ok 1767225600⟩, ⟨.clock, .ok 0⟩] := by
  obtain ⟨a, ha, hkey⟩ := Option.map_eq_some_iff.mp h
  have hreturned : (chosen id).2.1 = .done (.ok a) := returned?_eq_some.mp ha
  have hexec : Exec (gateEnv reliable) (authorize samplePlatform sampleConfig
      (sampleRequest .auto sampleOsSubject) (str "d1")) GateState.initial (chosen id).1
      (chosen id).2.1 (chosen id).2.2 :=
    scripted_exec (choosing id) reliable sampleConfig (sampleRequest .auto sampleOsSubject)
      (str "d1") GateState.initial
  rw [hreturned] at hexec
  have hreadings := readings_scripted hreturned
  simp only [choosing, sampleScript] at hreadings
  exact ⟨a, (chosen id).2.2, (chosen id).1, hkey, hexec, hreadings⟩

/-- Two services allow the same request with decisions of different ids. -/
theorem authorize_vetoOnly_two : ∃ a₁ s₁ a₂ s₂,
    a₁.decision.decisionId.hashKey = some (.str (str "x1")) ∧
    a₂.decision.decisionId.hashKey = some (.str (str "x2")) ∧
    DiffersInChoice (str "d1") GateState.initial a₁ s₁ a₂ s₂ := by
  -- Both calls in one evaluation: they verify the same request.
  have hboth : ∀ id ∈ [str "x1", str "x2"],
      (returned? (chosen id).2.1).map (·.decision.decisionId.hashKey) = some (some (.str id)) := by
    decide +kernel
  have hfirst := hboth (str "x1") List.mem_cons_self
  have hsecond := hboth (str "x2") (List.mem_cons_of_mem _ List.mem_cons_self)
  obtain ⟨a₁, s₁, τ₁, hkey₁, hexec₁, hreadings₁⟩ := chosen_returns hfirst
  obtain ⟨a₂, s₂, τ₂, hkey₂, hexec₂, hreadings₂⟩ := chosen_returns hsecond
  exact ⟨a₁, s₁, a₂, s₂, hkey₁, hkey₂,
    authorize_vetoOnly hexec₁ hexec₂ (hreadings₁.trans hreadings₂.symm)⟩

end AuthorizationGate

end GmailGateway
