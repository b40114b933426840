import GmailGateway.Authz.Mediation

/-!
# GmailGateway.Authz.FailClosed

**Failing closed.** A call is meant to return, or to raise the coarse exception, and to
append exactly one audit row either way. The gate catches `CertificateError` around its
parsers, but untrusted values also reach `canonicalize`, `int`, set membership and
comparisons outside any `try`: a value that strays there leaves `authorize` as another
exception, without a row. This is exactly when a call does not fail closed.
-/

namespace GmailGateway

open Effect Proc Python

namespace AuthorizationGate

/-- A row that says the call returned. -/
def IsSuccess (row : AuthzAuditEvent) : Prop :=
  row.code = dispositionAuthorized ∨ row.code = dispositionNeedsApproval

/-- **Failing closed**: a result or the coarse exception, and one row that says which. -/
structure FailsClosed (s : GateState) (r : Except Exc Authorization) (s' : GateState) : Prop where
  coarse : ∀ e, r = .error e → e = .authorizationDenied
  audited : ∃ row, s'.audit = s.audit ++ [row] ∧ (IsSuccess row ↔ ∃ a, r = .ok a)

section Rows
variable {P : Platform} {mayRaise : GateOp → Exc → Prop} {s s' : GateState}
  {τ : List (GateEvent P)}

/-- Only `record` appends. -/
theorem audit_of_noRecord (h : Steps (gateEnv mayRaise) s τ s') (hτ : NoRecord τ) :
    s'.audit = s.audit := by
  induction h with
  | nil => rfl
  | @cons e s s₁ τ s' hw _ ih =>
      have htail : NoRecord τ := fun row r hmem => hτ row r (List.mem_cons_of_mem _ hmem)
      rw [ih htail]
      rcases gateEnv_cases hw with rfl | ⟨v, -, rfl⟩ | ⟨key, d, -, rfl⟩ | ⟨v, key, d, -, -, rfl⟩ |
        ⟨row, ho, rfl⟩
      · rfl
      · rfl
      · rfl
      · rfl
      · -- a row would be an event
        obtain ⟨o, r⟩ := e
        obtain rfl : o = .record row := ho
        exact absurd List.mem_cons_self (hτ row r)

/-- Reliable collaborators do not break a call. -/
theorem not_breaks (h : Steps (gateEnv reliable) s τ s') : ¬ ∃ e ∈ τ, Breaks e := by
  induction h with
  | nil => simp
  | @cons e s s₁ τ s' hw _ ih =>
      intro hspec
      obtain ⟨e', hmem, hbreak⟩ := hspec
      rcases List.mem_cons.mp hmem with rfl | hmem
      · obtain ⟨o, r⟩ := e'
        cases o with
        | now | clock | peer | decisionPublicKey | record =>
            cases r with
            | ok a => exact hbreak
            | error e => exact hw.1
        | sync =>
            cases r with
            | ok a => exact hbreak
            | error e => exact hbreak hw.1
        | _ => exact hbreak
      · exact ih ⟨e', hmem, hbreak⟩

theorem not_isSuccess_denialRow {request : AuthorizationRequest} {now : Int}
    {reason : DenialReason} {detail : Option String} {vgrant : Option Grant} :
    ¬ IsSuccess (denialRow P request now reason detail vgrant) := by
  show ¬ (str reason.value = dispositionAuthorized ∨ str reason.value = dispositionNeedsApproval)
  cases reason <;> decide

theorem isSuccess_successRow {request : AuthorizationRequest} {now : Int} {vgrant : Grant}
    {head : VerifiedHead} {expected : PyStr} {d : Decision} :
    IsSuccess (successRow request now vgrant head (expectedBinding request vgrant head expected) d) := by
  show (if vgrant.permitsAuto then dispositionAuthorized else dispositionNeedsApproval) = _ ∨ _ = _
  split
  · exact .inl rfl
  · exact .inr (if_neg ‹_›)

end Rows

theorem ne_authorizationDenied {e : Exc} (h : IsStray e) : e ≠ .authorizationDenied := by
  rcases h with (rfl | rfl | ⟨m, rfl⟩) | rfl | rfl <;> simp

section Calls
variable {P : Platform} {cfg : GateConfig P} {request : AuthorizationRequest} {expected : PyStr}
  {s s' : GateState} {τ : List (GateEvent P)} {r : Except Exc Authorization}

/-- **Exactly when a call fails closed**: when no value it gets to verify strays. -/
theorem authorize_failsClosed
    (h : Exec (gateEnv reliable) (authorize P cfg request expected) s τ (.done r) s') :
    FailsClosed s r s' ↔ NoStray cfg request expected τ := by
  have hended := Ended.of_exec h
  have hsteps := h.steps
  constructor
  · intro hclosed
    cases r with
    | ok a =>
        obtain ⟨c, -, -, -, hcalm⟩ := hended
        exact hcalm
    | error e =>
        cases hended with
        | denied hno hcalm => exact hcalm.concat (.inr ⟨_, _, rfl⟩)
        | escaped _ _ hstray => 
            exact absurd (hclosed.coarse e rfl) (ne_authorizationDenied hstray)
        | broke hbreak => exact absurd hbreak (not_breaks hsteps)
  · intro hcalm
    cases r with
    | ok a =>
        obtain ⟨c, -, -, rfl, -⟩ := hended
        obtain ⟨-, -, key, -, -, rfl⟩ := steps_events.mp hsteps
        exact ⟨fun e h => (nomatch h), _, rfl, iff_of_true isSuccess_successRow ⟨a, rfl⟩⟩
    | error e =>
        cases hended with
        | denied hno _ =>
            obtain ⟨s₁, h₁, h₂⟩ := steps_append.mp hsteps
            simp only [steps_cons, steps_nil, gateEnv] at h₂
            obtain ⟨_, rfl, rfl⟩ := h₂
            exact ⟨fun e h => (Except.error.inj h).symm, _,
              congrArg (· ++ [_]) (audit_of_noRecord h₁ hno),
              iff_of_false not_isSuccess_denialRow (by simp)⟩
        | escaped _ hstray _ => exact absurd hcalm hstray
        | broke hbreak => exact absurd hbreak (not_breaks hsteps)

end Calls

/-! ### A head with a float -/

/-- A call that is delivered a head body with a number `canonicalize` refuses. -/
def floatHead : List (GateEvent samplePlatform) × Outcome Exc Authorization × GateState :=
  scripted { sampleScript (sampleHead "1") .auto .osAccount (str "d1") (str "x1") with
      sync := sampleSync [(str "x", .float (.finite (3 / 2)))] [] }
    sampleConfig (sampleRequest .auto sampleOsSubject) (str "d1") GateState.initial

/-- Whether a call was left by an exception of `canonicalize`. -/
def raisedJcsError : Outcome Exc Authorization → Bool
  | .done (.error (.jcsError _)) => true
  | _ => false

theorem floatHead_exec :
    ∃ message, Exec (gateEnv reliable) (authorize samplePlatform sampleConfig
      (sampleRequest .auto sampleOsSubject) (str "d1")) GateState.initial floatHead.1
      (.done (.error (.jcsError message))) floatHead.2.2 := by
  have hexec := scripted_exec { sampleScript (sampleHead "1") .auto .osAccount (str "d1") (str "x1")
      with sync := sampleSync [(str "x", .float (.finite (3 / 2)))] [] }
    reliable sampleConfig (sampleRequest .auto sampleOsSubject) (str "d1") GateState.initial
  have hraised : raisedJcsError floatHead.2.1 = true := by decide +kernel
  unfold raisedJcsError at hraised
  split at hraised
  · rename_i message hout
    exact ⟨message, hout ▸ hexec⟩
  · cases hraised

/-- `JcsError` leaves `authorize`, and no row is written. -/
theorem authorize_escapes :
    ¬ ∀ (P : Platform) (cfg : GateConfig P) (request : AuthorizationRequest) (expected : PyStr)
      (s s' : GateState) (τ : List (GateEvent P)) (r : Except Exc Authorization),
      Exec (gateEnv reliable) (authorize P cfg request expected) s τ (.done r) s' →
      FailsClosed s r s' := by
  intro hclaim
  obtain ⟨message, hexec⟩ := floatHead_exec
  cases (hclaim _ _ _ _ _ _ _ _ hexec).coarse _ rfl

/-- The head of that call strays. -/
theorem authorize_failsClosed_floatHead :
    ¬ NoStray sampleConfig (sampleRequest .auto sampleOsSubject) (str "d1") floatHead.1 := by
  obtain ⟨message, hexec⟩ := floatHead_exec
  intro hcalm
  cases ((authorize_failsClosed hexec).mpr hcalm).coarse _ rfl

end AuthorizationGate

end GmailGateway
