import GmailGateway.Gateway.SqliteStores
import GmailGateway.SendFsm.Rows

/-!
# GmailGateway.Gateway.SendCli

The operator's command `send --proposal <id>` (`gateway/send_cli.py`): each run is a process of its
own, which opens the stores, confirms and dispatches one proposal, and tells by its exit code how
that ended.

**Sent at most once.** Whatever is run how often, one after the other on one data root, with faults
of the connections and runs killed anywhere: no proposal is handed to the sender twice, and at most
one run for it exits with 0.
-/

namespace GmailGateway

open Effect Proc Python

namespace SendCli

open SqliteStores (Stores StoresOp Holds Coupled Lossless KeepsLossless)

/-! ### The process -/

/-- The files under the data root. -/
inductive DbFile
  | proposals
  | payloads
  | token
  | audit
  deriving DecidableEq

/-- What a run of the command performs. -/
inductive SendCliOp
  /-- `import keyring`. -/
  | keyring
  | connect (file : DbFile)
  | close (file : DbFile)
  | stores (o : StoresOp)
  | stdout (text : PyStr)
  | stderr (text : PyStr)

/-- Only the stores answer with something. -/
abbrev SendCliOp.Ret : SendCliOp → Type
  | .stores o => o.Ret
  | .keyring | .connect _ | .close _ | .stdout _ | .stderr _ => Unit

/-- Imports, connections, the stores behind them, and the two output streams. -/
abbrev SendCliSig : Signature := ⟨SendCliOp, SendCliOp.Ret⟩

/-- What the functions of the command are. -/
abbrev SendCliProc (α : Type) := Proc SendCliSig Exc α

/-- An operation with its answer. -/
abbrev SendCliEvent := Event SendCliSig Exc

/-- The handle on a file becomes a fresh one. What the token and the content are needed for is
behind the sender. -/
def fresh (t : Stores) : DbFile → Stores
  | .proposals => t.with .kv { committed := (t.handles .kv).committed }
  | .audit => t.with .log { committed := (t.handles .log).committed }
  | .payloads | .token => t

/-- Any operation may raise. Closing a connection gives up what is pending on it. -/
def sendCliEnv : Env SendCliSig Exc Stores
  | t, .connect file, .ok _, t' | t, .close file, .ok _, t' => t' = fresh t file
  | t, .stores o, r, t' => SqliteStores.env t o r t'
  | t, _, _, t' => t' = t

theorem fresh_settled_kv (t : Stores) : ((fresh t .proposals).handles .kv).Settled := by
  simp only [fresh, Stores.with_self]
  exact fun _ => rfl

theorem fresh_settled_log (t : Stores) : ((fresh t .audit).handles .log).Settled := by
  simp only [fresh, Stores.with_self]
  exact fun _ => rfl

theorem fresh_audit_kv (t : Stores) : (fresh t .audit).handles .kv = t.handles .kv :=
  t.with_of_ne (by decide) _

/-- A procedure on the stores. -/
def onStores {α : Type} (p : Proc SqliteStores.Sig Exc α) : SendCliProc α :=
  p.implement fun o => perform (S := SendCliSig) (.stores o)

/-- Open the connection to a file under the data root. -/
abbrev connect (file : DbFile) : SendCliProc Unit := perform (S := SendCliSig) (.connect file)

/-- Close it. -/
abbrev close (file : DbFile) : SendCliProc Unit := perform (S := SendCliSig) (.close file)

/-- The `finally` of `run_send`. -/
def closeAll : SendCliProc Unit := do
  close .proposals
  close .payloads
  close .token
  close .audit

section
variable (toFloat : PyStr → PyFloat) (floatRepr : PyFloat → PyStr) (exceptionName : Exc → PyStr)

/-- What is done with the open stores: `confirm_and_dispatch`. -/
def confirmAndDispatch (proposalId : PyStr) : SendCliProc String :=
  onStores ((ConfirmDispatcher.confirmAndDispatch .confirmThenSend proposalId).implement
    (SqliteStores.method toFloat floatRepr))

/-- `run_send`. -/
def runSend (proposalId : PyStr) : SendCliProc String := do
  perform (S := SendCliSig) .keyring
  connect .proposals
  connect .payloads
  connect .token
  connect .audit
  let result ← attempt (confirmAndDispatch toFloat floatRepr proposalId)
  -- An exception of `close` replaces the result.
  closeAll
  embed result

/-- What is reported of an exception, and the exit code. -/
def refusal (proposalId : PyStr) (e : Exc) : PyStr × Int :=
  match e with
  | .proposalNotFound _ => (str "send: no such proposal: " ++ proposalId ++ str "\n", 4)
  | .proposalExpired _ => (str "send: proposal expired: " ++ proposalId ++ str "\n", 5)
  | .illegalTransition _ | .alreadySettled _ | .noAutoRetry _ =>
      (str "send: cannot send " ++ proposalId ++ str ": " ++ exceptionName e ++ str "\n", 6)
  | _ => (str "send: failed: " ++ exceptionName e ++ str "\n", 1)

/-- The exit code; a run that raises exits with 1. -/
def main (proposalId : PyStr) : SendCliProc Int := do
  match ← attempt (runSend toFloat floatRepr proposalId) with
  | .ok status => do
      perform (S := SendCliSig)
        (.stdout (str "proposal " ++ proposalId ++ str ": " ++ str status ++ str "\n"))
      pure (if status = "sent" then 0 else 7)
  | .error e => do
      perform (S := SendCliSig) (.stderr (refusal exceptionName proposalId e).1)
      pure (refusal exceptionName proposalId e).2

end

/-! ### What a run may do to the stores -/

open SendFsm (LeftPending FsmOp Sendless)

/-- What a run for `proposalId` has done so far. -/
structure SendEffect (proposalId : PyStr) (s s' : StoreState) : Prop where
  others : ∀ q, q ≠ proposalId → s'.kv q = s.kv q
  leaves : ∀ q, LeftPending s q → LeftPending s' q
  /-- A proposal that is not pending is left alone. -/
  refused : LeftPending s proposalId → s'.kv = s.kv ∧ s'.sends = s.sends
  /-- Before the sender is called the proposal has left `PENDING` for good. -/
  sends : s'.sends = s.sends ∨
    s'.sends = s.sends ++ [proposalId] ∧ s.status? proposalId = some .pending ∧
      LeftPending s' proposalId

/-- A run that returned this status has sent the proposal. -/
structure SentAs (proposalId : PyStr) (s s' : StoreState) (status : String) : Prop where
  pending : s.status? proposalId = some .pending
  sent : s'.sends = s.sends ++ [proposalId]
  settled : ∃ x : ProposalStatus, status = x.value ∧ s'.status? proposalId = some x

section
variable {s s' : StoreState} {proposalId : PyStr}

theorem leftPending_not_pending (h : LeftPending s proposalId) :
    s.status? proposalId ≠ some .pending := by
  obtain ⟨x, hx, hne⟩ := h
  rw [hx]
  exact fun h => hne (Option.some.inj h)

theorem SendEffect.refl (proposalId : PyStr) (s : StoreState) : SendEffect proposalId s s :=
  ⟨fun _ _ => rfl, fun _ h => h, fun _ => ⟨rfl, rfl⟩, .inl rfl⟩

/-- Only a send is a send. -/
theorem sends_of_sendless {o : StoreOp} {r : Except Exc o.Ret} (ho : Sendless o)
    (h : faultyStores s o r s') : s'.sends = s.sends := by
  cases o with
  | send q => exact absurd rfl (ho q)
  | claim =>
      cases r with
      | error e => rw [h.2]
      | ok won => rw [h.2]; split <;> rfl
  | get | now | put | append | delete =>
      cases r with
      | error e => rw [h.2]
      | ok a => first | rw [h.2] | rw [show s' = _ from h]

/-- A proposal that is not pending is not confirmed: it is read, and that is all. -/
theorem confirm_refused (h : LeftPending s proposalId) (now : Int) :
    (SendFsm.confirm .confirmThenSend proposalId .human now).sat faultyStores
      (fun _ s' => s' = s) (fun r _ s' => s' = s ∧ r ≠ .ok ()) [] s := by
  simp only [SendFsm.confirm, sat_bind, ProposalStore.sat_getLive]
  intro r s₁ hget
  obtain ⟨rfl, hread⟩ := get_effect hget
  refine ⟨rfl, ?_⟩
  cases hdecode : ProposalStore.decode proposalId r with
  | error e => exact ⟨rfl, by simp⟩
  | ok p =>
      have hp : p.status ≠ .pending := by
        intro hpending
        refine leftPending_not_pending h ?_
        rw [StoreState.status?, hread p hdecode]
        exact congrArg some hpending
      simp [hp]

/-- Confirming changes nothing but this proposal, and does not send. -/
theorem confirm_effect (now : Int) :
    (SendFsm.confirm .confirmThenSend proposalId .human now).sat faultyStores
      (fun _ s' => SendEffect proposalId s s' ∧ s'.sends = s.sends)
      (fun r _ s' => (SendEffect proposalId s s' ∧ s'.sends = s.sends) ∧
        (r = .ok () → s.status? proposalId = some .pending ∧ LeftPending s' proposalId)) [] s := by
  by_cases hleft : LeftPending s proposalId
  · refine sat_weaken (confirm_refused hleft now) ?_ ?_
    · rintro _ s' rfl
      exact ⟨.refl _ _, rfl⟩
    · rintro r _ s' ⟨rfl, hr⟩
      exact ⟨⟨.refl _ _, rfl⟩, fun h => absurd h hr⟩
  · have hothers := sat_frame (W := faultyStores) (s := s)
      (R := fun s s' => ∀ q, q ≠ proposalId → s'.kv q = s.kv q)
      (SendFsm.performs_confirm .confirmThenSend proposalId .human now none)
      (fun _ _ _ h h' q hq => (h' q hq).trans (h q hq))
      (fun _ _ _ _ ho hw q hq => (Redispatch.sameView_of_other hq ho.1 hw).kv) fun _ _ => rfl
    have heffect : ∀ s', (∀ q, q ≠ proposalId → s'.kv q = s.kv q) →
        ((∀ q, LeftPending s q → LeftPending s' q) ∧ s'.sends = s.sends) →
        SendEffect proposalId s s' ∧ s'.sends = s.sends := fun s' ho h =>
      ⟨⟨ho, h.1, fun hl => absurd hl hleft, .inl h.2⟩, h.2⟩
    exact sat_weaken (sat_and hothers (SendFsm.confirm_spec .confirmThenSend .human now none))
      (fun _ s' h => heffect s' h.1.1 h.2.1)
      fun _ _ s' h => ⟨heffect s' h.1.1 h.2.1.1, h.2.2⟩

/-- What comes after the sender does not send. -/
theorem performs_settle (proposalId : PyStr) (now : Int) (answer : Except Exc SendResult) :
    (SendFsm.settle proposalId now answer).Performs Sendless := by
  rw [SendFsm.settle_eq]
  have hget : Sendless (.get proposalId) := fun _ h => by cases h
  refine performs_bind (ProposalStore.performs_setStatus hget fun _ _ h => by cases h) fun _ => ?_
  refine performs_bind (AuditLedger.performs_record fun _ h => by cases h) fun _ => ?_
  exact performs_pure _

/-- Dispatching calls the sender once at most, and has called it when it returns. -/
theorem dispatch_sends (now : Int) :
    (SendFsm.dispatch proposalId now).sat faultyStores
      (fun _ s' => s'.sends = s.sends ∨ s'.sends = s.sends ++ [proposalId])
      (fun r _ s' => (s'.sends = s.sends ∨ s'.sends = s.sends ++ [proposalId]) ∧
        ∀ x, r = .ok x → s'.sends = s.sends ++ [proposalId]) [] s := by
  simp only [SendFsm.dispatch, sat_bind, ProposalStore.sat_get]
  intro r s₁ hget
  obtain ⟨rfl, -⟩ := get_effect hget
  refine ⟨.inl rfl, ?_⟩
  cases ProposalStore.decode proposalId r with
  | error e => exact ⟨.inl rfl, by simp⟩
  | ok p =>
      simp only [andThen_ok, andThen_error, sat_bind, sat_raiseIf, AuditLedger.sat_record]
      refine ⟨by simp, fun _ => ⟨by simp, fun _ => ⟨by simp, fun _ => ⟨by simp, ?_⟩⟩⟩⟩
      intro _ r' s₂ happend
      have hs₂ : s₂.sends = s₁.sends := sends_of_sendless (fun _ h => by cases h) happend
      refine ⟨.inl hs₂, ?_⟩
      cases r' with
      | error e => exact ⟨.inl hs₂, by simp⟩
      | ok u =>
          simp only [andThen_ok, sat_bind, sat_attempt, perform, sat_op, sat_embed]
          intro answer s₃ hsend
          have hs₃ : s₃.sends = s₁.sends ++ [proposalId] := by
            have heq : s₃ = { s₂ with sends := s₂.sends ++ [proposalId] } := by
              cases answer <;> exact hsend
            rw [heq, hs₂]
          refine ⟨.inr hs₃, ?_⟩
          have hsettle := sat_keeps (W := faultyStores) (R := fun s s' => s'.sends = s.sends)
            (performs_settle proposalId now answer)
            (fun _ _ _ h h' => h'.trans h) (fun _ _ _ _ ho hw => sends_of_sendless ho hw)
            (τ := [⟨.get proposalId, r⟩]) (rfl : s₃.sends = s₃.sends)
          exact sat_weaken (sat_events hsettle) (fun _ s' h => .inr (h.trans hs₃)) fun _ _ s' h =>
            ⟨.inr (h.trans hs₃), fun _ _ => h.trans hs₃⟩

/-- **One run on the stores**, at every point of it and at its end. -/
theorem confirmAndDispatch_effect (proposalId : PyStr) (s : StoreState) :
    (ConfirmDispatcher.confirmAndDispatch .confirmThenSend proposalId).sat faultyStores
      (fun _ s' => SendEffect proposalId s s')
      (fun r _ s' => SendEffect proposalId s s' ∧
        ∀ status, r = .ok status → SentAs proposalId s s' status) [] s := by
  simp only [ConfirmDispatcher.confirmAndDispatch]
  refine (sat_perform_bind _ _).mpr fun now s₀ hnow => ?_
  have hs₀ : s₀ = s := by
    cases now with
    | error e => exact hnow.2
    | ok now => exact hnow
  subst hs₀
  refine ⟨.refl _ _, ?_⟩
  cases now with
  | error e => exact ⟨.refl _ _, by simp⟩
  | ok now =>
      refine (sat_bind _ _).mpr (sat_mono (sat_weaken (sat_events (confirm_effect now))
        (fun _ _ h => h.1) fun _ _ _ h => h) ?_)
      rintro (e | u) τ s₁ ⟨⟨heffect, hsends⟩, hconfirmed⟩
      · exact ⟨heffect, by simp⟩
      · obtain ⟨hpending, hleft⟩ := hconfirmed rfl
        have hframe := sat_frame (W := faultyStores) (s := s₁)
          (R := fun s s' => (∀ q, q ≠ proposalId → s'.kv q = s.kv q) ∧
            ∀ q, LeftPending s q → LeftPending s' q)
          (SendFsm.performs_dispatch proposalId now)
          (fun _ _ _ h h' => ⟨fun q hq => (h'.1 q hq).trans (h.1 q hq),
            fun q hq => h'.2 q (h.2 q hq)⟩)
          (fun _ _ _ _ ho hw => ⟨fun q hq => (Redispatch.sameView_of_other hq ho hw).kv,
            (SendFsm.fsmOp_effect ho hw).1⟩)
          ⟨fun _ _ => rfl, fun _ h => h⟩
        have hwhole : ∀ s', ((∀ q, q ≠ proposalId → s'.kv q = s₁.kv q) ∧
            ∀ q, LeftPending s₁ q → LeftPending s' q) →
            (s'.sends = s₁.sends ∨ s'.sends = s₁.sends ++ [proposalId]) →
            SendEffect proposalId s₀ s' := by
          intro s' h hsent
          rw [hsends] at hsent
          exact ⟨fun q hq => (h.1 q hq).trans (heffect.others q hq),
            fun q hq => h.2 q (heffect.leaves q hq),
            fun hl => absurd hpending (leftPending_not_pending hl),
            hsent.imp id fun hsent => ⟨hsent, hpending, h.2 _ hleft⟩⟩
        have hdispatch := sat_and hframe (sat_and (dispatch_sends now)
          (SendFsm.dispatch_meets now (τ := [])))
        refine (sat_bind _ _).mpr (sat_weaken (J := fun _ s' => SendEffect proposalId s₀ s')
          (Q := fun r _ s' => SendEffect proposalId s₀ s' ∧
            ∀ x, r = .ok x → SentAs proposalId s₀ s' x.value)
          (sat_events (sat_weaken hdispatch
            (fun _ s' h => hwhole s' h.1.1 h.2.1) fun r _ s' h => ?_)) (fun _ _ h => h) ?_)
        · refine ⟨hwhole s' h.1.1 h.2.1.1, fun x hx => ⟨hpending, ?_, x, rfl, h.2.2 x hx⟩⟩
          rw [h.2.1.2 x hx, hsends]
        · rintro (e | x) _ s' h
          · exact ⟨h.1, by simp⟩
          · refine ⟨h.1, ?_⟩
            rintro status ⟨⟩
            exact h.2 x rfl

end

/-! ### Runs on disk -/

section
variable {toFloat : PyStr → PyFloat} {floatRepr : PyFloat → PyStr} {exceptionName : Exc → PyStr}
  {s s' : StoreState} {t t' : Stores} {proposalId : PyStr} {α : Type}

/-- Opening or closing a connection loses nothing that was committed. -/
theorem holds_fresh (h : Holds toFloat floatRepr s t) (file : DbFile) :
    Holds toFloat floatRepr s (fresh t file) := by
  have hne : Persistence.Backend.kv ≠ .log := by decide
  cases file with
  | proposals =>
      refine ⟨by simpa [fresh] using h.rows, ?_, h.sends⟩
      rw [fresh, Stores.with_of_ne t hne.symm]
      exact h.ledger
  | audit =>
      refine ⟨fun key => ?_, by simpa [fresh] using h.ledger, h.sends⟩
      rw [fresh, Stores.with_of_ne t hne]
      exact h.rows key
  | payloads | token => exact h

/-- An operation beside the stores. -/
def Beside : SendCliOp → Prop
  | .stores _ => False
  | _ => True

theorem holds_beside {o : SendCliOp} {r : Except Exc o.Ret} (ho : Beside o)
    (h : Holds toFloat floatRepr s t) (hw : sendCliEnv t o r t') :
    Holds toFloat floatRepr s t' := by
  cases o with
  | stores => exact ho.elim
  | keyring | stdout | stderr => rwa [show t' = t from hw]
  | connect file | close file =>
      cases r with
      | error e => rwa [show t' = t from hw]
      | ok u =>
          rw [show t' = _ from hw]
          exact holds_fresh h file

theorem performs_closeAll : closeAll.Performs Beside :=
  performs_bind (performs_perform (S := SendCliSig) trivial) fun _ =>
    performs_bind (performs_perform (S := SendCliSig) trivial) fun _ =>
      performs_bind (performs_perform (S := SendCliSig) trivial) fun _ =>
        performs_perform (S := SendCliSig) trivial

theorem sat_beside {p : SendCliProc α} {τ : List SendCliEvent} (hp : p.Performs Beside)
    (h : Holds toFloat floatRepr s t) :
    p.sat sendCliEnv (fun _ t' => Holds toFloat floatRepr s t')
      (fun _ _ t' => Holds toFloat floatRepr s t') τ t := by
  have hkeeps := sat_keeps (W := sendCliEnv) (τ := τ)
    (R := fun t t' => Holds toFloat floatRepr s t → Holds toFloat floatRepr s t') hp
    (fun _ _ _ h h' hs => h' (h hs)) (fun _ _ _ _ ho hw hs => holds_beside ho hs hw)
    (id : Holds toFloat floatRepr s t → Holds toFloat floatRepr s t)
  exact sat_weaken hkeeps (fun _ _ h' => h' h) fun _ _ _ h' => h' h

/-- A procedure on the stores does there what it does to them. -/
theorem sat_onStores {p : Proc SqliteStores.Sig Exc α} {J : Stores → Prop}
    {Q : Except Exc α → Stores → Prop} {θ : List SendCliEvent}
    (hp : p.sat SqliteStores.env (fun _ t' => J t') (fun r _ t' => Q r t') [] t) :
    (onStores p).sat sendCliEnv (fun _ t' => J t') (fun r _ t' => Q r t') θ t := by
  refine sat_mono (sat_implement (R := fun _ t₁ _ t₂ => t₁ = t₂) (fun o τ t₁ θ t₂ hj ht => ?_) hp
    rfl) fun r θ' t' h => ?_
  · subst ht
    intro r t' hw
    exact ⟨hj r t' hw, (sat_embed r).mpr ⟨t', hw, rfl⟩⟩
  · obtain ⟨_, t'', rfl, hQ⟩ := h
    exact hQ

/-- What a run has done to the stores, so far. -/
def SoFar (toFloat : PyStr → PyFloat) (floatRepr : PyFloat → PyStr) (proposalId : PyStr)
    (s : StoreState) (t' : Stores) : Prop :=
  ∃ s', SendEffect proposalId s s' ∧ Lossless s' ∧ Holds toFloat floatRepr s' t'

/-- And at its end. -/
def RunEnds (toFloat : PyStr → PyFloat) (floatRepr : PyFloat → PyStr) (proposalId : PyStr)
    (s : StoreState) (r : Except Exc String) (t' : Stores) : Prop :=
  ∃ s', SendEffect proposalId s s' ∧ Lossless s' ∧ Holds toFloat floatRepr s' t' ∧
    ∀ status, r = .ok status → SentAs proposalId s s' status

theorem confirmAndDispatch_lands {τ : List SendCliEvent} (hs : Lossless s)
    (ht : Coupled toFloat floatRepr s t) :
    (confirmAndDispatch toFloat floatRepr proposalId).sat sendCliEnv
      (fun _ t' => SoFar toFloat floatRepr proposalId s t')
      (fun r _ t' => RunEnds toFloat floatRepr proposalId s r t') τ t := by
  have hlossless :=
    SqliteStores.keepsLossless_confirmAndDispatch .confirmThenSend proposalId [] s hs
  have heffect := sat_and (confirmAndDispatch_effect proposalId s) hlossless
  have himplement := sat_implement_exec (R := Coupled toFloat floatRepr)
    (C := Holds toFloat floatRepr) (θ := []) (fun o τ s t hl hR =>
      SqliteStores.method_simulates hR o hl) hlossless ht
  refine sat_onStores (sat_weaken himplement ?_ ?_)
  · intro _ t' h
    obtain ⟨τ', s', hexec, hholds⟩ := h
    by_cases hτ : τ' = []
    · exact ⟨s, .refl _ _, hs, by rwa [hexec.state_eq_of_nil hτ] at hholds⟩
    · have hsofar := (hexec.sound heffect).1 hτ
      exact ⟨s', hsofar.1, hsofar.2, hholds⟩
  · intro r _ t' h
    obtain ⟨τ', s', hexec, hcoupled⟩ := h
    have hend := (hexec.sound heffect).2 r rfl
    exact ⟨s', hend.1.1, hend.2, hcoupled.1, hend.1.2⟩

/-- Opening a connection, before anything was done. -/
theorem sat_connect_bind {file : DbFile} {f : Unit → SendCliProc α} {J : Stores → Prop}
    {Q : Except Exc α → Stores → Prop} {τ : List SendCliEvent}
    (ht : Holds toFloat floatRepr s t) (hJ : ∀ t', Holds toFloat floatRepr s t' → J t')
    (hQ : ∀ e t', Holds toFloat floatRepr s t' → Q (.error e) t')
    (hf : ∀ τ', (f ()).sat sendCliEnv (fun _ t' => J t') (fun r _ t' => Q r t') τ'
      (fresh t file)) :
    (connect file >>= f).sat sendCliEnv (fun _ t' => J t') (fun r _ t' => Q r t') τ t := by
  refine (sat_perform_bind _ _).mpr fun r t' hw => ?_
  have ht' := holds_beside (o := .connect file) trivial ht hw
  refine ⟨hJ _ ht', ?_⟩
  cases r with
  | error e => exact hQ e t' ht'
  | ok u =>
      rw [show t' = _ from hw]
      exact hf _

theorem runSend_effect (hs : Lossless s) (ht : Holds toFloat floatRepr s t) :
    (runSend toFloat floatRepr proposalId).sat sendCliEnv
      (fun _ t' => SoFar toFloat floatRepr proposalId s t')
      (fun r _ t' => RunEnds toFloat floatRepr proposalId s r t') [] t := by
  have hJ : ∀ t', Holds toFloat floatRepr s t' → SoFar toFloat floatRepr proposalId s t' :=
    fun t' h => ⟨s, .refl _ _, hs, h⟩
  have hQ : ∀ e t', Holds toFloat floatRepr s t' →
      RunEnds toFloat floatRepr proposalId s (.error e) t' :=
    fun e t' h => ⟨s, .refl _ _, hs, h, by simp⟩
  refine (sat_perform_bind _ _).mpr fun r t₁ hw => ?_
  obtain rfl : t₁ = t := hw
  refine ⟨hJ _ ht, ?_⟩
  cases r with
  | error e => exact hQ e _ ht
  | ok u =>
      have h₁ := holds_fresh ht .proposals
      have h₂ := holds_fresh h₁ .payloads
      have h₃ := holds_fresh h₂ .token
      have h₄ := holds_fresh h₃ .audit
      refine sat_connect_bind ht hJ hQ fun _ => sat_connect_bind h₁ hJ hQ fun _ =>
        sat_connect_bind h₂ hJ hQ fun _ => sat_connect_bind h₃ hJ hQ fun _ => ?_
      -- All four are open: nothing is pending on any handle that is used.
      have hcoupled : Coupled toFloat floatRepr s
          (fresh (fresh (fresh (fresh t₁ .proposals) .payloads) .token) .audit) := by
        refine ⟨h₄, fun b => ?_⟩
        cases b with
        | log => exact fresh_settled_log _
        | kv =>
            rw [fresh_audit_kv]
            exact fresh_settled_kv t₁
      rw [sat_bind, sat_attempt]
      refine sat_mono (confirmAndDispatch_lands hs hcoupled) fun r τ' t' h => ?_
      obtain ⟨s', heffect, hs', ht', hsent⟩ := h
      refine (sat_bind _ _).mpr (sat_weaken (sat_beside performs_closeAll ht')
        (fun _ t'' h => ⟨s', heffect, hs', h⟩) ?_)
      rintro (e | u) _ t'' h
      · exact ⟨s', heffect, hs', h, by simp⟩
      · exact (sat_embed r).mpr ⟨s', heffect, hs', h, hsent⟩

end

/-! ### Sent at most once -/

/-- The exit code of a run that was not killed; one that raises exits with 1. -/
def exitCode : Outcome Exc Int → Option Int
  | .done (.ok code) => some code
  | .done (.error _) => some 1
  | .stopped => none

/-- The runs for a proposal that exited with 0. -/
def successes (proposalId : PyStr) (calls : List (Call SendCliSig Exc Int PyStr)) : Nat :=
  calls.countP fun k => k.key = proposalId ∧ exitCode k.outcome = some 0

/-- The status that is read from the row of a proposal. -/
def storedStatus (toFloat : PyStr → PyFloat) (t : Stores) (proposalId : PyStr) : Option PyVal :=
  (Table.get? (t.handles .kv).committed proposalId).bind fun blob =>
    match Json.loads toFloat blob with
    | .ok (.dict row) => Dict.get? row (str "status")
    | _ => none

section
variable {toFloat : PyStr → PyFloat} {floatRepr : PyFloat → PyStr} {exceptionName : Exc → PyStr}
  {s₀ s s' : StoreState} {t₀ t t' : Stores} {proposalId : PyStr}
  {calls : List (Call SendCliSig Exc Int PyStr)}

theorem refusal_ne_zero (e : Exc) : (refusal exceptionName proposalId e).2 ≠ 0 := by
  cases e <;> simp [refusal]

/-- How a run ends: with 0 only if the proposal was sent. -/
theorem main_effect (hs : Lossless s) (ht : Holds toFloat floatRepr s t) :
    (main toFloat floatRepr exceptionName proposalId).sat sendCliEnv
      (fun _ t' => SoFar toFloat floatRepr proposalId s t')
      (fun r _ t' => ∃ s', SendEffect proposalId s s' ∧ Lossless s' ∧
        Holds toFloat floatRepr s' t' ∧
        (exitCode (.done r) = some 0 → SentAs proposalId s s' "sent")) [] t := by
  rw [main, sat_bind, sat_attempt]
  refine sat_mono (runSend_effect hs ht) ?_
  rintro r τ t' ⟨s', heffect, hs', ht', hsent⟩
  rw [andThen_ok]
  cases r with
  | error e =>
      refine (sat_perform_bind _ _).mpr fun r t'' hw => ?_
      obtain rfl : t'' = t' := hw
      refine ⟨⟨s', heffect, hs', ht'⟩, ?_⟩
      cases r with
      | error e' => exact ⟨s', heffect, hs', ht', by simp [exitCode]⟩
      | ok u => exact ⟨s', heffect, hs', ht', by simp [exitCode, refusal_ne_zero]⟩
  | ok status =>
      refine (sat_perform_bind _ _).mpr fun r t'' hw => ?_
      obtain rfl : t'' = t' := hw
      refine ⟨⟨s', heffect, hs', ht'⟩, ?_⟩
      cases r with
      | error e' => exact ⟨s', heffect, hs', ht', by simp [exitCode]⟩
      | ok u =>
          refine ⟨s', heffect, hs', ht', fun hcode => ?_⟩
          by_cases hstatus : status = "sent"
          · subst hstatus
            exact hsent _ rfl
          · simp [exitCode, hstatus] at hcode

/-- **One run**, wherever it was killed. -/
theorem call_effect {τ : List SendCliEvent} {out : Outcome Exc Int} (hs : Lossless s)
    (ht : Holds toFloat floatRepr s t)
    (h : Exec sendCliEnv (main toFloat floatRepr exceptionName proposalId) t τ out t') :
    ∃ s', SendEffect proposalId s s' ∧ Lossless s' ∧ Holds toFloat floatRepr s' t' ∧
      (exitCode out = some 0 → SentAs proposalId s s' "sent") := by
  have hsound := h.sound (main_effect hs ht)
  cases out with
  | done r => exact hsound.2 r rfl
  | stopped =>
      by_cases hτ : τ = []
      · rw [h.state_eq_of_nil hτ]
        exact ⟨s, .refl _ _, hs, ht, by simp [exitCode]⟩
      · obtain ⟨s', heffect, hs', ht'⟩ := hsound.1 hτ
        exact ⟨s', heffect, hs', ht', by simp [exitCode]⟩

/-- What the runs so far have done to a proposal. -/
structure Ran (s₀ : StoreState) (calls : List (Call SendCliSig Exc Int PyStr)) (s : StoreState)
    (proposalId : PyStr) : Prop where
  /-- Once it was sent it is no longer pending. -/
  sends : s.sends.count proposalId = s₀.sends.count proposalId ∨
    s.sends.count proposalId = s₀.sends.count proposalId + 1 ∧ LeftPending s proposalId
  /-- A run that exited with 0 was the one that sent it. -/
  succeeded : successes proposalId calls = 0 ∨ successes proposalId calls = 1 ∧
    s.sends.count proposalId = s₀.sends.count proposalId + 1 ∧
      s.status? proposalId = some .sent

/-- While it is pending nothing was sent. -/
theorem Ran.of_pending (h : Ran s₀ calls s proposalId)
    (hpending : s.status? proposalId = some .pending) :
    s.sends.count proposalId = s₀.sends.count proposalId ∧ successes proposalId calls = 0 := by
  constructor
  · refine h.sends.resolve_right fun hsent => ?_
    exact leftPending_not_pending hsent.2 hpending
  · refine h.succeeded.resolve_right fun hsent => ?_
    cases hsent.2.2.symm.trans hpending

theorem Ran.call {k : Call SendCliSig Exc Int PyStr} (h : Ran s₀ calls s proposalId)
    (heffect : SendEffect k.key s s')
    (hsent : exitCode k.outcome = some 0 → SentAs k.key s s' "sent") :
    Ran s₀ (calls ++ [k]) s' proposalId := by
  by_cases hkey : k.key = proposalId
  · subst hkey
    by_cases hcode : exitCode k.outcome = some 0
    · obtain ⟨hpending, happend, x, hx, hstatus⟩ := hsent hcode
      obtain ⟨hcount, hnone⟩ := h.of_pending hpending
      have hx : x = .sent := by cases x <;> first | rfl | exact absurd hx (by decide)
      subst hx
      have hcount' : s'.sends.count k.key = s₀.sends.count k.key + 1 := by
        rw [happend, List.count_append, hcount]
        simp
      refine ⟨.inr ⟨hcount', .sent, hstatus, by decide⟩, .inr ⟨?_, hcount', hstatus⟩⟩
      have hnone' : calls.countP (fun j => j.key = k.key ∧ exitCode j.outcome = some 0) = 0 := hnone
      simp only [successes, List.countP_append, hnone']
      simp [hcode]
    · have hsame : successes k.key (calls ++ [k]) = successes k.key calls := by
        simp [successes, hcode]
      refine ⟨?_, ?_⟩
      · rcases heffect.sends with hsends | ⟨happend, hpending, hleft⟩
        · rw [hsends]
          exact h.sends.imp id fun hsent => ⟨hsent.1, heffect.leaves _ hsent.2⟩
        · refine .inr ⟨?_, hleft⟩
          rw [happend, List.count_append, (h.of_pending hpending).1]
          simp
      · rw [hsame]
        refine h.succeeded.imp id fun hsucceeded => ?_
        -- A run for a proposal that was sent is refused.
        obtain ⟨hkv, hsends⟩ := heffect.refused ⟨.sent, hsucceeded.2.2, by decide⟩
        rw [hsends, StoreState.status?_congr (congrFun hkv _)]
        exact hsucceeded
  · have hother : proposalId ≠ k.key := fun heq => hkey heq.symm
    have hcount : s'.sends.count proposalId = s.sends.count proposalId := by
      rcases heffect.sends with hsends | hsends
      · rw [hsends]
      · rw [hsends.1, List.count_append, List.count_singleton, if_neg (by simpa using hkey)]
        rfl
    have hsame : successes proposalId (calls ++ [k]) = successes proposalId calls := by
      simp [successes, hkey]
    obtain ⟨hsends, hsucceeded⟩ := h
    rw [← StoreState.status?_congr (heffect.others _ hother), ← hcount, ← hsame] at hsucceeded
    rw [← hcount] at hsends
    exact ⟨hsends.imp id fun hsent => ⟨hsent.1, heffect.leaves _ hsent.2⟩, hsucceeded⟩

theorem session_ran (hs : Lossless s₀) (ht : Holds toFloat floatRepr s₀ t₀)
    (h : Session sendCliEnv (main toFloat floatRepr exceptionName) anyCall t₀ calls t) :
    ∃ s, Lossless s ∧ Holds toFloat floatRepr s t ∧ ∀ q, Ran s₀ calls s q := by
  induction h with
  | start => exact ⟨s₀, hs, ht, fun q => ⟨.inl rfl, .inl rfl⟩⟩
  | call _ hexec _ ih =>
      obtain ⟨s, hs, ht, hran⟩ := ih
      obtain ⟨s', heffect, hs', ht', hsent⟩ := call_effect hs ht hexec
      exact ⟨s', hs', ht', fun q => (hran q).call heffect hsent⟩

/-- The status that is read is the stored one. -/
theorem storedStatus_eq (ht : Holds toFloat floatRepr s t) {x : ProposalStatus}
    (hx : s.status? proposalId = some x) :
    storedStatus toFloat t proposalId = some (.str (str x.value)) := by
  obtain ⟨p, hp, rfl⟩ := Option.map_eq_some_iff.mp hx
  obtain ⟨row, hrow, hfrom⟩ := Option.bind_eq_some_iff.mp hp
  have hdict : Proposal.fromDict row = .ok p := by
    cases hfrom' : Proposal.fromDict row <;> simp [hfrom', Except.toOption] at hfrom
    rw [hfrom]
  have hstored := ht.rows proposalId
  rw [hrow, ← Proposal.toDict_fromDict hdict] at hstored
  cases hblob : Table.get? (t.handles .kv).committed proposalId with
  | none => exact absurd hstored (by simp [hblob, SqliteStores.RowStored])
  | some blob =>
      rw [hblob] at hstored
      have hloads : Json.loads toFloat blob = .ok (.dict p.toDict.toDict) := hstored
      simp only [storedStatus, hblob, Option.bind_some, hloads]
      rfl

/-- **Sent at most once.** Runs of the command one after the other on one data root, with any
faults of the connections and each killed anywhere: a proposal is handed to the sender at most once,
at most one run for it exits with 0, and then it was handed over and its row reads `sent`. -/
theorem session_sendsOnce (hs : Lossless s₀) (ht : Holds toFloat floatRepr s₀ t₀)
    (h : Session sendCliEnv (main toFloat floatRepr exceptionName) anyCall t₀ calls t)
    (proposalId : PyStr) :
    t.sends.count proposalId ≤ t₀.sends.count proposalId + 1 ∧ successes proposalId calls ≤ 1 ∧
      (0 < successes proposalId calls →
        t.sends.count proposalId = t₀.sends.count proposalId + 1 ∧
          storedStatus toFloat t proposalId = some (.str (str "sent"))) := by
  obtain ⟨s, -, hholds, hran⟩ := session_ran hs ht h
  obtain ⟨hsends, hsucceeded⟩ := hran proposalId
  rw [← ht.sends, ← hholds.sends]
  refine ⟨?_, ?_, fun hpos => ?_⟩
  · omega
  · omega
  · have hsent := hsucceeded.resolve_left (by omega)
    exact ⟨hsent.2.1, storedStatus_eq hholds hsent.2.2⟩

end

/-! ### Runs -/

/-- Perform one operation; the requests in `fails` raise, and so does opening `broken`. -/
def perform (broken : Option DbFile)
    (fails : (b : Persistence.Backend) → SqliteOp (SqliteStores.schema b) → Bool) (now : Int)
    (result : Except Exc SendResult) (t : Stores) : (o : SendCliOp) → Except Exc o.Ret × Stores
  | .stores o => t.perform fails now result o
  | .connect file => if broken = some file then (.error .other, t) else (.ok (), fresh t file)
  | .close file => (.ok (), fresh t file)
  | .keyring | .stdout _ | .stderr _ => (.ok (), t)

theorem perform_env (broken : Option DbFile)
    (fails : (b : Persistence.Backend) → SqliteOp (SqliteStores.schema b) → Bool) (now : Int)
    (result : Except Exc SendResult) (t : Stores) (o : SendCliOp) :
    sendCliEnv t o (perform broken fails now result t o).1
      (perform broken fails now result t o).2 := by
  cases o with
  | stores o => exact t.perform_env fails now result o
  | connect file =>
      simp only [perform]
      split <;> rfl
  | keyring | close | stdout | stderr => rfl

/-- A store that holds a proposal which waits to be sent. -/
def waitingState : StoreState := .holding SqliteStores.historyProposal.val

/-- The row of a pending proposal. -/
def waitingRow : PyStr :=
  (Json.dumps (fun _ => []) (.dict SqliteStores.historyProposal.val.toDict.toDict)).toOption.getD []

/-- Stores that hold it. -/
def waitingStores : Stores where
  handles := fun b =>
    match b with
    | .kv => { committed := [(str "p1", waitingRow)] }
    | .log => { committed := [] }

theorem lossless_waiting : Lossless waitingState := by
  intro key row hrow
  by_cases hkey : key = str "p1"
  · subst hkey
    cases hrow
    exact SqliteStores.historyProposal.property
  · simp [waitingState, StoreState.holding, SqliteStores.historyProposal, hkey] at hrow

theorem holds_waiting : Holds (fun _ => .nan) (fun _ => []) waitingState waitingStores := by
  refine ⟨fun key => ?_, .nil, rfl⟩
  by_cases hkey : key = str "p1"
  · subst hkey
    have hloads : (Json.loads (fun _ => .nan) waitingRow).toOption =
        some (.dict SqliteStores.historyProposal.val.toDict.toDict) := by decide +kernel
    change Json.loads (fun _ => .nan) waitingRow = _
    cases hrow : Json.loads (fun _ => .nan) waitingRow <;> rw [hrow] at hloads <;> cases hloads
    rfl
  · simp [waitingState, waitingStores, StoreState.holding, SqliteStores.historyProposal,
      SqliteStores.RowStored, Table.get?, List.lookup_cons, beq_false_of_ne hkey, hkey]

/-- The audit database cannot be opened; a commit fails; the proposal is sent; it is not sent
again. -/
def sampleRuns : List (PyStr × (Stores → (o : SendCliOp) → Except Exc o.Ret × Stores)) :=
  let answers (broken : Option DbFile) (commit : Bool) (t : Stores) (o : SendCliOp) :=
    perform broken (Persistence.failing commit false) 1 (.ok { kind := .accepted }) t o
  [(str "p1", answers (some .audit) false), (str "p1", answers none true),
    (str "p1", answers none false), (str "p1", answers none false)]

/-- `main` with a float codec that nothing here needs. -/
abbrev sampleMain := main (fun _ => .nan) (fun _ => []) fun _ => []

/-- The sample runs, one after the other on these stores. -/
@[irreducible] def sampleSession : List (Call SendCliSig Exc Int PyStr) × Stores :=
  scripted sampleMain 60 sampleRuns waitingStores

theorem sampleSession_session :
    Session sendCliEnv sampleMain anyCall waitingStores sampleSession.1 sampleSession.2 := by
  unfold sampleSession
  have hscripted : Session sendCliEnv sampleMain anyCall waitingStores
      ([] ++ (scripted sampleMain 60 sampleRuns waitingStores).1) _ :=
    scripted_session (by simp [sampleRuns, perform_env]) .start
  rwa [List.nil_append] at hscripted

theorem session_sendsOnce_retried :
    sampleSession.1.map (fun k => exitCode k.outcome) = [some 1, some 1, some 0, some 6] ∧
    sampleSession.2.sends.count (str "p1") = 1 ∧
    storedStatus (fun _ => .nan) sampleSession.2 (str "p1") = some (.str (str "sent")) := by
  have honce := session_sendsOnce lossless_waiting holds_waiting sampleSession_session (str "p1")
  have hcount : successes (str "p1") sampleSession.1 = 1 := by decide +kernel
  refine ⟨by decide +kernel, ?_⟩
  have hsent := honce.2.2 (hcount.symm ▸ Nat.one_pos)
  exact ⟨hsent.1.trans (by decide), hsent.2⟩

end SendCli

end GmailGateway
