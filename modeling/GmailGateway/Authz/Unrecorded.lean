import GmailGateway.Authz.Provenance
import GmailGateway.SendFsm.Rows

/-!
# GmailGateway.Authz.Unrecorded

**The refusal of an unattributable send.** When its started row cannot be written, a send is
refused before the sender is asked. The confirmation has gone before: the proposal is `CONFIRMED`
by then, its row is in the ledger, and the status that is reported is the one read at the start.
-/

namespace GmailGateway

open Effect Proc Python

namespace AuthorizedGmailSend

variable {P : Platform}

/-- The started row of the call could not be written. -/
def StartFailed (τ : List (SendEvent P)) : Prop :=
  ∃ row e, (⟨⟨.own, .append (.started row)⟩, .error e⟩ : SendEvent P) ∈ τ

section StartFailed
variable {τ τ' : List (SendEvent P)}

theorem not_startFailed_nil : ¬ StartFailed ([] : List (SendEvent P)) := by
  intro h
  obtain ⟨_, _, h⟩ := h
  cases h

theorem startFailed_append : StartFailed (τ ++ τ') ↔ StartFailed τ ∨ StartFailed τ' := by
  simp only [StartFailed, List.mem_append, exists_or]

/-- The other parties do not write it. -/
theorem not_startFailed_at (hτ : ¬ StartFailed τ) (party : Party) (hparty : party ≠ .own)
    (θ : List (Event (PartySig P party) Exc)) :
    ¬ StartFailed (τ ++ θ.map (Event.at (S := PartySig P) party)) := by
  rw [startFailed_append]
  intro h
  rcases h with h | ⟨_, _, h⟩
  · exact hτ h
  · obtain ⟨e, -, h⟩ := List.mem_map.mp h
    exact hparty (congrArg (fun e : SendEvent P => e.op.1) h)

/-- Nor is it one of the other operations. -/
theorem not_startFailed_concat (hτ : ¬ StartFailed τ) {e : SendEvent P}
    (he : ∀ row, e.op ≠ ⟨.own, .append (.started row)⟩) : ¬ StartFailed (τ ++ [e]) := by
  rw [startFailed_append]
  intro h
  rcases h with h | ⟨row, x, h⟩
  · exact hτ h
  · rw [← List.mem_singleton.mp h] at he
    exact he row rfl

end StartFailed

/-- The refusal, with the status it reports. -/
def recordUnavailable (status : ProposalStatus) : AuthorizedSendOutcome where
  authorized := true
  sent := false
  publicCode := codeRecordUnavailable
  proposalStatus := some status

/-- How a call ends: it got past its started row, or it is refused there. -/
inductive SendEnd (k : SendCall) (s : SendState) :
    Except Exc AuthorizedSendOutcome → List (SendEvent P) → SendState → Prop
  | recorded {r : Except Exc AuthorizedSendOutcome} {τ : List (SendEvent P)} {s' : SendState} :
      ¬ StartFailed τ → (∀ o, r = .ok o → o.publicCode ≠ codeRecordUnavailable) →
      SendEnd k s r τ s'
  | unrecorded {p : Proposal} {now : Int} {τ : List (SendEvent P)} {s' : SendState} :
      StartFailed τ → (s .store).proposal? k.proposalId = some p → p.status = .pending →
      s' .store = Replay.written (s .store) p k.proposalId .confirmed
        (SendFsm.confirmedRow p k.proposalId .human now) →
      SendEnd k s (.ok (recordUnavailable .pending)) τ s'

section Stages
variable {cfg : SendConfig P} {k : SendCall} {s s' : SendState} {τ : List (SendEvent P)}

theorem status_ne_recordUnavailable (status : ProposalStatus) :
    status.value ≠ codeRecordUnavailable := by
  cases status <;> decide

theorem outcomeUnknown_ne_recordUnavailable : codeOutcomeUnknown ≠ codeRecordUnavailable := by
  decide

theorem pendingApproval_ne_recordUnavailable :
    publicCodePendingApproval ≠ codeRecordUnavailable := by
  decide

/-- A call that raises got past its started row, if it got there. -/
theorem SendEnd.raised {e : Exc} (h : ¬ StartFailed τ) : SendEnd k s (.error e) τ s' :=
  .recorded h nofun

/-- The commit is past it. -/
theorem commit_ends (now : Int) (row : DispatchStarted) (hτ : ¬ StartFailed τ) :
    (commit P k.proposalId now row).sat (sendEnv P) (fun _ _ => True)
      (fun r τ' s'' => SendEnd k s r τ' s'') τ s' := by
  simp only [commit, sat_bind]
  refine sat_party Party.store ?_
  refine sat_weaken (sat_of_exec (Q := fun _ _ _ => True) fun _ _ _ _ => trivial)
    (fun _ _ _ => trivial) fun r τ' t _ => ?_
  have hτ := not_startFailed_at hτ .store (by decide) τ'
  cases r with
  | error e => exact .raised hτ
  | ok status =>
      simp only [andThen_ok, sat_bind]
      refine sat_own.mpr fun clock log _ => ⟨trivial, ?_⟩
      have hτ := not_startFailed_concat hτ (e := ⟨⟨.own, .clock⟩, clock⟩) (fun _ h => by cases h)
      cases clock with
      | error e => exact .raised hτ
      | ok clock =>
          simp only [andThen_ok, sat_bind, sat_attempt]
          refine sat_own.mpr fun written log _ => ⟨trivial, ?_⟩
          have hτ := not_startFailed_concat hτ
            (e := ⟨⟨.own, .append (.completed { row with
              monoResponseCompleteNs := clock, terminalStatus := status.value })⟩, written⟩) (fun _ h => by cases h)
          cases written with
          | error e =>
              refine .recorded hτ fun o ho => ?_
              cases ho
              exact outcomeUnknown_ne_recordUnavailable
          | ok u =>
              refine .recorded hτ fun o ho => ?_
              cases ho
              exact status_ne_recordUnavailable status

/-- The started row, for a proposal that was confirmed before. -/
theorem recordAndCommit_ends (now : Int) {p : Proposal} (row : DispatchStarted)
    (hτ : ¬ StartFailed τ) (hp : (s .store).proposal? k.proposalId = some p)
    (hpending : p.status = .pending)
    (hstore : s' .store = Replay.written (s .store) p k.proposalId .confirmed
      (SendFsm.confirmedRow p k.proposalId .human now)) :
    (recordAndCommit P k.proposalId now p row).sat (sendEnv P) (fun _ _ => True)
      (fun r τ' s'' => SendEnd k s r τ' s'') τ s' := by
  simp only [recordAndCommit, sat_bind, sat_attempt]
  refine sat_own.mpr fun written log _ => ⟨trivial, ?_⟩
  cases written with
  | error e =>
      have hfailed : StartFailed (τ ++ [⟨⟨.own, .append (.started row)⟩, .error e⟩]) :=
        ⟨row, e, List.mem_append_right _ List.mem_cons_self⟩
      change SendEnd k s (.ok (recordUnavailable p.status)) _ _
      rw [hpending]
      exact .unrecorded hfailed hp hpending hstore
  | ok u =>
      refine commit_ends now row ?_
      rw [startFailed_append]
      intro h
      rcases h with h | ⟨_, _, h⟩
      · exact hτ h
      · cases List.mem_singleton.mp h

/-- After a clean decision, with the stores as they were. -/
theorem send_ends (request : AuthorizationRequest) {p : Proposal} (authorization : Authorization)
    (hτ : ¬ StartFailed τ) (hp : (s .store).proposal? k.proposalId = some p)
    (hstore : s' .store = s .store) :
    (send P cfg k.proposalId request p authorization).sat (sendEnv P) (fun _ _ => True)
      (fun r τ' s'' => SendEnd k s r τ' s'') τ s' := by
  simp only [send, sat_bind]
  refine sat_own.mpr fun now log _ => ⟨trivial, ?_⟩
  have hτ := not_startFailed_concat hτ (e := ⟨⟨.own, .now⟩, now⟩) nofun
  cases now with
  | error e => exact .raised hτ
  | ok now =>
      simp only [andThen_ok, sat_bind]
      refine sat_party Party.store ?_
      refine sat_weaken (SendFsm.confirm_returned cfg.switchMode .human now none)
        (fun _ _ _ => trivial) fun r τ' t hconfirm => ?_
      have hτ := not_startFailed_at hτ .store (by decide) τ'
      cases r with
      | error e => exact .raised hτ
      | ok u =>
          obtain ⟨q, hq, hpending, hwritten⟩ := hconfirm rfl
          simp only [andThen_ok, sat_bind]
          refine sat_own.mpr fun clock log _ => ⟨trivial, ?_⟩
          have hτ := not_startFailed_concat hτ (e := ⟨⟨.own, .clock⟩, clock⟩) nofun
          cases clock with
          | error e => exact .raised hτ
          | ok clock =>
              rw [update_own_store, hstore] at hq hwritten
              obtain rfl : q = p := Option.some.inj (hq.symm.trans hp)
              exact recordAndCommit_ends now _ hτ hp hpending hwritten

/-- **A call.** -/
theorem call_ends (cfg : SendConfig P) (k : SendCall) (s : SendState) :
    (k.run cfg).sat (sendEnv P) (fun _ _ => True) (fun r τ s' => SendEnd k s r τ s') [] s := by
  simp only [SendCall.run, authorizeAndSend, sat_bind]
  refine sat_party Party.store ?_
  rw [ProposalStore.sat_get]
  intro read t hget
  obtain ⟨rfl, hread⟩ := get_effect hget
  rw [Function.update_eq_self]
  refine ⟨trivial, ?_⟩
  have hτ := not_startFailed_at (P := P) not_startFailed_nil .store (by decide)
    [⟨.get k.proposalId, read⟩]
  cases hdec : ProposalStore.decode k.proposalId read with
  | error e => exact .raised hτ
  | ok p =>
      simp only [andThen_ok, sat_bind, sat_handle]
      refine sat_party Party.gate ?_
      refine sat_weaken (sat_of_exec (Q := fun _ _ _ => True) fun _ _ _ _ => trivial)
        (fun _ _ _ => trivial) fun r θ g _ => ?_
      have hτ := not_startFailed_at hτ .gate (by decide) θ
      cases r with
      | error e =>
          cases e with
          | authorizationDenied => exact .recorded hτ fun o ho => by cases ho; decide
          | _ => exact .raised hτ
      | ok authorization =>
          simp only [andThen_ok, sat_pure]
          split
          · refine .recorded hτ fun o ho => ?_
            cases ho
            exact pendingApproval_ne_recordUnavailable
          · exact send_ends k.request authorization hτ (hread p hdec) rfl

end Stages

/-! ### What a refusal leaves -/

/-- A call left everything as it was, and reports the stored status. -/
structure Untouched (k : SendCall) (s s' : SendState) (o : AuthorizedSendOutcome) : Prop where
  status : (s' .store).status? k.proposalId = (s .store).status? k.proposalId
  ledger : (s' .store).ledger = (s .store).ledger
  records : s' .own = s .own
  sends : (s' .store).sends = (s .store).sends
  reported : o.proposalStatus = (s' .store).status? k.proposalId

/-- What the refusal of an unattributable send leaves instead. -/
structure LeftConfirmed (k : SendCall) (s s' : SendState) (o : AuthorizedSendOutcome) : Prop where
  before : (s .store).status? k.proposalId = some .pending
  after : (s' .store).status? k.proposalId = some .confirmed
  ledger : ∃ row, row.eventType = .proposalConfirmed ∧ row.proposalId = k.proposalId ∧
    (s' .store).ledger = (s .store).ledger ++ [row]
  sends : (s' .store).sends = (s .store).sends
  reported : o.proposalStatus = some .pending

theorem LeftConfirmed.not_untouched {k : SendCall} {s s' : SendState} {o : AuthorizedSendOutcome}
    (h : LeftConfirmed k s s' o) : ¬ Untouched k s s' o := by
  intro hu
  have hstatus := hu.status
  rw [h.before, h.after] at hstatus
  cases hstatus

/-- **Refused with its confirmation left behind.** A call whose `record_unavailable` would have
to mean that nothing happened keeps this only where its started row was written or it did not get
there, for then it does not return `record_unavailable` at all. Every such refusal leaves the
proposal `CONFIRMED` with its row in the ledger and reports it `PENDING`; the sender was not
called. -/
theorem recordUnavailable_untouched_iff {cfg : SendConfig P} {k : SendCall} {s s' : SendState}
    {τ : List (SendEvent P)} {r : Except Exc AuthorizedSendOutcome}
    (h : Exec (sendEnv P) (k.run cfg) s τ (.done r) s') :
    ((∀ o, r = .ok o → o.publicCode = codeRecordUnavailable → Untouched k s s' o) ↔
      ¬ StartFailed τ) ∧
    ∀ o, r = .ok o → o.publicCode = codeRecordUnavailable → LeftConfirmed k s s' o := by
  have hend := h.post (call_ends cfg k s)
  cases hend with
  | recorded hτ hcode =>
      exact ⟨⟨fun _ => hτ, fun _ o ho hrefused => absurd hrefused (hcode o ho)⟩,
        fun o ho hrefused => absurd hrefused (hcode o ho)⟩
  | @unrecorded p now _ _ hτ hp hpending hstore =>
      have hleft : LeftConfirmed k s s' (recordUnavailable .pending) := by
        refine ⟨?_, ?_, ⟨SendFsm.confirmedRow p k.proposalId .human now, rfl, rfl, ?_⟩, ?_, rfl⟩
        · rw [StoreState.status?, hp, Option.map_some, hpending]
        · rw [hstore]
          exact StoreState.status?_put _ _ _
        · rw [hstore]
          rfl
        · rw [hstore]
          rfl
      refine ⟨⟨fun huntouched => ?_, fun hno => absurd hτ hno⟩, fun o ho _ => ?_⟩
      · exact absurd (huntouched _ rfl rfl) hleft.not_untouched
      · cases ho
        exact hleft

/-! ### A run -/

/-- The log of the dispatch rows cannot be written. -/
def unwritablePerform (script : GateScript P) (now clock : Int) (result : SendResult)
    (s : SendState) : (o : (SendSig P).Op) → Except Exc ((SendSig P).Ret o) × SendState
  | ⟨.own, .append _⟩ => (.error .other, s)
  | o => s.perform script now clock result o

theorem unwritablePerform_env (script : GateScript P) (now clock : Int) (result : SendResult)
    (s : SendState) (o : (SendSig P).Op) :
    sendEnv P s o (unwritablePerform script now clock result s o).1
      (unwritablePerform script now clock result s o).2 := by
  obtain ⟨party, o⟩ := o
  cases party with
  | gate => exact s.perform_env script now clock result ⟨.gate, o⟩
  | store => exact s.perform_env script now clock result ⟨.store, o⟩
  | own =>
      cases o with
      | append row => exact ⟨s .own, .inl rfl, (Function.update_eq_self _ s).symm⟩
      | now => exact s.perform_env script now clock result ⟨.own, .now⟩
      | clock => exact s.perform_env script now clock result ⟨.own, .clock⟩

/-- Runs of `authorize_and_send` with a log that cannot be written. -/
def unwritableRun (cfg : SendConfig P) (script : GateScript P) (now clock : Int)
    (result : SendResult) (k : SendCall) (s : SendState) :
    List (SendEvent P) × Outcome Exc AuthorizedSendOutcome × SendState :=
  (k.run cfg).run (fun _ => unwritablePerform script now clock result) 40 s

theorem unwritableRun_exec (cfg : SendConfig P) (script : GateScript P) (now clock : Int)
    (result : SendResult) (k : SendCall) (s : SendState) :
    Exec (sendEnv P) (k.run cfg) s (unwritableRun cfg script now clock result k s).1
      (unwritableRun cfg script now clock result k s).2.1
      (unwritableRun cfg script now clock result k s).2.2 :=
  run_exec (fun _ s o => unwritablePerform_env script now clock result s o) 40 _ s

/-- The sample call, with a log that cannot be written. -/
@[irreducible] def unrecordedSend :
    List (SendEvent samplePlatform) × Outcome Exc AuthorizedSendOutcome × SendState :=
  unwritableRun sampleSendConfig
    (sampleScript (sampleHead "1") .auto .osAccount (str "d1") (str "dec1")) 1 0
    { kind := .accepted } sampleSendCall sampleSendState

theorem unrecordedSend_exec : Exec (sendEnv samplePlatform) (sampleSendCall.run sampleSendConfig)
    sampleSendState unrecordedSend.1 unrecordedSend.2.1 unrecordedSend.2.2 := by
  unfold unrecordedSend
  exact unwritableRun_exec _ _ _ _ _ _ _

/-- What the run left, in one evaluation. -/
theorem unrecordedSend_left :
    returned? unrecordedSend.2.1 = some (recordUnavailable .pending) ∧
    (unrecordedSend.2.2 .store).status? (str "p1") = some .confirmed ∧
    (unrecordedSend.2.2 .store).ledger.map (·.eventType) = [.proposalConfirmed] := by
  decide +kernel

theorem unrecordedSend_done : Exec (sendEnv samplePlatform)
    (sampleSendCall.run sampleSendConfig) sampleSendState unrecordedSend.1
    (.done (.ok (recordUnavailable .pending))) unrecordedSend.2.2 := by
  have h := unrecordedSend_exec
  rw [returned?_eq_some.mp unrecordedSend_left.1] at h
  exact h

theorem recordUnavailable_untouched_iff_sample :
    ((∀ o, Except.ok (ε := Exc) (recordUnavailable .pending) = .ok o →
        o.publicCode = codeRecordUnavailable →
        Untouched sampleSendCall sampleSendState unrecordedSend.2.2 o) ↔
      ¬ StartFailed unrecordedSend.1) ∧
    ∀ o, Except.ok (ε := Exc) (recordUnavailable .pending) = .ok o →
      o.publicCode = codeRecordUnavailable →
      LeftConfirmed sampleSendCall sampleSendState unrecordedSend.2.2 o :=
  recordUnavailable_untouched_iff unrecordedSend_done

/-- The refused proposal sits `CONFIRMED`, is reported `PENDING`, and has a row. -/
theorem recordUnavailable_confirmed :
    Exec (sendEnv samplePlatform) (sampleSendCall.run sampleSendConfig) sampleSendState
      unrecordedSend.1 (.done (.ok (recordUnavailable .pending))) unrecordedSend.2.2 ∧
    (unrecordedSend.2.2 .store).status? (str "p1") = some .confirmed ∧
    (unrecordedSend.2.2 .store).ledger.map (·.eventType) = [.proposalConfirmed] ∧
    ¬ Untouched sampleSendCall sampleSendState unrecordedSend.2.2 (recordUnavailable .pending) := by
  obtain ⟨-, hstatus, hledger⟩ := unrecordedSend_left
  refine ⟨unrecordedSend_done, hstatus, hledger, fun h => ?_⟩
  cases h.reported.trans hstatus

end AuthorizedGmailSend

end GmailGateway
