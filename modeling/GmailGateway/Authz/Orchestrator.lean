import GmailGateway.Authz.DispatchRecord
import GmailGateway.Authz.GateState
import GmailGateway.SendFsm.Fsm

/-!
# GmailGateway.Authz.Orchestrator

`AuthorizedGmailSend` (`authz/orchestrator.py`): the gate, the send state machine and the
dispatch log, in one call. Only a clean `authorized` decision gets to the state machine,
and the sender only runs between the two dispatch rows.

Three parties hold the state of a call: the gate, the stores of the state machine and what
the orchestrator itself is given. Each is the component modelled before, in its own
surroundings.
-/

namespace GmailGateway

open Effect Proc Python

/-! ### The parties -/

/-- Who takes part in an authorized send. -/
inductive Party
  | gate
  | store
  | own
  deriving DecidableEq

/-- What the orchestrator is given: its wall clock, the clock it shares with the gate and
the log of the dispatch rows. -/
inductive OwnOp
  | now
  | clock
  | append (row : DispatchRow)

/-- The clocks give integers. -/
abbrev OwnOp.Ret : OwnOp → Type
  | .now | .clock => Int
  | .append _ => Unit

/-- What each party performs. -/
abbrev PartySig (P : Platform) : Party → Signature
  | .gate => GateSig P
  | .store => StoreSig
  | .own => ⟨OwnOp, OwnOp.Ret⟩

/-- An operation of the send is one of its parties'. -/
abbrev SendSig (P : Platform) : Signature := Signature.all (PartySig P)

/-- A procedure over the parties. -/
abbrev SendProc (P : Platform) (α : Type) := Proc (SendSig P) Exc α

/-- An operation with its answer. -/
abbrev SendEvent (P : Platform) := Event (SendSig P) Exc

/-- What each party holds. -/
abbrev PartyState : Party → Type
  | .gate => GateState
  | .store => StoreState
  | .own => List DispatchRow

/-- The states of the parties. -/
abbrev SendState := ∀ party, PartyState party

/-- The clocks and the log. An append that raises may have persisted its row. -/
def ownEnv : Env ⟨OwnOp, OwnOp.Ret⟩ Exc (List DispatchRow)
  | log, .append row, .ok _, log' => log' = log ++ [row]
  | log, .append row, .error _, log' => log' = log ∨ log' = log ++ [row]
  | log, _, _, log' => log' = log

/-- Every party in surroundings where any of its operations may raise. -/
def partyEnv (P : Platform) : ∀ party, Env (PartySig P party) Exc (PartyState party)
  | .gate => gateEnv fun _ _ => True
  | .store => faultyStores
  | .own => ownEnv

/-- The parties side by side: an operation of one leaves the others as they are. -/
abbrev sendEnv (P : Platform) : Env (SendSig P) Exc SendState := Env.all (partyEnv P)

section Updates
variable (s : SendState) (g : GateState) (t : StoreState) (log : List DispatchRow)

@[simp] theorem update_gate_store : Function.update s .gate g Party.store = s .store := rfl

@[simp] theorem update_gate_own : Function.update s .gate g Party.own = s .own := rfl

@[simp] theorem update_store_own : Function.update s .store t Party.own = s .own := rfl

@[simp] theorem update_own_store : Function.update s .own log Party.store = s .store := rfl

end Updates

/-! ### The orchestrator -/

/-- `AuthorizationDenied.PUBLIC_CODE`. -/
def publicCodeDenied := "denied"

/-- A valid grant that waits for an approval of the call. -/
def publicCodePendingApproval := "pending_approval"

/-- `CODE_RECORD_UNAVAILABLE`. -/
def codeRecordUnavailable := "record_unavailable"

/-- `CODE_OUTCOME_UNKNOWN`. -/
def codeOutcomeUnknown := "outcome_unknown"

/-- What the caller gets: coarse codes only. -/
structure AuthorizedSendOutcome where
  authorized : Bool
  sent : Bool
  publicCode : String
  proposalStatus : Option ProposalStatus := none
  deriving DecidableEq

/-- What the orchestrator is constructed with, apart from its collaborators. -/
structure SendConfig (P : Platform) where
  gate : GateConfig P
  switchMode : SwitchMode

namespace AuthorizedGmailSend

variable (P : Platform)

/-- A procedure of the gate. -/
abbrev atGate {α : Type} (p : GateProc P α) : SendProc P α := p.at (S := PartySig P) Party.gate

/-- A procedure of the store and its state machine. -/
abbrev atStore {α : Type} (p : Proc StoreSig Exc α) : SendProc P α :=
  p.at (S := PartySig P) Party.store

/-- An operation of the orchestrator's own. -/
abbrev own (o : OwnOp) : SendProc P o.Ret := perform (S := SendSig P) ⟨.own, o⟩

/-- An operation of the orchestrator's own changes its own state only. -/
theorem sat_own {P : Platform} {J : List (SendEvent P) → SendState → Prop} {o : OwnOp}
    {Q : Except Exc o.Ret → List (SendEvent P) → SendState → Prop} {τ : List (SendEvent P)}
    {s : SendState} :
    (own P o).sat (sendEnv P) J Q τ s ↔ ∀ r log, ownEnv (s .own) o r log →
      J (τ ++ [⟨⟨.own, o⟩, r⟩]) (Function.update s .own log) ∧
        Q r (τ ++ [⟨⟨.own, o⟩, r⟩]) (Function.update s .own log) := by
  simp only [own, perform, sat_op, sat_embed]
  constructor
  · intro h r log hlog
    exact h r _ ⟨log, hlog, rfl⟩
  · rintro h r _ ⟨log, hlog, rfl⟩
    exact h r log hlog

/-- The fields of a dispatch row. -/
def dispatchStarted (proposalId : PyStr) (request : AuthorizationRequest) (proposal : Proposal)
    (authorization : Authorization) (monoGmailCommitStart : Int) : DispatchStarted where
  decisionId := authorization.decision.decisionId
  requestId := request.requestId
  proposalId := proposalId
  actionDigest := proposal.payloadDigest
  monoDecisionReceivedNs := authorization.monoDecisionReceived
  monoGmailCommitStartNs := monoGmailCommitStart

/-- From the commit on: dispatch, and the completed row. -/
def commit (proposalId : PyStr) (now : Int) (row : DispatchStarted) :
    SendProc P AuthorizedSendOutcome := do
  let status ← atStore P (SendFsm.dispatch proposalId now)
  let monoResponseComplete ← own P .clock
  match ← attempt (own P (.append (.completed
      { row with monoResponseCompleteNs := monoResponseComplete,
                 terminalStatus := status.value }))) with
  -- Committed but unrecorded.
  | .error _ => pure { authorized := true, sent := false, publicCode := codeOutcomeUnknown,
                       proposalStatus := some status }
  | .ok _ => pure { authorized := true, sent := status = .sent, publicCode := status.value,
                    proposalStatus := some status }

/-- The started row, and the commit once it is written. -/
def recordAndCommit (proposalId : PyStr) (now : Int) (proposal : Proposal) (row : DispatchStarted) :
    SendProc P AuthorizedSendOutcome := do
  match ← attempt (own P (.append (.started row))) with
  -- An unattributable send is refused, not sent.
  | .error _ => pure { authorized := true, sent := false, publicCode := codeRecordUnavailable,
                       proposalStatus := some proposal.status }
  | .ok _ => commit P proposalId now row

/-- Everything after a clean `authorized` decision. -/
def send (cfg : SendConfig P) (proposalId : PyStr) (request : AuthorizationRequest)
    (proposal : Proposal) (authorization : Authorization) : SendProc P AuthorizedSendOutcome := do
  let now ← own P .now
  atStore P (SendFsm.confirm cfg.switchMode proposalId .human now)
  let monoGmailCommitStart ← own P .clock
  recordAndCommit P proposalId now proposal
    (dispatchStarted proposalId request proposal authorization monoGmailCommitStart)

/-- Authorize the stored payload, and send on a clean `authorized` decision only. -/
def authorizeAndSend (cfg : SendConfig P) (proposalId : PyStr) (request : AuthorizationRequest) :
    SendProc P AuthorizedSendOutcome := do
  let proposal ← atStore P (ProposalStore.get proposalId)
  let authorization ← tryCatch
    (do let a ← atGate P (AuthorizationGate.authorize P cfg.gate request proposal.payloadDigest)
        pure (some a)) fun
    | .authorizationDenied => pure none
    | e => throw e
  match authorization with
  | none => pure { authorized := false, sent := false, publicCode := publicCodeDenied }
  | some authorization =>
      if authorization.decision.disposition.eqStr dispositionNeedsApproval then
        pure { authorized := true, sent := false, publicCode := publicCodePendingApproval,
               proposalStatus := some proposal.status }
      else send P cfg proposalId request proposal authorization

end AuthorizedGmailSend

/-- A call of the orchestrator. -/
structure SendCall where
  proposalId : PyStr
  request : AuthorizationRequest

/-- The call, with its arguments. -/
def SendCall.run {P : Platform} (cfg : SendConfig P) (k : SendCall) :
    SendProc P AuthorizedSendOutcome :=
  AuthorizedGmailSend.authorizeAndSend P cfg k.proposalId k.request

/-! ### An orchestrator that can be run -/

/-- Perform one operation: the gate answers with its script, nothing raises, and the clocks of
the orchestrator stand still. -/
def SendState.perform {P : Platform} (script : GateScript P) (now clock : Int)
    (result : SendResult) (s : SendState) :
    (o : (SendSig P).Op) → Except Exc ((SendSig P).Ret o) × SendState
  | ⟨.gate, o⟩ =>
      (((s .gate).perform script o).1, Function.update s .gate ((s .gate).perform script o).2)
  | ⟨.store, o⟩ =>
      (((s .store).perform now (.ok result) o).1,
        Function.update s .store ((s .store).perform now (.ok result) o).2)
  | ⟨.own, .now⟩ => (.ok now, s)
  | ⟨.own, .clock⟩ => (.ok clock, s)
  | ⟨.own, .append row⟩ => (.ok (), Function.update s .own (s .own ++ [row]))

theorem SendState.perform_env {P : Platform} (script : GateScript P) (now clock : Int)
    (result : SendResult) (s : SendState) (o : (SendSig P).Op) :
    sendEnv P s o (s.perform script now clock result o).1
      (s.perform script now clock result o).2 := by
  obtain ⟨party, o⟩ := o
  cases party with
  | gate =>
      have hgate := (s .gate).perform_env (fun _ _ => True) script o
      exact ⟨_, hgate, rfl⟩
  | store =>
      have hstore := (s .store).perform_env (fun _ => True) now (.ok result) o
      exact ⟨_, hstore, rfl⟩
  | own =>
      cases o with
      | append row => exact ⟨_, rfl, rfl⟩
      | _ => exact ⟨s .own, rfl, (Function.update_eq_self _ s).symm⟩

/-- Run a call with the answers of a script. -/
def SendCall.scripted {P : Platform} (script : GateScript P) (now clock : Int)
    (result : SendResult) (cfg : SendConfig P) (k : SendCall) (s : SendState) :
    List (SendEvent P) × Outcome Exc AuthorizedSendOutcome × SendState :=
  (k.run cfg).run (fun _ => SendState.perform script now clock result) 40 s

theorem SendCall.scripted_exec {P : Platform} (script : GateScript P) (now clock : Int)
    (result : SendResult) (cfg : SendConfig P) (k : SendCall) (s : SendState) :
    Exec (sendEnv P) (k.run cfg) s (k.scripted script now clock result cfg s).1
      (k.scripted script now clock result cfg s).2.1
      (k.scripted script now clock result cfg s).2.2 :=
  run_exec (fun _ s o => s.perform_env script now clock result o) 40 _ s

end GmailGateway
