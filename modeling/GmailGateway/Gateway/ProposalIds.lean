import GmailGateway.Gateway.AllOrNothing
import GmailGateway.Gateway.UniformRejection

/-!
# GmailGateway.Gateway.ProposalIds

**Ids and idempotency keys share one keyspace.** After any calls of `propose`, a row is a
well-formed record under its own id, or an index entry under `idem:` and a key. A request for the
first answers its five fields and one for a key without a row the 404.

A request for an index entry is answered by neither: `Proposal.from_dict` refuses the entry with a
`ProposalStateError`, which the handlers do not catch. Both routes fail on exactly these ids.
-/

namespace GmailGateway

open Effect Proc Python

namespace ProposalService

/-! ### The rows that `propose` writes -/

/-- A row of the proposal store. -/
inductive Row (key : PyStr) : KvValue → Prop
  | record (p : Proposal) (h : p.proposalId = key) : Row key p.toDict
  | index (k id : PyStr) (h : key = ProposalStore.idemIndexKey k) : Row key (.index id)

/-- What is written are rows. -/
def WritesRows : StoreOp → Prop
  | .put key v | .claim key v => Row key v
  | _ => True

/-- The same, of an operation of the gateway. -/
def ProposeOp : GatewayOp → Prop
  | .store o => WritesRows o
  | _ => True

theorem create_writes (p : Proposal) : (ProposalStore.create p).Performs WritesRows := by
  refine performs_bind (performs_raiseIf _ _) fun _ => performs_bind (performs_raiseIf _ _) fun _ =>
    performs_bind (performs_raiseIf _ _) fun _ => performs_bind (performs_perform trivial)
      fun existing => performs_bind (performs_raiseIf _ _) fun _ =>
        performs_bind (performs_perform (.record p rfl)) fun _ => ?_
  split
  · exact performs_pure _
  · rename_i key _
    refine performs_bind (performs_perform (.index key _ rfl)) fun won => ?_
    split
    · exact performs_pure _
    · exact performs_bind (performs_perform trivial) fun _ => performs_throw _

theorem find_writes (key : PyStr) :
    (ProposalStore.findByIdempotency key).Performs WritesRows := by
  have hget : ∀ id, (some <$> ProposalStore.get id).Performs WritesRows := fun id =>
    performs_bind (ProposalStore.performs_get trivial) fun p => performs_pure _
  refine performs_bind (performs_perform trivial) fun raw => ?_
  split
  · exact performs_pure _
  · exact hget _
  · exact hget _

theorem onStore_writes {α : Type} {p : Proc StoreSig Exc α} (h : p.Performs WritesRows) :
    (onStore p).Performs ProposeOp := performs_implement h fun _ ho => performs_perform ho

theorem lostRace_writes (key : Option PyStr) (id : PyStr) (e : Exc) :
    (lostRace key id e).Performs ProposeOp := by
  unfold lostRace
  split
  · refine performs_bind (performs_perform trivial) fun _ => ?_
    split
    · exact performs_throw _
    · refine performs_bind (onStore_writes (find_writes _)) fun existing => ?_
      split
      · exact performs_pure _
      · exact performs_throw _
  · exact performs_throw _

theorem proposeNew_writes (P : Platform) (cfg : ProposalServiceConfig) (params : Dict)
    (key : Option PyStr) : (proposeNew P cfg params key).Performs ProposeOp := by
  refine performs_bind (performs_perform trivial) fun now => performs_bind ?_ fun messageId =>
    performs_bind (performs_raiseIf _ _) fun _ => performs_bind ?_ fun result =>
      performs_bind (performs_embed _) fun canonical => performs_bind (performs_embed _) fun fresh =>
        performs_bind (performs_raiseIf _ _) fun _ => performs_bind (performs_perform trivial)
          fun _ => performs_handle ?_ (lostRace_writes _ _)
  · unfold mintMessageId
    split
    · exact performs_perform trivial
    · exact performs_pure _
  · exact performs_bind (performs_raiseIf _ _) fun _ => performs_bind (performs_raiseIf _ _)
      fun _ => performs_bind (performs_embed _) fun canonical => performs_bind (performs_embed _)
        fun _ => performs_bind (performs_perform trivial) fun id => performs_bind (performs_embed _)
          fun digest => performs_pure _
  · exact performs_bind (onStore_writes (create_writes _)) fun _ => performs_pure _

theorem propose_writes (P : Platform) (cfg : ProposalServiceConfig) (params : Dict) :
    (propose P cfg params).Performs ProposeOp := by
  refine performs_bind (performs_raiseIf _ _) fun _ => performs_bind (performs_embed _) fun key =>
    performs_bind ?_ fun existing => ?_
  · unfold replay
    split
    · exact performs_pure _
    · exact onStore_writes (find_writes _)
  · split
    · exact performs_pure _
    · exact proposeNew_writes P cfg params key

/-- Every row is one. -/
def RowsOnly (s : GatewayState) : Prop := ∀ key v, s.store.kv key = some v → Row key v

theorem RowsOnly.step {s s' : GatewayState} {e : GatewayEvent} (h : RowsOnly s)
    (he : ProposeOp e.op) (hw : gatewayEnv s e.op e.ans s') : RowsOnly s' := by
  have hupdate : ∀ (key : PyStr) (v : KvValue), Row key v →
      s'.store.kv = Function.update s.store.kv key (some v) → RowsOnly s' := by
    intro key v hrow hkv key' v' hv'
    rw [hkv] at hv'
    by_cases hkey : key' = key
    · subst hkey
      rw [Function.update_self] at hv'
      obtain rfl := Option.some.inj hv'
      exact hrow
    · rw [Function.update_of_ne hkey] at hv'
      exact h key' v' hv'
  cases rowStep hw with
  | put key v heq hkv =>
      subst heq
      exact hupdate key v he hkv
  | claim key v heq _ hkv =>
      subst heq
      exact hupdate key v he hkv
  | delete key _ hkv =>
      intro key' v' hv'
      rw [hkv] at hv'
      by_cases hkey : key' = key
      · subst hkey
        rw [Function.update_self] at hv'
        cases hv'
      · rw [Function.update_of_ne hkey] at hv'
        exact h key' v' hv'
  | other hkv _ _ _ =>
      intro key' v' hv'
      rw [hkv] at hv'
      exact h key' v' hv'

/-- The calls of `propose` with these parameters, on empty stores. -/
abbrev proposals (P : Platform) (cfg : ProposalServiceConfig) (params : Nat → Dict) : GatewayPool :=
  pool P cfg fun t => .propose (params t)

/-- **Invariant.** At every point of every interleaving of calls of `propose`. -/
theorem rowsOnly_of_run {P : Platform} {cfg : ProposalServiceConfig} {params : Nat → Dict}
    {c : GatewayPool} (hrun : Run gatewayEnv anyStep (proposals P cfg params) c) :
    RowsOnly c.state := by
  have hcalls : ∀ t, ((proposals P cfg params).threads t).Performs ProposeOp := fun t =>
    performs_bind (propose_writes P cfg (params t)) fun result => performs_pure _
  induction hrun with
  | start => exact fun key v h => by cases h
  | @step c t e c' hrun hC hstep ih =>
      have hperforms := ((hrun.step hC hstep).performs (P := fun _ => ProposeOp) hcalls rfl).1
      rw [hstep.history_eq] at hperforms
      have hop := hperforms (t, e) (List.mem_append_right _ List.mem_cons_self)
      exact ih.step hop hstep.answer

end ProposalService

namespace ProposalServer

/-! ### Executions in which nothing fails -/

/-- The operation did not raise, and a clock read no time before 0. -/
def Working (e : ServerEvent) : Prop :=
  (∃ a, e.ans = .ok a) ∧ ∀ n, e = ⟨.gateway (.store .now), .ok n⟩ → 0 ≤ n

/-- What a working execution sees. -/
abbrev workingEnv : Env ServerSig Exc GatewayState := serverEnv.only Working

theorem working_answer (s : GatewayState) (o : ServerOp) :
    ∃ r s', serverEnv s o r s' ∧ Working ⟨o, r⟩ := by
  cases o with
  | gateway o =>
      refine ⟨_, _, ProposalService.reliableGateway_env 0 s o, ?_, fun n hn => ?_⟩
      · cases o with
        | store o => cases o <;> exact ⟨_, rfl⟩
        | _ => exact ⟨_, rfl⟩
      · cases hn
        exact Int.one_nonneg
  | readBody n => exact ⟨.ok [], s, rfl, ⟨_, rfl⟩, fun n hn => (by cases hn)⟩
  | json status payload => exact ⟨.ok (), s, rfl, ⟨_, rfl⟩, fun n hn => (by cases hn)⟩

section
variable {server : ProposalServer} {request : HttpRequest} {id : PyStr} {s : GatewayState}
  {τ : List ServerEvent}

/-- A read answers the row. -/
theorem working_get {r : Except Exc (Option KvValue)} {s' : GatewayState}
    (h : workingEnv s (.gateway (.store (.get id))) r s') :
    r = .ok (s.store.kv id) ∧ s' = s := by
  obtain ⟨hw, ⟨v, hv⟩, -⟩ := h
  obtain ⟨rfl, hread⟩ := ProposalService.gateway_get hw
  exact ⟨hv.trans (congrArg _ (hread v hv)), rfl⟩

/-- A response that gets through. -/
theorem json_answers {status : Int} {payload : PyVal} :
    (json status payload).sat workingEnv (fun _ _ => True)
      (fun r τ' s' => r = .ok () ∧ responses τ' = responses τ ++ [(status, payload)] ∧ s' = s)
      τ s := by
  simp only [json, perform, sat_op, sat_embed]
  intro r s' hw
  obtain ⟨hstate, ⟨u, hu⟩, -⟩ := hw
  exact ⟨trivial, hu, responses_append, hstate⟩

/-- One read, and what is made of the row. -/
theorem onStore_get (id : PyStr) :
    onStore (ProposalStore.get id) =
      .op (.store (.get id)) fun r => embed (ProposalStore.decode id r) := by
  refine congrArg (Proc.op (S := GatewaySig) (.store (.get id))) (funext fun r => ?_)
  rcases r with e | _ | raw
  · rfl
  · rfl
  · exact implement_embed _

theorem onGateway_getStatus (id : PyStr) :
    onGateway (ProposalService.getStatus id) =
      .op (.gateway (.store (.get id))) fun r =>
        embed ((ProposalStore.decode id r).map Proposal.auditView) := by
  rw [ProposalService.getStatus, onStore_get]
  refine congrArg (Proc.op (S := ServerSig) (.gateway (.store (.get id)))) (funext fun r => ?_)
  cases r with
  | error x => rfl
  | ok raw =>
      change ((embed (ProposalStore.decode id (.ok raw))).bind fun p => pure p.auditView).implement
        _ = embed ((ProposalStore.decode id (.ok raw)).map Proposal.auditView)
      cases ProposalStore.decode id (.ok raw) <;> rfl

/-! ### The status route -/

/-- What the row under the id makes of a request for its status. -/
def StatusEnd (row : Option KvValue) (r : Except Exc Unit) (answered : List (Int × PyVal)) : Prop :=
  match row.map Proposal.fromDict with
  | none => r = .ok () ∧ answered = [notFound]
  | some (.ok p) => r = .ok () ∧ answered = [(200, p.auditView)]
  | some (.error e) => r = .error e ∧ answered = []

/-- A record that cannot be read is not a missing one. -/
theorem fromDict_error {raw : KvValue} {e : Exc} (h : Proposal.fromDict raw = .error e) :
    e = .proposalState "malformed proposal record: %s" := by
  cases raw with
  | index id =>
      cases h
      rfl
  | proposal id digest expiresAt createdAt status key =>
      rw [Proposal.fromDict] at h
      split at h
      · cases h
      · cases h
        rfl

theorem handleStatus_ends (hnone : responses τ = []) :
    (handleStatus id).sat workingEnv (fun _ _ => True)
      (fun r τ' _ => StatusEnd (s.store.kv id) r (responses τ')) τ s := by
  rw [handleStatus, onGateway_getStatus, sat_bind, sat_attempt, sat_op]
  intro r s₁ hw
  obtain ⟨rfl, rfl⟩ := working_get hw
  have hread : responses (τ ++ [⟨.gateway (.store (.get id)), .ok (s₁.store.kv id)⟩]) = [] := by
    rw [responses_append, hnone]
    rfl
  refine ⟨trivial, ?_⟩
  rw [sat_embed, andThen_ok]
  cases hrow : s₁.store.kv id with
  | none =>
      refine sat_mono json_answers fun r τ' s' h => ?_
      rw [hrow] at hread
      rw [hread] at h
      exact ⟨h.1, h.2.1⟩
  | some raw =>
      rw [hrow] at hread
      cases hraw : Proposal.fromDict raw with
      | ok p =>
          simp only [ProposalStore.decode, hraw, Except.map]
          refine sat_mono json_answers fun r τ' s' h => ?_
          rw [hread] at h
          rw [StatusEnd, Option.map_some, hraw]
          exact ⟨h.1, h.2.1⟩
      | error e =>
          obtain rfl := fromDict_error hraw
          simp only [ProposalStore.decode, hraw, Except.map]
          change StatusEnd (some raw) _ _
          rw [StatusEnd, Option.map_some, hraw]
          exact ⟨rfl, hread⟩

/-! ### The confirm route

Over the stores alone first, as a working execution sees them. -/

/-- What the dispatcher sees of the stores; a send does not touch the rows. -/
def confirmView : Env StoreSig Exc StoreState
  | s, .send _, _, s' => s' = s
  | s, .now, r, s' => (∃ n, r = .ok n ∧ 0 ≤ n) ∧ s' = s
  | s, o, r, s' => (∃ a, r = .ok a) ∧ faultyStores s o r s'

/-- What the handler answers with something else than an exception. -/
def Caught : Exc → Prop
  | .proposalNotFound _ | .proposalExpired _ | .illegalTransition _ | .alreadySettled _
  | .noAutoRetry _ => True
  | _ => False

theorem Caught.of_error {α : Type} {e e' : Exc} (h : Caught e)
    (he : (.error e : Except Exc α) = .error e') : Caught e' := by
  cases he
  exact h

/-- No row, or a record. -/
def RecordOrNone (s : StoreState) (id : PyStr) : Prop :=
  s.kv id = none ∨ ∃ p : Proposal, s.kv id = some p.toDict

/-- The answers while there is no row under the id but a record. -/
def RecordAnswers (id : PyStr) : (o : StoreOp) → Except Exc o.Ret → Prop
  | .get key, r => key = id → ∃ v : Option Proposal, r = .ok (v.map Proposal.toDict)
  | .now, r => ∃ n, r = .ok n ∧ 0 ≤ n
  | .send _, _ => True
  | _, r => ∃ a, r = .ok a

theorem confirmView_record {s s' : StoreState} {o : StoreOp} {r : Except Exc o.Ret}
    (h : RecordOrNone s id) (ho : SendFsm.FsmOp id o) (hw : confirmView s o r s') :
    RecordAnswers id o r ∧ RecordOrNone s' id := by
  cases o with
  | get key =>
      obtain rfl : key = id := ho
      obtain ⟨⟨v, rfl⟩, hv, rfl⟩ := hw
      refine ⟨fun _ => ?_, h⟩
      rcases h with hnone | ⟨p, hp⟩
      · exact ⟨none, by rw [hv, hnone]; rfl⟩
      · exact ⟨some p, by rw [hv, hp]; rfl⟩
  | put key v =>
      obtain ⟨rfl, p, rfl, -⟩ := ho
      obtain ⟨⟨u, rfl⟩, hs'⟩ := hw
      obtain rfl : s' = _ := hs'
      exact ⟨⟨u, rfl⟩, .inr ⟨p, Function.update_self ..⟩⟩
  | append row =>
      obtain ⟨⟨u, rfl⟩, hs'⟩ := hw
      obtain rfl : s' = _ := hs'
      exact ⟨⟨u, rfl⟩, h⟩
  | send key =>
      obtain rfl : s' = s := hw
      exact ⟨trivial, h⟩
  | now =>
      obtain ⟨hn, rfl⟩ := hw
      exact ⟨hn, h⟩
  | claim key v => exact ho.elim
  | delete key => exact ho.elim

/-- Decoding such an answer gives a record, or that there is none. -/
theorem decode_record (v : Option Proposal) :
    (∃ p, ProposalStore.decode id (.ok (v.map Proposal.toDict)) = .ok p) ∨
      ProposalStore.decode id (.ok (v.map Proposal.toDict)) = .error (.proposalNotFound id) := by
  cases v with
  | none => exact .inr rfl
  | some p => exact .inl ⟨p, Proposal.fromDict_toDict p⟩

/-- Writing a status and its row. -/
theorem write_caught {x : ProposalStatus} {row : AuditEvent} {τ : List StoreEvent}
    (hrow : 0 ≤ row.at_) :
    (do let _ ← ProposalStore.setStatus id x; AuditLedger.record row :
      Proc StoreSig Exc Unit).sat (anyAnswer (RecordAnswers id)) (fun _ _ => True)
      (fun r _ _ => ∀ e, r = .error e → Caught e) τ () := by
  simp only [sat_bind, ProposalStore.sat_setStatus]
  intro r _ hget
  obtain ⟨v, rfl⟩ := hget rfl
  refine ⟨trivial, ?_⟩
  rcases decode_record v with ⟨p, hp⟩ | hnone
  · rw [hp]
    rintro _ _ ⟨u, rfl⟩
    refine ⟨trivial, ?_⟩
    simp only [Except.map, andThen_ok, AuditLedger.sat_record]
    refine ⟨fun hneg => absurd hneg (by omega), fun _ => ?_⟩
    rintro _ _ ⟨u, rfl⟩
    exact ⟨trivial, fun e he => (by cases he)⟩
  · rw [hnone]
    intro e he
    cases he
    trivial

theorem confirm_caught (switchMode : SwitchMode) {now : Int} (hnow : 0 ≤ now)
    {τ : List StoreEvent} :
    (SendFsm.confirm switchMode id .human now).sat (anyAnswer (RecordAnswers id))
      (fun _ _ => True) (fun r _ _ => ∀ e, r = .error e → Caught e) τ () := by
  simp only [SendFsm.confirm, sat_bind, ProposalStore.sat_getLive]
  intro r _ hget
  obtain ⟨v, rfl⟩ := hget rfl
  refine ⟨trivial, ?_⟩
  rcases decode_record v with ⟨p, hp⟩ | hnone
  · rw [hp]
    refine ⟨fun hneg => absurd hneg (by omega), fun _ =>
      ⟨fun _ e => Caught.of_error trivial, fun _ => ?_⟩⟩
    simp only [andThen_ok, sat_bind, sat_raiseIf]
    refine ⟨fun _ e => Caught.of_error trivial, fun _ =>
      ⟨fun h => ?_, fun _ => ⟨fun h => ?_, fun _ => ?_⟩⟩⟩
    · cases h.1
    · cases h.1
    · rw [← sat_bind]
      exact write_caught hnow
  · rw [hnone]
    exact fun e => Caught.of_error trivial

theorem dispatch_caught {now : Int} (hnow : 0 ≤ now) {τ : List StoreEvent} :
    (SendFsm.dispatch id now).sat (anyAnswer (RecordAnswers id))
      (fun _ _ => True) (fun r _ _ => ∀ e, r = .error e → Caught e) τ () := by
  have hwrite : ∀ (x : ProposalStatus) (row : AuditEvent) (τ : List StoreEvent), 0 ≤ row.at_ →
      (do let _ ← ProposalStore.setStatus id x; AuditLedger.record row; pure x :
        Proc StoreSig Exc ProposalStatus).sat (anyAnswer (RecordAnswers id)) (fun _ _ => True)
        (fun r _ _ => ∀ e, r = .error e → Caught e) τ () := by
    intro x row τ hrow
    rw [← bind_assoc, sat_bind]
    refine sat_mono (write_caught hrow) fun r _ _ h => ?_
    cases r with
    | error e => exact fun e' => (h e rfl).of_error
    | ok u => exact fun e he => (by cases he)
  simp only [SendFsm.dispatch, sat_bind, ProposalStore.sat_get]
  intro r _ hget
  obtain ⟨v, rfl⟩ := hget rfl
  refine ⟨trivial, ?_⟩
  rcases decode_record v with ⟨p, hp⟩ | hnone
  · rw [hp]
    simp only [andThen_ok, sat_bind, sat_raiseIf, AuditLedger.sat_record]
    refine ⟨fun _ e => Caught.of_error trivial, fun _ =>
      ⟨fun _ e => Caught.of_error trivial, fun _ => ⟨fun _ e => Caught.of_error trivial, fun _ =>
        ⟨fun hneg => absurd hneg (by omega), fun _ => ?_⟩⟩⟩⟩
    rintro _ _ ⟨u, rfl⟩
    refine ⟨trivial, ?_⟩
    simp only [andThen_ok, sat_bind, sat_attempt, perform, sat_op, sat_embed]
    intro result _ _
    refine ⟨trivial, ?_⟩
    rcases result with e | ⟨kind, m, t, c, hosts⟩
    · exact hwrite .outcomeUnknown _ _ hnow
    · cases kind with
      | accepted => exact hwrite .sent _ _ hnow
      | rejected => exact hwrite .failed _ _ hnow
      | indeterminate => exact hwrite .outcomeUnknown _ _ hnow
  · rw [hnone]
    exact fun e => Caught.of_error trivial

/-- While there is no row under the id but a record, nothing else than the transition errors
comes out of the dispatcher. -/
theorem confirmAndDispatch_caught (switchMode : SwitchMode) {τ : List StoreEvent} :
    (ConfirmDispatcher.confirmAndDispatch switchMode id).sat (anyAnswer (RecordAnswers id))
      (fun _ _ => True) (fun r _ _ => ∀ e, r = .error e → Caught e) τ () := by
  simp only [ConfirmDispatcher.confirmAndDispatch, sat_bind, perform, sat_op, sat_embed]
  rintro _ _ ⟨now, rfl, hnow⟩
  refine ⟨trivial, ?_⟩
  simp only [andThen_ok, sat_bind]
  refine sat_mono (confirm_caught switchMode hnow) fun r _ _ h => ?_
  rcases r with e | u
  · intro e' he
    cases he
    exact h e rfl
  · simp only [andThen_ok, sat_bind]
    refine sat_mono (dispatch_caught hnow) fun r _ _ h => ?_
    rcases r with e | status
    · intro e' he
      cases he
      exact h e rfl
    · exact fun e he => (by cases he)

theorem confirmAndDispatch_performs (switchMode : SwitchMode) :
    (ConfirmDispatcher.confirmAndDispatch switchMode id).Performs (SendFsm.FsmOp id) :=
  performs_bind (performs_perform trivial) fun now =>
    performs_bind ((SendFsm.performs_confirm switchMode id .human now none).mono fun _ h => h.1)
      fun _ => performs_bind (SendFsm.performs_dispatch id now) fun _ => performs_pure _

/-- **The dispatcher alone.** On a record it raises nothing but transition errors. Without a row it
finds nothing, and an index entry is malformed. -/
theorem confirmAndDispatch_ends (switchMode : SwitchMode) {s : StoreState} {τ : List StoreEvent} :
    (RecordOrNone s id → (ConfirmDispatcher.confirmAndDispatch switchMode id).sat confirmView
      (fun _ _ => True) (fun r _ _ => ∀ e, r = .error e → Caught e) τ s) ∧
    ∀ e, ProposalStore.decode id (.ok (s.kv id)) = .error e →
      (ConfirmDispatcher.confirmAndDispatch switchMode id).sat confirmView
        (fun _ _ => True) (fun r _ _ => r = .error e) τ s := by
  refine ⟨fun h => ?_, fun e he => ?_⟩
  · exact sat_of_invariant (J := fun _ => True) (Q := fun r _ => ∀ e, r = .error e → Caught e)
      (confirmAndDispatch_performs switchMode)
      (fun _ _ _ _ hI ho hw => confirmView_record hI ho hw) (confirmAndDispatch_caught switchMode) h
  · simp only [ConfirmDispatcher.confirmAndDispatch, sat_bind, perform, sat_op, sat_embed]
    rintro _ s₁ ⟨⟨now, rfl, hnow⟩, rfl⟩
    refine ⟨trivial, ?_⟩
    simp only [SendFsm.confirm, andThen_ok, sat_bind, ProposalStore.sat_getLive]
    rintro _ s₂ ⟨⟨v, rfl⟩, hv, rfl⟩
    refine ⟨trivial, ?_⟩
    rw [hv, he]
    rfl

/-! On the wire: the operations of the dispatcher are the gateway's. -/

theorem responses_gateway {τ : List ServerEvent} (h : ∀ e ∈ τ, ∃ o, e.op = .gateway o) :
    responses τ = [] := by
  refine List.filterMap_eq_nil_iff.mpr fun e he => ?_
  obtain ⟨o, ho⟩ := h e he
  obtain ⟨o', r⟩ := e
  subst ho
  rfl

/-- The state the dispatcher sees, before any response. -/
def Viewed (s : StoreState) (τ : List ServerEvent) (t : GatewayState) : Prop :=
  t.store.kv = s.kv ∧ responses τ = []

/-- The operations of the sender. -/
def SenderOp : ServerOp → Prop
  | .gateway (.payloadGet _) | .gateway (.deliver _) => True
  | _ => False

theorem call_performs (proposalId : PyStr) :
    (onGateway (GmailSender.call proposalId)).Performs SenderOp := by
  have hcall : (GmailSender.call proposalId).Performs fun o => SenderOp (.gateway o) := by
    refine performs_bind (performs_bind (performs_perform trivial) fun raw => ?_)
      fun canonical => ?_
    · split
      · exact performs_throw _
      · exact performs_pure _
    · split
      · exact performs_perform trivial
      · exact performs_pure _
      · exact performs_pure _
      · exact performs_throw _
  exact performs_implement hcall fun _ ho => performs_perform ho

/-- Sending leaves the rows, and answers nothing. -/
theorem call_viewed {s : StoreState} {t : GatewayState} (h : Viewed s τ t) (proposalId : PyStr) :
    (onGateway (GmailSender.call proposalId)).sat workingEnv (fun _ _ => True)
      (fun _ τ' t' => Viewed s τ' t') τ t := by
  have hstep : ∀ (t : GatewayState) (o : ServerOp) (r : Except Exc o.Ret) (t' : GatewayState),
      SenderOp o → workingEnv t o r t' → t'.store.kv = t.store.kv := by
    intro t o r t' ho hw
    cases o with
    | gateway o =>
        cases o with
        | payloadGet key =>
            cases r with
            | error e => rw [show t' = t from hw.1]
            | ok v => rw [show t' = t from hw.1.2]
        | deliver canonical => cases r <;> rw [show t' = t from hw.1]
        | _ => exact ho.elim
    | _ => exact ho.elim
  have hrows : (onGateway (GmailSender.call proposalId)).sat workingEnv
      (fun _ t' => t'.store.kv = t.store.kv) (fun _ _ t' => t'.store.kv = t.store.kv) τ t :=
    sat_keeps (R := fun t t' : GatewayState => t'.store.kv = t.store.kv)
      (call_performs proposalId) (fun _ _ _ h h' => h'.trans h) hstep rfl
  have hnone : ∀ e ∈ ([] : List ServerEvent), SenderOp e.op := fun e he =>
    absurd he List.not_mem_nil
  have hevents := sat_performs (W := workingEnv) (τ := τ) (s := t) (call_performs proposalId) hnone
  rw [List.append_nil] at hevents
  refine sat_weaken (sat_and hrows hevents) (fun _ _ _ => trivial) fun r τ' t' hend => ?_
  obtain ⟨hkv, τ₂, rfl, hτ₂⟩ := hend
  refine ⟨hkv.trans h.1, ?_⟩
  rw [responses_append, h.2]
  refine responses_gateway fun e he => ?_
  have hop := hτ₂ e he
  obtain ⟨o, r⟩ := e
  cases o with
  | gateway o => exact ⟨o, rfl⟩
  | _ => exact hop.elim

theorem sendPath_of_ne {o : StoreOp} (hsend : ∀ key, o ≠ .send key) :
    onGateway (sendPath o) = perform (S := ServerSig) (.gateway (.store o)) := by
  have hstore : sendPath o = storePerform o := by
    cases o with
    | send key => exact absurd rfl (hsend key)
    | _ => rfl
  rw [hstore, onGateway, implement_perform]

/-- An operation of the dispatcher is seen as one on the stores. -/
theorem sendPath_viewed {s : StoreState} {t : GatewayState} (h : Viewed s τ t) (o : StoreOp) :
    (onGateway (sendPath o)).sat workingEnv (fun _ _ => True)
      (fun r τ' t' => ∃ s', confirmView s o r s' ∧ Viewed s' τ' t') τ t := by
  by_cases hsend : ∃ key, o = .send key
  · obtain ⟨key, rfl⟩ := hsend
    refine sat_mono (call_viewed h key) fun r τ' t' hend => ?_
    exact ⟨s, by cases r <;> rfl, hend⟩
  have hsend : ∀ key, o ≠ .send key := fun key ho => hsend ⟨key, ho⟩
  rw [sendPath_of_ne hsend]
  simp only [perform, sat_op, sat_embed]
  intro r t' hw
  refine ⟨trivial, ?_⟩
  rcases r with e | a
  · obtain ⟨-, ⟨a, ha⟩, -⟩ := hw
    cases ha
  obtain ⟨⟨u, hu, rfl⟩, -, hclock⟩ := hw
  have hresponses : responses (τ ++ [⟨.gateway (.store o), .ok a⟩]) = [] := by
    rw [responses_append, h.2]
    rfl
  cases o with
  | send key => exact absurd rfl (hsend key)
  | get key =>
      obtain ⟨hv, rfl⟩ := hu
      exact ⟨s, ⟨⟨a, rfl⟩, hv.trans (congrFun h.1 key), rfl⟩, h.1, hresponses⟩
  | put key v =>
      obtain rfl : u = _ := hu
      refine ⟨{ s with kv := Function.update s.kv key (some v) }, ⟨⟨a, rfl⟩, rfl⟩, ?_, hresponses⟩
      exact congrArg (fun kv => Function.update kv key (some v)) h.1
  | claim key v =>
      obtain ⟨hwon, rfl⟩ := hu
      refine ⟨if a then { s with kv := Function.update s.kv key (some v) } else s,
        ⟨⟨a, rfl⟩, hwon.trans (by rw [h.1]), rfl⟩, ?_, hresponses⟩
      cases a with
      | true => exact congrArg (fun kv => Function.update kv key (some v)) h.1
      | false => exact h.1
  | delete key =>
      obtain rfl : u = _ := hu
      refine ⟨{ s with kv := Function.update s.kv key none }, ⟨⟨a, rfl⟩, rfl⟩, ?_, hresponses⟩
      exact congrArg (fun kv => Function.update kv key none) h.1
  | append row =>
      obtain rfl : u = _ := hu
      exact ⟨{ s with ledger := s.ledger ++ [row] }, ⟨⟨a, rfl⟩, rfl⟩, h.1, hresponses⟩
  | now =>
      obtain rfl : u = _ := hu
      exact ⟨s, ⟨⟨a, rfl, hclock a rfl⟩, rfl⟩, h.1, hresponses⟩

/-- What the dispatcher comes to over the stores it comes to on the wire. -/
theorem onGateway_dispatcher (switchMode : SwitchMode) {Q : Except Exc String → Prop}
    {t : GatewayState} (hnone : responses τ = [])
    (h : (ConfirmDispatcher.confirmAndDispatch switchMode id).sat confirmView (fun _ _ => True)
      (fun r _ _ => Q r) [] t.store) :
    (onGateway ((ConfirmDispatcher.confirmAndDispatch switchMode id).implement sendPath)).sat
      workingEnv (fun _ _ => True) (fun r τ' _ => Q r ∧ responses τ' = []) τ t := by
  rw [onGateway, implement_implement]
  have hlift := sat_implement (R := fun _ s τ t => Viewed s τ t) (K := fun _ _ => True)
    (fun o _ s τ t _ hR => sendPath_viewed hR o) h ⟨rfl, hnone⟩
  refine sat_mono hlift fun r τ' t' hend => ?_
  obtain ⟨_, s', hR, hQ⟩ := hend
  exact ⟨hQ, hR.2⟩

/-- On a record or without a row the route is answered. -/
theorem handleConfirm_returns (switchMode : SwitchMode) (h : RecordOrNone s.store id)
    (hnone : responses τ = []) :
    (handleConfirm switchMode id).sat workingEnv (fun _ _ => True)
      (fun r _ _ => r = .ok ()) τ s := by
  have hjson : ∀ (status : Int) (payload : PyVal) (τ : List ServerEvent) (s : GatewayState),
      (json status payload).sat workingEnv (fun _ _ => True) (fun r _ _ => r = .ok ()) τ s :=
    fun status payload τ s => sat_mono json_answers fun r _ _ h => h.1
  rw [handleConfirm, sat_bind, sat_attempt]
  refine sat_mono (onGateway_dispatcher switchMode hnone ((confirmAndDispatch_ends switchMode).1 h))
    fun r τ' s' hend => ?_
  obtain ⟨hcaught, -⟩ := hend
  rcases r with e | status
  · have he := hcaught e rfl
    cases e with
    | proposalNotFound => exact hjson _ _ _ _
    | proposalExpired => exact hjson _ _ _ _
    | illegalTransition => exact hjson _ _ _ _
    | alreadySettled => exact hjson _ _ _ _
    | noAutoRetry => exact hjson _ _ _ _
    | _ => exact he.elim
  · exact hjson _ _ _ _

/-- Without a record, the 404 or the exception of the decoder. -/
theorem handleConfirm_undecoded (switchMode : SwitchMode) {e : Exc}
    (h : ProposalStore.decode id (.ok (s.store.kv id)) = .error e) (hnone : responses τ = []) :
    (handleConfirm switchMode id).sat workingEnv (fun _ _ => True)
      (fun r τ' _ => (e = .proposalNotFound id → responses τ' = [notFound]) ∧
        ∀ message, e = .proposalState message → r = .error e) τ s := by
  rw [handleConfirm, sat_bind, sat_attempt]
  refine sat_mono (onGateway_dispatcher switchMode hnone
    ((confirmAndDispatch_ends switchMode).2 e h)) fun r τ' s' hend => ?_
  obtain ⟨rfl, hresponses⟩ := hend
  cases hrow : s.store.kv id with
  | none =>
      rw [hrow] at h
      cases h
      refine sat_mono json_answers fun r τ'' _ hjson => ⟨fun _ => ?_, fun message h => by cases h⟩
      rw [hjson.2.1, hresponses]
      rfl
  | some raw =>
      rw [hrow] at h
      obtain rfl := fromDict_error h
      exact ⟨fun h => (by cases h), fun message _ => rfl⟩

/-! ### Whole requests -/

/-- An authenticated request for the id, by one of the two routes. -/
structure Asks (server : ProposalServer) (request : HttpRequest) (command path id : PyStr) :
    Prop where
  command_eq : request.command = command
  path_eq : server.library.urlPath request.path = .ok path
  authed_eq : authed server request = .ok true
  id_ne : id ≠ []
  no_slash : CodePoint.ofChar '/' ∉ id

/-- `GET /proposal/{id}`. -/
abbrev AsksStatus (server : ProposalServer) (request : HttpRequest) (id : PyStr) : Prop :=
  Asks server request (str "GET") (str "/proposal/" ++ id) id

/-- `POST /proposal/{id}/confirm`. -/
abbrev AsksConfirm (server : ProposalServer) (request : HttpRequest) (id : PyStr) : Prop :=
  Asks server request (str "POST") (str "/proposal/" ++ id ++ str "/confirm") id

theorem proposalIdFromPath_append (hne : id ≠ []) (hslash : CodePoint.ofChar '/' ∉ id) :
    proposalIdFromPath (str "/proposal/" ++ id) = some id := by
  have hprefix : (str "/proposal/").isPrefixOf (str "/proposal/" ++ id) = true :=
    List.isPrefixOf_iff_prefix.mpr (List.prefix_append _ _)
  rw [proposalIdFromPath, if_pos hprefix, List.drop_left]
  exact if_neg (not_or.mpr ⟨hne, hslash⟩)

theorem confirmIdFromPath_append (hne : id ≠ []) (hslash : CodePoint.ofChar '/' ∉ id) :
    confirmIdFromPath (str "/proposal/" ++ id ++ str "/confirm") = some id := by
  have hprefix : (str "/proposal/").isPrefixOf
      (str "/proposal/" ++ id ++ str "/confirm") = true := by
    rw [List.append_assoc]
    exact List.isPrefixOf_iff_prefix.mpr (List.prefix_append _ _)
  have hsuffix : (str "/confirm").isSuffixOf (str "/proposal/" ++ id ++ str "/confirm") = true :=
    List.isSuffixOf_iff_suffix.mpr (List.suffix_append _ _)
  rw [confirmIdFromPath, hprefix, hsuffix, Bool.and_self, if_pos rfl, List.length_append,
    Nat.add_sub_cancel, List.take_left, List.drop_left]
  exact if_neg (not_or.mpr ⟨hne, hslash⟩)

/-- A working execution gets the body. -/
theorem readRequestBody_works :
    (readRequestBody server request).sat workingEnv (fun _ _ => True)
      (fun r τ' s' => s' = s ∧ responses τ' = [] ∧ ∃ body, r = .ok body) [] s := by
  have hreads : (readRequestBody server request).sat workingEnv (fun _ s' => s' = s)
      (fun r τ' s' => s' = s ∧ responses τ' = responses [] ∧
        ∀ e, r = Except.error e → ¬ Answered τ') [] s :=
    sat_of_env (fun _ _ _ _ hw => hw.1) readRequestBody_reads
  have hworking : ∀ e ∈ ([] : List ServerEvent), Working e := fun e he => absurd he List.not_mem_nil
  refine sat_weaken (sat_and hreads (sat_only hworking)) (fun _ _ _ => trivial) fun r τ' s' h => ?_
  obtain ⟨⟨hs, hresponses, hfault⟩, hall⟩ := h
  refine ⟨hs, hresponses, ?_⟩
  rcases r with e | body
  · exact absurd (fun e he => (hall e he).1) (hfault e rfl)
  · exact ⟨body, rfl⟩

/-- What follows the body. -/
theorem afterBody {f : Option Bytes → ServerProc Unit}
    {Q : Except Exc Unit → List ServerEvent → GatewayState → Prop}
    (h : ∀ body τ, responses τ = [] → (f body).sat workingEnv (fun _ _ => True) Q τ s) :
    (readRequestBody server request >>= f).sat workingEnv (fun _ _ => True) Q [] s := by
  rw [sat_bind]
  refine sat_mono readRequestBody_works fun r τ s' hread => ?_
  obtain ⟨rfl, hresponses, body, rfl⟩ := hread
  exact h body τ hresponses

theorem handle_status (hasks : AsksStatus server request id) :
    (handle server request).sat workingEnv (fun _ _ => True)
      (fun r τ' _ => StatusEnd (s.store.kv id) r (responses τ')) [] s := by
  have hpost : ¬ str "GET" = str "POST" := by decide
  rw [handle, hasks.command_eq, if_neg hpost, if_pos rfl]
  refine afterBody fun body τ hresponses => ?_
  rw [hasks.path_eq, hasks.authed_eq, embed_ok_bind, embed_ok_bind,
    proposalIdFromPath_append hasks.id_ne hasks.no_slash]
  exact handleStatus_ends hresponses

/-- The confirm route: a mounted dispatcher is asked, and otherwise the route is not served. -/
theorem handle_confirm (hasks : AsksConfirm server request id)
    {Q : Except Exc Unit → List ServerEvent → GatewayState → Prop}
    (hmounted : ∀ switchMode τ, server.confirm = some switchMode → responses τ = [] →
      (handleConfirm switchMode id).sat workingEnv (fun _ _ => True) Q τ s)
    (hnone : ∀ τ, server.confirm = none → responses τ = [] →
      uniform404.sat workingEnv (fun _ _ => True) Q τ s) :
    (handle server request).sat workingEnv (fun _ _ => True) Q [] s := by
  have hpropose : ¬ str "/proposal/" ++ id ++ str "/confirm" = str "/proposal" := by
    intro heq
    have hlength := congrArg List.length heq
    rw [List.length_append, List.length_append] at hlength
    exact absurd hlength (by change ¬ 10 + id.length + 8 = 9; omega)
  rw [handle, hasks.command_eq, if_pos rfl]
  refine afterBody fun body τ hresponses => ?_
  rw [hasks.path_eq, hasks.authed_eq, embed_ok_bind, embed_ok_bind, if_neg (by decide),
    if_neg hpropose, confirmIdFromPath_append hasks.id_ne hasks.no_slash]
  cases hconfirm : server.confirm with
  | none => exact hnone τ hconfirm hresponses
  | some switchMode => exact hmounted switchMode τ hconfirm hresponses

/-! ### The exact condition -/

/-- The proposal stored under the id. -/
def Stored (s : GatewayState) (id : PyStr) (p : Proposal) : Prop :=
  s.store.kv id = some p.toDict ∧ p.proposalId = id

/-- The id is `idem:` and an idempotency key that has been claimed. -/
def ClaimedKey (s : GatewayState) (id : PyStr) : Prop :=
  ∃ key x, id = ProposalStore.idemIndexKey key ∧ s.store.kv id = some (.index x)

/-- Every execution without a fault returns, and answers the fields of the proposal that is
stored, or else the 404. -/
def AnswersStatus (server : ProposalServer) (request : HttpRequest) (id : PyStr)
    (s : GatewayState) : Prop :=
  ∀ τ r s', Exec serverEnv (handle server request) s τ (.done r) s' → (∀ e ∈ τ, Working e) →
    r = .ok () ∧ (∀ p, Stored s id p → responses τ = [(200, p.auditView)]) ∧
      ((∀ p, ¬ Stored s id p) → responses τ = [notFound])

/-- Every execution without a fault returns, and answers the 404 unless a proposal is stored. -/
def AnswersConfirm (server : ProposalServer) (request : HttpRequest) (id : PyStr)
    (s : GatewayState) : Prop :=
  ∀ τ r s', Exec serverEnv (handle server request) s τ (.done r) s' → (∀ e ∈ τ, Working e) →
    r = .ok () ∧ ((∀ p, ¬ Stored s id p) → responses τ = [notFound])

theorem Stored.unique {p q : Proposal} (h : Stored s id p) (h' : Stored s id q) : p = q := by
  have hrow := Option.some.inj (h.1.symm.trans h'.1)
  have hread := congrArg Proposal.fromDict hrow
  rw [Proposal.fromDict_toDict, Proposal.fromDict_toDict] at hread
  exact Except.ok.inj hread

/-- Nothing, a proposal, or the entry of a claimed key. -/
theorem row_cases (h : ProposalService.RowsOnly s) (id : PyStr) :
    s.store.kv id = none ∨ (∃ p, Stored s id p) ∨ ClaimedKey s id := by
  cases hrow : s.store.kv id with
  | none => exact .inl rfl
  | some v =>
      refine .inr ?_
      cases h id v hrow with
      | record p hp => exact .inl ⟨p, hrow, hp⟩
      | index key x hkey => exact .inr ⟨key, x, hkey, hrow⟩

theorem not_stored_of_none (h : s.store.kv id = none) (p : Proposal) : ¬ Stored s id p := by
  rintro ⟨hrow, -⟩
  rw [h] at hrow
  cases hrow

theorem answersStatus_iff (hrows : ProposalService.RowsOnly s)
    (hasks : AsksStatus server request id) :
    AnswersStatus server request id s ↔ ¬ ClaimedKey s id := by
  constructor
  · rintro h ⟨key, x, -, hx⟩
    obtain ⟨τ, r, s', hexec, hworking⟩ := exists_exec working_answer (handle server request) s
    have hend := (hexec.only hworking).post (handle_status hasks)
    rw [hx, StatusEnd, Option.map_some] at hend
    cases (h τ r s' hexec hworking).1.symm.trans hend.1
  · intro hkey τ r s' hexec hworking
    have hend := (hexec.only hworking).post (handle_status hasks)
    rcases row_cases hrows id with hnone | ⟨p, hp⟩ | hclaimed
    · rw [hnone] at hend
      exact ⟨hend.1, fun p hp => absurd hp (not_stored_of_none hnone p), fun _ => hend.2⟩
    · rw [hp.1, StatusEnd, Option.map_some, Proposal.fromDict_toDict] at hend
      refine ⟨hend.1, fun q hq => ?_, fun h => absurd hp (h p)⟩
      rw [hq.unique hp]
      exact hend.2
    · exact absurd hclaimed hkey

theorem answersConfirm_iff (hrows : ProposalService.RowsOnly s)
    (hasks : AsksConfirm server request id) :
    AnswersConfirm server request id s ↔ server.confirm = none ∨ ¬ ClaimedKey s id := by
  constructor
  · rintro h
    refine or_iff_not_imp_right.mpr fun hclaimed => ?_
    obtain ⟨key, x, -, hx⟩ := not_not.mp hclaimed
    obtain ⟨τ, r, s', hexec, hworking⟩ := exists_exec working_answer (handle server request) s
    have hdecode : ProposalStore.decode id (.ok (s.store.kv id)) =
        .error (.proposalState "malformed proposal record: %s") := by
      rw [hx]
      rfl
    cases hconfirm : server.confirm with
    | none => rfl
    | some switchMode =>
        have hend : r = .error (.proposalState "malformed proposal record: %s") :=
          (hexec.only hworking).post (handle_confirm (s := s)
            (Q := fun r _ _ => r = .error (.proposalState "malformed proposal record: %s")) hasks
            (fun switchMode τ _ hnone => sat_mono (handleConfirm_undecoded switchMode hdecode hnone)
              fun r _ _ h => h.2 _ rfl)
            (fun τ hmounted => by rw [hmounted] at hconfirm; cases hconfirm))
        cases (h τ r s' hexec hworking).1.symm.trans hend
  · intro hcondition τ r s' hexec hworking
    refine (hexec.only hworking).post (handle_confirm (s := s)
      (Q := fun r τ _ => r = .ok () ∧ ((∀ p, ¬ Stored s id p) → responses τ = [notFound])) hasks
      (fun switchMode τ hmounted hresponses => ?_) fun τ _ hresponses => ?_)
    · rcases row_cases hrows id with hnone | ⟨p, hp⟩ | hclaimed
      · have hdecode : ProposalStore.decode id (.ok (s.store.kv id)) =
            .error (.proposalNotFound id) := by
          rw [hnone]
          rfl
        refine sat_weaken (sat_and (handleConfirm_returns switchMode (.inl hnone) hresponses)
          (handleConfirm_undecoded switchMode hdecode hresponses)) (fun _ _ _ => trivial)
          fun r τ' s' hend => ?_
        exact ⟨hend.1, fun _ => hend.2.1 rfl⟩
      · refine sat_mono (handleConfirm_returns switchMode (.inr ⟨p, hp.1⟩) hresponses)
          fun r τ' s' hend => ?_
        exact ⟨hend, fun h => absurd hp (h p)⟩
      · rcases hcondition with hnone | hkey
        · rw [hmounted] at hnone
          cases hnone
        · exact absurd hclaimed hkey
    · refine sat_mono json_answers fun r τ' s' hend => ⟨hend.1, fun _ => ?_⟩
      rw [hend.2.1, hresponses]
      rfl

end

open ProposalService

/-- **Ids and keys.** After any run of calls of `propose`, both routes answer as documented for
exactly the ids that are no entry of a claimed key. An unmounted confirm route is not served. -/
theorem run_answersIds (P : Platform) (cfg : ProposalServiceConfig) (params : Nat → Dict)
    (c : GatewayPool) (server : ProposalServer) (request : HttpRequest) (id : PyStr)
    (hrun : Run gatewayEnv anyStep (proposals P cfg params) c) :
    (AsksStatus server request id →
      (AnswersStatus server request id c.state ↔ ¬ ClaimedKey c.state id)) ∧
    (AsksConfirm server request id →
      (AnswersConfirm server request id c.state ↔
        server.confirm = none ∨ ¬ ClaimedKey c.state id)) :=
  ⟨answersStatus_iff (rowsOnly_of_run hrun), answersConfirm_iff (rowsOnly_of_run hrun)⟩

/-! One proposal under a key, then a request for its id and one for the entry of the key. -/

/-- `propose` has returned. -/
def oneProposal : GatewayPool :=
  scheduled samplePlatform sampleServiceConfig (fun _ => .propose (sampleAction "s"))
    (List.replicate 8 0)

theorem oneProposal_run : Run gatewayEnv anyStep
    (proposals samplePlatform sampleServiceConfig fun _ => sampleAction "s") oneProposal :=
  Config.schedule_anyStep reliableGateway_env _ _

/-- `GET` of an id with the bearer. -/
def getProposal (id : PyStr) : HttpRequest where
  command := str "GET"
  path := str "/proposal/" ++ id
  authorization := some (str "Bearer t")

theorem getProposal_asks (id : PyStr) (hne : id ≠ []) (hslash : CodePoint.ofChar '/' ∉ id) :
    AsksStatus sampleServer (getProposal id) id where
  command_eq := rfl
  path_eq := rfl
  authed_eq := rfl
  id_ne := hne
  no_slash := hslash

theorem run_answersIds_stored :
    (∃ p, Stored oneProposal.state (str "p0") p) ∧
      AnswersStatus sampleServer (getProposal (str "p0")) (str "p0") oneProposal.state := by
  have hfree : ¬ ClaimedKey oneProposal.state (str "p0") := by
    rintro ⟨key, x, hkey, -⟩
    cases hkey
  have hasks := getProposal_asks (str "p0") (by decide) (by decide)
  refine ⟨?_, ((run_answersIds _ _ _ _ sampleServer (getProposal (str "p0")) (str "p0")
    oneProposal_run).1 hasks).mpr hfree⟩
  have hsome : (oneProposal.state.store.kv (str "p0")).isSome = true := by decide +kernel
  rcases row_cases (rowsOnly_of_run oneProposal_run) (str "p0") with hnone | hstored | hclaimed
  · rw [hnone] at hsome
    cases hsome
  · exact hstored
  · exact absurd hclaimed hfree

/-- The entry of the key is one of the rows. -/
theorem oneProposal_claimed : ClaimedKey oneProposal.state (str "idem:k") := by
  have hindex : oneProposal.state.store.kv (str "idem:k") = some (.index (str "p0")) := by
    decide +kernel
  exact ⟨str "k", str "p0", by decide, hindex⟩

/-- Asked for `idem:k`, the handler raises. -/
theorem handle_raises_claimedKey :
    ¬ ∀ (P : Platform) (cfg : ProposalServiceConfig) (params : Nat → Dict) (c : GatewayPool)
      (server : ProposalServer) (request : HttpRequest) (id : PyStr),
      Run gatewayEnv anyStep (proposals P cfg params) c → AsksStatus server request id →
        AnswersStatus server request id c.state := by
  intro hclaim
  have hasks := getProposal_asks (str "idem:k") (by decide) (by decide)
  exact (answersStatus_iff (rowsOnly_of_run oneProposal_run) hasks).mp
    (hclaim _ _ _ _ sampleServer (getProposal (str "idem:k")) (str "idem:k") oneProposal_run hasks)
    oneProposal_claimed

end ProposalServer

end GmailGateway
