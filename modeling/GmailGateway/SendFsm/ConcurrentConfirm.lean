import GmailGateway.SendFsm.Fsm
import GmailGateway.Effect.Pool

/-!
# GmailGateway.SendFsm.ConcurrentConfirm

**Concurrent `confirm_and_dispatch` calls.** Server threads and a separate `send`
process run `ConfirmDispatcher.confirm_and_dispatch` over the same stores; their
backend operations interleave arbitrarily, and any of them may fail.

`SendFSM.confirm` tests the status in one backend read and writes `CONFIRMED` in a
later one. Two callers that both read `PENDING` before either has written both go
on, so the interleaving can send twice. What the code does guarantee is what is
left when that overlap does not happen (`NoConfirmOverlap`): one caller at most
gets past the test and on to its write, every write and every send of the proposal
is its own, and it sends once.

The proof has two halves. `CallProtocol` is what one call does under any answers;
`OneOwner` is what the pool then keeps.
-/

namespace GmailGateway

open Effect Proc Python

namespace ConcurrentConfirm

/-! ### What a call has done so far -/

/-- The statuses a call has written, in order. -/
def writesOf (τ : List StoreEvent) : List ProposalStatus :=
  τ.filterMap fun
    | ⟨.put _ v, .ok _⟩ => (Proposal.fromDict v).toOption.map (·.status)
    | _ => none

/-- The proposals a call has invoked the sender for. -/
def sendsOf (τ : List StoreEvent) : List PyStr :=
  τ.filterMap fun
    | ⟨.send proposalId, _⟩ => some proposalId
    | _ => none

/-- The call got past the test of `confirm`: after its clock reading `now` it read a
record that was pending and not expired. -/
def Passed (proposalId : PyStr) (τ : List StoreEvent) : Prop :=
  ∃ τ₁ r now p, τ₁ ++ [⟨.get proposalId, r⟩] <+: τ ∧ ⟨.now, .ok now⟩ ∈ τ₁ ∧
    ProposalStore.decode proposalId r = .ok p ∧ p.status = .pending ∧
    0 ≤ now ∧ now < p.expiresAt

/-- An answer without a fault: only the sender raises in the ordinary course. -/
def NoFault (e : StoreEvent) : Prop :=
  (∃ proposalId, e.op = .send proposalId) ∨ ∃ a, e.ans = .ok a

/-- No backend operation of the call has failed. -/
def Clean (τ : List StoreEvent) : Prop := ∀ e ∈ τ, NoFault e

/-- Between the test and the write of `confirm`. -/
def InConfirmWindow (proposalId : PyStr) (τ : List StoreEvent) : Prop :=
  Passed proposalId τ ∧ Clean τ ∧ writesOf τ = []

/-- An operation of a call for `proposalId`: it reads, writes and sends that
proposal only. -/
def Targets (proposalId : PyStr) : StoreOp → Prop
  | .get key => key = proposalId
  | .put key v => key = proposalId ∧ ∃ p : Proposal, v = p.toDict
  | .send key => key = proposalId
  | .claim _ _ | .delete _ => False
  | .append _ | .now => True

@[simp] theorem writesOf_append (τ τ' : List StoreEvent) :
    writesOf (τ ++ τ') = writesOf τ ++ writesOf τ' := List.filterMap_append

@[simp] theorem sendsOf_append (τ τ' : List StoreEvent) :
    sendsOf (τ ++ τ') = sendsOf τ ++ sendsOf τ' := List.filterMap_append

theorem not_passed_nil (proposalId : PyStr) : ¬ Passed proposalId [] := by
  intro h
  obtain ⟨τ₁, r, now, p, hpre, -⟩ := h
  have := hpre.length_le
  simp at this

theorem Passed.mono {proposalId : PyStr} {τ τ' : List StoreEvent} (h : Passed proposalId τ)
    (hτ : τ <+: τ') : Passed proposalId τ' := by
  obtain ⟨τ₁, r, now, p, hpre, h⟩ := h
  exact ⟨τ₁, r, now, p, hpre.trans hτ, h⟩

/-- Only a read gets a call past the test, and only one that finds it pending. -/
theorem Passed.of_concat {proposalId : PyStr} {τ : List StoreEvent} {e : StoreEvent}
    (h : Passed proposalId (τ ++ [e])) : Passed proposalId τ ∨
      ∃ r p, e = ⟨.get proposalId, r⟩ ∧ ProposalStore.decode proposalId r = .ok p ∧
        p.status = .pending := by
  obtain ⟨τ₁, r, now, p, hpre, hnow, hr, hp, hlive⟩ := h
  rcases List.prefix_concat_iff.mp hpre with heq | hpre
  · right
    obtain ⟨-, he⟩ := List.append_inj' heq rfl
    exact ⟨r, p, (List.singleton_inj.mp he).symm, hr, hp⟩
  · exact .inl ⟨τ₁, r, now, p, hpre, hnow, hr, hp, hlive⟩

theorem Clean.concat {τ : List StoreEvent} (h : Clean τ) (e : StoreEvent) (he : NoFault e) :
    Clean (τ ++ [e]) := by
  intro e' he'
  rcases List.mem_append.mp he' with he' | he'
  · exact h e' he'
  · rwa [List.mem_singleton.mp he']

theorem Clean.of_concat {τ : List StoreEvent} {e : StoreEvent} (h : Clean (τ ++ [e])) :
    Clean τ := fun e' he' => h e' (List.mem_append_left _ he')

/-! ### The protocol of one call -/

/-- A call for `proposalId` after `τ`: it has written the statuses `ws` and sent `n`
times, it writes nothing before it got past the test, and a fault is its last event. -/
structure CallAt (proposalId : PyStr) (ws : List ProposalStatus) (n : Nat)
    (τ : List StoreEvent) : Prop where
  targets : ∀ e ∈ τ, Targets proposalId e.op
  writes : writesOf τ = ws
  sends : sendsOf τ = List.replicate n proposalId
  gated : ws ≠ [] → Passed proposalId τ
  clean : Clean τ.dropLast

/-- The statuses a call may have written with the number of its sends: nothing;
`CONFIRMED`; or, after its send, `CONFIRMED` and one terminal status. -/
inductive Phase : List ProposalStatus → Nat → Prop
  | unconfirmed : Phase [] 0
  | confirmed {n} : n ≤ 1 → Phase [.confirmed] n
  | settled {x : ProposalStatus} : x.terminal = true → Phase [.confirmed, x] 1

/-- What one call may have done at any point. -/
def CallProtocol (proposalId : PyStr) (τ : List StoreEvent) : Prop :=
  ∃ ws n, CallAt proposalId ws n τ ∧ Phase ws n

section Steps
variable {proposalId : PyStr} {ws : List ProposalStatus} {n : Nat} {τ : List StoreEvent}

theorem CallAt.start : CallAt proposalId [] 0 [] where
  targets _ he := absurd he List.not_mem_nil
  writes := rfl
  sends := rfl
  gated h := absurd rfl h
  clean _ he := absurd he List.not_mem_nil

theorem CallAt.targets_concat (h : CallAt proposalId ws n τ) {e : StoreEvent}
    (he : Targets proposalId e.op) : ∀ e' ∈ τ ++ [e], Targets proposalId e'.op := by
  intro e' he'
  rcases List.mem_append.mp he' with he' | he'
  · exact h.targets e' he'
  · rwa [List.mem_singleton.mp he']

/-- A read, a clock reading, a ledger append, or a write that failed. -/
theorem CallAt.quiet (h : CallAt proposalId ws n τ) (hc : Clean τ) (e : StoreEvent)
    (he : Targets proposalId e.op) (hw : writesOf [e] = []) (hs : sendsOf [e] = []) :
    CallAt proposalId ws n (τ ++ [e]) where
  targets := h.targets_concat he
  writes := by rw [writesOf_append, hw, h.writes, List.append_nil]
  sends := by rw [sendsOf_append, hs, h.sends, List.append_nil]
  gated hg := (h.gated hg).mono (List.prefix_append _ _)
  clean := by rwa [List.dropLast_concat]

theorem CallAt.put (h : CallAt proposalId ws n τ) (hc : Clean τ) (hp : Passed proposalId τ)
    (p : Proposal) (u : Unit) :
    CallAt proposalId (ws ++ [p.status]) n (τ ++ [⟨.put proposalId p.toDict, .ok u⟩]) where
  targets := h.targets_concat ⟨rfl, p, rfl⟩
  writes := by
    rw [writesOf_append, h.writes]
    simp [writesOf, Except.toOption]
  sends := by
    rw [sendsOf_append, h.sends]
    exact List.append_nil _
  gated _ := hp.mono (List.prefix_append _ _)
  clean := by rwa [List.dropLast_concat]

theorem CallAt.send (h : CallAt proposalId ws n τ) (hc : Clean τ) (r : Except Exc SendResult) :
    CallAt proposalId ws (n + 1) (τ ++ [⟨.send proposalId, r⟩]) where
  targets := h.targets_concat rfl
  writes := by
    rw [writesOf_append, h.writes]
    exact List.append_nil _
  sends := by
    rw [sendsOf_append, h.sends, List.replicate_succ']
    rfl
  gated hg := (h.gated hg).mono (List.prefix_append _ _)
  clean := by rwa [List.dropLast_concat]

end Steps

/-- A thread of the pool sees any answers. -/
abbrev anyStoreAnswer : Env StoreSig Exc Unit := anyAnswer fun _ _ => True

/-- Settling is one status write and one ledger row; the status is terminal. -/
theorem setStatus_record_protocol {proposalId : PyStr} {τ : List StoreEvent}
    {x : ProposalStatus} (hx : x.terminal = true) (event : AuditEvent)
    (h : CallAt proposalId [.confirmed] 1 τ) (hc : Clean τ) :
    (do let _ ← ProposalStore.setStatus proposalId x
        AuditLedger.record event
        pure x : Proc StoreSig Exc ProposalStatus).sat anyStoreAnswer
      (fun τ _ => CallProtocol proposalId τ) (fun _ _ _ => True) τ () := by
  simp only [sat_bind, ProposalStore.sat_setStatus]
  intro r _ _
  have hread := h.quiet hc ⟨.get proposalId, r⟩ rfl rfl rfl
  refine ⟨⟨_, _, hread, .confirmed le_rfl⟩, ?_⟩
  rcases r with e | raw
  · trivial
  replace hc := hc.concat ⟨.get proposalId, .ok raw⟩ (.inr ⟨raw, rfl⟩)
  cases ProposalStore.decode proposalId (.ok raw) with
  | error e => trivial
  | ok p =>
      intro r' _ _
      cases r' with
      | error e =>
          have hput := hread.quiet hc ⟨.put proposalId (p.withStatus x).toDict, .error e⟩
            ⟨rfl, _, rfl⟩ rfl rfl
          exact ⟨⟨_, _, hput, .confirmed le_rfl⟩, trivial⟩
      | ok u =>
          have hput := hread.put hc (hread.gated (by simp)) (p.withStatus x) u
          replace hc := hc.concat ⟨.put proposalId (p.withStatus x).toDict, .ok u⟩
            (.inr ⟨u, rfl⟩)
          refine ⟨⟨_, _, hput, .settled hx⟩, ?_⟩
          simp only [Except.map, andThen_ok, sat_bind, AuditLedger.sat_record]
          refine ⟨fun _ => trivial, fun _ r'' _ _ => ?_⟩
          have hrow := hput.quiet hc ⟨.append event, r''⟩ trivial rfl rfl
          refine ⟨⟨_, _, hrow, .settled hx⟩, ?_⟩
          cases r'' <;> trivial

theorem settle_protocol {proposalId : PyStr} {now : Int} {τ : List StoreEvent}
    (h : CallAt proposalId [.confirmed] 1 τ) (hc : Clean τ) (result : Except Exc SendResult) :
    (SendFsm.settle proposalId now result).sat anyStoreAnswer
      (fun τ _ => CallProtocol proposalId τ) (fun _ _ _ => True) τ () := by
  rcases result with e | ⟨kind, m, t, c, hosts⟩
  · exact setStatus_record_protocol rfl _ h hc
  · cases kind <;> exact setStatus_record_protocol rfl _ h hc

/-- Dispatching sends at most once, after the row that announces it, and then settles. -/
theorem dispatch_protocol {proposalId : PyStr} {now : Int} {τ : List StoreEvent}
    (h : CallAt proposalId [.confirmed] 0 τ) (hc : Clean τ) :
    (SendFsm.dispatch proposalId now).sat anyStoreAnswer
      (fun τ _ => CallProtocol proposalId τ) (fun _ _ _ => True) τ () := by
  simp only [SendFsm.dispatch, sat_bind, ProposalStore.sat_get]
  intro r _ _
  have hread := h.quiet hc ⟨.get proposalId, r⟩ rfl rfl rfl
  refine ⟨⟨_, _, hread, .confirmed (Nat.zero_le _)⟩, ?_⟩
  rcases r with e | raw
  · trivial
  replace hc := hc.concat ⟨.get proposalId, .ok raw⟩ (.inr ⟨raw, rfl⟩)
  cases ProposalStore.decode proposalId (.ok raw) with
  | error e => trivial
  | ok p =>
      simp only [andThen_ok, andThen_error, sat_bind, sat_raiseIf, AuditLedger.sat_record,
        implies_true, true_and]
      intro _ _ _ _ r' _ _
      have hrow := hread.quiet hc
        ⟨.append
          { eventType := .sendAttempted, at_ := now, proposalId := proposalId,
            payloadDigest := some p.payloadDigest }, r'⟩ trivial rfl rfl
      refine ⟨⟨_, _, hrow, .confirmed (Nat.zero_le _)⟩, ?_⟩
      cases r' with
      | error e => trivial
      | ok u =>
          simp only [andThen_ok, sat_bind, sat_attempt, perform, sat_op, sat_embed]
          intro r'' _ _
          have hsend := hrow.send (hc.concat _ (.inr ⟨u, rfl⟩)) r''
          exact ⟨⟨_, _, hsend, .confirmed le_rfl⟩,
            settle_protocol hsend ((hc.concat _ (.inr ⟨u, rfl⟩)).concat _
              (.inl ⟨proposalId, rfl⟩)) r''⟩

/-- **The protocol of a call**, whatever the other callers do. -/
theorem confirmAndDispatch_protocol (mode : SwitchMode) (proposalId : PyStr) :
    (ConfirmDispatcher.confirmAndDispatch mode proposalId).sat anyStoreAnswer
      (fun τ _ => CallProtocol proposalId τ) (fun _ _ _ => True) [] () := by
  simp only [ConfirmDispatcher.confirmAndDispatch, sat_bind, perform, sat_op, sat_embed]
  intro r _ _
  have hc : Clean [] := fun e he => absurd he List.not_mem_nil
  have hstart : CallAt proposalId [] 0 [] := .start
  have hnow := hstart.quiet hc ⟨.now, r⟩ trivial rfl rfl
  refine ⟨⟨_, _, hnow, .unconfirmed⟩, ?_⟩
  rcases r with e | now
  · trivial
  replace hc := hc.concat ⟨.now, .ok now⟩ (.inr ⟨now, rfl⟩)
  simp only [andThen_ok, sat_bind, SendFsm.confirm, ProposalStore.sat_getLive]
  intro r _ _
  have hread := hnow.quiet hc ⟨.get proposalId, r⟩ rfl rfl rfl
  refine ⟨⟨_, _, hread, .unconfirmed⟩, ?_⟩
  cases hr : ProposalStore.decode proposalId r with
  | error e => trivial
  | ok p =>
      have hok : ∃ raw, r = .ok raw := by
        cases r with
        | error e => cases hr
        | ok raw => exact ⟨raw, rfl⟩
      replace hc := hc.concat ⟨.get proposalId, r⟩ (.inr hok)
      simp only [andThen_ok, andThen_error, sat_bind, sat_raiseIf,
        ProposalStore.sat_setStatus, implies_true, true_and]
      intro hnow₀ hlive hpending _ _ r' _ _
      have hp : Passed proposalId ([] ++ [⟨.now, .ok now⟩] ++ [⟨.get proposalId, r⟩]) := by
        rw [not_not] at hpending
        refine ⟨_, r, now, p, List.prefix_rfl, by simp, hr, hpending, hnow₀, ?_⟩
        simpa [hpending, ProposalStatus.terminal] using hlive
      have hread' := hread.quiet hc ⟨.get proposalId, r'⟩ rfl rfl rfl
      refine ⟨⟨_, _, hread', .unconfirmed⟩, ?_⟩
      rcases r' with e | raw
      · trivial
      replace hp := hp.mono (List.prefix_append _ [⟨.get proposalId, .ok raw⟩])
      replace hc := hc.concat ⟨.get proposalId, .ok raw⟩ (.inr ⟨raw, rfl⟩)
      cases ProposalStore.decode proposalId (.ok raw) with
      | error e => trivial
      | ok p' =>
          intro r'' _ _
          cases r'' with
          | error e =>
              have hput := hread'.quiet hc
                ⟨.put proposalId (p'.withStatus .confirmed).toDict, .error e⟩ ⟨rfl, _, rfl⟩ rfl rfl
              exact ⟨⟨_, _, hput, .unconfirmed⟩, trivial⟩
          | ok u =>
              have hput := hread'.put hc hp (p'.withStatus .confirmed) u
              replace hc := hc.concat
                ⟨.put proposalId (p'.withStatus .confirmed).toDict, .ok u⟩ (.inr ⟨u, rfl⟩)
              refine ⟨⟨_, _, hput, .confirmed (Nat.zero_le _)⟩, ?_⟩
              simp only [Except.map, andThen_ok, AuditLedger.sat_record]
              refine ⟨fun _ => trivial, fun _ r₃ _ _ => ?_⟩
              have hrow := hput.quiet hc
                ⟨.append
                  { eventType := .proposalConfirmed, at_ := now, proposalId := proposalId,
                    payloadDigest := some p.payloadDigest,
                    outcome := some (str Actor.human.value) }, r₃⟩ trivial rfl rfl
              refine ⟨⟨_, _, hrow, .confirmed (Nat.zero_le _)⟩, ?_⟩
              cases r₃ with
              | error e => trivial
              | ok u =>
                  simp only [andThen_ok, sat_bind]
                  refine sat_mono (dispatch_protocol hrow (hc.concat _ (.inr ⟨u, rfl⟩))) ?_
                  intro r _ _ _
                  cases r <;> trivial

/-! ### The pool -/

/-- A configuration of the callers. -/
abbrev Pool := Config StoreSig Exc String StoreState

/-- Thread `t` confirms and dispatches the proposal `(calls t).2`. -/
def callers (calls : Nat → SwitchMode × PyStr) : Nat → Proc StoreSig Exc String :=
  fun t => ConfirmDispatcher.confirmAndDispatch (calls t).1 (calls t).2

/-- **The condition.** No call gets past the test of `confirm` while another call is
between its own test and its write. -/
def NoConfirmOverlap (proposalId : PyStr) (c : Pool) (t : Nat) (e : StoreEvent) : Prop :=
  InConfirmWindow proposalId (eventsOf t c.history ++ [e]) →
    ∀ u, u ≠ t → ¬ InConfirmWindow proposalId (eventsOf u c.history)

/-- The call got past the test and has not failed before its first write. -/
def Owns (proposalId : PyStr) (τ : List StoreEvent) : Prop :=
  Passed proposalId τ ∧ (Clean τ ∨ writesOf τ ≠ [])

/-- **The invariant of the pool.** At most one call owns the proposal; its writes are
the status and its sends are the sends. While nobody does, nothing has changed. -/
structure OneOwner (proposalId : PyStr) (s₀ : StoreState) (c : Pool) : Prop where
  unique : ∀ t u, Owns proposalId (eventsOf t c.history) →
    Owns proposalId (eventsOf u c.history) → t = u
  unowned : (∀ t, ¬ Owns proposalId (eventsOf t c.history)) →
    c.state.kv proposalId = s₀.kv proposalId ∧
      c.state.sends.count proposalId = s₀.sends.count proposalId
  owned : ∀ t, Owns proposalId (eventsOf t c.history) →
    (writesOf (eventsOf t c.history) = [] → c.state.kv proposalId = s₀.kv proposalId) ∧
    c.state.status? proposalId = (.pending :: writesOf (eventsOf t c.history)).getLast? ∧
    c.state.sends.count proposalId =
      s₀.sends.count proposalId + (sendsOf (eventsOf t c.history)).length

/-- Every call of the pool follows the protocol for its proposal. -/
def Protocols (calls : Nat → SwitchMode × PyStr) (c : Pool) : Prop :=
  ∀ t, CallProtocol (calls t).2 (eventsOf t c.history)

theorem protocols_of_run {C : Pool → Nat → StoreEvent → Prop}
    {calls : Nat → SwitchMode × PyStr} {s₀ : StoreState} {c : Pool}
    (h : Run faultyStores C (.start s₀ (callers calls)) c) : Protocols calls c := fun t =>
  (h.localEvents (A := fun _ _ => True) (J := fun t τ => CallProtocol (calls t).2 τ)
    (Q := fun _ _ _ => True) (fun _ _ _ _ _ => trivial) (fun _ => ⟨_, _, .start, .unconfirmed⟩)
    rfl (fun t => confirmAndDispatch_protocol (calls t).1 (calls t).2) t).1

theorem Phase.sends_eq_zero {n : Nat} (h : Phase [] n) : n = 0 := by
  cases h; rfl

theorem Phase.writes_ne_nil {ws : List ProposalStatus} {n : Nat} (h : Phase ws (n + 1)) :
    ws ≠ [] := by
  cases h <;> simp

/-- Once a call has written, the status is not pending. -/
theorem Phase.getLast_ne_pending {ws : List ProposalStatus} {n : Nat} (h : Phase ws n)
    (hws : ws ≠ []) : (ProposalStatus.pending :: ws).getLast? ≠ some .pending := by
  cases h with
  | unconfirmed => exact absurd rfl hws
  | confirmed => simp
  | @settled x hx =>
      rw [List.getLast?_cons_cons, List.getLast?_cons_cons]
      rintro ⟨⟩
      cases hx

/-- A call only touches its own proposal. -/
theorem CallAt.passed_target {proposalId key : PyStr} {ws : List ProposalStatus} {n : Nat}
    {τ : List StoreEvent} (h : CallAt proposalId ws n τ) (hp : Passed key τ) :
    key = proposalId := by
  obtain ⟨τ₁, r, -, -, hpre, -⟩ := hp
  exact h.targets ⟨.get key, r⟩ (hpre.subset (by simp))

section PoolStep
variable {proposalId : PyStr} {s₀ : StoreState} {c c' : Pool} {u : Nat} {e : StoreEvent}

/-- The step of a call that neither owned the proposal nor owns it now, and left its
record and its sends alone. -/
theorem OneOwner.frame (h : OneOwner proposalId s₀ c)
    (hhist : c'.history = c.history ++ [(u, e)])
    (hkv : c'.state.kv proposalId = c.state.kv proposalId)
    (hcount : c'.state.sends.count proposalId = c.state.sends.count proposalId)
    (hold : ¬ Owns proposalId (eventsOf u c.history))
    (hnew : ¬ Owns proposalId (eventsOf u c.history ++ [e])) : OneOwner proposalId s₀ c' := by
  have howns : ∀ t, Owns proposalId (eventsOf t c'.history) →
      Owns proposalId (eventsOf t c.history) ∧ eventsOf t c'.history = eventsOf t c.history := by
    intro t ht
    rw [hhist] at ht ⊢
    by_cases htu : t = u
    · subst htu
      rw [eventsOf_append_self] at ht
      exact absurd ht hnew
    · rw [eventsOf_append_of_ne htu] at ht ⊢
      exact ⟨ht, rfl⟩
  have hback : ∀ t, Owns proposalId (eventsOf t c.history) →
      Owns proposalId (eventsOf t c'.history) := by
    intro t ht
    have htu : t ≠ u := fun htu => hold (htu ▸ ht)
    rwa [hhist, eventsOf_append_of_ne htu]
  refine ⟨fun t v ht hv => h.unique t v (howns t ht).1 (howns v hv).1, fun hno => ?_,
    fun t ht => ?_⟩
  · rw [hkv, hcount]
    exact h.unowned fun t ht => hno t (hback t ht)
  · obtain ⟨ht, heq⟩ := howns t ht
    rw [heq, hcount, StoreState.status?_congr hkv, hkv]
    exact h.owned t ht

/-- The step after which call `u` owns the proposal: nobody else did. -/
theorem OneOwner.owner (hhist : c'.history = c.history ++ [(u, e)])
    (hothers : ∀ t, Owns proposalId (eventsOf t c.history) → t = u)
    (hnew : Owns proposalId (eventsOf u c.history ++ [e]))
    (hkv : writesOf (eventsOf u c.history ++ [e]) = [] →
      c'.state.kv proposalId = s₀.kv proposalId)
    (hstatus : c'.state.status? proposalId =
      (.pending :: writesOf (eventsOf u c.history ++ [e])).getLast?)
    (hcount : c'.state.sends.count proposalId =
      s₀.sends.count proposalId + (sendsOf (eventsOf u c.history ++ [e])).length) :
    OneOwner proposalId s₀ c' := by
  have huniq : ∀ t, Owns proposalId (eventsOf t c'.history) → t = u := by
    intro t ht
    by_contra htu
    rw [hhist, eventsOf_append_of_ne htu] at ht
    exact htu (hothers t ht)
  have hself : eventsOf u c'.history = eventsOf u c.history ++ [e] := by
    rw [hhist, eventsOf_append_self]
  refine ⟨fun t v ht hv => (huniq t ht).trans (huniq v hv).symm, fun hno => ?_, fun t ht => ?_⟩
  · exact absurd (hself ▸ hnew) (hno u)
  · obtain rfl := huniq t ht
    rw [hself]
    exact ⟨hkv, hstatus, hcount⟩

/-- The step after which nobody owns the proposal: its owner failed before its first
write. -/
theorem OneOwner.abandon (h : OneOwner proposalId s₀ c)
    (hhist : c'.history = c.history ++ [(u, e)])
    (hkv : c'.state.kv proposalId = c.state.kv proposalId)
    (hcount : c'.state.sends.count proposalId = c.state.sends.count proposalId)
    (hold : Owns proposalId (eventsOf u c.history))
    (hw : writesOf (eventsOf u c.history) = []) (hs : sendsOf (eventsOf u c.history) = [])
    (hnew : ¬ Owns proposalId (eventsOf u c.history ++ [e])) : OneOwner proposalId s₀ c' := by
  have hno : ∀ t, ¬ Owns proposalId (eventsOf t c'.history) := by
    intro t ht
    rw [hhist] at ht
    by_cases htu : t = u
    · subst htu
      rw [eventsOf_append_self] at ht
      exact hnew ht
    · rw [eventsOf_append_of_ne htu] at ht
      exact htu (h.unique t u ht hold)
  obtain ⟨hkv₀, -, hcount₀⟩ := h.owned u hold
  refine ⟨fun t _ ht _ => absurd ht (hno t), fun _ => ⟨hkv.trans (hkv₀ hw), ?_⟩,
    fun t ht => absurd ht (hno t)⟩
  rw [hcount, hcount₀, hs]
  rfl

/-- What the stores and the events show of one operation: a step that is no completed
write and no send leaves the records and the sends alone. -/
theorem faultyStores_quiet {s s' : StoreState} {e : StoreEvent}
    (h : faultyStores s e.op e.ans s') (ht : Targets proposalId e.op)
    (hw : writesOf [e] = []) (hs : sendsOf [e] = []) : s'.kv = s.kv ∧ s'.sends = s.sends := by
  obtain ⟨o, r⟩ := e
  cases o with
  | claim | delete => exact ht.elim
  | send key => cases hs
  | put key v =>
      obtain ⟨-, p, rfl⟩ := ht
      cases r with
      | ok a => simp [writesOf, Except.toOption] at hw
      | error x => rw [h.2]; exact ⟨rfl, rfl⟩
  | get key =>
      cases r with
      | ok a => rw [h.2]; exact ⟨rfl, rfl⟩
      | error x => rw [h.2]; exact ⟨rfl, rfl⟩
  | append row =>
      cases r with
      | ok a => rw [show s' = _ from h]; exact ⟨rfl, rfl⟩
      | error x => rw [h.2]; exact ⟨rfl, rfl⟩
  | now =>
      cases r with
      | ok a => rw [show s' = s from h]; exact ⟨rfl, rfl⟩
      | error x => rw [h.2]; exact ⟨rfl, rfl⟩

/-- A read that decodes shows the stored status. -/
theorem status?_of_read {s s' : StoreState} {r : Except Exc (Option KvValue)} {p : Proposal}
    (h : faultyStores s (.get proposalId) r s')
    (hr : ProposalStore.decode proposalId r = .ok p) : s.status? proposalId = some p.status := by
  rcases r with x | _ | raw
  · cases hr
  · cases hr
  · obtain ⟨hraw, -⟩ := h
    simp only [ProposalStore.decode] at hr
    simp [StoreState.status?, StoreState.proposal?, ← hraw, hr, Except.toOption]

/-- A call that owns the proposal before a step and has written owns it afterwards. -/
theorem Owns.concat {τ : List StoreEvent} (h : Owns proposalId τ)
    (hw : writesOf (τ ++ [e]) ≠ []) : Owns proposalId (τ ++ [e]) :=
  ⟨h.1.mono (List.prefix_append _ _), .inr hw⟩

/-- A call that is not failing yet and got past the test owns the proposal. -/
theorem Owns.of_passed {τ : List StoreEvent} (hc : Clean τ) (hp : Passed proposalId τ) :
    Owns proposalId τ := ⟨hp, .inl hc⟩

/-- A quiet step of a call for the proposal keeps the invariant: the call owned the
proposal already, or its read just got it past the test while nobody else owns it. -/
theorem OneOwner.step_quiet {calls : Nat → SwitchMode × PyStr} {ws : List ProposalStatus}
    {n : Nat} (h : OneOwner proposalId s₀ c) (hcalls : Protocols calls c)
    (hstep : Step faultyStores c u e c') (hC : NoConfirmOverlap proposalId c u e)
    (hcall : CallAt proposalId ws n (eventsOf u c.history)) (hphase : Phase ws n)
    (hclean : Clean (eventsOf u c.history)) (ht : Targets proposalId e.op)
    (hw : writesOf [e] = []) (hs : sendsOf [e] = []) : OneOwner proposalId s₀ c' := by
  have hhist := hstep.history_eq
  have hquiet := faultyStores_quiet hstep.answer ht hw hs
  have hkv : c'.state.kv proposalId = c.state.kv proposalId := by rw [hquiet.1]
  have hcount : c'.state.sends.count proposalId = c.state.sends.count proposalId := by
    rw [hquiet.2]
  have hw' : writesOf (eventsOf u c.history ++ [e]) = ws := by
    rw [writesOf_append, hw, hcall.writes, List.append_nil]
  have hs' : sendsOf (eventsOf u c.history ++ [e]) = List.replicate n proposalId := by
    rw [sendsOf_append, hs, hcall.sends, List.append_nil]
  by_cases hold : Owns proposalId (eventsOf u c.history)
  · obtain ⟨hkv₀, hstatus₀, hcount₀⟩ := h.owned u hold
    by_cases hnew : Owns proposalId (eventsOf u c.history ++ [e])
    · -- the owner goes on
      refine .owner hhist (fun t ht => h.unique t u ht hold) hnew (fun hnil => ?_) ?_ ?_
      · rw [hkv]
        exact hkv₀ (hcall.writes.trans (hw'.symm.trans hnil))
      · rw [StoreState.status?_congr hkv, hstatus₀, hw', hcall.writes]
      · rw [hcount, hcount₀, hs', hcall.sends]
    · -- the owner failed before its first write
      have hws : ws = [] := by
        by_contra hne
        exact hnew (hold.concat (hw'.symm ▸ hne))
      subst hws
      obtain rfl := hphase.sends_eq_zero
      exact h.abandon hhist hkv hcount hold hcall.writes hcall.sends hnew
  · by_cases hnew : Owns proposalId (eventsOf u c.history ++ [e])
    · -- the read that got the call past the test
      have hnot : ¬ Passed proposalId (eventsOf u c.history) :=
        fun hp => hold (.of_passed hclean hp)
      have hws : ws = [] := by
        by_contra hne
        exact hnot (hcall.gated hne)
      subst hws
      obtain rfl := hphase.sends_eq_zero
      have hpending : c.state.status? proposalId = some .pending := by
        rcases hnew.1.of_concat with hp | ⟨r, p, rfl, hr, hp⟩
        · exact absurd hp hnot
        · rw [← hp]
          exact status?_of_read hstep.answer hr
      have hwindow : InConfirmWindow proposalId (eventsOf u c.history ++ [e]) :=
        ⟨hnew.1, hnew.2.resolve_right (fun hne => hne hw'), hw'⟩
      have hothers : ∀ t, ¬ Owns proposalId (eventsOf t c.history) := by
        intro t ht
        have htu : t ≠ u := fun htu => hold (htu ▸ ht)
        have hwt : writesOf (eventsOf t c.history) ≠ [] := by
          intro hnil
          exact hC hwindow t htu ⟨ht.1, ht.2.resolve_right (fun hne => hne hnil), hnil⟩
        obtain ⟨wt, m, hct, hpt⟩ := hcalls t
        have hlast := (h.owned t ht).2.1
        rw [hpending, hct.writes] at hlast
        exact hpt.getLast_ne_pending (hct.writes ▸ hwt) hlast.symm
      obtain ⟨hkv₀, hcount₀⟩ := h.unowned hothers
      refine .owner hhist (fun t ht => absurd ht (hothers t)) hnew (fun _ => hkv.trans hkv₀) ?_ ?_
      · rw [StoreState.status?_congr hkv, hpending, hw']
        rfl
      · rw [hcount, hcount₀, hs']
        rfl
    · exact h.frame hhist hkv hcount hold hnew

/-- A completed write: only the owner performs it, and it writes the status. -/
theorem OneOwner.step_put {p : Proposal} {a : Unit} (h : OneOwner proposalId s₀ c)
    (hstep : Step faultyStores c u ⟨.put proposalId p.toDict, .ok a⟩ c')
    (hold : Owns proposalId (eventsOf u c.history)) : OneOwner proposalId s₀ c' := by
  have hw : writesOf [⟨.put proposalId p.toDict, .ok a⟩] = [p.status] := by
    simp [writesOf, Except.toOption]
  have hne : writesOf (eventsOf u c.history ++ [⟨.put proposalId p.toDict, .ok a⟩]) ≠ [] := by
    simp [hw]
  have hstate : c'.state =
      { c.state with kv := Function.update c.state.kv proposalId (some p.toDict) } := hstep.answer
  refine .owner hstep.history_eq (fun t ht => h.unique t u ht hold) (hold.concat hne)
    (fun hnil => absurd hnil hne) ?_ ?_
  · rw [hstate, StoreState.status?_put, writesOf_append, hw, ← List.cons_append,
      List.getLast?_concat]
  · rw [hstate, (h.owned u hold).2.2, sendsOf_append, List.length_append]
    rfl

/-- A send, by the owner after its first write. -/
theorem OneOwner.step_send {r : Except Exc SendResult} (h : OneOwner proposalId s₀ c)
    (hstep : Step faultyStores c u ⟨.send proposalId, r⟩ c')
    (hold : Owns proposalId (eventsOf u c.history)) (hne : writesOf (eventsOf u c.history) ≠ []) :
    OneOwner proposalId s₀ c' := by
  have hw : writesOf (eventsOf u c.history ++ [⟨.send proposalId, r⟩]) =
      writesOf (eventsOf u c.history) := by
    rw [writesOf_append]
    exact List.append_nil _
  have hstate : c'.state = { c.state with sends := c.state.sends ++ [proposalId] } := by
    have := hstep.answer
    cases r <;> exact this
  obtain ⟨-, hstatus₀, hcount₀⟩ := h.owned u hold
  refine .owner hstep.history_eq (fun t ht => h.unique t u ht hold) (hold.concat (hw ▸ hne))
    (fun hnil => absurd (hw.symm.trans hnil) hne) ?_ ?_
  · rw [hw, ← hstatus₀, hstate]
    rfl
  · rw [hstate, List.count_append, hcount₀, sendsOf_append, List.length_append]
    simp [sendsOf, Nat.add_assoc]

/-- A step of a call for another proposal. -/
theorem OneOwner.step_other {other : PyStr} (h : OneOwner proposalId s₀ c)
    (hstep : Step faultyStores c u e c') (ht : Targets other e.op) (hpid : proposalId ≠ other)
    (hold : ¬ Owns proposalId (eventsOf u c.history))
    (hnew : ¬ Owns proposalId (eventsOf u c.history ++ [e])) : OneOwner proposalId s₀ c' := by
  have hans := hstep.answer
  have hframe : c'.state.kv proposalId = c.state.kv proposalId ∧
      c'.state.sends.count proposalId = c.state.sends.count proposalId := by
    obtain ⟨o, r⟩ := e
    cases o with
    | claim | delete => exact ht.elim
    | get | append | now =>
        have hq := faultyStores_quiet hans ht rfl rfl
        exact ⟨by rw [hq.1], by rw [hq.2]⟩
    | put key v =>
        obtain ⟨rfl, p, rfl⟩ := ht
        cases r with
        | error x => rw [hans.2]; exact ⟨rfl, rfl⟩
        | ok a =>
            rw [show c'.state = _ from hans]
            exact ⟨Function.update_of_ne hpid _ _, rfl⟩
    | send key =>
        have hstate : c'.state = { c.state with sends := c.state.sends ++ [key] } := by
          cases r <;> exact hans
        obtain rfl : key = other := ht
        rw [hstate]
        refine ⟨rfl, ?_⟩
        rw [List.count_append, List.count_singleton, if_neg (by simpa using hpid.symm)]
        rfl
  exact h.frame hstep.history_eq hframe.1 hframe.2 hold hnew

/-- A call that has written and goes on owns its proposal before the step, unless the
step is the read that gets it past the test. -/
theorem owns_of_step {ws : List ProposalStatus} {n : Nat} {τ : List StoreEvent}
    (hcall : CallAt proposalId ws n (τ ++ [e])) (hws : ws ≠ [])
    (he : ∀ r, e ≠ ⟨.get proposalId, r⟩) : Owns proposalId τ := by
  have hclean : Clean τ := by
    have := hcall.clean
    rwa [List.dropLast_concat] at this
  rcases (hcall.gated hws).of_concat with hp | ⟨r, p, hread, -⟩
  · exact .of_passed hclean hp
  · exact absurd hread (he r)

/-- **One step of the pool.** -/
theorem OneOwner.step {calls : Nat → SwitchMode × PyStr} (h : OneOwner proposalId s₀ c)
    (hcalls : Protocols calls c) (hcalls' : Protocols calls c')
    (hstep : Step faultyStores c u e c') (hC : NoConfirmOverlap proposalId c u e) :
    OneOwner proposalId s₀ c' := by
  obtain ⟨ws, n, hcall, hphase⟩ := hcalls u
  obtain ⟨ws', n', hcall', hphase'⟩ := hcalls' u
  rw [hstep.history_eq, eventsOf_append_self] at hcall'
  have hclean : Clean (eventsOf u c.history) := by
    have := hcall'.clean
    rwa [List.dropLast_concat] at this
  have ht : Targets (calls u).2 e.op := hcall'.targets e (by simp)
  by_cases hpid : proposalId = (calls u).2
  · subst hpid
    obtain ⟨o, r⟩ := e
    cases o with
    | claim | delete => exact ht.elim
    | get | append | now => exact h.step_quiet hcalls hstep hC hcall hphase hclean ht rfl rfl
    | put key v =>
        obtain ⟨rfl, p, rfl⟩ := ht
        cases r with
        | error x =>
            exact h.step_quiet hcalls hstep hC hcall hphase hclean ⟨rfl, p, rfl⟩ rfl rfl
        | ok a =>
            have hws : ws' ≠ [] := by
              rw [← hcall'.writes, writesOf_append]
              simp [writesOf, Except.toOption]
            exact h.step_put hstep (owns_of_step hcall' hws (by rintro r ⟨⟩))
    | send key =>
        cases ht
        obtain ⟨m, rfl⟩ : ∃ m, n' = m + 1 := by
          have hlen := congrArg List.length hcall'.sends
          rw [sendsOf_append, List.length_append, List.length_replicate] at hlen
          exact ⟨(sendsOf (eventsOf u c.history)).length, hlen.symm⟩
        have hws : ws' = writesOf (eventsOf u c.history) := by
          rw [← hcall'.writes, writesOf_append]
          exact List.append_nil _
        exact h.step_send hstep (owns_of_step hcall' hphase'.writes_ne_nil (by rintro r ⟨⟩))
          (hws ▸ hphase'.writes_ne_nil)
  · exact h.step_other hstep ht hpid (fun ho => hpid (hcall.passed_target ho.1))
      (fun ho => hpid (hcall'.passed_target ho.1))

/-- A terminal status is the owner's last write: the step leaves it. -/
theorem OneOwner.terminal_step {calls : Nat → SwitchMode × PyStr} {x : ProposalStatus}
    (h : OneOwner proposalId s₀ c) (hcalls' : Protocols calls c')
    (hstep : Step faultyStores c u e c') (hx : x.terminal = true)
    (hstatus : c.state.status? proposalId = some x) :
    c'.state.status? proposalId = some x := by
  obtain ⟨ws', n', hcall', hphase'⟩ := hcalls' u
  rw [hstep.history_eq, eventsOf_append_self] at hcall'
  have ht : Targets (calls u).2 e.op := hcall'.targets e (by simp)
  have hans := hstep.answer
  obtain ⟨o, r⟩ := e
  cases o with
  | claim | delete => exact ht.elim
  | get | append | now =>
      rw [StoreState.status?_congr (s := c.state) (by rw [(faultyStores_quiet hans ht rfl rfl).1]),
        hstatus]
  | send key =>
      have hstate : c'.state = { c.state with sends := c.state.sends ++ [key] } := by
        cases r <;> exact hans
      rw [StoreState.status?_congr (s := c.state) (by rw [hstate]), hstatus]
  | put key v =>
      obtain ⟨rfl, p, rfl⟩ := ht
      cases r with
      | error y => rw [hans.2, hstatus]
      | ok a =>
          by_cases hpid : proposalId = (calls u).2
          · subst hpid
            have hws : ws' = writesOf (eventsOf u c.history) ++ [p.status] := by
              rw [← hcall'.writes, writesOf_append]
              simp [writesOf, Except.toOption]
            have hold := owns_of_step hcall' (by simp [hws]) (by rintro r ⟨⟩)
            -- before a write the owner has written nothing, or `CONFIRMED`
            have hlast := (h.owned u hold).2.1
            rw [hstatus] at hlast
            have hbefore : writesOf (eventsOf u c.history) = ws'.dropLast := by
              rw [hws, List.dropLast_concat]
            rw [hbefore] at hlast
            cases hphase' <;> simp at hlast <;> subst hlast <;> cases hx
          · rw [StoreState.status?_congr (s := c.state), hstatus]
            rw [show c'.state = _ from hans]
            exact Function.update_of_ne hpid _ _

end PoolStep

/-! ### Runs of the pool -/

section Runs
variable {calls : Nat → SwitchMode × PyStr} {proposalId : PyStr} {s₀ : StoreState} {c : Pool}

theorem oneOwner_of_run
    (h : Run faultyStores (NoConfirmOverlap proposalId) (.start s₀ (callers calls)) c) :
    OneOwner proposalId s₀ c := by
  induction h with
  | start =>
      have hno : ∀ t, ¬ Owns proposalId (eventsOf t []) :=
        fun t ho => not_passed_nil proposalId ho.1
      exact ⟨fun t _ ht _ => absurd ht (hno t), fun _ => ⟨rfl, rfl⟩, fun t ht => absurd ht (hno t)⟩
  | step hrun hC hstep ih =>
      exact ih.step (protocols_of_run hrun) (protocols_of_run (hrun.step hC hstep)) hstep hC

/-- The invariant bounds the sends. -/
theorem OneOwner.sends_le (h : OneOwner proposalId s₀ c) (hcalls : Protocols calls c) :
    c.state.sends.count proposalId ≤ s₀.sends.count proposalId + 1 := by
  by_cases hno : ∀ t, ¬ Owns proposalId (eventsOf t c.history)
  · rw [(h.unowned hno).2]
    exact Nat.le_succ _
  · rw [not_forall_not] at hno
    obtain ⟨t, ht⟩ := hno
    obtain ⟨ws, n, hcall, hphase⟩ := hcalls t
    have hn : n ≤ 1 := by cases hphase <;> omega
    rw [(h.owned t ht).2.2, hcall.sends, List.length_replicate]
    omega

/-- **At most one send.** In every run of concurrent calls without an overlap, the
sender is invoked at most once for the proposal, and a terminal status stays. -/
theorem confirmAndDispatch_atMostOneSend
    (h : Run faultyStores (NoConfirmOverlap proposalId) (.start s₀ (callers calls)) c) :
    c.state.sends.count proposalId ≤ s₀.sends.count proposalId + 1 ∧
      ∀ x : ProposalStatus, x.terminal = true → c.state.status? proposalId = some x →
        ∀ c', Run faultyStores (NoConfirmOverlap proposalId) c c' →
          c'.state.status? proposalId = some x := by
  refine ⟨(oneOwner_of_run h).sends_le (protocols_of_run h), fun x hx hstatus c' h' => ?_⟩
  induction h' with
  | start => exact hstatus
  | @step c₁ t e c₂ hrun hC hstep ih =>
      have hrun₁ := h.trans hrun
      exact (oneOwner_of_run hrun₁).terminal_step (protocols_of_run (hrun₁.step hC hstep)) hstep
        hx ih

end Runs

/-! ### Two callers

The stores hold one pending proposal, and every thread confirms and dispatches it. -/

/-- Stores that hold one pending proposal. -/
def twoCallersStores : StoreState :=
  .holding { proposalId := str "p1", payloadDigest := str "d1", expiresAt := 100, createdAt := 0 }

/-- Every thread confirms and dispatches it. -/
def twoCallersPool : Pool :=
  .start twoCallersStores (callers fun _ => (.confirmThenSend, str "p1"))

/-- No operation fails, the clock reads 1 and the provider accepts. -/
def acceptingStores (_ : Nat) : StoreState → (o : StoreOp) → Except Exc o.Ret × StoreState :=
  StoreState.perform 1 (.ok { kind := .accepted })

/-- The first caller reads `PENDING`; the second runs to its end. -/
def overlapSchedule : List Nat := [0, 0] ++ List.replicate 11 1

/-- The pool once the second caller has sent, and once the first has gone on. -/
theorem twoCallersPool_overlap :
    (twoCallersPool.schedule acceptingStores overlapSchedule).state.status? (str "p1") =
        some .sent ∧
      (twoCallersPool.schedule acceptingStores (overlapSchedule ++ [0, 0])).state.status?
        (str "p1") = some .confirmed ∧
      (twoCallersPool.schedule acceptingStores (overlapSchedule ++ List.replicate 9 0)).state.sends
        = [str "p1", str "p1"] := by
  decide

/-- Both callers read `PENDING` before either writes: the proposal is sent twice, and
goes from `SENT` back to `CONFIRMED`. -/
theorem confirmAndDispatch_sendsTwice :
    (¬ ∀ (calls : Nat → SwitchMode × PyStr) (proposalId : PyStr) (s₀ : StoreState) (c : Pool),
      Run (storeEnv fun _ => False) anyStep (.start s₀ (callers calls)) c →
      c.state.sends.count proposalId ≤ s₀.sends.count proposalId + 1) ∧
    ¬ ∀ (calls : Nat → SwitchMode × PyStr) (proposalId : PyStr) (s₀ : StoreState) (c c' : Pool),
      Run (storeEnv fun _ => False) anyStep (.start s₀ (callers calls)) c →
      Run (storeEnv fun _ => False) anyStep c c' →
      c.state.status? proposalId = some .sent → c'.state.status? proposalId = some .sent := by
  obtain ⟨hsent, hback, hsends⟩ := twoCallersPool_overlap
  have hrun (ts : List Nat) (c : Pool) :
      Run (storeEnv fun _ => False) anyStep c (c.schedule acceptingStores ts) :=
    Config.schedule_anyStep (fun _ s o => s.perform_env _ 1 _ o) ts c
  refine ⟨fun hclaim => ?_, fun hclaim => ?_⟩
  · have htwo := hclaim _ (str "p1") _ _ (hrun (overlapSchedule ++ List.replicate 9 0)
      twoCallersPool)
    rw [hsends] at htwo
    exact absurd htwo (by decide)
  · have hstays := hclaim _ (str "p1") _ _ _ (hrun overlapSchedule twoCallersPool)
      (hrun [0, 0] _) hsent
    rw [← Config.schedule_append, hback] at hstays
    cases hstays

/-- A call has read the proposal as `PENDING`. -/
def readsPending (proposalId : PyStr) (τ : List StoreEvent) : Bool :=
  τ.any fun
    | ⟨.get key, r⟩ => key = proposalId &&
        (ProposalStore.decode proposalId r).toOption.any fun p => p.status = .pending
    | _ => false

theorem Passed.readsPending {proposalId : PyStr} {τ : List StoreEvent} (h : Passed proposalId τ) :
    readsPending proposalId τ = true := by
  obtain ⟨τ₁, r, now, p, hprefix, -, hdecode, hpending, -⟩ := h
  refine List.any_eq_true.mpr ⟨⟨.get proposalId, r⟩, hprefix.subset (by simp), ?_⟩
  simp [hdecode, hpending, Except.toOption]

/-- `NoConfirmOverlap`, tested on the calls that have done something. -/
def noConfirmOverlap (proposalId : PyStr) (c : Pool) (t : Nat) (_ : StoreEvent) : Bool :=
  c.history.all fun x => x.1 = t || !readsPending proposalId (eventsOf x.1 c.history) ||
    !(writesOf (eventsOf x.1 c.history)).isEmpty

theorem noConfirmOverlap_sound {proposalId : PyStr} {c : Pool} {t : Nat} {e : StoreEvent}
    (h : noConfirmOverlap proposalId c t e = true) : NoConfirmOverlap proposalId c t e := by
  rintro - u hu ⟨hpassed, -, hwrites⟩
  have hread := hpassed.readsPending
  have hstarted : eventsOf u c.history ≠ [] := by
    rintro hnil
    exact not_passed_nil proposalId (hnil ▸ hpassed)
  obtain ⟨e', he'⟩ := exists_mem_of_eventsOf hstarted
  have hall := List.all_eq_true.mp h _ he'
  simp [hu, hread, hwrites] at hall

/-- The second caller has begun when the first reads `PENDING`, and reads the proposal itself after
the first has written `CONFIRMED`. -/
def interleavedSchedule : List Nat := [0, 1, 0, 0, 0, 1] ++ List.replicate 7 0

theorem confirmAndDispatch_atMostOneSend_interleaved :
    (twoCallersPool.schedule acceptingStores interleavedSchedule).state.sends = [str "p1"] ∧
      (twoCallersPool.schedule acceptingStores interleavedSchedule).state.sends.count
        (str "p1") ≤ 1 := by
  have hrun : Run faultyStores (NoConfirmOverlap (str "p1"))
      (.start twoCallersStores (callers fun _ => (.confirmThenSend, str "p1")))
      (twoCallersPool.schedule acceptingStores interleavedSchedule) :=
    Config.schedule_of_passes (fun _ s o => s.perform_env _ 1 _ o)
      (fun _ _ _ _ => noConfirmOverlap_sound) _ _ .start (by decide +kernel)
  exact ⟨by decide, (confirmAndDispatch_atMostOneSend hrun).1⟩

end ConcurrentConfirm

end GmailGateway
