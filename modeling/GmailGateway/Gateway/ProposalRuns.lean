import GmailGateway.Gateway.CallGuards

/-!
# GmailGateway.Gateway.ProposalRuns

**Interleaved calls of the gateway.** Any number of `propose`, `confirm`, `dispatch` and
`expire` calls share the two stores and take their steps in any order; any operation may raise
and any call may stop for good. The one assumption on the surroundings is that proposal ids are
fresh (`FreshIds`), as those of `uuid4` are.

`Intact` is what every run keeps: each row, payload and answer of the stores has an origin in a
call's events, and what a call has written is there until that call takes it back.
-/

namespace GmailGateway

open Effect Proc Python

namespace ProposalService

/-! ### What one operation does to the stores -/

/-- What an event does to the rows of the proposal store. -/
inductive RowStep (kv kv' : PyStr → Option KvValue) (e : GatewayEvent) : Prop
  | put (key : PyStr) (v : KvValue) (he : e = ⟨.store (.put key v), .ok ()⟩)
      (hkv : kv' = Function.update kv key (some v))
  | claim (key : PyStr) (v : KvValue) (he : e = ⟨.store (.claim key v), .ok true⟩)
      (hfree : kv key = none) (hkv : kv' = Function.update kv key (some v))
  | delete (key : PyStr) (he : e = ⟨.store (.delete key), .ok ()⟩)
      (hkv : kv' = Function.update kv key none)
  | other (hkv : kv' = kv) (hput : ∀ key v, e ≠ ⟨.store (.put key v), .ok ()⟩)
      (hclaim : ∀ key v, e ≠ ⟨.store (.claim key v), .ok true⟩)
      (hdelete : ∀ key, e ≠ ⟨.store (.delete key), .ok ()⟩)

/-- What an event does to the payloads. -/
inductive PayloadStep (payloads payloads' : PyStr → Option Dict) (e : GatewayEvent) : Prop
  | put (key : PyStr) (canonical : Dict) (he : e = ⟨.payloadPut key canonical, .ok ()⟩)
      (hpayloads : payloads' = Function.update payloads key (some canonical))
  | delete (key : PyStr) (he : e = ⟨.payloadDelete key, .ok ()⟩)
      (hpayloads : payloads' = Function.update payloads key none)
  | other (hpayloads : payloads' = payloads)
      (hput : ∀ key canonical, e ≠ ⟨.payloadPut key canonical, .ok ()⟩)
      (hdelete : ∀ key, e ≠ ⟨.payloadDelete key, .ok ()⟩)

section Effects
variable {s s' : GatewayState} {e : GatewayEvent}

/-- An operation that raises writes nothing. -/
theorem RowStep.error {kv kv' : PyStr → Option KvValue} {o : GatewayOp} {x : Exc} (hkv : kv' = kv) :
    RowStep kv kv' ⟨o, .error x⟩ :=
  .other hkv (fun _ _ h => nomatch h) (fun _ _ h => nomatch h) fun _ h => nomatch h

theorem rowStep (h : gatewayEnv s e.op e.ans s') : RowStep s.store.kv s'.store.kv e := by
  obtain ⟨o, r⟩ := e
  cases o with
  | store o =>
      obtain ⟨t, ht, rfl⟩ := h
      cases o with
      | put key v =>
          cases r with
          | error x => exact .error (congrArg _ ht.2)
          | ok u => exact .put key v rfl (congrArg _ (show t = _ from ht))
      | claim key v =>
          cases r with
          | error x => exact .error (congrArg _ ht.2)
          | ok won =>
              obtain ⟨hwon, ht⟩ := ht
              cases won with
              | false => exact .other (congrArg _ ht) nofun nofun nofun
              | true =>
                  have hfree := Option.isNone_iff_eq_none.mp hwon.symm
                  exact .claim key v rfl hfree (congrArg _ ht)
      | delete key =>
          cases r with
          | error x => exact .error (congrArg _ ht.2)
          | ok u => exact .delete key rfl (congrArg _ (show t = _ from ht))
      | get key => cases r <;> exact .other (congrArg _ ht.2) nofun nofun nofun
      | append event =>
          cases r with
          | error x => exact .error (congrArg _ ht.2)
          | ok u => exact .other (by rw [show t = _ from ht]) nofun nofun nofun
      | send id => cases r <;> exact .other (by rw [show t = _ from ht]) nofun nofun nofun
      | now =>
          cases r with
          | error x => exact .error (congrArg _ ht.2)
          | ok n => exact .other (congrArg _ (show t = _ from ht)) nofun nofun nofun
  | payloadGet key =>
      cases r with
      | error x => exact .other (by rw [show s' = s from h]) nofun nofun nofun
      | ok v => exact .other (by rw [show s' = s from h.2]) nofun nofun nofun
  | payloadPut | payloadDelete | newProposalId | newMessageId | deliver =>
      cases r <;> exact .other (by rw [show s' = _ from h]) nofun nofun nofun

theorem payloadStep (h : gatewayEnv s e.op e.ans s') :
    PayloadStep s.payloads s'.payloads e := by
  obtain ⟨o, r⟩ := e
  cases o with
  | store o =>
      obtain ⟨t, -, rfl⟩ := h
      exact .other rfl nofun nofun
  | payloadGet key =>
      cases r with
      | error x => exact .other (by rw [show s' = s from h]) nofun nofun
      | ok v => exact .other (by rw [show s' = s from h.2]) nofun nofun
  | payloadPut key canonical =>
      cases r with
      | error x => exact .other (by rw [show s' = s from h]) nofun nofun
      | ok u => exact .put key canonical rfl (by rw [show s' = _ from h])
  | payloadDelete key =>
      cases r with
      | error x => exact .other (by rw [show s' = s from h]) nofun nofun
      | ok u => exact .delete key rfl (by rw [show s' = _ from h])
  | newProposalId | newMessageId | deliver =>
      cases r <;> exact .other (by rw [show s' = _ from h]) nofun nofun

theorem row_put {key : PyStr} {v : KvValue} (h : gatewayEnv s (.store (.put key v)) (.ok ()) s') :
    s'.store.kv = Function.update s.store.kv key (some v) := by
  obtain ⟨t, ht, rfl⟩ := h
  exact congrArg StoreState.kv (show t = _ from ht)

theorem row_claim {key : PyStr} {v : KvValue}
    (h : gatewayEnv s (.store (.claim key v)) (.ok true) s') :
    s'.store.kv = Function.update s.store.kv key (some v) := by
  obtain ⟨t, ht, rfl⟩ := h
  exact congrArg StoreState.kv ht.2

theorem row_delete {key : PyStr} (h : gatewayEnv s (.store (.delete key)) (.ok ()) s') :
    s'.store.kv = Function.update s.store.kv key none := by
  obtain ⟨t, ht, rfl⟩ := h
  exact congrArg StoreState.kv (show t = _ from ht)

theorem payload_put {key : PyStr} {canonical : Dict}
    (h : gatewayEnv s (.payloadPut key canonical) (.ok ()) s') :
    s'.payloads = Function.update s.payloads key (some canonical) :=
  congrArg GatewayState.payloads (show s' = _ from h)

theorem payload_delete {key : PyStr} (h : gatewayEnv s (.payloadDelete key) (.ok ()) s') :
    s'.payloads = Function.update s.payloads key none :=
  congrArg GatewayState.payloads (show s' = _ from h)

/-- A read answers what is stored. -/
theorem row_get {key : PyStr} {v : Option KvValue}
    (h : gatewayEnv s (.store (.get key)) (.ok v) s') : v = s.store.kv key := by
  obtain ⟨t, ht, -⟩ := h
  exact ht.1

theorem payload_get {key : PyStr} {v : Option Dict}
    (h : gatewayEnv s (.payloadGet key) (.ok v) s') : v = s.payloads key := h.1

end Effects

/-! ### The pool -/

/-- The guard of a call. -/
def CallGuard (P : Platform) : GatewayCall → GatewayOp → List GatewayEvent → Prop
  | .propose params => ProposeGuard P params
  | .confirm _ proposalId _ _ _ | .dispatch proposalId _ | .expire proposalId _ =>
      Rewrites proposalId

/-- How a call ends. -/
def CallEnd : GatewayCall → Except Exc GatewayResult → List GatewayEvent → Prop
  | .propose params, r, τ => ∃ r', r = r'.map .proposed ∧ CallEnds params r' τ
  | _, _, _ => True

abbrev GatewayPool := Config GatewaySig Exc GatewayResult GatewayState

/-- The calls, about to start on empty stores. -/
def pool (P : Platform) (cfg : ProposalServiceConfig) (calls : Nat → GatewayCall) : GatewayPool :=
  .start .empty fun t => (calls t).run P cfg

/-- The factory's next answer was not given before, and is no index key. -/
def FreshIds (c : GatewayPool) (_ : Nat) (e : GatewayEvent) : Prop :=
  ∀ id, e = ⟨.newProposalId, .ok id⟩ → (∀ u, (u, e) ∉ c.history) ∧
    ∀ key, id ≠ ProposalStore.idemIndexKey key

section Local
variable {P : Platform} {cfg : ProposalServiceConfig}

/-- A procedure that respects a guard, seen as one with a mapped result. -/
theorem sat_map_respects {α : Type} {G : GatewayOp → List GatewayEvent → Prop}
    {p : Proc GatewaySig Exc α} (hp : p.Respects G) (f : α → GatewayResult) :
    (f <$> p).sat anyGatewayAnswer (fun τ _ => Guarded G τ) (fun _ _ _ => True) [] () := by
  rw [map_eq_pure_bind, sat_bind]
  refine sat_mono (hp [] .nil) fun r _ _ _ => ?_
  cases r <;> trivial

/-- **The protocol of a call.** -/
theorem call_protocol (call : GatewayCall) :
    (call.run P cfg).sat anyGatewayAnswer (fun τ _ => Guarded (CallGuard P call) τ)
      (fun r τ _ => CallEnd call r τ) [] () := by
  cases call with
  | propose params =>
      simp only [GatewayCall.run, map_eq_pure_bind, sat_bind]
      refine sat_mono propose_protocol fun r τ _ h => ?_
      cases r with
      | error x => exact ⟨.error x, rfl, h.2⟩
      | ok result => exact ⟨.ok result, rfl, h.2⟩
  | confirm switchMode proposalId actor now agentReachable =>
      exact sat_map_respects (respects_confirm switchMode actor now agentReachable) _
  | dispatch proposalId now => exact sat_map_respects (respects_dispatch now) _
  | expire proposalId now => exact sat_map_respects (respects_expire now) _

variable {calls : Nat → GatewayCall} {C : GatewayPool → Nat → GatewayEvent → Prop}
  {c : GatewayPool}

/-- In every run, each call keeps to its guard. -/
theorem Run.guarded (h : Run gatewayEnv C (pool P cfg calls) c) (t : Nat) :
    Guarded (CallGuard P (calls t)) (eventsOf t c.history) :=
  (h.localEvents (fun _ _ _ _ _ => trivial) (fun _ => .nil) rfl
    (fun u => call_protocol (calls u)) t).1

theorem Run.returned (h : Run gatewayEnv C (pool P cfg calls) c) {t : Nat} {a : GatewayResult}
    (ht : c.threads t = .ret a) : CallEnd (calls t) (.ok a) (eventsOf t c.history) := by
  have hsat := (h.localEvents (fun _ _ _ _ _ => trivial) (fun _ => .nil) rfl
    (fun u => call_protocol (calls u)) t).2
  rwa [ht] at hsat

/-- A `propose` call that returned had a well-formed key. -/
theorem Run.proposed (h : Run gatewayEnv C (pool P cfg calls) c) {t : Nat} {params : Dict}
    {result : PrepareEmailResult} (hcall : calls t = .propose params)
    (ht : c.threads t = .ret (.proposed result)) : ∃ key, idempotencyKey params = .ok key ∧
      ProposeEnd key (.ok result) (eventsOf t c.history) := by
  have hend := Run.returned h ht
  rw [hcall] at hend
  obtain ⟨r, hr, hends⟩ := hend
  cases r with
  | error x => cases hr
  | ok a =>
      cases hr
      obtain ⟨key, hkey⟩ := hends.keyed result rfl
      exact ⟨key, hkey, hends.ended key hkey⟩

theorem Run.raised (h : Run gatewayEnv C (pool P cfg calls) c) {t : Nat} {x : Exc}
    (ht : c.threads t = .raise x) : CallEnd (calls t) (.error x) (eventsOf t c.history) := by
  have hsat := (h.localEvents (fun _ _ _ _ _ => trivial) (fun _ => .nil) rfl
    (fun u => call_protocol (calls u)) t).2
  rwa [ht] at hsat

end Local

/-! ### What a call's guard says of its events -/

section Guards
variable {P : Platform} {call : GatewayCall} {τ : List GatewayEvent} {id key : PyStr}
  {canonical : Dict} {p : Proposal}

theorem Guarded.of_call {params : Dict} (h : Guarded (CallGuard P call) τ)
    (hcall : call = .propose params) : Guarded (ProposeGuard P params) τ := by
  subst hcall
  exact h

/-- An event that the other calls never perform. -/
theorem Guarded.propose {e : GatewayEvent} (h : Guarded (CallGuard P call) τ) (he : e ∈ τ)
    (hnever : ∀ proposalId τ₁, ¬ Rewrites proposalId e.op τ₁) :
    ∃ params, call = .propose params ∧ Guarded (ProposeGuard P params) τ := by
  obtain ⟨τ₁, -, hguard⟩ := h.of_mem he
  cases call with
  | propose params => exact ⟨params, rfl, h⟩
  | confirm _ proposalId | dispatch proposalId | expire proposalId =>
      exact absurd hguard (hnever proposalId τ₁)

theorem Guarded.founded {params : Dict} {e : GatewayEvent}
    (h : Guarded (ProposeGuard P params) τ) (he : e ∈ τ) :
    ∃ τ₁, τ₁ ++ [e] <+: τ ∧ Founded P params e.op τ₁ := by
  obtain ⟨τ₁, hpre, hguard⟩ := h.of_mem he
  exact ⟨τ₁, hpre, hguard.1⟩

theorem mem_of_before {τ₁ : List GatewayEvent} {e e' : GatewayEvent} (hpre : τ₁ ++ [e] <+: τ)
    (he' : e' ∈ τ₁) : e' ∈ τ := hpre.subset (List.mem_append_left _ he')

theorem Guarded.minted (h : Guarded (CallGuard P call) τ) (hminted : Minted id τ) :
    ∃ params, call = .propose params ∧ Guarded (ProposeGuard P params) τ :=
  Guarded.propose h hminted fun _ _ h => h

/-- A frozen payload is the canonical form of the call's parameters, under its id. -/
theorem Guarded.froze (h : Guarded (CallGuard P call) τ) (hfroze : Froze id canonical τ) :
    Minted id τ ∧ ∃ params messageId, call = .propose params ∧
      buildCanonicalPayload (.dict params) messageId = .ok canonical := by
  obtain ⟨params, rfl, hτ⟩ := Guarded.propose h hfroze fun _ _ h => h
  obtain ⟨τ₁, hpre, hminted, messageId, hbuilt⟩ := Guarded.founded hτ hfroze
  exact ⟨mem_of_before hpre hminted, params, messageId, rfl, hbuilt⟩

/-- A proposing call creates its record under the id it minted, over the payload it froze. -/
theorem Guarded.created {params : Dict} (h : Guarded (ProposeGuard P params) τ)
    (hcreated : Created p τ) : Minted p.proposalId τ ∧
      ∃ canonical, Froze p.proposalId canonical τ ∧ RecordOf P params canonical p := by
  obtain ⟨τ₁, hpre, q, canonical, -, hdict, hminted, hfroze, hrecord⟩ :=
    Guarded.founded h hcreated
  obtain rfl := Proposal.toDict_injective hdict
  exact ⟨mem_of_before hpre hminted, canonical, mem_of_before hpre hfroze, hrecord⟩

/-- A claim is won for a record the call created. -/
theorem Guarded.won (h : Guarded (CallGuard P call) τ) (hwon : Won key id τ) :
    ∃ p, p.proposalId = id ∧ p.idempotencyKey = some key ∧ Created p τ ∧
      Minted p.proposalId τ := by
  obtain ⟨params, rfl, hτ⟩ := Guarded.propose h hwon fun _ _ h => h
  obtain ⟨τ₁, hpre, p, k, hcreated, hkey, hindex, hv⟩ := Guarded.founded hτ hwon
  cases hv
  obtain rfl := ProposalStore.idemIndexKey_injective hindex
  have hcreated' : Created p τ := mem_of_before hpre hcreated
  exact ⟨p, rfl, hkey, hcreated', (Guarded.created hτ hcreated').1⟩

/-- What a call takes back it has minted. -/
theorem Guarded.deleted (h : Guarded (CallGuard P call) τ)
    (hdeleted : ⟨.store (.delete id), .ok ()⟩ ∈ τ) : Minted id τ := by
  obtain ⟨params, rfl, hτ⟩ := Guarded.propose h hdeleted fun _ _ h => h
  obtain ⟨τ₁, hpre, hminted, -⟩ := Guarded.founded hτ hdeleted
  exact mem_of_before hpre hminted

theorem Guarded.dropped (h : Guarded (CallGuard P call) τ)
    (hdropped : ⟨.payloadDelete id, .ok ()⟩ ∈ τ) : Minted id τ := by
  obtain ⟨params, rfl, hτ⟩ := Guarded.propose h hdropped fun _ _ h => h
  obtain ⟨τ₁, hpre, hminted, -⟩ := Guarded.founded hτ hdropped
  exact mem_of_before hpre hminted

end Guards

/-! ### What every run keeps -/

/-- A call created this record under an id it had minted. -/
def Recorded (h : List (Nat × GatewayEvent)) (p : Proposal) : Prop :=
  ∃ t, Minted p.proposalId (eventsOf t h) ∧ Created p (eventsOf t h)

/-- Where a row comes from: a call created the record, whose status may since have been
rewritten, or it won the claim. -/
inductive Origin (h : List (Nat × GatewayEvent)) : PyStr → KvValue → Prop
  | record (p : Proposal) (status : ProposalStatus) (hp : Recorded h p) :
      Origin h p.proposalId (p.withStatus status).toDict
  | index (t : Nat) (key id : PyStr) (hwon : Won key id (eventsOf t h)) :
      Origin h (ProposalStore.idemIndexKey key) (.index id)

/-- The stores hold what the calls' events say, no more and no less. -/
structure Intact (calls : Nat → GatewayCall) (c : GatewayPool) : Prop where
  minter : ∀ t u id, Minted id (eventsOf t c.history) → Minted id (eventsOf u c.history) → t = u
  noIndex : ∀ t id, Minted id (eventsOf t c.history) → ∀ key, id ≠ ProposalStore.idemIndexKey key
  rows : ∀ key v, c.state.store.kv key = some v → Origin c.history key v
  reads : ∀ t key v, ⟨.store (.get key), .ok (some v)⟩ ∈ eventsOf t c.history →
    Origin c.history key v
  payloads : ∀ id canonical, c.state.payloads id = some canonical →
    ∃ t, Froze id canonical (eventsOf t c.history)
  loads : ∀ t id canonical, ⟨.payloadGet id, .ok (some canonical)⟩ ∈ eventsOf t c.history →
    ∃ u, Froze id canonical (eventsOf u c.history)
  /-- What a call has written is there until that call takes it back. -/
  keptRow : ∀ t params p, calls t = .propose params → Created p (eventsOf t c.history) →
    ⟨.store (.delete p.proposalId), .ok ()⟩ ∉ eventsOf t c.history →
    c.state.store.kv p.proposalId ≠ none
  keptPayload : ∀ t id canonical, Froze id canonical (eventsOf t c.history) →
    ⟨.payloadDelete id, .ok ()⟩ ∉ eventsOf t c.history → c.state.payloads id ≠ none
  index : ∀ t key id, Won key id (eventsOf t c.history) →
    c.state.store.kv (ProposalStore.idemIndexKey key) = some (.index id)
  /-- And then it is gone. A record stays gone where no other call may rewrite it. -/
  gonePayload : ∀ t id, ⟨.payloadDelete id, .ok ()⟩ ∈ eventsOf t c.history →
    c.state.payloads id = none
  goneRow : (∀ u, ∃ params, calls u = .propose params) → ∀ t id,
    ⟨.store (.delete id), .ok ()⟩ ∈ eventsOf t c.history → c.state.store.kv id = none

section Step
variable {P : Platform} {calls : Nat → GatewayCall} {c c' : GatewayPool} {t : Nat}
  {e : GatewayEvent}

theorem Recorded.mono {p : Proposal} (hs : Step gatewayEnv c t e c') (h : Recorded c.history p) :
    Recorded c'.history p := by
  obtain ⟨u, hminted, hcreated⟩ := h
  exact ⟨u, hs.eventsOf_mono hminted, hs.eventsOf_mono hcreated⟩

theorem Origin.mono {key : PyStr} {v : KvValue} (hs : Step gatewayEnv c t e c')
    (h : Origin c.history key v) : Origin c'.history key v := by
  cases h with
  | record p status hp => exact .record p status (hp.mono hs)
  | index u key id hwon => exact .index u key id (hs.eventsOf_mono hwon)

/-- The record behind a row that decodes. -/
theorem Origin.decoded {h : List (Nat × GatewayEvent)} {key : PyStr} {v : KvValue} {p : Proposal}
    (ho : Origin h key v) (hp : Proposal.fromDict v = .ok p) :
    ∃ q status, Recorded h q ∧ key = q.proposalId ∧ p = q.withStatus status := by
  cases ho with
  | index u k id hwon => cases hp
  | record q status hq =>
      rw [Proposal.fromDict_toDict] at hp
      exact ⟨q, status, hq, rfl, (Except.ok.inj hp).symm⟩

/-- The writes of a proposing call come in the order of their ranks. -/
theorem Guarded.not_before (hG : Guarded (CallGuard P (calls t)) (eventsOf t c'.history))
    (hs : Step gatewayEnv c t e c') {params : Dict} (hcall : calls t = .propose params)
    {e' : GatewayEvent} (hbefore : e' ∈ eventsOf t c.history)
    (hrank : rank e.op < rank e'.op) (hpos : rank e.op ≠ 0) : False := by
  rcases (hs.guard (Guarded.of_call hG hcall)).2 with hzero | hlow
  · exact hpos hzero
  · exact absurd (hlow e' hbefore) (by omega)

section
variable (hG : ∀ u, Guarded (CallGuard P (calls u)) (eventsOf u c'.history))
  (hs : Step gatewayEnv c t e c')
include hG hs

/-- A key that is claimed is an index key. -/
theorem claim_won {key : PyStr} {v : KvValue}
    (he : e = ⟨.store (.claim key v), .ok true⟩) : ∃ k id, Won k id (eventsOf t c'.history) ∧
      key = ProposalStore.idemIndexKey k ∧ v = .index id := by
  have hguard := hs.guard (hG t)
  subst he
  have hclaim : (⟨.store (.claim key v), .ok true⟩ : GatewayEvent) ∈ eventsOf t c'.history :=
    hs.mem_eventsOf.mpr (.inr ⟨rfl, rfl⟩)
  obtain ⟨params, hcall, -⟩ := Guarded.propose (hG t) hclaim fun _ _ h => h
  rw [hcall] at hguard
  obtain ⟨⟨p, k, -, -, rfl, rfl⟩, -⟩ := hguard
  exact ⟨k, p.proposalId, hclaim, rfl, rfl⟩

/-- What is deleted was minted by the call that deletes it. -/
theorem delete_minted {key : PyStr} (he : e = ⟨.store (.delete key), .ok ()⟩) :
    Minted key (eventsOf t c'.history) := by
  have hguard := hs.guard (hG t)
  subst he
  have hdelete : (⟨.store (.delete key), .ok ()⟩ : GatewayEvent) ∈ eventsOf t c'.history :=
    hs.mem_eventsOf.mpr (.inr ⟨rfl, rfl⟩)
  obtain ⟨params, hcall, -⟩ := Guarded.propose (hG t) hdelete fun _ _ h => h
  rw [hcall] at hguard
  exact hs.eventsOf_mono hguard.1.1

end

section
variable (hI : Intact calls c) (hs : Step gatewayEnv c t e c')
include hI hs

theorem Intact.step_minter (hC : FreshIds c t e) {u w : Nat} {id : PyStr}
    (hu : Minted id (eventsOf u c'.history)) (hw : Minted id (eventsOf w c'.history)) : u = w := by
  rcases hs.mem_eventsOf.mp hu with hu | ⟨rfl, he⟩ <;>
    rcases hs.mem_eventsOf.mp hw with hw | ⟨rfl, he'⟩
  · exact hI.minter u w id hu hw
  · exact absurd (mem_eventsOf.mp hu) (he' ▸ (hC id he'.symm).1 u)
  · exact absurd (mem_eventsOf.mp hw) (he ▸ (hC id he.symm).1 w)
  · rfl

theorem Intact.step_noIndex (hC : FreshIds c t e) {u : Nat} {id : PyStr}
    (hu : Minted id (eventsOf u c'.history)) (key : PyStr) :
    id ≠ ProposalStore.idemIndexKey key := by
  rcases hs.mem_eventsOf.mp hu with hu | ⟨rfl, he⟩
  · exact hI.noIndex u id hu key
  · exact (hC id he.symm).2 key

theorem Intact.step_reads {u : Nat} {key : PyStr} {v : KvValue}
    (hread : ⟨.store (.get key), .ok (some v)⟩ ∈ eventsOf u c'.history) :
    Origin c'.history key v := by
  rcases hs.mem_eventsOf.mp hread with hread | ⟨rfl, he⟩
  · exact (hI.reads u key v hread).mono hs
  · have hans := hs.answer
    rw [← he] at hans
    exact (hI.rows key v (row_get hans).symm).mono hs

theorem Intact.step_payloads {id : PyStr} {canonical : Dict}
    (hpayload : c'.state.payloads id = some canonical) :
    ∃ u, Froze id canonical (eventsOf u c'.history) := by
  have hold (h : c.state.payloads id = some canonical) :
      ∃ u, Froze id canonical (eventsOf u c'.history) := by
    obtain ⟨u, hu⟩ := hI.payloads id canonical h
    exact ⟨u, hs.eventsOf_mono hu⟩
  cases payloadStep hs.answer with
  | put k payload he hpayloads =>
      rw [hpayloads] at hpayload
      by_cases hk : id = k
      · subst hk
        rw [Function.update_self] at hpayload
        cases hpayload
        exact ⟨t, hs.mem_eventsOf.mpr (.inr ⟨rfl, he.symm⟩)⟩
      · rw [Function.update_of_ne hk] at hpayload
        exact hold hpayload
  | delete k he hpayloads =>
      rw [hpayloads] at hpayload
      by_cases hk : id = k
      · simp [hk] at hpayload
      · rw [Function.update_of_ne hk] at hpayload
        exact hold hpayload
  | other hpayloads => exact hold (hpayloads ▸ hpayload)

theorem Intact.step_loads {u : Nat} {id : PyStr} {canonical : Dict}
    (hload : ⟨.payloadGet id, .ok (some canonical)⟩ ∈ eventsOf u c'.history) :
    ∃ w, Froze id canonical (eventsOf w c'.history) := by
  have hold (h : c.state.payloads id = some canonical ∨
      ∃ w, Froze id canonical (eventsOf w c.history)) :
      ∃ w, Froze id canonical (eventsOf w c'.history) := by
    obtain ⟨w, hw⟩ := h.elim (hI.payloads id canonical) fun h => h
    exact ⟨w, hs.eventsOf_mono hw⟩
  rcases hs.mem_eventsOf.mp hload with hload | ⟨rfl, he⟩
  · exact hold (.inr (hI.loads u id canonical hload))
  · have hans := hs.answer
    rw [← he] at hans
    exact hold (.inl (payload_get hans).symm)

end

variable (hI : Intact calls c) (hG : ∀ u, Guarded (CallGuard P (calls u)) (eventsOf u c'.history))
  (hs : Step gatewayEnv c t e c')
include hI hG hs

/-- A row that is put is a record, with some status. -/
theorem Intact.put_record {key : PyStr} {v : KvValue}
    (he : e = ⟨.store (.put key v), .ok ()⟩) :
    ∃ p status, Recorded c'.history p ∧ key = p.proposalId ∧ v = (p.withStatus status).toDict := by
  have hguard := hs.guard (hG t)
  subst he
  have hput : (⟨.store (.put key v), .ok ()⟩ : GatewayEvent) ∈ eventsOf t c'.history :=
    hs.mem_eventsOf.mpr (.inr ⟨rfl, rfl⟩)
  cases hcall : calls t with
  | propose params =>
      rw [hcall] at hguard
      obtain ⟨⟨p, canonical, rfl, rfl, hminted, -⟩, -⟩ := hguard
      exact ⟨p, p.status, ⟨t, hs.eventsOf_mono hminted, hput⟩, rfl, rfl⟩
  | confirm | dispatch | expire =>
      -- a record is rewritten under the key it was read from
      rw [hcall] at hguard
      obtain ⟨raw, p, status, hread, hp, rfl⟩ := hguard
      obtain ⟨q, status', hq, rfl, rfl⟩ := (hI.reads t key raw hread).decoded hp
      exact ⟨q, status, hq.mono hs, rfl, rfl⟩

theorem Intact.step_rows {key : PyStr} {v : KvValue}
    (hrow : c'.state.store.kv key = some v) : Origin c'.history key v := by
  have hold (h : c.state.store.kv key = some v) : Origin c'.history key v :=
    (hI.rows key v h).mono hs
  -- a row that was written has the origin of the write
  have hwritten {k : PyStr} {w : KvValue} (ho : Origin c'.history k w)
      (hkv : c'.state.store.kv = Function.update c.state.store.kv k (some w)) :
      Origin c'.history key v := by
    rw [hkv] at hrow
    by_cases hk : key = k
    · subst hk
      rw [Function.update_self] at hrow
      cases hrow
      exact ho
    · rw [Function.update_of_ne hk] at hrow
      exact hold hrow
  cases rowStep hs.answer with
  | put k w he hkv =>
      obtain ⟨p, status, hp, rfl, rfl⟩ := hI.put_record hG hs he
      exact hwritten (.record p status hp) hkv
  | claim k w he _ hkv =>
      obtain ⟨key', id, hwon, rfl, rfl⟩ := claim_won hG hs he
      exact hwritten (.index t key' id hwon) hkv
  | delete k he hkv =>
      rw [hkv] at hrow
      by_cases hk : key = k
      · simp [hk] at hrow
      · rw [Function.update_of_ne hk] at hrow
        exact hold hrow
  | other hkv => exact hold (hkv ▸ hrow)

theorem Intact.step_keptRow (hC : FreshIds c t e) {u : Nat} {params : Dict} {p : Proposal}
    (hcall : calls u = .propose params) (hcreated : Created p (eventsOf u c'.history))
    (hkeep : ⟨.store (.delete p.proposalId), .ok ()⟩ ∉ eventsOf u c'.history) :
    c'.state.store.kv p.proposalId ≠ none := by
  have hans := hs.answer
  have hminted := (Guarded.created (Guarded.of_call (hG u) hcall) hcreated).1
  rcases hs.mem_eventsOf.mp hcreated with hcreated | ⟨rfl, he⟩
  · have hold : c.state.store.kv p.proposalId ≠ none :=
      hI.keptRow u params p hcall hcreated fun h => hkeep (hs.eventsOf_mono h)
    have hwritten (k : PyStr) (v : KvValue) :
        Function.update c.state.store.kv k (some v) p.proposalId ≠ none := by
      by_cases hk : p.proposalId = k
      · subst hk
        simp
      · rwa [Function.update_of_ne hk]
    cases rowStep hans with
    | put k v he hkv => exact hkv ▸ hwritten k v
    | claim k v he _ hkv => exact hkv ▸ hwritten k v
    | delete k he hkv =>
        -- only its own call deletes the record
        have hk : p.proposalId ≠ k := by
          intro hk
          obtain rfl := hI.step_minter hs hC (hk ▸ delete_minted hG hs he) hminted
          exact hkeep (hs.mem_eventsOf.mpr (.inr ⟨rfl, hk ▸ he.symm⟩))
        rwa [hkv, Function.update_of_ne hk]
    | other hkv => rwa [hkv]
  · rw [← he] at hans
    rw [row_put hans, Function.update_self]
    exact Option.some_ne_none _

theorem Intact.step_keptPayload (hC : FreshIds c t e) {u : Nat} {id : PyStr} {canonical : Dict}
    (hfroze : Froze id canonical (eventsOf u c'.history))
    (hkeep : ⟨.payloadDelete id, .ok ()⟩ ∉ eventsOf u c'.history) :
    c'.state.payloads id ≠ none := by
  have hans := hs.answer
  have hminted := (Guarded.froze (hG u) hfroze).1
  rcases hs.mem_eventsOf.mp hfroze with hfroze | ⟨rfl, he⟩
  · have hold : c.state.payloads id ≠ none :=
      hI.keptPayload u id canonical hfroze fun h => hkeep (hs.eventsOf_mono h)
    cases payloadStep hans with
    | put k payload he hpayloads =>
        rw [hpayloads]
        by_cases hk : id = k
        · subst hk
          simp
        · rwa [Function.update_of_ne hk]
    | delete k he hpayloads =>
        have hk : id ≠ k := by
          intro heq
          subst heq
          have hdropped : (⟨.payloadDelete id, .ok ()⟩ : GatewayEvent) ∈ eventsOf t c'.history :=
            hs.mem_eventsOf.mpr (.inr ⟨rfl, he.symm⟩)
          obtain rfl := hI.step_minter hs hC (Guarded.dropped (hG t) hdropped) hminted
          exact hkeep hdropped
        rwa [hpayloads, Function.update_of_ne hk]
    | other hpayloads => rwa [hpayloads]
  · rw [← he] at hans
    rw [payload_put hans, Function.update_self]
    exact Option.some_ne_none _

theorem Intact.step_index (hC : FreshIds c t e) {u : Nat} {key id : PyStr}
    (hwon : Won key id (eventsOf u c'.history)) :
    c'.state.store.kv (ProposalStore.idemIndexKey key) = some (.index id) := by
  have hans := hs.answer
  rcases hs.mem_eventsOf.mp hwon with hwon | ⟨rfl, he⟩
  · have hold := hI.index u key id hwon
    cases rowStep hans with
    | put k v he hkv =>
        obtain ⟨p, status, ⟨w, hminted, -⟩, rfl, -⟩ := hI.put_record hG hs he
        have hk := (hI.step_noIndex hs hC hminted key).symm
        rwa [hkv, Function.update_of_ne hk]
    | claim k v he hfree hkv =>
        -- a key that was won is not free
        have hk : ProposalStore.idemIndexKey key ≠ k := by
          intro heq
          subst heq
          rw [hold] at hfree
          cases hfree
        rwa [hkv, Function.update_of_ne hk]
    | delete k he hkv =>
        have hk := (hI.step_noIndex hs hC (delete_minted hG hs he) key).symm
        rwa [hkv, Function.update_of_ne hk]
    | other hkv => rwa [hkv]
  · rw [← he] at hans
    rw [row_claim hans, Function.update_self]

theorem Intact.step_gonePayload (hC : FreshIds c t e) {u : Nat} {id : PyStr}
    (hdropped : ⟨.payloadDelete id, .ok ()⟩ ∈ eventsOf u c'.history) :
    c'.state.payloads id = none := by
  have hans := hs.answer
  rcases hs.mem_eventsOf.mp hdropped with hbefore | ⟨rfl, he⟩
  · have hold := hI.gonePayload u id hbefore
    cases payloadStep hans with
    | put k payload he hpayloads =>
        -- the call that froze a payload under the id has not dropped it before
        have hk : id ≠ k := by
          intro heq
          subst heq
          have hfroze : Froze id payload (eventsOf t c'.history) :=
            hs.mem_eventsOf.mpr (.inr ⟨rfl, he.symm⟩)
          obtain ⟨hminted, params, -, hcall, -⟩ := Guarded.froze (hG t) hfroze
          obtain rfl := hI.step_minter hs hC hminted (Guarded.dropped (hG u) hdropped)
          exact Guarded.not_before (hG t) hs hcall hbefore (by simp [he, rank]) (by simp [he, rank])
        rwa [hpayloads, Function.update_of_ne hk]
    | delete k he hpayloads =>
        rw [hpayloads]
        by_cases hk : id = k
        · subst hk
          simp
        · rwa [Function.update_of_ne hk]
    | other hpayloads => rwa [hpayloads]
  · rw [← he] at hans
    rw [payload_delete hans, Function.update_self]

theorem Intact.step_goneRow (hC : FreshIds c t e)
    (hcalls : ∀ u, ∃ params, calls u = .propose params) {u : Nat} {id : PyStr}
    (hdeleted : ⟨.store (.delete id), .ok ()⟩ ∈ eventsOf u c'.history) :
    c'.state.store.kv id = none := by
  have hans := hs.answer
  have hminted : Minted id (eventsOf u c'.history) := Guarded.deleted (hG u) hdeleted
  rcases hs.mem_eventsOf.mp hdeleted with hbefore | ⟨rfl, he⟩
  · have hold := hI.goneRow hcalls u id hbefore
    cases rowStep hans with
    | put k v he hkv =>
        have hk : id ≠ k := by
          intro heq
          subst heq
          obtain ⟨params, hcall⟩ := hcalls t
          have hput : (⟨.store (.put id v), .ok ()⟩ : GatewayEvent) ∈ eventsOf t c'.history :=
            hs.mem_eventsOf.mpr (.inr ⟨rfl, he.symm⟩)
          obtain ⟨τ₁, hpre, p, canonical, -, -, hminted', -⟩ :=
            Guarded.founded (Guarded.of_call (hG t) hcall) hput
          obtain rfl := hI.step_minter hs hC (mem_of_before hpre hminted') hminted
          exact Guarded.not_before (hG t) hs hcall hbefore (by simp [he, rank]) (by simp [he, rank])
        rwa [hkv, Function.update_of_ne hk]
    | claim k v he _ hkv =>
        obtain ⟨key, id', -, rfl, -⟩ := claim_won hG hs he
        rwa [hkv, Function.update_of_ne (hI.step_noIndex hs hC hminted key)]
    | delete k he hkv =>
        rw [hkv]
        by_cases hk : id = k
        · subst hk
          simp
        · rwa [Function.update_of_ne hk]
    | other hkv => rwa [hkv]
  · rw [← he] at hans
    rw [row_delete hans, Function.update_self]

/-- **One step of the pool.** -/
theorem Intact.step (hC : FreshIds c t e) : Intact calls c' where
  minter := fun _ _ _ => hI.step_minter hs hC
  noIndex := fun _ _ h => hI.step_noIndex hs hC h
  rows := fun _ _ => hI.step_rows hG hs
  reads := fun _ _ _ => hI.step_reads hs
  payloads := fun _ _ => hI.step_payloads hs
  loads := fun _ _ _ => hI.step_loads hs
  keptRow := fun _ _ _ => hI.step_keptRow hG hs hC
  keptPayload := fun _ _ _ => hI.step_keptPayload hG hs hC
  index := fun _ _ _ => hI.step_index hG hs hC
  gonePayload := fun _ _ => hI.step_gonePayload hG hs hC
  goneRow := fun hcalls _ _ => hI.step_goneRow hG hs hC hcalls

end Step

theorem intact_start {P : Platform} {cfg : ProposalServiceConfig} {calls : Nat → GatewayCall} :
    Intact calls (pool P cfg calls) where
  minter := fun _ _ _ h => absurd h List.not_mem_nil
  noIndex := fun _ _ h => absurd h List.not_mem_nil
  rows := fun _ _ h => by cases h
  reads := fun _ _ _ h => absurd h List.not_mem_nil
  payloads := fun _ _ h => by cases h
  loads := fun _ _ _ h => absurd h List.not_mem_nil
  keptRow := fun _ _ _ _ h => absurd h List.not_mem_nil
  keptPayload := fun _ _ _ h => absurd h List.not_mem_nil
  index := fun _ _ _ h => absurd h List.not_mem_nil
  gonePayload := fun _ _ h => absurd h List.not_mem_nil
  goneRow := fun _ _ _ h => absurd h List.not_mem_nil

/-- **Every run keeps the stores intact.** -/
theorem Run.intact {P : Platform} {cfg : ProposalServiceConfig} {calls : Nat → GatewayCall}
    {c : GatewayPool} (h : Run gatewayEnv FreshIds (pool P cfg calls) c) : Intact calls c := by
  induction h with
  | start => exact intact_start
  | step h hC hs ih => exact ih.step (fun u => Run.guarded (h.step hC hs) u) hs hC

/-! ### What a call that keeps its proposal has in the stores -/

section Kept
variable {P : Platform} {calls : Nat → GatewayCall} {c : GatewayPool} {t : Nat} {params : Dict}
  {p q : Proposal} {id key : PyStr} {τ : List GatewayEvent}

/-- A call that won its claim takes nothing back. -/
theorem Guarded.keeps_of_won (h : Guarded (ProposeGuard P params) τ) (hwon : Won key id τ)
    (id' : PyStr) : (⟨.store (.delete id'), .ok ()⟩ : GatewayEvent) ∉ τ ∧
      (⟨.payloadDelete id', .ok ()⟩ : GatewayEvent) ∉ τ := by
  constructor
  · intro hdelete
    obtain ⟨τ₁, -, hbefore, -, hnone⟩ := h.before_of_rank hwon hdelete (by simp [rank]) (by simp [rank])
    exact hnone _ _ hbefore
  · intro hdrop
    obtain ⟨τ₁, -, hbefore, -, hnone⟩ := h.before_of_rank hwon hdrop (by simp [rank]) (by simp [rank])
    exact hnone _ _ hbefore

theorem Keeps.takes_nothing_back (h : Keeps p τ) (id' : PyStr) :
    (⟨.store (.delete id'), .ok ()⟩ : GatewayEvent) ∉ τ ∧
      (⟨.payloadDelete id', .ok ()⟩ : GatewayEvent) ∉ τ :=
  ⟨fun hmem => absurd (h.below _ hmem) (by simp [rank]),
    fun hmem => absurd (h.below _ hmem) (by simp [rank])⟩

/-- A call creates one record. -/
theorem Guarded.created_unique (h : Guarded (ProposeGuard P params) τ) (hp : Created p τ)
    (hq : Created q τ) : p = q := by
  have horder : Guarded (InOrder rank) τ := h.mono fun _ _ h => h.2
  have heq := horder.eq_of_rank hp hq rfl (by simp [rank])
  simp only [Event.mk.injEq, GatewayOp.store.injEq, StoreOp.put.injEq] at heq
  exact Proposal.toDict_injective heq.1.2

/-- And it freezes one payload. -/
theorem Guarded.froze_unique {canonical canonical' : Dict} (h : Guarded (ProposeGuard P params) τ)
    (hfroze : Froze id canonical τ) (hfroze' : Froze id canonical' τ) : canonical = canonical' := by
  have horder : Guarded (InOrder rank) τ := h.mono fun _ _ h => h.2
  have heq := horder.eq_of_rank hfroze hfroze' rfl (by simp [rank])
  simp only [Event.mk.injEq, GatewayOp.payloadPut.injEq] at heq
  exact heq.1.2

variable (hI : Intact calls c) (hG : ∀ u, Guarded (CallGuard P (calls u)) (eventsOf u c.history))
include hI hG

/-- The recorded proposal of an id is the one its minter created. -/
theorem Intact.recorded_unique (hp : Recorded c.history p) (hq : Recorded c.history q)
    (hid : p.proposalId = q.proposalId) : p = q := by
  obtain ⟨t, hmt, hct⟩ := hp
  obtain ⟨u, hmu, hcu⟩ := hq
  obtain rfl := hI.minter t u _ hmt (hid ▸ hmu)
  obtain ⟨params, -, hτ⟩ := Guarded.minted (hG t) hmt
  exact Guarded.created_unique hτ hct hcu

/-- A record that its call has not taken back is stored, with some status. -/
theorem Intact.row_of_created (hcall : calls t = .propose params)
    (hcreated : Created p (eventsOf t c.history))
    (hkeep : (⟨.store (.delete p.proposalId), .ok ()⟩ : GatewayEvent) ∉ eventsOf t c.history) :
    ∃ status, c.state.store.kv p.proposalId = some (p.withStatus status).toDict := by
  have hminted := (Guarded.created (Guarded.of_call (hG t) hcall) hcreated).1
  obtain ⟨v, hv⟩ := Option.ne_none_iff_exists'.mp (hI.keptRow t params p hcall hcreated hkeep)
  have horigin := hI.rows _ v hv
  generalize hid : p.proposalId = id at horigin
  cases horigin with
  | record q status hq =>
      obtain rfl := hI.recorded_unique hG hq ⟨t, hminted, hcreated⟩ hid.symm
      exact ⟨status, hid ▸ hv⟩
  | index u k id' hwon => exact absurd hid (hI.noIndex t _ hminted k)

/-- Whoever froze a payload under an id froze this one. -/
theorem Intact.froze_unique {u : Nat} {canonical canonical' : Dict}
    (hfroze : Froze id canonical (eventsOf t c.history))
    (hfroze' : Froze id canonical' (eventsOf u c.history)) : canonical = canonical' := by
  have hminted := (Guarded.froze (hG t) hfroze).1
  obtain rfl := hI.minter t u id hminted (Guarded.froze (hG u) hfroze').1
  obtain ⟨params, -, hτ⟩ := Guarded.minted (hG t) hminted
  exact Guarded.froze_unique hτ hfroze hfroze'

/-- So is its payload. -/
theorem Intact.payload_of_froze {canonical : Dict} (hfroze : Froze id canonical (eventsOf t c.history))
    (hkeep : (⟨.payloadDelete id, .ok ()⟩ : GatewayEvent) ∉ eventsOf t c.history) :
    c.state.payloads id = some canonical := by
  obtain ⟨canonical', hpayload⟩ :=
    Option.ne_none_iff_exists'.mp (hI.keptPayload t id canonical hfroze hkeep)
  obtain ⟨u, hfroze'⟩ := hI.payloads id canonical' hpayload
  rw [hpayload, hI.froze_unique hG hfroze hfroze']

/-- The call `u` keeps the record `q`. -/
structure Stands (calls : Nat → GatewayCall) (h : List (Nat × GatewayEvent)) (u : Nat)
    (q : Proposal) : Prop where
  call : ∃ params, calls u = .propose params
  created : Created q (eventsOf u h)
  kept : ∀ id, (⟨.store (.delete id), .ok ()⟩ : GatewayEvent) ∉ eventsOf u h ∧
    (⟨.payloadDelete id, .ok ()⟩ : GatewayEvent) ∉ eventsOf u h

omit hI in
theorem Stands.of_won {u : Nat} (hwon : Won key id (eventsOf u c.history)) :
    ∃ q, q.proposalId = id ∧ q.idempotencyKey = some key ∧ Stands calls c.history u q := by
  obtain ⟨q, hid, hkey, hcreated, hminted⟩ := Guarded.won (hG u) hwon
  obtain ⟨params, hcall, hτ⟩ := Guarded.minted (hG u) hminted
  exact ⟨q, hid, hkey, ⟨params, hcall⟩, hcreated, Guarded.keeps_of_won hτ hwon⟩

/-- **What a returned identifier stands for.** A call that returned either keeps the record
itself, or it read the record of the call that won its key. -/
theorem Intact.stands_of_end {key : Option PyStr} {r : PrepareEmailResult}
    (hcall : calls t = .propose params)
    (hend : ProposeEnd key (.ok r) (eventsOf t c.history)) : ∃ u q, Stands calls c.history u q ∧
      r = identifiers q ∧ ∀ k, key = some k → Won k q.proposalId (eventsOf u c.history) := by
  obtain ⟨p, rfl, ⟨hkey, hkeeps⟩ | ⟨k, rfl, entry, raw, hentry, hraw, hp⟩⟩ := hend.returned r rfl
  · exact ⟨t, p, ⟨⟨params, hcall⟩, hkeeps.created, hkeeps.takes_nothing_back⟩, rfl,
      fun k hk => hkeeps.won k (hkey.trans hk)⟩
  · -- the index entry is that of a winner
    have hindex := hI.reads t _ _ hentry
    generalize hx : ProposalStore.idemIndexKey k = x at hindex
    cases hindex with
    | record q status hq =>
        obtain ⟨u, hminted, -⟩ := hq
        exact absurd hx.symm (hI.noIndex u _ hminted k)
    | index u k' id hwon =>
        obtain rfl := ProposalStore.idemIndexKey_injective hx
        obtain ⟨q, hid, hkey, hstands⟩ := Stands.of_won hG hwon
        -- and the row it names is that winner's record
        obtain ⟨q', status, hq', hid', rfl⟩ := (hI.reads t _ _ hraw).decoded hp
        obtain ⟨params', hcall'⟩ := hstands.call
        have hminted := (Guarded.created (Guarded.of_call (hG u) hcall') hstands.created).1
        obtain rfl := hI.recorded_unique hG hq' ⟨u, hminted, hstands.created⟩
          (hid'.symm.trans hid.symm)
        refine ⟨u, q', hstands, rfl, fun k' hk' => ?_⟩
        cases hk'
        rwa [hid]

end Kept

/-! ### Runs of the gateway -/

/-- Collaborators that never fail. The factory names the call; the mail client accepts. -/
def reliableGateway (t : Nat) (s : GatewayState) : (o : GatewayOp) → Except Exc o.Ret × GatewayState
  | .store o =>
      ((s.store.perform 1 (.ok { kind := .accepted }) o).1,
        { s with store := (s.store.perform 1 (.ok { kind := .accepted }) o).2 })
  | .payloadGet key => (.ok (s.payloads key), s)
  | .payloadPut key canonical =>
      (.ok (), { s with payloads := Function.update s.payloads key (some canonical) })
  | .payloadDelete key => (.ok (), { s with payloads := Function.update s.payloads key none })
  | .newProposalId => (.ok (str "p" ++ natDecimal t), s)
  | .newMessageId => (.ok .none, s)
  | .deliver _ => (.ok { kind := .accepted }, s)

theorem reliableGateway_env (t : Nat) (s : GatewayState) (o : GatewayOp) :
    gatewayEnv s o (reliableGateway t s o).1 (reliableGateway t s o).2 := by
  cases o with
  | store o => exact ⟨_, s.store.perform_env _ 1 _ o, rfl⟩
  | payloadGet key => exact ⟨rfl, rfl⟩
  | payloadPut | payloadDelete | newProposalId | newMessageId | deliver => rfl

/-- `FreshIds`, tested. -/
def freshIds (c : GatewayPool) : GatewayEvent → Bool
  | ⟨.newProposalId, .ok id⟩ => id.take 5 ≠ str "idem:" && c.history.all fun x =>
      match x.2 with
      | ⟨.newProposalId, .ok id'⟩ => id' ≠ id
      | _ => true
  | _ => true

theorem freshIds_sound {c : GatewayPool} {t : Nat} {e : GatewayEvent}
    (h : freshIds c e = true) : FreshIds c t e := by
  rintro id rfl
  simp only [freshIds, Bool.and_eq_true, decide_eq_true_eq, List.all_eq_true] at h
  constructor
  · intro u hu
    simpa using h.2 _ hu
  · rintro key rfl
    exact h.1 (by simp [ProposalStore.idemIndexKey, str])

/-- The configuration a schedule of the calls leads to. -/
def scheduled (P : Platform) (cfg : ProposalServiceConfig) (calls : Nat → GatewayCall)
    (ts : List Nat) : GatewayPool := (pool P cfg calls).schedule reliableGateway ts

/-- Such a schedule is a run. -/
theorem scheduled_run {P : Platform} {cfg : ProposalServiceConfig} {calls : Nat → GatewayCall}
    {ts : List Nat} (h : (pool P cfg calls).passes reliableGateway (fun c _ => freshIds c) ts = true) :
    Run gatewayEnv FreshIds (pool P cfg calls) (scheduled P cfg calls ts) :=
  Config.schedule_of_passes reliableGateway_env (fun _ _ _ _ => freshIds_sound) ts _ .start h

/-- What `propose` returned in a thread. -/
def proposed? : Proc GatewaySig Exc GatewayResult → Option PrepareEmailResult
  | .ret (.proposed result) => some result
  | _ => none

theorem proposed?_eq_some {p : Proc GatewaySig Exc GatewayResult} {result : PrepareEmailResult} :
    proposed? p = some result ↔ p = .ret (.proposed result) := by
  unfold proposed?
  split <;> simp_all

/-- An action to be sent as text. -/
def sampleAction (subject : String) : Dict :=
  [(str "account_handle", .str (str "me")), (str "to", .list [.str (str "you")]),
    (str "subject", .str (str subject)),
    (str "body", .dict [(str "format", .str (str "text")), (str "content", .str (str "hi"))]),
    (str "idempotency_key", .str (str "k"))]

/-- A gateway without Message-IDs. -/
def sampleServiceConfig : ProposalServiceConfig where
  ttlSeconds := 60
  mintsMessageId := false
  requireMessageId := false

end ProposalService

end GmailGateway
