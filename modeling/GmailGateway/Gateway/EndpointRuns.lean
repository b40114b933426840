import GmailGateway.Gateway.EndpointCalls
import GmailGateway.Gateway.Idempotency

/-!
# GmailGateway.Gateway.EndpointRuns

**The endpoint is the proposal service.** Requests are served concurrently, one thread each.
Without the operations on the connections, a run of the endpoint is a run of calls (`run_served`):
what holds of the stores in every run of calls holds behind the endpoint, and the answers of a run
agree with the stores and with each other.
-/

namespace GmailGateway

open Effect Proc Python

namespace ProposalServer

open ProposalService

/-- The calls that are made of requests with these bodies. -/
abbrev callsOf (server : ProposalServer) (requests : Nat → HttpRequest) (bodies : Nat → Bytes)
    (t : Nat) : GatewayCall :=
  callOf server (requests t) (bodies t)

/-- They, about to start. -/
def served (server : ProposalServer) (requests : Nat → HttpRequest) (bodies : Nat → Bytes)
    (s : GatewayState) : GatewayPool :=
  .start s fun t => (callsOf server requests bodies t).run server.platform server.config

/-- A configuration of the threads that serve requests. -/
abbrev EndpointPool := Config ServerSig Exc Unit GatewayState

/-- One thread for each request. -/
def endpoint (server : ProposalServer) (requests : Nat → HttpRequest) (s : GatewayState) :
    EndpointPool :=
  .start s fun t => handle server (requests t)

/-- The clients send these bodies, and the factory's answers are fresh. -/
structure Serving (bodies : Nat → Bytes) (c : EndpointPool) (t : Nat) (e : ServerEvent) : Prop where
  sends : Sends (bodies t) e
  fresh : ∀ id, e = ⟨.gateway .newProposalId, .ok id⟩ → (∀ u, (u, e) ∉ c.history) ∧
    ∀ key, id ≠ ProposalStore.idemIndexKey key

/-! ### Two posts and a status request -/

section Sample

/-- It reads every body as one action. -/
def sampleEndpoint : ProposalServer where
  library :=
    { urlPath := fun url => .ok url
      int := fun s => if s = str "0" then some 0 else some 1
      loads := fun _ => .ok (.dict (sampleAction "s")) }
  platform := samplePlatform
  config := { ttlSeconds := 60, mintsMessageId := true, requireMessageId := true }
  sessionBearer := str "t"

/-- The body of the sample requests. -/
def sampleBody : Bytes := [0x7B]

/-- Two agents post, a third one asks for what the first was answered. -/
def sampleRequests : Nat → HttpRequest
  | 0 | 1 =>
      { command := str "POST", path := str "/proposal", authorization := some (str "Bearer t")
        contentLength := some (str "1") }
  | _ => getProposal (str "p0")

/-- Collaborators and connections that never fail. -/
def reliableServer (t : Nat) (s : GatewayState) : (o : ServerOp) → Except Exc o.Ret × GatewayState
  | .gateway .newMessageId => (.ok (.str (str "<m@d>")), s)
  | .gateway o => reliableGateway t s o
  | .readBody n => (.ok (sampleBody.take n.toNat), s)
  | .json _ _ => (.ok (), s)

theorem reliableServer_env (t : Nat) (s : GatewayState) (o : ServerOp) :
    serverEnv s o (reliableServer t s o).1 (reliableServer t s o).2 := by
  cases o with
  | gateway gatewayOp =>
      cases gatewayOp with
      | store o => exact reliableGateway_env t s (.store o)
      | payloadGet key => exact ⟨rfl, rfl⟩
      | payloadPut | payloadDelete | newProposalId | newMessageId | deliver => rfl
  | readBody n => rfl
  | json status payload => rfl

/-- `Serving`, tested. -/
def servingTest (c : EndpointPool) : ServerEvent → Bool
  | ⟨.gateway .newProposalId, .ok id⟩ => id.take 5 ≠ str "idem:" && c.history.all fun x =>
      match x.2 with
      | ⟨.gateway .newProposalId, .ok id'⟩ => id' ≠ id
      | _ => true
  | ⟨.readBody n, .ok b⟩ => b = sampleBody.take n.toNat
  | _ => true

theorem servingTest_sound {c : EndpointPool} {t : Nat} {e : ServerEvent}
    (h : servingTest c e = true) : Serving (fun _ => sampleBody) c t e := by
  constructor
  · rintro n b rfl
    simpa [servingTest] using h
  · rintro id rfl
    simp only [servingTest, Bool.and_eq_true, decide_eq_true_eq, List.all_eq_true] at h
    constructor
    · intro u hu
      simpa using h.2 _ hu
    · rintro key rfl
      exact h.1 (by simp [ProposalStore.idemIndexKey, str])

/-- The second post loses the key to the first, and takes its proposal back. -/
def sampleServed : EndpointPool :=
  (endpoint sampleEndpoint sampleRequests .empty).schedule reliableServer
    (List.replicate 5 0 ++ List.replicate 5 1 ++ List.replicate 6 0 ++ List.replicate 12 1 ++
      List.replicate 2 2)

theorem sampleServed_run : Run serverEnv (Serving fun _ => sampleBody)
    (endpoint sampleEndpoint sampleRequests .empty) sampleServed :=
  Config.schedule_of_passes reliableServer_env (fun _ _ _ _ => servingTest_sound) _ _ .start
    (by decide +kernel)

/-- What the winner's key stands for. -/
def sampleResult : PrepareEmailResult := ⟨str "p0", str "207", 61⟩

/-- The thread has answered 200 with the payload. -/
def hasGranted (c : EndpointPool) (t : Nat) (payload : PyVal) : Bool :=
  c.history.any fun x =>
    match x with
    | (u, ⟨.json status answered, .ok _⟩) => u = t && status = 200 && answered = payload
    | _ => false

theorem mem_of_hasGranted {c : EndpointPool} {t : Nat} {payload : PyVal}
    (h : hasGranted c t payload = true) :
    ⟨.json 200 payload, .ok ()⟩ ∈ eventsOf t c.history := by
  obtain ⟨⟨u, o, r⟩, hmem, hx⟩ := List.any_eq_true.mp h
  cases o with
  | json status answered =>
      cases r with
      | ok a =>
          simp only [Bool.and_eq_true, decide_eq_true_eq] at hx
          obtain ⟨⟨rfl, rfl⟩, rfl⟩ := hx
          exact mem_eventsOf.mpr hmem
      | error e => cases hx
  | gateway o => cases hx
  | readBody n => cases hx

/-- A proposal under the key of the sample requests. -/
def sampleProposal : Proposal where
  proposalId := str "p0"
  payloadDigest := str "207"
  expiresAt := 61
  createdAt := 1
  status := .pending
  idempotencyKey := some (str "k")

theorem sampleServed_grants : hasGranted sampleServed 1 sampleResult.toDict = true ∧
    hasGranted sampleServed 2 sampleProposal.auditView = true := by
  decide +kernel

end Sample


section Runs
variable {server : ProposalServer} {requests : Nat → HttpRequest} {bodies : Nat → Bytes}
  {s : GatewayState} {c : EndpointPool} {t u : Nat}

/-! ### Runs of calls -/

theorem view_eq_some {e : ServerEvent} {e' : GatewayEvent} (he : view e = some e') :
    e = ⟨.gateway e'.op, e'.ans⟩ := by
  obtain ⟨o, r⟩ := e
  cases o with
  | gateway gatewayOp =>
      cases he
      rfl
  | readBody n => cases he
  | json status payload => cases he

theorem serverEnv_shown {s s' : GatewayState} {e : ServerEvent} {e' : GatewayEvent}
    (h : serverEnv s e.op e.ans s') (he : view e = some e') : gatewayEnv s e'.op e'.ans s' := by
  obtain rfl := view_eq_some he
  exact h

theorem serverEnv_hidden {s s' : GatewayState} {e : ServerEvent} (h : serverEnv s e.op e.ans s')
    (he : view e = none) : s' = s := by
  obtain ⟨o, r⟩ := e
  cases o with
  | gateway gatewayOp => cases he
  | readBody n => exact h
  | json status payload => exact h

theorem fresh_of_serving {d : GatewayPool} {e : ServerEvent} {e' : GatewayEvent}
    (h : Serving bodies c t e) (he : view e = some e')
    (hhistory : d.history = viewed view c.history) : FreshIds d t e' := by
  rintro id rfl
  obtain rfl := view_eq_some he
  obtain ⟨hnew, hindex⟩ := h.fresh id rfl
  refine ⟨fun u hmem => ?_, hindex⟩
  rw [hhistory] at hmem
  obtain ⟨e, hmem, he⟩ := mem_viewed.mp hmem
  rw [view_eq_some he] at hmem
  exact hnew u hmem

/-- **A run of the endpoint, viewed**, is a run of calls. -/
theorem run_viewed {C : EndpointPool → Nat → ServerEvent → Prop}
    {D : GatewayPool → Nat → GatewayEvent → Prop} (hconfirm : server.confirm = none)
    (hsends : ∀ c t e, C c t e → Sends (bodies t) e)
    (hD : ∀ c d t e e', C c t e → view e = some e' →
      Config.history d = viewed view c.history → D d t e')
    (h : Run serverEnv C (endpoint server requests s) c) :
    ∃ d, Run gatewayEnv D (served server requests bodies s) d ∧ d.state = c.state ∧
      d.history = viewed view c.history := by
  have hthreads : ∀ t, Refines view (Sends (bodies t)) ((endpoint server requests s).threads t)
      ((served server requests bodies s).threads t) := fun t => handle_refines hconfirm
  obtain ⟨d, hrun, hstate, hhistory, -⟩ := h.viewed (f := fun s => s)
    (fun _ _ _ _ => serverEnv_shown) (fun _ _ _ => serverEnv_hidden) hsends hD rfl rfl hthreads
  exact ⟨d, hrun, hstate, hhistory⟩

theorem run_served (hconfirm : server.confirm = none)
    (h : Run serverEnv (Serving bodies) (endpoint server requests s) c) :
    ∃ d, Run gatewayEnv FreshIds (served server requests bodies s) d ∧ d.state = c.state ∧
      d.history = viewed view c.history :=
  run_viewed hconfirm (fun _ _ _ h => h.sends)
    (fun _ _ _ _ _ hC he hhistory => fresh_of_serving hC he hhistory) h

/-- Each thread keeps to the guard of its call. -/
theorem run_guarded {C : EndpointPool → Nat → ServerEvent → Prop} (hconfirm : server.confirm = none)
    (hsends : ∀ c t e, C c t e → Sends (bodies t) e)
    (h : Run serverEnv C (endpoint server requests s) c) (t : Nat) :
    Guarded (CallGuard server.platform (callsOf server requests bodies t))
      ((eventsOf t c.history).filterMap view) := by
  obtain ⟨d, hrun, -, hhistory⟩ := run_viewed (D := anyStep) hconfirm hsends
    (fun _ _ _ _ _ _ _ _ => trivial) h
  rw [← eventsOf_viewed, ← hhistory]
  exact (hrun.localEvents (fun _ _ _ _ _ => trivial) (fun _ => .nil) rfl
    (fun u => call_protocol (callsOf server requests bodies u)) t).1

/-- What the threads have answered. -/
theorem run_grants (hconfirm : server.confirm = none)
    (h : Run serverEnv (Serving bodies) (endpoint server requests s) c) (t : Nat) :
    Grants server (requests t) (bodies t) (eventsOf t c.history) :=
  (h.localAnswers (fun _ _ _ hC => hC.sends)
    (fun _ _ _ hmem => absurd hmem List.not_mem_nil) rfl
    (fun _ => handle_grants hconfirm) t).1

/-! ### Pending proposals -/

/-- An index entry or a pending record. -/
def PendingRow (v : KvValue) : Prop :=
  (∃ id, v = .index id) ∨ ∃ p : Proposal, v = p.toDict ∧ p.status = .pending

theorem PendingRow.decoded {v : KvValue} {p : Proposal} (h : PendingRow v)
    (hp : Proposal.fromDict v = .ok p) : p.status = .pending := by
  rcases h with ⟨id, rfl⟩ | ⟨q, rfl, hq⟩
  · cases hp
  · rw [Proposal.fromDict_toDict] at hp
    cases hp
    exact hq

/-- The rows that are stored, and those that were ever read. -/
structure PendingOnly (c : EndpointPool) : Prop where
  rows : ∀ key v, c.state.store.kv key = some v → PendingRow v
  reads : ∀ t key v, (t, ⟨.gateway (.store (.get key)), .ok (some v)⟩) ∈ c.history → PendingRow v

theorem pendingRow_step {s s' : GatewayState} {e : GatewayEvent} (he : ProposeWrite e.op)
    (h : ∀ key v, s.store.kv key = some v → PendingRow v) (hw : gatewayEnv s e.op e.ans s') :
    ∀ key v, s'.store.kv key = some v → PendingRow v := by
  have hupdate : ∀ (key : PyStr) (v : KvValue), PendingRow v →
      s'.store.kv = Function.update s.store.kv key (some v) →
      ∀ key' v', s'.store.kv key' = some v' → PendingRow v' := by
    intro key v hrow hkv key' v' hv'
    rw [hkv, Function.update_apply] at hv'
    split at hv'
    · cases hv'
      exact hrow
    · exact h key' v' hv'
  cases rowStep hw with
  | put key v heq hkv =>
      subst heq
      exact hupdate key v (.inr he) hkv
  | claim key v heq _ hkv =>
      subst heq
      exact hupdate key v (.inl he) hkv
  | delete key _ hkv =>
      intro key' v' hv'
      rw [hkv, Function.update_apply] at hv'
      split at hv'
      · cases hv'
      · exact h key' v' hv'
  | other hkv _ _ _ => exact fun key v hv => h key v (hkv ▸ hv)

theorem run_pendingOnly (hconfirm : server.confirm = none)
    (h : Run serverEnv (Serving bodies) (endpoint server requests .empty) c) : PendingOnly c := by
  have hwrites : ∀ {c}, Run serverEnv (Serving bodies) (endpoint server requests .empty) c →
      ∀ x ∈ c.history, RequestWrite x.2.op := fun h =>
    (h.performs (P := fun _ => RequestWrite) (fun _ => handle_requestWrite hconfirm) rfl).1
  induction h with
  | start => exact ⟨fun _ _ h => (by cases h), fun _ _ _ h => absurd h List.not_mem_nil⟩
  | @step c t e c' hrun hC hs ih =>
      have hop := hwrites (hrun.step hC hs) (t, e) (by simp [hs.history_eq])
      have hans := hs.answer
      constructor
      · cases hview : view e with
        | none =>
            rw [serverEnv_hidden hans hview]
            exact ih.rows
        | some e' =>
            obtain rfl := view_eq_some hview
            exact pendingRow_step hop ih.rows hans
      · intro u key v hmem
        rw [hs.history_eq] at hmem
        rcases List.mem_append.mp hmem with hmem | hmem
        · exact ih.reads u key v hmem
        · cases List.mem_singleton.mp hmem
          have hread := row_get (s := c.state) hans
          exact ih.rows key v hread.symm

/-! ### Answers -/

/-- The proposal that a run of calls keeps for a `POST` that was granted. -/
theorem stands_of_granted {d : GatewayPool} {P : Platform}
    (hI : Intact (callsOf server requests bodies) d)
    (hG : ∀ u, Guarded (CallGuard P (callsOf server requests bodies u)) (eventsOf u d.history))
    (hpost : (requests t).command = str "POST") {payload : PyVal}
    (hgranted : Granted server (requests t) (bodies t) payload (eventsOf t d.history)) :
    ∃ params key result u q, paramsOf server (received server (requests t) (bodies t)) =
        some params ∧ idempotencyKey params = .ok key ∧ payload = result.toDict ∧
      Stands (callsOf server requests bodies) d.history u q ∧ result = identifiers q ∧
      (∀ k, key = some k → Won k q.proposalId (eventsOf u d.history)) ∧
      ProposeEnd key (.ok result) (eventsOf t d.history) := by
  cases hgranted with
  | viewed hcommand => exact absurd hpost hcommand
  | @proposed params result _ hcommand hparams hends =>
      obtain ⟨key, hkey⟩ := hends.keyed result rfl
      have hcall : callsOf server requests bodies t = .propose params := by
        simp [callsOf, callOf, hcommand, hparams]
      obtain ⟨u, q, hstands, hq, hwon⟩ := hI.stands_of_end hG hcall (hends.ended key hkey)
      exact ⟨params, key, result, u, q, hparams, hkey, rfl, hstands, hq, hwon, hends.ended key hkey⟩

theorem stands_recorded {d : GatewayPool} {P : Platform} {calls : Nat → GatewayCall} {q : Proposal}
    (hG : ∀ u, Guarded (CallGuard P (calls u)) (eventsOf u d.history))
    (h : Stands calls d.history u q) : Recorded d.history q := by
  obtain ⟨params, hcall⟩ := h.call
  exact ⟨u, (Guarded.created (Guarded.of_call (hG u) hcall) h.created).1, h.created⟩

/-- The row of a kept proposal is pending. -/
theorem PendingOnly.stands {d : GatewayPool} {P : Platform} {q : Proposal} (h : PendingOnly c)
    (hI : Intact (callsOf server requests bodies) d)
    (hG : ∀ u, Guarded (CallGuard P (callsOf server requests bodies u)) (eventsOf u d.history))
    (hstate : d.state = c.state) (hstands : Stands (callsOf server requests bodies) d.history u q) :
    ∃ p, c.state.store.proposal? q.proposalId = some p ∧ p.status = .pending ∧
      identifiers p = identifiers q := by
  obtain ⟨params, hcall⟩ := hstands.call
  obtain ⟨status, hrow⟩ := hI.row_of_created hG hcall hstands.created (hstands.kept _).1
  rw [hstate] at hrow
  have hread := Proposal.fromDict_toDict (q.withStatus status)
  refine ⟨q.withStatus status, ?_, (h.rows _ _ hrow).decoded hread, rfl⟩
  rw [StoreState.proposal?, hrow, Option.bind_some, hread]
  rfl

/-- Without a key a call freezes what its parameters say. -/
theorem frozen_of_end {d : GatewayPool} {P : Platform} {calls : Nat → GatewayCall} {params : Dict}
    {result : PrepareEmailResult} (hI : Intact calls d)
    (hG : ∀ u, Guarded (CallGuard P (calls u)) (eventsOf u d.history))
    (hcall : calls t = .propose params)
    (hend : ProposeEnd none (.ok result) (eventsOf t d.history)) :
    ∃ canonical messageId, d.state.payloads result.proposalId = some canonical ∧
      buildCanonicalPayload (.dict params) messageId = .ok canonical := by
  obtain ⟨p, rfl, ⟨-, hkeeps⟩ | ⟨k, hk, -⟩⟩ := hend.returned result rfl
  · obtain ⟨-, canonical, hfroze, -⟩ :=
      Guarded.created (Guarded.of_call (hG t) hcall) hkeeps.created
    obtain ⟨-, params', messageId, hcall', hbuilt⟩ := Guarded.froze (hG t) hfroze
    cases hcall.symm.trans hcall'
    exact ⟨canonical, messageId,
      hI.payload_of_froze hG hfroze (hkeeps.takes_nothing_back _).2, hbuilt⟩
  · cases hk

theorem toDict_injective {r r' : PrepareEmailResult} (h : r.toDict = r'.toDict) : r = r' := by
  cases r
  cases r'
  simp [PrepareEmailResult.toDict] at h
  simp [h]

/-- **Answers stand.** Once a `POST` was answered with a proposal, at every later point of the run
the record is stored, pending and with these identifiers, and so is the payload, with the digest
that was answered. Without an idempotency key it is the canonical form of what was posted. -/
theorem run_answers_stand (hconfirm : server.confirm = none)
    (h : Run serverEnv (Serving bodies) (endpoint server requests .empty) c) {payload : PyVal}
    {r : Except Exc Unit} (hanswer : ⟨.json 200 payload, r⟩ ∈ eventsOf t c.history)
    (hpost : (requests t).command = str "POST") :
    ∃ params result, paramsOf server (received server (requests t) (bodies t)) = some params ∧
      payload = result.toDict ∧
      Faithful server.platform c.state result.proposalId result.payloadDigest ∧
      (∃ p, c.state.store.proposal? result.proposalId = some p ∧ p.status = .pending ∧
        identifiers p = result) ∧
      (idempotencyKey params = .ok none → ∃ canonical messageId,
        c.state.payloads result.proposalId = some canonical ∧
          buildCanonicalPayload (.dict params) messageId = .ok canonical) := by
  obtain ⟨d, hrun, hstate, hhistory⟩ := run_served hconfirm h
  have hI := Run.intact hrun
  have hG := Run.guarded hrun
  have hgranted := run_grants hconfirm h t payload r hanswer
  rw [← eventsOf_viewed, ← hhistory] at hgranted
  obtain ⟨params, key, result, u, q, hparams, hkey, rfl, hstands, hq, -, hend⟩ :=
    stands_of_granted hI hG hpost hgranted
  refine ⟨params, result, hparams, rfl, ?_, ?_, fun hnone => ?_⟩
  · rw [hq, ← hstate]
    exact hI.faithful hG hstands
  · rw [hq]
    exact (run_pendingOnly hconfirm h).stands hI hG hstate hstands
  · cases hkey.symm.trans hnone
    have hcall : callsOf server requests bodies t = .propose params := by
      simp [callsOf, callOf, hpost, hparams]
    rw [← hstate]
    exact frozen_of_end hI hG hcall hend

/-- For example the answer to the post that lost the key. -/
theorem run_answers_stand_lost :
    Faithful samplePlatform sampleServed.state (str "p0") (str "207") := by
  obtain ⟨_, result, -, heq, hfaithful, -⟩ := run_answers_stand rfl sampleServed_run
    (mem_of_hasGranted sampleServed_grants.1) rfl
  obtain rfl := toDict_injective heq
  exact hfaithful

/-- **Answers agree.** Two `POST`s with one idempotency key are answered the same, and a `GET` of
an id that a `POST` was answered shows that proposal, pending. -/
theorem run_answers_agree (hconfirm : server.confirm = none)
    (h : Run serverEnv (Serving bodies) (endpoint server requests .empty) c)
    {payload payload' : PyVal} {r r' : Except Exc Unit}
    (hanswer : ⟨.json 200 payload, r⟩ ∈ eventsOf t c.history)
    (hanswer' : ⟨.json 200 payload', r'⟩ ∈ eventsOf u c.history)
    (hpost : (requests t).command = str "POST") :
    ((requests u).command = str "POST" → ∀ params params' key,
      paramsOf server (received server (requests t) (bodies t)) = some params →
      paramsOf server (received server (requests u) (bodies u)) = some params' →
      idempotencyKey params = .ok (some key) → idempotencyKey params' = .ok (some key) →
        payload' = payload) ∧
    ((requests u).command ≠ str "POST" → ∀ result, payload = PrepareEmailResult.toDict result →
      namedId server (requests u) = result.proposalId →
        ∃ p, payload' = p.auditView ∧ p.status = .pending ∧ identifiers p = result) := by
  obtain ⟨d, hrun, hstate, hhistory⟩ := run_served hconfirm h
  have hI := Run.intact hrun
  have hG := Run.guarded hrun
  have hgranted := run_grants hconfirm h t payload r hanswer
  have hgranted' := run_grants hconfirm h u payload' r' hanswer'
  rw [← eventsOf_viewed, ← hhistory] at hgranted hgranted'
  obtain ⟨params, key, result, w, q, hparams, hkey, rfl, hstands, hq, hwon, -⟩ :=
    stands_of_granted hI hG hpost hgranted
  constructor
  · intro hpost' params₁ params₂ k hparams₁ hparams₂ hk hk'
    obtain ⟨params', key', result', w', q', hparams', hkey', rfl, hstands', hq', hwon', -⟩ :=
      stands_of_granted hI hG hpost' hgranted'
    cases hparams.symm.trans hparams₁
    cases hparams'.symm.trans hparams₂
    cases hkey.symm.trans hk
    cases hkey'.symm.trans hk'
    have hid : q'.proposalId = q.proposalId := hI.won_unique (hwon' _ rfl) (hwon _ rfl)
    rw [hq, hq', hI.recorded_unique hG (stands_recorded hG hstands')
      (stands_recorded hG hstands) hid]
  · intro hget result₁ heq hnamed
    obtain rfl := toDict_injective heq
    cases hgranted' with
    | proposed hcommand => exact absurd hcommand hget
    | @viewed raw p _ _ hread hdecoded =>
        obtain ⟨q', status, hq', hid, rfl⟩ := (hI.reads u _ _ hread).decoded hdecoded
        have hsame : q' = q := hI.recorded_unique hG hq' (stands_recorded hG hstands)
          (hid.symm.trans (hnamed.trans (congrArg PrepareEmailResult.proposalId hq)))
        subst hsame
        refine ⟨q'.withStatus status, rfl, ?_, hq.symm⟩
        have hmem : (u, ⟨.store (.get (namedId server (requests u))), .ok (some raw)⟩) ∈
            d.history := mem_eventsOf.mp hread
        rw [hhistory] at hmem
        obtain ⟨e, hmem, he⟩ := mem_viewed.mp hmem
        rw [view_eq_some he] at hmem
        exact ((run_pendingOnly hconfirm h).reads _ _ _ hmem).decoded hdecoded

/-- For example what the third agent asks for. -/
theorem run_answers_agree_shown : ∃ p : Proposal, sampleProposal.auditView = p.auditView ∧
    p.status = .pending ∧ identifiers p = sampleResult :=
  (run_answers_agree rfl sampleServed_run (mem_of_hasGranted sampleServed_grants.1)
    (mem_of_hasGranted sampleServed_grants.2) rfl).2 (by decide) sampleResult rfl (by decide)

/-! ### What was there before -/

/-- The clients send these bodies, and the factory's answers are new to the stores `s`. -/
structure ServingNew (s : GatewayState) (bodies : Nat → Bytes) (t : Nat) (e : ServerEvent) :
    Prop where
  sends : Sends (bodies t) e
  fresh : ∀ id, e = ⟨.gateway .newProposalId, .ok id⟩ → s.store.kv id = none ∧ s.payloads id = none

/-- What was in the stores is there unchanged; nothing was sent, and nothing was audited. -/
structure Untouched (s s' : GatewayState) : Prop where
  rows : ∀ key v, s.store.kv key = some v → s'.store.kv key = some v
  payloads : ∀ id canonical, s.payloads id = some canonical → s'.payloads id = some canonical
  ledger : s'.store.ledger = s.store.ledger
  sends : s'.store.sends = s.store.sends

theorem Untouched.refl (s : GatewayState) : Untouched s s :=
  ⟨fun _ _ h => h, fun _ _ h => h, rfl, rfl⟩

theorem ledger_step {s s' : GatewayState} {e : GatewayEvent} (he : ProposeWrite e.op)
    (h : gatewayEnv s e.op e.ans s') :
    s'.store.ledger = s.store.ledger ∧ s'.store.sends = s.store.sends := by
  obtain ⟨o, r⟩ := e
  cases o with
  | store o =>
      obtain ⟨t, ht, rfl⟩ := h
      cases o with
      | append event => exact absurd he id
      | send proposalId => exact absurd he id
      | get key => cases r <;> rw [show t = _ from ht.2] <;> exact ⟨rfl, rfl⟩
      | claim key v =>
          cases r with
          | error x => rw [show t = _ from ht.2]; exact ⟨rfl, rfl⟩
          | ok won => cases won <;> rw [show t = _ from ht.2] <;> exact ⟨rfl, rfl⟩
      | put key v =>
          cases r with
          | error x => rw [show t = _ from ht.2]; exact ⟨rfl, rfl⟩
          | ok u => rw [show t = _ from ht]; exact ⟨rfl, rfl⟩
      | delete key =>
          cases r with
          | error x => rw [show t = _ from ht.2]; exact ⟨rfl, rfl⟩
          | ok u => rw [show t = _ from ht]; exact ⟨rfl, rfl⟩
      | now =>
          cases r with
          | error x => rw [show t = _ from ht.2]; exact ⟨rfl, rfl⟩
          | ok u => rw [show t = _ from ht]; exact ⟨rfl, rfl⟩
  | payloadGet key => exact absurd he id
  | deliver canonical => exact absurd he id
  | payloadPut | payloadDelete | newProposalId | newMessageId =>
      cases r <;> rw [show s' = _ from h] <;> exact ⟨rfl, rfl⟩

/-- A call of `propose` writes under ids that it minted, or claims what is free. -/
theorem Untouched.step {s₀ s s' : GatewayState} {P : Platform} {params : Dict} {e : GatewayEvent}
    {τ : List GatewayEvent} (h : Untouched s₀ s) (hfounded : Founded P params e.op τ)
    (hnew : ∀ id, Minted id τ → s₀.store.kv id = none ∧ s₀.payloads id = none)
    (he : ProposeWrite e.op) (hw : gatewayEnv s e.op e.ans s') : Untouched s₀ s' := by
  obtain ⟨hledger, hsends⟩ := ledger_step he hw
  have hne : ∀ {α : Type} {f : PyStr → Option α} {key key' : PyStr} {v : α},
      f key = none → f key' = some v → key' ≠ key := by
    rintro α f key key' v hnone hsome rfl
    rw [hnone] at hsome
    cases hsome
  refine ⟨fun key v hv => ?_, fun id canonical hc => ?_, hledger.trans h.ledger,
    hsends.trans h.sends⟩
  · cases rowStep hw with
    | put key' v' heq hkv =>
        subst heq
        obtain ⟨p, canonical, rfl, -, hminted, -⟩ := hfounded
        rw [hkv, Function.update_of_ne (hne (hnew _ hminted).1 hv)]
        exact h.rows key v hv
    | claim key' v' heq hfree hkv =>
        rw [hkv, Function.update_of_ne (hne hfree (h.rows key v hv))]
        exact h.rows key v hv
    | delete key' heq hkv =>
        subst heq
        rw [hkv, Function.update_of_ne (hne (hnew _ hfounded.1).1 hv)]
        exact h.rows key v hv
    | other hkv _ _ _ => exact hkv ▸ h.rows key v hv
  · cases payloadStep hw with
    | put key' canonical' heq hpayloads =>
        subst heq
        rw [hpayloads, Function.update_of_ne (hne (hnew _ hfounded.1).2 hc)]
        exact h.payloads id canonical hc
    | delete key' heq hpayloads =>
        subst heq
        rw [hpayloads, Function.update_of_ne (hne (hnew _ hfounded.1).2 hc)]
        exact h.payloads id canonical hc
    | other hpayloads _ _ => exact hpayloads ▸ h.payloads id canonical hc

theorem state_of_readsOnly {s s' : GatewayState} {e : ServerEvent} (he : ReadsOnly e.op)
    (h : serverEnv s e.op e.ans s') : s' = s := by
  obtain ⟨o, r⟩ := e
  cases o with
  | readBody n => exact h
  | json status payload => exact h
  | gateway gatewayOp =>
      cases gatewayOp with
      | store o =>
          cases o with
          | get key =>
              obtain ⟨t, ht, rfl⟩ := h
              cases r <;> rw [show t = _ from ht.2]
          | put | claim | delete | append | send | now => exact absurd he id
      | payloadGet | payloadPut | payloadDelete | newProposalId | newMessageId | deliver =>
          exact absurd he id

/-- The ids that the threads of a run have minted are new. -/
theorem run_mintsNew (h : Run serverEnv (fun _ t e => ServingNew s bodies t e)
      (endpoint server requests s) c) {id : PyStr} {e : ServerEvent}
    (hmem : e ∈ eventsOf t c.history) (he : view e = some ⟨.newProposalId, .ok id⟩) :
    s.store.kv id = none ∧ s.payloads id = none := by
  rw [view_eq_some he] at hmem
  clear he
  induction h with
  | start => exact absurd hmem List.not_mem_nil
  | step _ hC hs ih =>
      rcases hs.mem_eventsOf.mp hmem with hmem | ⟨rfl, rfl⟩
      · exact ih hmem
      · exact hC.fresh id rfl

/-- **The closed surface.** Whatever requests are served at whatever stores, in any order and with
any faults: the rows and payloads that were there stay as they are, nothing is delivered and nothing
is written to the ledger, as long as the ids that are minted are new. -/
theorem run_untouched (hconfirm : server.confirm = none)
    (h : Run serverEnv (fun _ t e => ServingNew s bodies t e) (endpoint server requests s) c) :
    Untouched s c.state ∧ ∀ x ∈ c.history, RequestWrite x.2.op := by
  have hwrites : ∀ {c}, Run serverEnv (fun _ t e => ServingNew s bodies t e)
      (endpoint server requests s) c → ∀ x ∈ c.history, RequestWrite x.2.op := fun h =>
    (h.performs (P := fun _ => RequestWrite) (fun _ => handle_requestWrite hconfirm) rfl).1
  refine ⟨?_, hwrites h⟩
  induction h with
  | start => exact .refl s
  | @step c t e c' hrun hC hs ih =>
      have hnext := hrun.step hC hs
      have hop := hwrites hnext (t, e) (by simp [hs.history_eq])
      by_cases hpost : (requests t).command = str "POST"
      · cases hview : view e with
        | none =>
            rw [serverEnv_hidden hs.answer hview]
            exact ih
        | some e' =>
            have hguard := run_guarded (C := fun _ t e => ServingNew s bodies t e) hconfirm
              (fun _ _ _ h => h.sends) hnext t
            rw [hs.history_eq, eventsOf_append_self, List.filterMap_append] at hguard
            have hcall : callsOf server requests bodies t = .propose ((paramsOf server
              (received server (requests t) (bodies t))).getD []) := by
              simp [callsOf, callOf, hpost]
            rw [hcall] at hguard
            have hfounded := (hguard ((eventsOf t c.history).filterMap view) e'
              (by simp [hview])).1
            obtain rfl := view_eq_some hview
            refine ih.step hfounded (fun id hminted => ?_) hop hs.answer
            obtain ⟨e, hmem, he⟩ := List.mem_filterMap.mp hminted
            exact run_mintsNew hrun hmem he
      · have hreads := (hnext.performs (P := fun t o => (requests t).command ≠ str "POST" →
          ReadsOnly o) (fun t => ?_) rfl).1 (t, e) (by simp [hs.history_eq]) hpost
        · rw [state_of_readsOnly hreads hs.answer]
          exact ih
        · by_cases ht : (requests t).command = str "POST"
          · exact (performs_true _).mono fun _ _ h => absurd ht h
          · exact (handle_readsOnly ht).mono fun _ h _ => h

/-- Stores with a proposal that was sent. -/
def sampleSent : GatewayState :=
  ⟨.holding { sampleProposal with
    proposalId := str "x", status := .sent, idempotencyKey := none }, fun _ => none⟩

/-- `ServingNew`, tested. -/
def servingNewTest (s : GatewayState) : ServerEvent → Bool
  | ⟨.gateway .newProposalId, .ok id⟩ => (s.store.kv id).isNone && (s.payloads id).isNone
  | ⟨.readBody n, .ok b⟩ => b = sampleBody.take n.toNat
  | _ => true

theorem servingNewTest_sound {s : GatewayState} {t : Nat} {e : ServerEvent}
    (h : servingNewTest s e = true) : ServingNew s (fun _ => sampleBody) t e := by
  constructor
  · rintro n b rfl
    simpa [servingNewTest] using h
  · rintro id rfl
    simpa [servingNewTest] using h

/-- A post is served at stores that hold a sent proposal. -/
def sampleServedSent : EndpointPool :=
  (endpoint sampleEndpoint sampleRequests sampleSent).schedule reliableServer
    (List.replicate 11 0)

/-- For example while a post is served. -/
theorem run_untouched_post : Untouched sampleSent sampleServedSent.state :=
  (run_untouched rfl (Config.schedule_of_passes reliableServer_env
    (fun _ _ _ _ => servingNewTest_sound) _ _ .start (by decide +kernel))).1

end Runs

end ProposalServer

end GmailGateway
