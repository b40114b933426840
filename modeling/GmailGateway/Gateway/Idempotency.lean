import GmailGateway.Gateway.ProposalRuns
import GmailGateway.Authz.GateState

/-!
# GmailGateway.Gateway.Idempotency

**One proposal per idempotency key.** The index entry of a key is claimed once and then stays.
A call that returned stands for the proposal it names, so all calls of a key return the same
proposal; and once the calls of a key have finished, only that proposal and its payload are
left.
-/

namespace GmailGateway

open Effect Proc Python

namespace ProposalService

/-- The call proposes under the key. -/
def KeyedCall (key : PyStr) (call : GatewayCall) : Prop :=
  ∃ params, call = .propose params ∧ idempotencyKey params = .ok (some key)

/-- The call has finished, and none of its operations failed on the way. -/
structure Finished (c : GatewayPool) (t : Nat) : Prop where
  ended : (∃ a, c.threads t = .ret a) ∨ ∃ x, c.threads t = .raise x
  faultless : Faultless (eventsOf t c.history)

/-- The ids under which a proposal of the key is stored. -/
def ProposalsOf (key : PyStr) (c : GatewayPool) : Set PyStr :=
  { id | ∃ p, c.state.store.proposal? id = some p ∧ p.idempotencyKey = some key }

/-- The ids under which a call of the key left a payload. -/
def PayloadsOf (key : PyStr) (calls : Nat → GatewayCall) (c : GatewayPool) : Set PyStr :=
  { id | c.state.payloads id ≠ none ∧
    ∃ t, KeyedCall key (calls t) ∧ Minted id (eventsOf t c.history) }

section
variable {P : Platform} {cfg : ProposalServiceConfig} {calls : Nat → GatewayCall}
  {c : GatewayPool} {key id : PyStr} {t : Nat}

/-- An index entry is that of a winner. -/
theorem Intact.won_of_index (hI : Intact calls c) {v : KvValue}
    (hrow : c.state.store.kv (ProposalStore.idemIndexKey key) = some v) :
    ∃ u id, v = .index id ∧ Won key id (eventsOf u c.history) := by
  have horigin := hI.rows _ v hrow
  generalize hx : ProposalStore.idemIndexKey key = x at horigin
  cases horigin with
  | record q status hq =>
      obtain ⟨u, hminted, -⟩ := hq
      exact absurd hx.symm (hI.noIndex u _ hminted key)
  | index u k id hwon =>
      obtain rfl := ProposalStore.idemIndexKey_injective hx
      exact ⟨u, id, rfl, hwon⟩

/-- All winners of a key won it for one id. -/
theorem Intact.won_unique (hI : Intact calls c) {u : Nat} {id' : PyStr}
    (h : Won key id (eventsOf t c.history)) (h' : Won key id' (eventsOf u c.history)) :
    id = id' := by
  have heq := (hI.index t key id h).symm.trans (hI.index u key id' h')
  simpa using heq

/-- What a winner left: the proposal, its payload, and the call's own key. -/
theorem Intact.winner (hI : Intact calls c)
    (hG : ∀ u, Guarded (CallGuard P (calls u)) (eventsOf u c.history))
    (hwon : Won key id (eventsOf t c.history)) :
    (∃ p, c.state.store.proposal? id = some p ∧ p.proposalId = id ∧
      p.idempotencyKey = some key) ∧
      id ∈ ProposalsOf key c ∧ id ∈ PayloadsOf key calls c := by
  obtain ⟨q, rfl, hkey, hstands⟩ := Stands.of_won hG hwon
  obtain ⟨params, hcall⟩ := hstands.call
  obtain ⟨hminted, canonical, hfroze, hrecord⟩ :=
    Guarded.created (Guarded.of_call (hG t) hcall) hstands.created
  obtain ⟨status, hrow⟩ := hI.row_of_created hG hcall hstands.created (hstands.kept _).1
  have hproposal : c.state.store.proposal? q.proposalId = some (q.withStatus status) := by
    rw [StoreState.proposal?, hrow, Option.bind_some, Proposal.fromDict_toDict]
    rfl
  have hpayload := hI.payload_of_froze hG hfroze (hstands.kept _).2
  refine ⟨⟨_, hproposal, rfl, hkey⟩, ⟨_, hproposal, hkey⟩, ?_, t, ⟨params, hcall, ?_⟩, hminted⟩
  · rw [hpayload]
    exact Option.some_ne_none _
  · rw [hrecord.key, hkey]

/-- A call of the key that returned names the winner's proposal. -/
theorem Intact.won_of_returned (hI : Intact calls c)
    (hG : ∀ u, Guarded (CallGuard P (calls u)) (eventsOf u c.history))
    (h : Run gatewayEnv FreshIds (pool P cfg calls) c) (hkeyed : KeyedCall key (calls t))
    {result : PrepareEmailResult} (ht : c.threads t = .ret (.proposed result)) :
    ∃ u, Won key result.proposalId (eventsOf u c.history) := by
  obtain ⟨params, hcall, hkey⟩ := hkeyed
  obtain ⟨key', hkey', hend⟩ := Run.proposed h hcall ht
  obtain ⟨u, q, -, rfl, hwon⟩ := hI.stands_of_end hG hcall hend
  exact ⟨u, hwon key (Except.ok.inj (hkey'.symm.trans hkey))⟩

/-- An id that a call found in use is not one it minted. -/
theorem Intact.not_clashed (hI : Intact calls c) (hminted : Minted id (eventsOf t c.history)) :
    ¬ Clashed id (eventsOf t c.history) := by
  intro h
  obtain ⟨⟨raw, hread⟩, hbelow⟩ := h
  have horigin := hI.reads t id raw hread
  cases horigin with
  | record q status hq =>
      obtain ⟨u, hminted', hcreated⟩ := hq
      obtain rfl := hI.minter t u _ hminted hminted'
      exact absurd (hbelow _ hcreated) (by simp [rank])
  | index u k id' hwon => exact hI.noIndex t _ hminted k rfl

/-- How a finished `propose` call ended. -/
theorem Run.ended (h : Run gatewayEnv FreshIds (pool P cfg calls) c) {params : Dict}
    (hcall : calls t = .propose params) (hfinished : Finished c t) :
    ∃ r, CallEnds params r (eventsOf t c.history) ∧
      ∀ result, r = .ok result → c.threads t = .ret (.proposed result) := by
  rcases hfinished.ended with ⟨a, ht⟩ | ⟨x, ht⟩
  · have hend := Run.returned h ht
    rw [hcall] at hend
    obtain ⟨r, hr, hends⟩ := hend
    refine ⟨r, hends, ?_⟩
    rintro result rfl
    cases hr
    exact ht
  · have hend := Run.raised h ht
    rw [hcall] at hend
    obtain ⟨r, hr, hends⟩ := hend
    refine ⟨r, hends, ?_⟩
    rintro result rfl
    cases hr

/-- **What a finished call of the key left behind.** If its record or its payload is still
there, it returned and won the key. -/
theorem Intact.left_behind (hI : Intact calls c)
    (hG : ∀ u, Guarded (CallGuard P (calls u)) (eventsOf u c.history))
    (h : Run gatewayEnv FreshIds (pool P cfg calls) c)
    (hcalls : ∀ u, ∃ params, calls u = .propose params) (hkeyed : KeyedCall key (calls t))
    (hfinished : Finished c t) (hminted : Minted id (eventsOf t c.history))
    (hleft : c.state.store.kv id ≠ none ∨ c.state.payloads id ≠ none)
    (hwrote : ¬ Below 2 (eventsOf t c.history)) :
    ∃ result, c.threads t = .ret (.proposed result) ∧ Won key id (eventsOf t c.history) := by
  obtain ⟨params, hcall, hkey⟩ := hkeyed
  obtain ⟨r, hends, hret⟩ := Run.ended h hcall hfinished
  have horder : Guarded (InOrder rank) (eventsOf t c.history) :=
    (Guarded.of_call (hG t) hcall).mono fun _ _ h => h.2
  rcases (hends.ended _ hkey).settled hfinished.faultless with hbelow | ⟨id', hminted', hend⟩
  · exact absurd hbelow hwrote
  · -- a call mints one id
    have heq := horder.eq_of_rank hminted' hminted rfl (by simp [rank])
    obtain rfl : id' = id := by simpa using heq
    rcases hend with ⟨p, result, hid, hkeeps, rfl⟩ | ⟨hdeleted, hdropped⟩ | hclashed
    · obtain ⟨-, canonical, -, hrecord⟩ :=
        Guarded.created (Guarded.of_call (hG t) hcall) hkeeps.created
      refine ⟨result, hret result rfl, ?_⟩
      rw [← hid]
      exact hkeeps.won key (Except.ok.inj (hrecord.key.symm.trans hkey))
    · rcases hleft with hrow | hpayload
      · exact absurd (hI.goneRow hcalls t _ hdeleted) hrow
      · exact absurd (hI.gonePayload t _ hdropped) hpayload
    · exact absurd hclashed (hI.not_clashed hminted)

/-- A stored proposal of the key was created by a call of the key. -/
theorem Intact.proposal_writer (hI : Intact calls c)
    (hG : ∀ u, Guarded (CallGuard P (calls u)) (eventsOf u c.history))
    (hid : id ∈ ProposalsOf key c) : c.state.store.kv id ≠ none ∧
      ∃ t, KeyedCall key (calls t) ∧ Minted id (eventsOf t c.history) ∧
        ¬ Below 2 (eventsOf t c.history) := by
  obtain ⟨p, hp, hkey⟩ := hid
  cases hrow : c.state.store.kv id with
  | none => simp [StoreState.proposal?, hrow] at hp
  | some v =>
      refine ⟨Option.some_ne_none v, ?_⟩
      have hdecoded : Proposal.fromDict v = .ok p := by
        simp only [StoreState.proposal?, hrow, Option.bind_some] at hp
        cases hv : Proposal.fromDict v with
        | error x => simp [hv, Except.toOption] at hp
        | ok q => simpa [hv, Except.toOption] using hp
      obtain ⟨q, status, ⟨t, hminted, hcreated⟩, rfl, rfl⟩ := (hI.rows id v hrow).decoded hdecoded
      obtain ⟨params, hcall, hτ⟩ := Guarded.minted (hG t) hminted
      obtain ⟨-, canonical, -, hrecord⟩ := Guarded.created hτ hcreated
      refine ⟨t, ⟨params, hcall, ?_⟩, hminted, fun hbelow => ?_⟩
      · rw [hrecord.key]
        exact congrArg Except.ok hkey
      · exact absurd (hbelow _ hcreated) (by simp [rank])

/-- And a payload of the key was frozen by the call that minted its id. -/
theorem Intact.payload_writer (hI : Intact calls c)
    (hG : ∀ u, Guarded (CallGuard P (calls u)) (eventsOf u c.history))
    (hid : id ∈ PayloadsOf key calls c) :
    ∃ t, KeyedCall key (calls t) ∧ Minted id (eventsOf t c.history) ∧
      ¬ Below 2 (eventsOf t c.history) := by
  obtain ⟨hpayload, t, hkeyed, hminted⟩ := hid
  obtain ⟨canonical, hcanonical⟩ := Option.ne_none_iff_exists'.mp hpayload
  obtain ⟨u, hfroze⟩ := hI.payloads id canonical hcanonical
  obtain rfl := hI.minter t u id hminted (Guarded.froze (hG u) hfroze).1
  exact ⟨t, hkeyed, hminted, fun hbelow => absurd (hbelow _ hfroze) (by simp [rank])⟩

/-- Every call of the key that has started has finished. -/
def AllFinished (key : PyStr) (calls : Nat → GatewayCall) (c : GatewayPool) : Prop :=
  ∀ t, KeyedCall key (calls t) → eventsOf t c.history ≠ [] → Finished c t

/-- What is left of the key then is what a call that returned has won. -/
theorem Intact.won_of_left (hI : Intact calls c)
    (hG : ∀ u, Guarded (CallGuard P (calls u)) (eventsOf u c.history))
    (h : Run gatewayEnv FreshIds (pool P cfg calls) c)
    (hcalls : ∀ u, ∃ params, calls u = .propose params) (hfinished : AllFinished key calls c)
    (hid : id ∈ ProposalsOf key c ∨ id ∈ PayloadsOf key calls c) :
    ∃ t result, KeyedCall key (calls t) ∧ c.threads t = .ret (.proposed result) ∧
      Won key id (eventsOf t c.history) := by
  have hwriter : (c.state.store.kv id ≠ none ∨ c.state.payloads id ≠ none) ∧
      ∃ t, KeyedCall key (calls t) ∧ Minted id (eventsOf t c.history) ∧
        ¬ Below 2 (eventsOf t c.history) := by
    rcases hid with hid | hid
    · obtain ⟨hrow, hwriter⟩ := hI.proposal_writer hG hid
      exact ⟨.inl hrow, hwriter⟩
    · exact ⟨.inr hid.1, hI.payload_writer hG hid⟩
  obtain ⟨hleft, t, hkeyed, hminted, hwrote⟩ := hwriter
  have hdone := hfinished t hkeyed (List.ne_nil_of_mem hminted)
  obtain ⟨result, ht, hwon⟩ := hI.left_behind hG h hcalls hkeyed hdone hminted hleft hwrote
  exact ⟨t, result, hkeyed, ht, hwon⟩

end

/-- **One proposal per idempotency key.** In every run of any calls, with operations failing
and calls stopping anywhere: an index entry of the key names a stored proposal of that key and
never changes again, and all calls of the key that return name the same proposal. When only
`propose` calls run and all those of the key that started have finished, exactly the proposal
that they returned and its payload are left, or neither of the two if none has returned. -/
theorem run_idempotent (P : Platform) (cfg : ProposalServiceConfig) (calls : Nat → GatewayCall)
    (c : GatewayPool) (key : PyStr) (h : Run gatewayEnv FreshIds (pool P cfg calls) c) :
    (∀ v, c.state.store.kv (ProposalStore.idemIndexKey key) = some v → ∃ id p, v = .index id ∧
      c.state.store.proposal? id = some p ∧ p.proposalId = id ∧ p.idempotencyKey = some key ∧
      ∀ c', Run gatewayEnv FreshIds c c' →
        c'.state.store.kv (ProposalStore.idemIndexKey key) = some v) ∧
    (∀ t u result result', KeyedCall key (calls t) → KeyedCall key (calls u) →
      c.threads t = .ret (.proposed result) → c.threads u = .ret (.proposed result') →
      result.proposalId = result'.proposalId) ∧
    ((∀ t, ∃ params, calls t = .propose params) → AllFinished key calls c →
      (∀ t result, KeyedCall key (calls t) → c.threads t = .ret (.proposed result) →
        ProposalsOf key c = {result.proposalId} ∧
          PayloadsOf key calls c = {result.proposalId}) ∧
      ((∀ t result, KeyedCall key (calls t) → c.threads t ≠ .ret (.proposed result)) →
        ProposalsOf key c = ∅ ∧ PayloadsOf key calls c = ∅)) := by
  have hI := Run.intact h
  have hG := Run.guarded h
  refine ⟨fun v hv => ?_, fun t u result result' ht hu hrt hru => ?_, fun hcalls hfinished => ?_⟩
  · obtain ⟨u, id, rfl, hwon⟩ := hI.won_of_index hv
    obtain ⟨⟨p, hp, hid, hkey⟩, -⟩ := hI.winner hG hwon
    refine ⟨id, p, rfl, hp, hid, hkey, fun c' h' => ?_⟩
    refine (Run.intact (h.trans h')).index u key id ?_
    exact mem_eventsOf.mpr (h'.history_prefix.subset (mem_eventsOf.mp hwon))
  · obtain ⟨w, hwon⟩ := hI.won_of_returned hG h ht hrt
    obtain ⟨w', hwon'⟩ := hI.won_of_returned hG h hu hru
    exact hI.won_unique hwon hwon'
  · have hleft {id : PyStr} (hid : id ∈ ProposalsOf key c ∨ id ∈ PayloadsOf key calls c) :=
      hI.won_of_left hG h hcalls hfinished hid
    refine ⟨fun t result ht hret => ?_, fun hnone => ?_⟩
    · -- the winner's are there, and nothing else is
      obtain ⟨w, hwon⟩ := hI.won_of_returned hG h ht hret
      obtain ⟨-, hproposal, hpayload⟩ := hI.winner hG hwon
      have honly {id : PyStr} (hid : id ∈ ProposalsOf key c ∨ id ∈ PayloadsOf key calls c) :
          id = result.proposalId := by
        obtain ⟨u, result', -, -, hwon'⟩ := hleft hid
        exact hI.won_unique hwon' hwon
      exact ⟨Set.eq_singleton_iff_unique_mem.mpr ⟨hproposal, fun id hid => honly (.inl hid)⟩,
        Set.eq_singleton_iff_unique_mem.mpr ⟨hpayload, fun id hid => honly (.inr hid)⟩⟩
    · have hempty {id : PyStr} (hid : id ∈ ProposalsOf key c ∨ id ∈ PayloadsOf key calls c) :
          False := by
        obtain ⟨t, result, hkeyed, hret, -⟩ := hleft hid
        exact hnone t result hkeyed hret
      exact ⟨Set.eq_empty_of_forall_notMem fun id hid => hempty (.inl hid),
        Set.eq_empty_of_forall_notMem fun id hid => hempty (.inr hid)⟩

/-! Two calls of one key, the second of which has created its record when the first claims the
key. -/

/-- Every thread posts the same action with one key. -/
def twoProposals : Nat → GatewayCall := fun _ => .propose (sampleAction "s")

/-- Both get to their claim; the first wins it, and the second takes its proposal back. -/
def lostRaceSchedule : List Nat :=
  List.replicate 6 0 ++ List.replicate 6 1 ++ [0, 1] ++ List.replicate 4 1

/-- Whether a thread has finished, none of its operations having failed. -/
def finished (c : GatewayPool) (t : Nat) : Bool :=
  (match c.threads t with
    | .op _ _ => false
    | _ => true) && c.history.all fun x => x.1 ≠ t || x.2.ans.isOk

theorem finished_sound {c : GatewayPool} {t : Nat} (h : finished c t = true) : Finished c t := by
  simp only [finished, Bool.and_eq_true, List.all_eq_true] at h
  constructor
  · cases ht : c.threads t with
    | ret a => exact .inl ⟨a, rfl⟩
    | raise x => exact .inr ⟨x, rfl⟩
    | op o k => simp [ht] at h
  · intro e he
    have hok := h.2 _ (mem_eventsOf.mp he)
    cases hans : e.ans with
    | ok a => exact ⟨a, rfl⟩
    | error x => simp [hans, Except.isOk, Except.toBool] at hok

/-- The threads of a run that have finished are all that have started, if nobody else is in
the history. -/
theorem allFinished_of {key : PyStr} {calls : Nat → GatewayCall} {c : GatewayPool}
    (h : c.history.all (fun x => finished c x.1) = true) : AllFinished key calls c := by
  intro t _ hstarted
  obtain ⟨e, he⟩ := exists_mem_of_eventsOf hstarted
  exact finished_sound (List.all_eq_true.mp h _ he)

theorem run_idempotent_race : ∃ result,
    ProposalsOf (str "k") (scheduled samplePlatform sampleServiceConfig twoProposals
      lostRaceSchedule) = {result} ∧
    PayloadsOf (str "k") twoProposals (scheduled samplePlatform sampleServiceConfig twoProposals
      lostRaceSchedule) = {result} := by
  have hrun : Run gatewayEnv FreshIds (pool samplePlatform sampleServiceConfig twoProposals)
      (scheduled samplePlatform sampleServiceConfig twoProposals lostRaceSchedule) :=
    scheduled_run (by decide +kernel)
  have hret : (proposed? ((scheduled samplePlatform sampleServiceConfig twoProposals
      lostRaceSchedule).threads 1)).isSome = true := by decide +kernel
  obtain ⟨result, hresult⟩ := Option.isSome_iff_exists.mp hret
  obtain ⟨-, -, hleft⟩ := run_idempotent samplePlatform sampleServiceConfig twoProposals _
    (str "k") hrun
  obtain ⟨hone, -⟩ := hleft (fun _ => ⟨_, rfl⟩) (allFinished_of (by decide +kernel))
  exact ⟨result.proposalId, hone 1 result ⟨_, rfl, rfl⟩ (proposed?_eq_some.mp hresult)⟩

/-! A call that is refused leaves nothing under its key. -/

/-- Every thread posts an action that is refused. -/
def refusedProposals : Nat → GatewayCall :=
  fun _ => .propose [(str "idempotency_key", .str (str "k"))]

theorem run_idempotent_refused :
    ¬ ∀ (calls : Nat → GatewayCall) (c : GatewayPool),
      Run gatewayEnv FreshIds (pool samplePlatform sampleServiceConfig calls) c →
      (∀ t, ∃ params, calls t = .propose params) → AllFinished (str "k") calls c →
      (∃ t, KeyedCall (str "k") (calls t) ∧ eventsOf t c.history ≠ []) →
      ∃ id, ProposalsOf (str "k") c = {id} ∧ PayloadsOf (str "k") calls c = {id} := by
  intro hclaim
  have hrun : Run gatewayEnv FreshIds (pool samplePlatform sampleServiceConfig refusedProposals)
      (scheduled samplePlatform sampleServiceConfig refusedProposals [0, 0]) :=
    scheduled_run (by decide +kernel)
  have hfinished : AllFinished (str "k") refusedProposals
      (scheduled samplePlatform sampleServiceConfig refusedProposals [0, 0]) :=
    allFinished_of (by decide +kernel)
  have hstarted : eventsOf 0 (scheduled samplePlatform sampleServiceConfig refusedProposals
      [0, 0]).history ≠ [] := by
    rw [← List.length_pos_iff]
    decide +kernel
  obtain ⟨id, hproposals, -⟩ := hclaim _ _ hrun (fun _ => ⟨_, rfl⟩) hfinished
    ⟨0, ⟨_, rfl, rfl⟩, hstarted⟩
  have hid : id ∈ ProposalsOf (str "k") _ := hproposals ▸ Set.mem_singleton id
  -- whoever won the key has claimed it, and nobody has
  obtain ⟨t, -, -, -, hwon⟩ := (Run.intact hrun).won_of_left (Run.guarded hrun) hrun
    (fun _ => ⟨_, rfl⟩) hfinished (.inl hid)
  have hquiet : (scheduled samplePlatform sampleServiceConfig refusedProposals
      [0, 0]).history.all (fun x => rank x.2.op = 0) = true := by decide +kernel
  have hrank := List.all_eq_true.mp hquiet _ (mem_eventsOf.mp hwon)
  simp [rank] at hrank

end ProposalService

end GmailGateway
