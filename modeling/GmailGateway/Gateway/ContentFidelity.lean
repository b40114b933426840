import GmailGateway.Gateway.ProposalRuns
import GmailGateway.Authz.GateState

/-!
# GmailGateway.Gateway.ContentFidelity

**What is sent is what was digested.** A digest that `propose` returned stays the digest of
the stored proposal, of the payload in the content store and of every payload the sender is
handed for that proposal, whatever the other calls do in between.
-/

namespace GmailGateway

open Effect Proc Python

namespace ProposalService

/-- What `build_canonical_payload` makes of some action. -/
def CanonicalPayload (canonical : Dict) : Prop :=
  ∃ params messageId, buildCanonicalPayload (.dict params) messageId = .ok canonical

/-- The stores hold the proposal `id` and its payload, both with this digest. -/
structure Faithful (P : Platform) (s : GatewayState) (id payloadDigest : PyStr) : Prop where
  proposal : ∃ p, s.store.proposal? id = some p ∧ p.payloadDigest = payloadDigest
  payload : ∃ canonical, s.payloads id = some canonical ∧ CanonicalPayload canonical ∧
    digest P (.dict canonical) = .ok payloadDigest

/-- A payload that is loaded from faithful stores has their digest. -/
theorem Faithful.loadPayload {P : Platform} {s s' : GatewayState} {id payloadDigest : PyStr}
    (h : Faithful P s id payloadDigest) {τ : List GatewayEvent} {canonical : Dict}
    (hx : Exec gatewayEnv (loadPayload id) s τ (.done (.ok canonical)) s') :
    digest P (.dict canonical) = .ok payloadDigest := by
  obtain ⟨stored, hstored, -, hdigest⟩ := h.payload
  have hpost : (ProposalService.loadPayload id).sat gatewayEnv (fun _ _ => True)
      (fun r _ _ => ∀ a, r = .ok a → a = stored) [] s := by
    simp only [ProposalService.loadPayload, sat_bind, perform, sat_op, sat_embed]
    intro r s₁ hr
    refine ⟨trivial, ?_⟩
    rcases r with e | raw
    · exact fun _ h => by cases h
    · rw [show raw = some stored from hr.1.trans hstored]
      intro a ha
      cases ha
      rfl
  rw [hx.post hpost canonical rfl]
  exact hdigest

section
variable {P : Platform} {calls : Nat → GatewayCall} {c : GatewayPool} {u : Nat} {q : Proposal}

/-- The digest of a kept record is that of its payload. -/
theorem Intact.digest_of_stands
    (hG : ∀ u, Guarded (CallGuard P (calls u)) (eventsOf u c.history))
    (h : Stands calls c.history u q) :
    ∃ canonical, Froze q.proposalId canonical (eventsOf u c.history) ∧
      CanonicalPayload canonical ∧ digest P (.dict canonical) = .ok q.payloadDigest := by
  obtain ⟨params, hcall⟩ := h.call
  obtain ⟨-, canonical, hfroze, hrecord⟩ :=
    Guarded.created (Guarded.of_call (hG u) hcall) h.created
  obtain ⟨-, params', messageId, -, hbuilt⟩ := Guarded.froze (hG u) hfroze
  exact ⟨canonical, hfroze, ⟨params', messageId, hbuilt⟩, hrecord.digest⟩

theorem Intact.faithful (hI : Intact calls c)
    (hG : ∀ u, Guarded (CallGuard P (calls u)) (eventsOf u c.history))
    (h : Stands calls c.history u q) : Faithful P c.state q.proposalId q.payloadDigest := by
  obtain ⟨params, hcall⟩ := h.call
  obtain ⟨status, hrow⟩ := hI.row_of_created hG hcall h.created (h.kept _).1
  obtain ⟨canonical, hfroze, hbuilt, hdigest⟩ := Intact.digest_of_stands hG h
  refine ⟨⟨q.withStatus status, ?_, rfl⟩, canonical, ?_, hbuilt, hdigest⟩
  · rw [StoreState.proposal?, hrow, Option.bind_some, Proposal.fromDict_toDict]
    rfl
  · exact hI.payload_of_froze hG hfroze (h.kept _).2

/-- Every payload that was ever loaded under the id has the digest. -/
theorem Intact.loads_faithful (hI : Intact calls c)
    (hG : ∀ u, Guarded (CallGuard P (calls u)) (eventsOf u c.history))
    (h : Stands calls c.history u q) {t : Nat} {canonical : Dict}
    (hload : ⟨.payloadGet q.proposalId, .ok (some canonical)⟩ ∈ eventsOf t c.history) :
    digest P (.dict canonical) = .ok q.payloadDigest := by
  obtain ⟨canonical', hfroze', -, hdigest⟩ := Intact.digest_of_stands hG h
  obtain ⟨w, hfroze⟩ := hI.loads t _ _ hload
  rwa [hI.froze_unique hG hfroze hfroze']

end

/-- **What is sent is what was digested.** In every run of any calls in which `propose` has
returned a proposal, the stores are faithful to the digest it returned, and every payload that
was loaded for it or handed to the mail client by a dispatch of it has that digest. -/
theorem run_contentFidelity (P : Platform) (cfg : ProposalServiceConfig)
    (calls : Nat → GatewayCall) {c : GatewayPool}
    (h : Run gatewayEnv FreshIds (pool P cfg calls) c) {t : Nat} {params : Dict}
    {result : PrepareEmailResult} (hcall : calls t = .propose params)
    (ht : c.threads t = .ret (.proposed result)) :
    Faithful P c.state result.proposalId result.payloadDigest ∧
      (∀ τ canonical s', Exec gatewayEnv (loadPayload result.proposalId) c.state τ
        (.done (.ok canonical)) s' → digest P (.dict canonical) = .ok result.payloadDigest) ∧
      ∀ u canonical, (⟨.payloadGet result.proposalId, .ok (some canonical)⟩ ∈
          eventsOf u c.history ∨ ∃ now r, calls u = .dispatch result.proposalId now ∧
            ⟨.deliver canonical, r⟩ ∈ eventsOf u c.history) →
        digest P (.dict canonical) = .ok result.payloadDigest := by
  have hI := Run.intact h
  have hG := Run.guarded h
  obtain ⟨key, -, hend⟩ := Run.proposed h hcall ht
  obtain ⟨u, q, hstands, rfl, -⟩ := hI.stands_of_end hG hcall hend
  have hfaithful := hI.faithful hG hstands
  refine ⟨hfaithful, fun τ canonical s' hx => hfaithful.loadPayload hx, ?_⟩
  rintro w canonical (hload | ⟨now, r, hdispatch, hdeliver⟩)
  · exact hI.loads_faithful hG hstands hload
  · -- a dispatch delivers what it has loaded
    obtain ⟨τ₁, hpre, hload⟩ := (hG w).of_mem hdeliver
    rw [hdispatch] at hload
    exact hI.loads_faithful hG hstands (mem_of_before hpre hload)

/-- One proposal, confirmed by a human and dispatched. -/
def proposeAndSend : Nat → GatewayCall
  | 0 => .propose (sampleAction "s")
  | 1 => .confirm .confirmThenSend (str "p0") .human 2 none
  | _ => .dispatch (str "p0") 3

def proposeAndSendSchedule : List Nat :=
  List.replicate 8 0 ++ List.replicate 4 1 ++ List.replicate 7 2

theorem run_contentFidelity_sent : ∃ result,
    (scheduled samplePlatform sampleServiceConfig proposeAndSend proposeAndSendSchedule).threads 0 =
        .ret (.proposed result) ∧
      Faithful samplePlatform (scheduled samplePlatform sampleServiceConfig proposeAndSend
        proposeAndSendSchedule).state result.proposalId result.payloadDigest := by
  have hrun : Run gatewayEnv FreshIds (pool samplePlatform sampleServiceConfig proposeAndSend)
      (scheduled samplePlatform sampleServiceConfig proposeAndSend proposeAndSendSchedule) :=
    scheduled_run (by decide +kernel)
  have hret : (proposed? ((scheduled samplePlatform sampleServiceConfig proposeAndSend
      proposeAndSendSchedule).threads 0)).isSome = true := by decide +kernel
  obtain ⟨result, hresult⟩ := Option.isSome_iff_exists.mp hret
  have ht := proposed?_eq_some.mp hresult
  exact ⟨result, ht, (run_contentFidelity _ _ _ hrun rfl ht).1⟩

end ProposalService

end GmailGateway
