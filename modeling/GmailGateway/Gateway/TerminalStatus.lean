import GmailGateway.Authz.GateState
import GmailGateway.Gateway.GmailSender
import GmailGateway.Python.Json
import GmailGateway.SendFsm.Rows

/-!
# GmailGateway.Gateway.TerminalStatus

**The terminal status and the wire.** What one call of the sender does is a short list of what
it asked its collaborators (`Called`). A dispatch over it does what the state machine does over
any sender, so its terminal status is read off that list.

A post is an invocation of the transport; what the client refuses is none.
-/

namespace GmailGateway

open Effect Proc Python

/-! ### The surroundings -/

/-- Stores whose writes get through; the payload store, the token provider and the transport
answer or raise anything. -/
def wireEnv : Env WireSig Exc GatewayState
  | s, .gateway (.store o), r, s' =>
      ∃ t, Replay.reliableStores s.store o r t ∧ s' = { s with store := t }
  | s, .gateway o, r, s' => gatewayEnv s o r s'
  | s, .token, _, s' => s' = s
  | s, .post _ _ _, _, s' => s' = s

/-- What the transport answered. -/
def postOf? : WireEvent → Option (Except Exc (Int × Bytes))
  | ⟨.post _ _ _, a⟩ => some a
  | _ => none

/-- The posts, oldest first. -/
def postsOf (θ : List WireEvent) : List (Except Exc (Int × Bytes)) := θ.filterMap postOf?

/-- Whether an event is one of the stores. -/
def onStores : WireEvent → Bool
  | ⟨.gateway (.store _), _⟩ => true
  | _ => false

/-- The events of the sender. -/
def senderEvents (θ : List WireEvent) : List WireEvent := θ.filter fun e => !onStores e

@[simp] theorem postsOf_nil : postsOf [] = [] := rfl

@[simp] theorem postsOf_append (θ θ' : List WireEvent) :
    postsOf (θ ++ θ') = postsOf θ ++ postsOf θ' := List.filterMap_append

@[simp] theorem senderEvents_append (θ θ' : List WireEvent) :
    senderEvents (θ ++ θ') = senderEvents θ ++ senderEvents θ' := List.filter_append ..

/-- A post is an event of the sender. -/
theorem postsOf_senderEvents (θ : List WireEvent) : postsOf (senderEvents θ) = postsOf θ := by
  induction θ with
  | nil => rfl
  | cons e θ ih =>
      rw [postsOf, senderEvents, List.filterMap_filter]
      refine List.filterMap_congr fun e _ => ?_
      obtain ⟨o, a⟩ := e
      cases o with
      | gateway o => cases o <;> rfl
      | token | post => rfl

namespace GmailSender

/-! ### One call of the sender -/

/-- Whether the policy refuses a payload. -/
def policyBlocks (canonical : Dict) : Bool :=
  match enforceV1SendPolicy (.dict canonical) with
  | .error .attachmentsNotSupported | .error (.payloadSchema _ _) => true
  | _ => false

section
variable (P : Platform) (cfg : GmailSenderConfig) (proposalId : PyStr)

/-- The payload store answered the payload. -/
abbrev loaded (canonical : Dict) : WireEvent :=
  ⟨.gateway (.payloadGet proposalId), .ok (some canonical)⟩

/-- What a call of the sender did, and its result. -/
inductive Called : List WireEvent → Except Exc SendResult → Prop
  | unloaded {a : Except Exc (Option Dict)} {e : Exc} : (∀ canonical, a ≠ .ok (some canonical)) →
      Called [⟨.gateway (.payloadGet proposalId), a⟩] (.error e)
  | policyBlocked {canonical : Dict} : policyBlocks canonical = true →
      Called [loaded proposalId canonical]
        (.ok { kind := .rejected, errorCode := str "policy_blocked" })
  /-- The policy or the rendering let an exception out. -/
  | unrendered {canonical : Dict} {e : Exc} : policyBlocks canonical = false →
      Called [loaded proposalId canonical] (.error e)
  | unauthorized {canonical : Dict} {c : OAuthErrorClass} {m : PyStr} :
      Called [loaded proposalId canonical, ⟨.token, .error (.oauth c m)⟩]
        (.ok { kind := .rejected, errorCode := str "authorization_required" })
  | tokenless {canonical : Dict} {e : Exc} : (∀ c m, e ≠ .oauth c m) →
      Called [loaded proposalId canonical, ⟨.token, .error e⟩] (.error e)
  | refused {canonical : Dict} {accessToken : PyStr} {e : Exc} :
      cfg.client.checkHost cfg.library cfg.url = .error e →
      Called [loaded proposalId canonical, ⟨.token, .ok accessToken⟩]
        (report P cfg.library (.error e))
  | posted {canonical : Dict} {accessToken host : PyStr} {body : Bytes}
      {a : Except Exc (Int × Bytes)} :
      cfg.client.checkHost cfg.library cfg.url = .ok host →
      Called [loaded proposalId canonical, ⟨.token, .ok accessToken⟩,
          ⟨.post cfg.url (requestHeaders accessToken) body, a⟩]
        (report P cfg.library (a.map fun r => { status := r.1, body := r.2, host }))

variable {P cfg proposalId}

theorem Called.posts_le {evs : List WireEvent} {answer : Except Exc SendResult}
    (h : Called P cfg proposalId evs answer) : (postsOf evs).length ≤ 1 := by
  cases h <;> first | exact Nat.zero_le 1 | exact Nat.le_refl 1

/-- It leaves the stores alone. -/
theorem Called.senderEvents_eq {evs : List WireEvent} {answer : Except Exc SendResult}
    (h : Called P cfg proposalId evs answer) : senderEvents evs = evs := by
  cases h <;> rfl

/-- At most one post so far. -/
def OnePost (θ : List WireEvent) (_ : GatewayState) : Prop := (postsOf θ).length ≤ 1

variable {θ : List WireEvent} {t : GatewayState}

theorem OnePost.append {evs : List WireEvent} (hnone : postsOf θ = [])
    (h : (postsOf evs).length ≤ 1) : OnePost (θ ++ evs) t := by
  rw [OnePost, postsOf_append, hnone]
  exact h

/-- From the rendering on. -/
theorem deliver_meets (proposalId : PyStr) {canonical : Dict} (hblocks : policyBlocks canonical = false)
    (hnone : postsOf θ = []) :
    (deliver P cfg canonical).sat wireEnv OnePost
      (fun r θ' t' => t' = t ∧ ∃ evs, θ' = θ ++ evs ∧
        Called P cfg proposalId (loaded proposalId canonical :: evs) r) θ t := by
  simp only [deliver, sat_bind, sat_embed]
  cases requestBody cfg.library canonical with
  | error e => exact ⟨rfl, [], by simp, .unrendered hblocks⟩
  | ok body =>
      simp only [andThen_ok, sat_bind, sat_attempt]
      intro token t₁ htoken
      obtain rfl : t₁ = t := htoken
      refine ⟨OnePost.append hnone (Nat.zero_le 1), ?_⟩
      cases token with
      | error e =>
          cases e with
          | oauth c m => exact ⟨rfl, _, rfl, .unauthorized⟩
          | _ => exact ⟨rfl, _, rfl, .tokenless (fun _ _ h => by cases h)⟩
      | ok accessToken =>
          simp only [andThen_ok, sat_bind, sat_attempt, EgressGuardedClient.post, sat_embed]
          cases hhost : cfg.client.checkHost cfg.library cfg.url with
          | error e =>
              change Proc.sat _ _ _ (embed (report P cfg.library (.error e))) _ _
              rw [sat_embed]
              exact ⟨rfl, _, rfl, .refused hhost⟩
          | ok host =>
              simp only [andThen_ok, sat_bind]
              intro a t₂ hpost
              obtain rfl : t₂ = t₁ := hpost
              rw [List.append_assoc]
              refine ⟨OnePost.append hnone (Nat.le_refl 1), ?_⟩
              cases a with
              | error e =>
                  change Proc.sat _ _ _ (embed (report P cfg.library (.error e))) _ _
                  rw [sat_embed]
                  exact ⟨rfl, _, rfl, .posted (a := .error e) hhost⟩
              | ok r =>
                  change Proc.sat _ _ _ (embed (report P cfg.library (.ok ⟨r.1, r.2, host⟩))) _ _
                  rw [sat_embed]
                  exact ⟨rfl, _, rfl, .posted (a := .ok r) hhost⟩

/-- The call, with its interface implemented. -/
theorem onWire_send (proposalId : PyStr) :
    onWire P cfg (.send proposalId) = (do
      let raw ← perform (S := WireSig) (.gateway (.payloadGet proposalId))
      match raw with
      | none => throw (.proposalNotFound proposalId)
      | some canonical =>
          match enforceV1SendPolicy (.dict canonical) with
          | .ok () => deliver P cfg canonical
          | .error .attachmentsNotSupported | .error (.payloadSchema _ _) =>
              pure { kind := .rejected, errorCode := str "policy_blocked" }
          | .error e => throw e) := by
  have hget : (Payloads.get proposalId).implement (wire P cfg) =
      perform (S := WireSig) (.gateway (.payloadGet proposalId)) := implement_perform _
  simp only [onWire, sendPath_send, call, ProposalService.loadPayload, implement_bind, hget,
    bind_assoc]
  refine bind_congr fun raw => ?_
  cases raw with
  | none => rfl
  | some canonical =>
      simp only [implement_pure, pure_bind]
      generalize enforceV1SendPolicy (.dict canonical) = verdict
      rcases verdict with e | ⟨⟩
      · cases e <;> rfl
      · exact implement_perform _

/-- **One call of the sender.** -/
theorem call_meets (hnone : postsOf θ = []) :
    (onWire P cfg (.send proposalId)).sat wireEnv OnePost
      (fun r θ' t' => t' = t ∧ ∃ evs, θ' = θ ++ evs ∧ Called P cfg proposalId evs r) θ t := by
  rw [onWire_send, sat_bind]
  intro a t₁ hload
  have ht : t₁ = t := by
    cases a with
    | error e => exact hload
    | ok raw => exact hload.2
  subst ht
  refine ⟨OnePost.append hnone (Nat.zero_le 1), ?_⟩
  rcases a with e | raw
  · exact ⟨rfl, _, rfl, .unloaded nofun⟩
  cases raw with
  | none => exact ⟨rfl, _, rfl, .unloaded (by simp)⟩
  | some canonical =>
      have hload' : postsOf (θ ++ [loaded proposalId canonical]) = [] := by
        rw [postsOf_append, hnone]
        rfl
      change Proc.sat _ _ _ (match enforceV1SendPolicy (.dict canonical) with
        | .ok () => deliver P cfg canonical
        | .error .attachmentsNotSupported | .error (.payloadSchema _ _) =>
            pure { kind := .rejected, errorCode := str "policy_blocked" }
        | .error e => throw e) _ _
      cases hverdict : enforceV1SendPolicy (.dict canonical) with
      | error e =>
          cases e with
          | attachmentsNotSupported | payloadSchema =>
              exact ⟨rfl, _, rfl, .policyBlocked (by rw [policyBlocks, hverdict])⟩
          | _ => exact ⟨rfl, _, rfl, .unrendered (by rw [policyBlocks, hverdict])⟩
      | ok u =>
          have hblocks : policyBlocks canonical = false := by rw [policyBlocks, hverdict]
          refine sat_mono (deliver_meets proposalId hblocks hload')
            fun r θ' t' h => ?_
          obtain ⟨rfl, evs, rfl, hcalled⟩ := h
          exact ⟨rfl, _, List.append_assoc _ _ _, hcalled⟩

/-! ### The state machine over the sender -/

/-- What every answer of the sender came from. -/
inductive Calls (P : Platform) (cfg : GmailSenderConfig) :
    List (PyStr × Except Exc SendResult) → List WireEvent → Prop
  | nil : Calls P cfg [] []
  | snoc {answers : List (PyStr × Except Exc SendResult)} {θ evs : List WireEvent}
      {proposalId : PyStr} {answer : Except Exc SendResult} : Calls P cfg answers θ →
      Called P cfg proposalId evs answer →
      Calls P cfg (answers ++ [(proposalId, answer)]) (θ ++ evs)

theorem Calls.posts_le {answers : List (PyStr × Except Exc SendResult)} {θ : List WireEvent}
    (h : Calls P cfg answers θ) : (postsOf θ).length ≤ answers.length := by
  induction h with
  | nil => exact Nat.le_refl 0
  | snoc _ hcalled ih =>
      rw [postsOf_append, List.length_append, List.length_append]
      exact Nat.add_le_add ih hcalled.posts_le

theorem Calls.eq_nil {θ : List WireEvent} (h : Calls P cfg [] θ) : θ = [] := by
  generalize hanswers : [] = answers at h
  cases h with
  | nil => rfl
  | snoc => exact absurd hanswers (by simp)

theorem Calls.called {θ : List WireEvent} {proposalId : PyStr} {answer : Except Exc SendResult}
    (h : Calls P cfg [(proposalId, answer)] θ) : Called P cfg proposalId θ answer := by
  generalize hanswers : [(proposalId, answer)] = answers at h
  cases h with
  | nil => cases hanswers
  | @snoc answers θ evs _ _ hcalls hcalled =>
      have happend : [] ++ [(proposalId, answer)] = answers ++ [_] := hanswers
      obtain ⟨rfl, hlast⟩ := List.append_inj' happend rfl
      obtain rfl := hcalls.eq_nil
      cases hlast
      exact hcalled

/-- The stores are the same to the state machine, and its answers are those of the sender. -/
structure Coupled (P : Platform) (cfg : GmailSenderConfig) (τ : List StoreEvent) (s : StoreState)
    (θ : List WireEvent) (t : GatewayState) : Prop where
  kv : s.kv = t.store.kv
  ledger : s.ledger = t.store.ledger
  calls : Calls P cfg (answersOf τ) (senderEvents θ)

theorem Coupled.posts_le {τ : List StoreEvent} {s : StoreState} (h : Coupled P cfg τ s θ t) :
    (postsOf θ).length ≤ (answersOf τ).length := by
  rw [← postsOf_senderEvents]
  exact h.calls.posts_le

/-- What the stores do does not depend on what was sent. -/
theorem reliable_sends {s u : StoreState} {o : StoreOp} (ho : SendFsm.Sendless o)
    {r : Except Exc o.Ret} (h : Replay.reliableStores s o r u) (sends : List PyStr) :
    Replay.reliableStores { s with sends } o r { u with sends } := by
  cases r with
  | error e =>
      cases o with
      | send proposalId => exact absurd rfl (ho proposalId)
      | _ => exact h.1.elim
  | ok a =>
      cases o with
      | send proposalId => exact absurd rfl (ho proposalId)
      | get key =>
          obtain ⟨hv, rfl⟩ := h
          exact ⟨hv, rfl⟩
      | now =>
          obtain rfl : u = s := h
          rfl
      | claim key v =>
          obtain ⟨rfl, rfl⟩ := h
          refine ⟨rfl, ?_⟩
          split <;> rfl
      | _ =>
          have hu : u = _ := h
          subst hu
          rfl

theorem onWire_store {o : StoreOp} (ho : SendFsm.Sendless o) :
    onWire P cfg o = perform (S := WireSig) (.gateway (.store o)) := by
  cases o with
  | send proposalId => exact absurd rfl (ho proposalId)
  | _ => exact implement_perform _

/-- **One operation.** The sender and the stores do what the state machine expects of any. -/
theorem onWire_coupled (o : StoreOp) {τ : List StoreEvent} {s : StoreState}
    (hone : ∀ r s', Replay.reliableStores s o r s' → SendFsm.OneAnswer (τ ++ [⟨o, r⟩]) s')
    (h : Coupled P cfg τ s θ t) :
    (onWire P cfg o).sat wireEnv OnePost (fun r θ' t' => ∃ s',
      Replay.reliableStores s o r s' ∧ Coupled P cfg (τ ++ [⟨o, r⟩]) s' θ' t') θ t := by
  by_cases ho : SendFsm.Sendless o
  · rw [onWire_store ho]
    intro r t' hw
    obtain ⟨u, hu, rfl⟩ := hw
    have hs : (⟨t.store.kv, t.store.ledger, s.sends⟩ : StoreState) = s := by
      rw [← h.kv, ← h.ledger]
    have hstep := hs ▸ reliable_sends ho hu s.sends
    have hsender : senderEvents (θ ++ [⟨.gateway (.store o), r⟩]) = senderEvents θ := by
      rw [senderEvents_append]
      exact List.append_nil _
    have hcalls : Calls P cfg (answersOf (τ ++ [⟨o, r⟩]))
        (senderEvents (θ ++ [⟨.gateway (.store o), r⟩])) := by
      rw [hsender, answersOf_append, answersOf_sendless ho, List.append_nil]
      exact h.calls
    have hcoupled : Coupled P cfg (τ ++ [⟨o, r⟩]) { u with sends := s.sends }
        (θ ++ [⟨.gateway (.store o), r⟩]) { t with store := u } := ⟨rfl, rfl, hcalls⟩
    exact ⟨hcoupled.posts_le.trans (hone _ _ hstep), (sat_embed r).mpr ⟨_, hstep, hcoupled⟩⟩
  · obtain ⟨proposalId, rfl⟩ : ∃ proposalId, o = .send proposalId := by
      simpa [SendFsm.Sendless] using ho
    -- an answer is still to come, so that there was none before
    have hlast := hone (.error .other) { s with sends := s.sends ++ [proposalId] } rfl
    rw [SendFsm.OneAnswer, answersOf_append, List.length_append] at hlast
    have hnone : postsOf θ = [] := by
      rw [← List.length_eq_zero_iff]
      have hle := h.posts_le
      simp only [answersOf_send, List.length_singleton] at hlast
      omega
    refine sat_mono (call_meets hnone) fun r θ' t' hend => ?_
    obtain ⟨rfl, evs, rfl, hcalled⟩ := hend
    refine ⟨{ s with sends := s.sends ++ [proposalId] }, by cases r <;> rfl, h.kv, h.ledger, ?_⟩
    rw [answersOf_append, senderEvents_append, hcalled.senderEvents_eq]
    exact .snoc h.calls hcalled

/-- `SendFSM.dispatch` over `GmailSender`. -/
def dispatch (P : Platform) (cfg : GmailSenderConfig) (proposalId : PyStr) (now : Int) :
    WireProc ProposalStatus :=
  (SendFsm.dispatch proposalId now).implement (onWire P cfg)

/-- **Dispatching over the wire**, as a dispatch over any sender. -/
theorem dispatch_meets (P : Platform) (cfg : GmailSenderConfig) (now : Int) {p : Proposal}
    (hp : t.store.proposal? proposalId = some p) (hconfirmed : p.status = .confirmed) :
    (dispatch P cfg proposalId now).sat wireEnv OnePost (fun r θ' t' => ∃ τ s,
      Coupled P cfg τ s θ' t' ∧
        SendFsm.DispatchRows proposalId now p t.store r (answersOf τ) s) [] t :=
  sat_implement (fun o _ _ _ _ hone h => onWire_coupled o hone h)
    (SendFsm.dispatch_rows (τ := []) now rfl (Replay.decode_of_proposal? hp) hconfirmed)
    ⟨rfl, rfl, .nil⟩

end

/-! ### Statuses -/

/-- The transport returned a 2xx status. -/
def Accepted : Except Exc (Int × Bytes) → Prop
  | .ok r => 200 ≤ r.1 ∧ r.1 < 300
  | .error _ => False

/-- It returned a 4xx status. -/
def Refused : Except Exc (Int × Bytes) → Prop
  | .ok r => 400 ≤ r.1 ∧ r.1 < 500
  | .error _ => False

/-- The ids in a body can be hashed: `json.loads` lets nothing out but a `ValueError`, and the
ids it reads have a UTF-8 encoding. -/
def Hashable (L : MailLibrary) (body : Bytes) : Prop :=
  ∃ mid tid, parseIds L body = .ok (mid, tid) ∧ (∀ m ∈ mid, (encodeUtf8 m).isSome) ∧
    ∀ m ∈ tid, (encodeUtf8 m).isSome

/-- The ids of an accepted message can be hashed, and the transport does not raise what the
client raises instead of invoking it. -/
def Classifiable (L : MailLibrary) : Except Exc (Int × Bytes) → Prop
  | .ok r => Accepted (.ok r) → Hashable L r.2
  | .error (.egressBlocked _ _) => False
  | .error _ => True

section
variable {P : Platform} {L : MailLibrary} {host : PyStr}

theorem idSha256_ok {m : Option PyStr} :
    (∃ h, idSha256 P m = .ok h) ↔ ∀ s ∈ m, (encodeUtf8 s).isSome := by
  rcases m with _ | _ | ⟨c, cs⟩
  · exact ⟨fun _ => nofun, fun _ => ⟨none, rfl⟩⟩
  · refine ⟨fun _ s hs => ?_, fun _ => ⟨none, rfl⟩⟩
    cases hs
    rfl
  · rw [idSha256, sha256Hex]
    cases hencode : encodeUtf8 (c :: cs) with
    | none =>
        refine ⟨fun h => ?_, fun h => ?_⟩
        · obtain ⟨_, h⟩ := h
          cases h
        · have hsome := h _ rfl
          rw [hencode] at hsome
          cases hsome
    | some data =>
        refine ⟨fun _ s hs => ?_, fun _ => ⟨_, rfl⟩⟩
        cases hs
        rw [hencode]
        rfl

/-- A 2xx response whose ids can be hashed. -/
theorem classify_hashable {r : Int × Bytes} {mid tid m t : Option PyStr} (h : Accepted (.ok r))
    (hids : parseIds L r.2 = .ok (mid, tid)) (hm : idSha256 P mid = .ok m)
    (ht : idSha256 P tid = .ok t) : classify P L ⟨r.1, r.2, host⟩ = .ok
      { kind := .accepted, messageIdSha256 := m, threadIdSha256 := t, egressHosts := [host] } := by
  have hstatus : 200 ≤ r.1 ∧ r.1 < 300 := h
  simp only [classify, if_pos hstatus, hids]
  change (idSha256 P mid >>= fun m => idSha256 P tid >>= fun t => pure _) = _
  rw [hm, ht]
  rfl

/-- One whose ids cannot. -/
theorem classify_unhashable {r : Int × Bytes} (h : Accepted (.ok r)) (hids : ¬ Hashable L r.2) :
    ∃ e, classify P L ⟨r.1, r.2, host⟩ = .error e := by
  have hstatus : 200 ≤ r.1 ∧ r.1 < 300 := h
  simp only [classify, if_pos hstatus]
  cases hparse : parseIds L r.2 with
  | error e => exact ⟨e, rfl⟩
  | ok ids =>
      obtain ⟨mid, tid⟩ := ids
      change ∃ e, (idSha256 P mid >>= fun m => idSha256 P tid >>= fun t => pure _) = _
      cases hm : idSha256 P mid with
      | error e => exact ⟨e, rfl⟩
      | ok m =>
          change ∃ e, (idSha256 P tid >>= fun t => pure _) = _
          cases ht : idSha256 P tid with
          | error e => exact ⟨e, rfl⟩
          | ok t =>
              exact absurd ⟨mid, tid, hparse, idSha256_ok.mp ⟨m, hm⟩, idSha256_ok.mp ⟨t, ht⟩⟩ hids

theorem formatInt_ok {n : Int} (hlow : 400 ≤ n) (hhigh : n < 500) :
    formatInt n = .ok (decimal n) := by
  have hne : n.natAbs ≠ 0 := by omega
  have hdigits : (Nat.digits 10 n.natAbs).length ≤ 3 :=
    (Nat.digits_length_le_iff (by decide) n.natAbs).mpr (by omega)
  have hlength : ¬ intMaxStrDigits < (natDecimal n.natAbs).length := by
    rw [natDecimal, if_neg hne, List.length_map, List.length_reverse, intMaxStrDigits]
    omega
  rw [formatInt, if_neg hlength]
  rfl

theorem classify_refused {r : Int × Bytes} (h : Refused (.ok r)) :
    classify P L ⟨r.1, r.2, host⟩ = .ok
      { kind := .rejected, errorCode := str "rejected_" ++ decimal r.1, egressHosts := [host] } := by
  have hstatus : 400 ≤ r.1 ∧ r.1 < 500 := h
  have hno : ¬ (200 ≤ r.1 ∧ r.1 < 300) := by omega
  simp only [classify, if_neg hno, if_pos hstatus, formatInt_ok hstatus.1 hstatus.2]
  rfl

/-- Any other status: the body is not looked at. -/
theorem classify_other {r : Int × Bytes} (ha : ¬ Accepted (.ok r)) (hr : ¬ Refused (.ok r)) :
    classify P L ⟨r.1, r.2, host⟩ = (formatInt r.1).map fun status =>
      { kind := .indeterminate, errorCode := str "server_" ++ status, egressHosts := [host] } := by
  have hna : ¬ (200 ≤ r.1 ∧ r.1 < 300) := ha
  have hnr : ¬ (400 ≤ r.1 ∧ r.1 < 500) := hr
  simp only [classify, if_neg hna, if_neg hnr]
  rfl

/-- The status a post is settled with. -/
inductive PostEnd (L : MailLibrary) : Except Exc (Int × Bytes) → ProposalStatus → Prop
  | sent {a : Except Exc (Int × Bytes)} : Accepted a → Classifiable L a → PostEnd L a .sent
  /-- Hashing the ids raised. -/
  | unhashed {a : Except Exc (Int × Bytes)} : Accepted a → ¬ Classifiable L a →
      PostEnd L a .outcomeUnknown
  | refused {a : Except Exc (Int × Bytes)} : Refused a → PostEnd L a .failed
  | unknown {a : Except Exc (Int × Bytes)} : ¬ Accepted a → ¬ Refused a → Classifiable L a →
      PostEnd L a .outcomeUnknown
  /-- The transport raised what the client raises without posting. -/
  | disguised {a : Except Exc (Int × Bytes)} : ¬ Accepted a → ¬ Refused a → ¬ Classifiable L a →
      PostEnd L a .failed

theorem Refused.not_accepted {a : Except Exc (Int × Bytes)} (h : Refused a) : ¬ Accepted a := by
  cases a with
  | error e => exact id
  | ok r =>
      intro haccepted
      have hlow : 400 ≤ r.1 := h.1
      have hhigh : r.1 < 300 := haccepted.2
      omega

theorem Refused.classifiable {a : Except Exc (Int × Bytes)} (h : Refused a) :
    Classifiable L a := by
  cases a with
  | error e => exact h.elim
  | ok r => exact fun haccepted => absurd haccepted h.not_accepted

theorem postEnd (a : Except Exc (Int × Bytes)) : PostEnd L a (SendFsm.settledStatus
    (report P L (a.map fun r => { status := r.1, body := r.2, host }))) := by
  rcases a with e | r
  · have hnone : ¬ Accepted (.error e) ∧ ¬ Refused (.error e) := ⟨id, id⟩
    cases e with
    | egressBlocked => exact .disguised hnone.1 hnone.2 id
    | _ => exact .unknown hnone.1 hnone.2 trivial
  · change PostEnd L (.ok r) (SendFsm.settledStatus (classify P L ⟨r.1, r.2, host⟩))
    by_cases haccepted : Accepted (.ok r)
    · by_cases hids : Hashable L r.2
      · obtain ⟨mid, tid, hparse, hmid, htid⟩ := hids
        obtain ⟨m, hm⟩ := idSha256_ok.mpr hmid
        obtain ⟨t, ht⟩ := idSha256_ok.mpr htid
        rw [classify_hashable haccepted hparse hm ht]
        exact .sent haccepted fun _ => ⟨mid, tid, hparse, hmid, htid⟩
      · obtain ⟨e, he⟩ := classify_unhashable haccepted hids
        rw [he]
        exact .unhashed haccepted fun h => hids (h haccepted)
    by_cases hrefused : Refused (.ok r)
    · rw [classify_refused hrefused]
      exact .refused hrefused
    · rw [classify_other haccepted hrefused]
      have hunknown := PostEnd.unknown (L := L) haccepted hrefused fun h => absurd h haccepted
      cases formatInt r.1 <;> exact hunknown

/-- Without a post nothing is sent. -/
theorem Called.not_sent {cfg : GmailSenderConfig} {proposalId : PyStr} {evs : List WireEvent}
    {answer : Except Exc SendResult} (h : Called P cfg proposalId evs answer)
    (hnone : postsOf evs = []) : SendFsm.settledStatus answer ≠ .sent := by
  cases h with
  | posted => cases hnone
  | @refused _ _ e => cases e <;> nofun
  | _ => nofun

/-- With one, it is that one that is settled. -/
theorem Called.postEnd {cfg : GmailSenderConfig} {proposalId : PyStr} {evs : List WireEvent}
    {answer : Except Exc SendResult} (h : Called P cfg proposalId evs answer)
    {a : Except Exc (Int × Bytes)} (hpost : postsOf evs = [a]) :
    PostEnd cfg.library a (SendFsm.settledStatus answer) := by
  cases h with
  | posted =>
      cases hpost
      exact GmailSender.postEnd a
  | _ => cases hpost

end

/-- The terminal status does not misreport the wire. -/
structure Reports (proposalId : PyStr) (θ : List WireEvent) (r : Except Exc ProposalStatus)
    (s' : GatewayState) : Prop where
  once : (postsOf θ).length ≤ 1
  returned : ∀ x, r = .ok x → s'.store.status? proposalId = some x
  sent : s'.store.status? proposalId = some .sent ↔ ∃ a ∈ postsOf θ, Accepted a
  failed : s'.store.status? proposalId = some .failed →
    postsOf θ = [] ∨ ∃ a ∈ postsOf θ, Refused a
  unknown : ∀ a ∈ postsOf θ, ¬ Accepted a → ¬ Refused a →
    s'.store.status? proposalId = some .outcomeUnknown

section
variable {P : Platform} {cfg : GmailSenderConfig} {proposalId : PyStr} {s' : GatewayState}
  {θ : List WireEvent} {x : ProposalStatus}

/-- Settled without a post. -/
theorem reports_of_none (hnone : postsOf θ = []) (hne : x ≠ .sent)
    (hstatus : s'.store.status? proposalId = some x) {r : Except Exc ProposalStatus}
    (hr : ∀ y, r = .ok y → y = x) : Reports proposalId θ r s' where
  once := by
    rw [hnone]
    exact Nat.zero_le 1
  returned y hy := by rw [hr y hy, hstatus]
  sent := by simp [hnone, hstatus, hne]
  failed _ := .inl hnone
  unknown := by simp [hnone]

/-- Settled with the answer of a post. -/
theorem reports_iff (L : MailLibrary) {a : Except Exc (Int × Bytes)} (hpost : postsOf θ = [a])
    (hend : PostEnd L a x) (hstatus : s'.store.status? proposalId = some x) :
    Reports proposalId θ (.ok x) s' ↔ Classifiable L a := by
  have hmem : ∀ b, b ∈ postsOf θ ↔ b = a := by simp [hpost]
  constructor
  · intro h
    cases hend with
    | sent _ hc | unknown _ _ hc => exact hc
    | refused hr => exact hr.classifiable
    | unhashed ha =>
        have hsent := h.sent.mpr ⟨a, (hmem a).mpr rfl, ha⟩
        cases hstatus.symm.trans hsent
    | disguised ha hr =>
        have hunknown := h.unknown a ((hmem a).mpr rfl) ha hr
        cases hstatus.symm.trans hunknown
  · intro hc
    have hsent : x = .sent ↔ Accepted a := by
      cases hend with
      | sent ha => exact ⟨fun _ => ha, fun _ => rfl⟩
      | refused hr => exact ⟨nofun, fun ha => absurd ha hr.not_accepted⟩
      | unknown ha => exact ⟨nofun, fun h => absurd h ha⟩
      | unhashed _ hnot | disguised _ _ hnot => exact absurd hc hnot
    refine ⟨by simp [hpost], ?_, ?_, ?_, ?_⟩
    · intro y hy
      cases hy
      exact hstatus
    · simpa [hpost, hstatus] using hsent
    · intro hfailed
      obtain rfl : x = .failed := Option.some.inj (hstatus.symm.trans hfailed)
      cases hend with
      | refused hr => exact .inr ⟨a, (hmem a).mpr rfl, hr⟩
      | disguised _ _ hnot => exact absurd hc hnot
    · intro b hb ha hr
      obtain rfl := (hmem b).mp hb
      cases hend with
      | sent h => exact absurd h ha
      | refused h => exact absurd h hr
      | unhashed _ hnot | disguised _ _ hnot => exact absurd hc hnot
      | unknown => exact hstatus

/-- **The terminal status and the wire.** A dispatch of a confirmed proposal posts at most once.
When it ends, the status does not misreport the wire exactly if the ids of an accepted message
can be hashed and the transport itself raised no `EgressBlockedError`. -/
theorem dispatch_reports (P : Platform) (cfg : GmailSenderConfig) (now : Int) {s : GatewayState}
    {p : Proposal} (hp : s.store.proposal? proposalId = some p)
    (hconfirmed : p.status = .confirmed) :
    (∀ θ out s', Exec wireEnv (dispatch P cfg proposalId now) s θ out s' →
      (postsOf θ).length ≤ 1) ∧
    ∀ θ r s', Exec wireEnv (dispatch P cfg proposalId now) s θ (.done r) s' →
      (Reports proposalId θ r s' ↔ ∀ a ∈ postsOf θ, Classifiable cfg.library a) := by
  have hmeets := dispatch_meets P cfg now hp hconfirmed
  refine ⟨fun θ out s' hx => ?_, fun θ r s' hx => ?_⟩
  · by_cases hθ : θ = []
    · rw [hθ]
      exact Nat.zero_le 1
    · exact (hx.sound hmeets).1 hθ
  · obtain ⟨τ, t, hcoupled, hrows⟩ := hx.post hmeets
    have hposts := postsOf_senderEvents θ
    have hcalls := hcoupled.calls
    generalize hanswers : answersOf τ = answers at hrows hcalls
    cases hrows with
    | refused =>
        rw [hcalls.eq_nil] at hposts
        have hstatus : s'.store.status? proposalId = some .confirmed := by
          rw [StoreState.status?_congr (congrFun hcoupled.kv.symm _), StoreState.status?, hp, Option.map_some,
            hconfirmed]
        refine ⟨fun _ => by simp [← hposts], fun _ => ?_⟩
        exact reports_of_none hposts.symm (by decide) hstatus (fun _ h => by cases h)
    | @settled answer _ _ hkv =>
        have hcalled := hcalls.called
        have hstatus : s'.store.status? proposalId = some (SendFsm.settledStatus answer) := by
          have hrow := hcoupled.kv.symm.trans hkv
          simp [StoreState.status?, StoreState.proposal?, hrow, Except.toOption]
        cases hpost : postsOf (senderEvents θ) with
        | nil =>
            rw [hposts] at hpost
            refine ⟨fun _ => by simp [hpost], fun _ => ?_⟩
            refine reports_of_none hpost (hcalled.not_sent (hposts.trans hpost)) hstatus ?_
            intro y hy
            cases hy
            rfl
        | cons a rest =>
            have hle := hcalled.posts_le
            rw [hpost, List.length_cons] at hle
            obtain rfl : rest = [] := List.length_eq_zero_iff.mp (by omega)
            have hone : postsOf θ = [a] := hposts.symm.trans hpost
            rw [reports_iff cfg.library hone (hcalled.postEnd hpost) hstatus, hone]
            simp

end

/-! ### A run -/

/-- Collaborators that do not fail, and a transport that answers `a`. -/
def wirePerform (a : Except Exc (Int × Bytes)) (s : GatewayState) :
    (o : WireOp) → Except Exc o.Ret × GatewayState
  | .gateway (.store o) =>
      ((s.store.perform 0 (.error .other) o).1,
        { s with store := (s.store.perform 0 (.error .other) o).2 })
  | .gateway (.payloadGet key) => (.ok (s.payloads key), s)
  | .gateway (.payloadPut key canonical) =>
      (.ok (), { s with payloads := Function.update s.payloads key (some canonical) })
  | .gateway (.payloadDelete key) =>
      (.ok (), { s with payloads := Function.update s.payloads key none })
  | .gateway .newProposalId => (.ok [], s)
  | .gateway .newMessageId => (.ok .none, s)
  | .gateway (.deliver _) => (.error .other, s)
  | .token => (.ok (str "token"), s)
  | .post _ _ _ => (a, s)

theorem wirePerform_env (a : Except Exc (Int × Bytes)) (s : GatewayState) (o : WireOp) :
    wireEnv s o (wirePerform a s o).1 (wirePerform a s o).2 := by
  cases o with
  | gateway o =>
      cases o with
      | store o => exact ⟨_, s.store.perform_env _ 0 (.error .other) o, rfl⟩
      | payloadGet => exact ⟨rfl, rfl⟩
      | _ => rfl
  | token | post => rfl

/-- A rendering of plain text, and a parser that knows no number with a fraction. -/
def sampleLibrary : MailLibrary where
  Message := PyStr
  empty := []
  setHeader
    | msg, name, .str value => .ok (msg ++ name ++ str ": " ++ value ++ str "\n")
    | _, _, _ => .error .typeError
  setContent
    | msg, .str content => .ok (msg ++ str "Content-Type: text/plain; charset=\"utf-8\"\n" ++
        str "Content-Transfer-Encoding: 7bit\nMIME-Version: 1.0\n\n" ++ content ++ str "\n")
    | _, _ => .error .typeError
  asBytes msg := .ok (msg.flatMap CodePoint.utf8)
  urlsplit url :=
    if url = gmailSendUrl then .ok (str "https", some gmailHost) else .error .valueError
  jsonLoads text :=
    match Json.parse (fun _ => .nan) text with
    | some v => .ok v
    | none => .error .valueError

def sampleSenderConfig : GmailSenderConfig where
  library := sampleLibrary
  client := { allow := [gmailHost] }
  url := gmailSendUrl

/-- A confirmed proposal. -/
def confirmedProposal : Proposal where
  proposalId := str "p"
  payloadDigest := str "d"
  expiresAt := 1000
  createdAt := 0
  status := .confirmed

def samplePayload : Dict :=
  [(str "account_handle", .str (str "me")), (str "to", .list [.str (str "a@example.com")]),
    (str "cc", .list []), (str "bcc", .list []), (str "subject", .str (str "Hi")),
    (str "body", .dict [(str "format", .str (str "text")), (str "content", .str (str "Hello"))]),
    (str "attachments", .list [])]

/-- The stores hold a proposal and its payload. -/
def holdingPayload (p : Proposal) (canonical : Dict) : GatewayState where
  store := .holding p
  payloads := Function.update (fun _ => none) p.proposalId (some canonical)

theorem dispatch_reports_sample :
    (∀ θ out s', Exec wireEnv (dispatch samplePlatform sampleSenderConfig (str "p") 20)
        (holdingPayload confirmedProposal samplePayload) θ out s' → (postsOf θ).length ≤ 1) ∧
      ∀ θ r s', Exec wireEnv (dispatch samplePlatform sampleSenderConfig (str "p") 20)
          (holdingPayload confirmedProposal samplePayload) θ (.done r) s' →
        (Reports (str "p") θ r s' ↔ ∀ a ∈ postsOf θ, Classifiable sampleLibrary a) :=
  dispatch_reports samplePlatform sampleSenderConfig 20 (p := confirmedProposal) (by decide) rfl

/-- A 200 response whose message id is an unpaired surrogate. -/
def surrogateId : Except Exc (Int × Bytes) :=
  .ok (200, (str "\x7b\"id\": \"\\ud800\"\x7d").flatMap CodePoint.utf8)

/-- The dispatch of the confirmed proposal, with that response. -/
@[irreducible] def surrogateRun : List WireEvent × Outcome Exc ProposalStatus × GatewayState :=
  (dispatch samplePlatform sampleSenderConfig (str "p") 20).run (fun _ => wirePerform surrogateId)
    10 (holdingPayload confirmedProposal samplePayload)

theorem surrogateRun_exec :
    Exec wireEnv (dispatch samplePlatform sampleSenderConfig (str "p") 20)
      (holdingPayload confirmedProposal samplePayload) surrogateRun.1 surrogateRun.2.1
      surrogateRun.2.2 := by
  unfold surrogateRun
  exact run_exec (fun _ => wirePerform_env surrogateId) 10 _ _

/-- What a dispatch returned. -/
def settled? : Outcome Exc ProposalStatus → Option ProposalStatus
  | .done (.ok x) => some x
  | _ => none

theorem settled?_eq_some {out : Outcome Exc ProposalStatus} {x : ProposalStatus}
    (h : settled? out = some x) : out = .done (.ok x) := by
  match out, h with
  | .done (.ok _), rfl => rfl

/-- Gmail took the message, and the proposal is settled as unknown. -/
theorem dispatch_unknown_surrogateId : ∃ θ s',
    Exec wireEnv (dispatch samplePlatform sampleSenderConfig (str "p") 20)
      (holdingPayload confirmedProposal samplePayload) θ (.done (.ok .outcomeUnknown)) s' ∧
    (∃ a ∈ postsOf θ, Accepted a) ∧ s'.store.status? (str "p") = some .outcomeUnknown ∧
    ¬ Reports (str "p") θ (.ok .outcomeUnknown) s' := by
  have hreturned : surrogateRun.2.1 = .done (.ok .outcomeUnknown) :=
    settled?_eq_some (by decide +kernel)
  have hstatus : surrogateRun.2.2.store.status? (str "p") = some .outcomeUnknown := by
    decide +kernel
  have hstatuses : (postsOf surrogateRun.1).filterMap (·.toOption.map (·.1)) = [200] := by
    decide +kernel
  have hposted : ∃ a ∈ postsOf surrogateRun.1, Accepted a := by
    have hmem : (200 : Int) ∈ (postsOf surrogateRun.1).filterMap (·.toOption.map (·.1)) := by
      rw [hstatuses]
      exact List.mem_cons_self
    obtain ⟨a, ha, heq⟩ := List.mem_filterMap.mp hmem
    refine ⟨a, ha, ?_⟩
    rcases a with e | r
    · cases heq
    · have hr : r.1 = 200 := Option.some.inj heq
      show 200 ≤ r.1 ∧ r.1 < 300
      omega
  refine ⟨_, _, hreturned ▸ surrogateRun_exec, hposted, hstatus, fun h => ?_⟩
  cases hstatus.symm.trans (h.sent.mpr hposted)

end GmailSender

end GmailGateway
