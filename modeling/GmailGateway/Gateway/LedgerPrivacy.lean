import GmailGateway.Gateway.TerminalStatus

/-!
# GmailGateway.Gateway.LedgerPrivacy

**What the ledger tells about a message.** Two runs of `confirm` and `dispatch` on one proposal
record may differ in the payload, the access token, the body of the response and the text of an
exception. Their rows show the class of the outcome and, of an accepted message, the hashes of
its ids.
-/

namespace GmailGateway

open Effect Proc Python

namespace GmailSender

/-! ### Classes of outcomes -/

/-- How the sending went: which `except` clause or which status. -/
inductive OutcomeClass
  | policyBlocked
  | authorizationRequired
  | egressBlocked (host : PyStr)
  | timeout
  | transport
  | status (status : Int)
  /-- An exception no clause names. -/
  | unhandled
  deriving DecidableEq

/-- The class of what came back from the client. -/
def classOfAnswer : Except Exc Int → OutcomeClass
  | .ok status => .status status
  | .error (.egressBlocked host _) => .egressBlocked host
  | .error (.timeout _) => .timeout
  | .error (.urlError _) | .error (.osError _) => .transport
  | .error _ => .unhandled

/-- The class of a run, by what came back last. -/
def classOf (cfg : GmailSenderConfig) (θ : List WireEvent) : OutcomeClass :=
  match (senderEvents θ).getLast? with
  | some ⟨.post _ _ _, a⟩ => classOfAnswer (a.map (·.1))
  -- A token and no post: the client refused the url.
  | some ⟨.token, .ok _⟩ =>
      match cfg.client.checkHost cfg.library cfg.url with
      | .error e => classOfAnswer (.error e)
      | .ok _ => .unhandled
  | some ⟨.token, .error (.oauth _ _)⟩ => .authorizationRequired
  | some ⟨.gateway (.payloadGet _), .ok (some canonical)⟩ =>
      if policyBlocks canonical then .policyBlocked else .unhandled
  | _ => .unhandled

/-- A 2xx status. -/
def OutcomeClass.Accepted : OutcomeClass → Prop
  | .status n => 200 ≤ n ∧ n < 300
  | _ => False

/-- The id strings of the response. -/
def idsOf (L : MailLibrary) (θ : List WireEvent) : Option PyStr × Option PyStr :=
  match postsOf θ with
  | [.ok r] => (parseIds L r.2).toOption.getD (none, none)
  | _ => (none, none)

/-- The ids of every accepted message can be hashed. -/
def HashesIds (L : MailLibrary) (θ : List WireEvent) : Prop :=
  ∀ r, .ok r ∈ postsOf θ → GmailSender.Accepted (.ok r) → Hashable L r.2

/-! ### Rows that tell no more -/

/-- A row without the hashes of the ids. -/
def withoutIds (row : AuditEvent) : AuditEvent :=
  { row with messageIdSha256 := none, threadIdSha256 := none }

/-- The rows of two runs of one class: they are the same, apart from hashes that depend on the
ids only. -/
structure Alike (c : OutcomeClass) (ids₁ ids₂ : Option PyStr × Option PyStr)
    (rows₁ rows₂ : List AuditEvent) : Prop where
  same : ¬ c.Accepted → rows₁ = rows₂
  erased : rows₁.map withoutIds = rows₂.map withoutIds
  messageId : ids₁.1 = ids₂.1 →
    rows₁.map (·.messageIdSha256) = rows₂.map (·.messageIdSha256)
  threadId : ids₁.2 = ids₂.2 → rows₁.map (·.threadIdSha256) = rows₂.map (·.threadIdSha256)

theorem Alike.refl (c : OutcomeClass) (ids₁ ids₂ : Option PyStr × Option PyStr)
    (rows : List AuditEvent) : Alike c ids₁ ids₂ rows rows :=
  ⟨fun _ => rfl, rfl, fun _ => rfl, fun _ => rfl⟩

/-! ### The result of a class -/

section
variable {P : Platform} {cfg : GmailSenderConfig} {proposalId : PyStr} {evs : List WireEvent}
  {answer : Except Exc SendResult}

/-- What the sender reports of an outcome that is not accepted. -/
def resultOf (P : Platform) (cfg : GmailSenderConfig) : OutcomeClass → Option SendResult
  | .policyBlocked => some { kind := .rejected, errorCode := str "policy_blocked" }
  | .authorizationRequired => some { kind := .rejected, errorCode := str "authorization_required" }
  | .egressBlocked host => some
      { kind := .rejected, errorCode := str "egress_blocked",
        egressHosts := if host = [] then [] else [host] }
  | .timeout => some
      { kind := .indeterminate, errorCode := str "TIMEOUT", egressHosts := [gmailHost] }
  | .transport => some
      { kind := .indeterminate, errorCode := str "TRANSPORT", egressHosts := [gmailHost] }
  | .status n =>
      match cfg.client.checkHost cfg.library cfg.url with
      | .ok host => (classify P cfg.library ⟨n, [], host⟩).toOption
      | .error _ => none
  | .unhandled => none

/-- Only an accepted response is looked into. -/
theorem classify_body {L : MailLibrary} {n : Int} {body body' : Bytes} {host : PyStr}
    (h : ¬ (200 ≤ n ∧ n < 300)) : classify P L ⟨n, body, host⟩ = classify P L ⟨n, body', host⟩ := by
  simp only [classify, if_neg h]

theorem report_error (e : Exc) :
    (report P cfg.library (.error e)).toOption = resultOf P cfg (classOfAnswer (.error e)) := by
  cases e <;> rfl

/-- **The result is a function of the class**, if it is not accepted. -/
theorem Called.result {θ : List WireEvent} (hθ : senderEvents θ = evs)
    (h : Called P cfg proposalId evs answer) (hc : ¬ (classOf cfg θ).Accepted) :
    answer.toOption = resultOf P cfg (classOf cfg θ) := by
  rw [classOf, hθ] at hc ⊢
  cases h with
  | @unloaded a e hnone =>
      rcases a with e' | _ | canonical
      · rfl
      · rfl
      · exact absurd rfl (hnone canonical)
  | policyBlocked hblocks => simp [hblocks, resultOf, Except.toOption]
  | unrendered hblocks => simp [hblocks, resultOf, Except.toOption]
  | unauthorized => rfl
  | @tokenless canonical e hne =>
      cases e with
      | oauth c m => exact absurd rfl (hne c m)
      | _ => rfl
  | @refused _ _ e hhost =>
      simp only [List.getLast?_cons_cons, List.getLast?_singleton, hhost]
      exact report_error e
  | @posted _ _ host _ a hhost =>
      rcases a with e | r
      · exact report_error e
      · have hstatus : ¬ (200 ≤ r.1 ∧ r.1 < 300) := hc
        change (classify P cfg.library ⟨r.1, r.2, host⟩).toOption = resultOf P cfg (.status r.1)
        rw [resultOf, hhost, classify_body hstatus]

/-- An accepted response was posted for, and it is what is classified. -/
theorem Called.accepted {θ : List WireEvent} (hθ : senderEvents θ = evs)
    (h : Called P cfg proposalId evs answer) (hc : (classOf cfg θ).Accepted) :
    ∃ r host, cfg.client.checkHost cfg.library cfg.url = .ok host ∧ postsOf θ = [.ok r] ∧
      GmailSender.Accepted (.ok r) ∧ answer = classify P cfg.library ⟨r.1, r.2, host⟩ := by
  have hposts := postsOf_senderEvents θ
  rw [hθ] at hposts
  rw [classOf, hθ] at hc
  cases h with
  | @unloaded a e hnone =>
      rcases a with e' | _ | canonical
      · exact hc.elim
      · exact hc.elim
      · exact absurd rfl (hnone canonical)
  | policyBlocked hblocks | unrendered hblocks => simp [hblocks, OutcomeClass.Accepted] at hc
  | unauthorized => exact hc.elim
  | @tokenless canonical e hne => cases e <;> exact hc.elim
  | @refused _ _ e hhost =>
      simp only [List.getLast?_cons_cons, List.getLast?_singleton, hhost] at hc
      cases e <;> exact hc.elim
  | @posted _ _ host _ a hhost =>
      rcases a with e | r
      · cases e <;> exact hc.elim
      · exact ⟨r, host, hhost, hposts.symm, hc, rfl⟩

/-! ### The rows of a run -/

/-- The rows of a confirmation and a dispatch, as a function of the stored record and of what the
sender answered. -/
inductive RowsOf (switchMode : SwitchMode) (proposalId : PyStr) (actor : Actor) (now : Int)
    (agentReachable : Option Bool) (dispatchedAt : Int) (record : Except Exc Proposal) :
    List (PyStr × Except Exc SendResult) → List AuditEvent → Prop
  | unconfirmed :
      (∀ p, record = .ok p → ¬ SendFsm.Confirms switchMode actor now agentReachable p) →
      RowsOf switchMode proposalId actor now agentReachable dispatchedAt record [] []
  | undispatched {p : Proposal} : record = .ok p →
      SendFsm.Confirms switchMode actor now agentReachable p → dispatchedAt < 0 →
      RowsOf switchMode proposalId actor now agentReachable dispatchedAt record []
        [SendFsm.confirmedRow p proposalId actor now]
  | dispatched {p : Proposal} {answer : Except Exc SendResult} : record = .ok p →
      SendFsm.Confirms switchMode actor now agentReachable p → 0 ≤ dispatchedAt →
      RowsOf switchMode proposalId actor now agentReachable dispatchedAt record
        [(proposalId, answer)]
        [SendFsm.confirmedRow p proposalId actor now,
          SendFsm.attemptedRow p proposalId dispatchedAt,
          SendFsm.settledRow proposalId dispatchedAt answer]

theorem confirm_dispatch_rows (switchMode : SwitchMode) (proposalId : PyStr) (actor : Actor)
    (now : Int) (agentReachable : Option Bool) (dispatchedAt : Int) (s : StoreState) :
    (do SendFsm.confirm switchMode proposalId actor now agentReachable
        SendFsm.dispatch proposalId dispatchedAt : Proc StoreSig Exc ProposalStatus).sat
      Replay.reliableStores SendFsm.OneAnswer (fun _ τ' s' => ∃ rows,
        s'.ledger = s.ledger ++ rows ∧ RowsOf switchMode proposalId actor now agentReachable
          dispatchedAt (ProposalStore.decode proposalId (.ok (s.kv proposalId)))
          (answersOf τ') rows) [] s := by
  rw [sat_bind]
  refine sat_mono (SendFsm.confirm_rows switchMode actor now agentReachable rfl) ?_
  intro r τ s₁ h
  obtain ⟨hnone, hrows⟩ := h
  cases hrows with
  | refused hno =>
      refine ⟨[], by simp, ?_⟩
      rw [hnone]
      exact .unconfirmed hno
  | @confirmed p hp hconfirms =>
      have hstored : ProposalStore.decode proposalId (.ok ((Replay.written s p proposalId .confirmed
          (SendFsm.confirmedRow p proposalId actor now)).kv proposalId)) =
            .ok (p.withStatus .confirmed) := by
        simp [Replay.written, ProposalStore.decode]
      refine sat_mono (SendFsm.dispatch_rows dispatchedAt hnone hstored rfl) fun r τ' s' h => ?_
      generalize answersOf τ' = answers at h
      cases h with
      | refused hneg => exact ⟨_, rfl, .undispatched hp hconfirms hneg⟩
      | settled hnow _ hledger =>
          refine ⟨_, ?_, .dispatched hp hconfirms hnow⟩
          rw [hledger, Replay.written, List.append_assoc]
          rfl

/-- `confirm`, then `dispatch`, over `GmailSender`. -/
def confirmAndDispatch (P : Platform) (cfg : GmailSenderConfig) (switchMode : SwitchMode)
    (proposalId : PyStr) (actor : Actor) (now : Int) (agentReachable : Option Bool)
    (dispatchedAt : Int) : WireProc ProposalStatus :=
  (do SendFsm.confirm switchMode proposalId actor now agentReachable
      SendFsm.dispatch proposalId dispatchedAt).implement (onWire P cfg)

theorem confirmAndDispatch_meets (switchMode : SwitchMode) (actor : Actor) (now : Int)
    (agentReachable : Option Bool) (dispatchedAt : Int) (t : GatewayState) :
    (confirmAndDispatch P cfg switchMode proposalId actor now agentReachable dispatchedAt).sat
      wireEnv OnePost (fun _ θ' t' => ∃ answers rows, t'.store.ledger = t.store.ledger ++ rows ∧
        RowsOf switchMode proposalId actor now agentReachable dispatchedAt
          (ProposalStore.decode proposalId (.ok (t.store.kv proposalId))) answers rows ∧
        Calls P cfg answers (senderEvents θ')) [] t := by
  have hrows := confirm_dispatch_rows switchMode proposalId actor now agentReachable dispatchedAt
    t.store
  refine sat_mono (sat_implement (fun o _ _ _ _ hone h => onWire_coupled o hone h) hrows
    ⟨rfl, rfl, .nil⟩) fun r θ' t' h => ?_
  obtain ⟨τ, s, hcoupled, rows, hledger, hrows⟩ := h
  exact ⟨_, rows, hcoupled.ledger.symm.trans hledger, hrows, hcoupled.calls⟩

/-! ### Two runs -/

section TwoRuns
variable {θ θ₁ θ₂ : List WireEvent} {answer₁ answer₂ : Except Exc SendResult}

/-- Without a post there is nothing to hash. -/
theorem HashesIds.of_nil {L : MailLibrary} (h : senderEvents θ = []) : HashesIds L θ := by
  intro r hr
  rw [← postsOf_senderEvents, h] at hr
  cases hr

/-- Nor is there in a response that is not accepted. -/
theorem Called.hashesIds (h : Called P cfg proposalId (senderEvents θ) answer)
    (hc : ¬ (classOf cfg θ).Accepted) : HashesIds cfg.library θ := by
  intro r hr haccepted
  have hposts := postsOf_senderEvents θ
  rw [classOf] at hc
  generalize senderEvents θ = evs at h hc hposts
  rw [← hposts] at hr
  cases h with
  | posted =>
      obtain rfl := List.mem_singleton.mp hr
      exact absurd haccepted hc
  | _ => cases hr

/-- The row of an accepted response: its hashes are those of the ids, if they can be made. -/
inductive IdRow (P : Platform) (L : MailLibrary) (proposalId : PyStr) (at_ : Int) (host : PyStr)
    (θ : List WireEvent) : AuditEvent → Prop
  | hashed {m t : Option PyStr} : HashesIds L θ → idSha256 P (idsOf L θ).1 = .ok m →
      idSha256 P (idsOf L θ).2 = .ok t → IdRow P L proposalId at_ host θ
        { eventType := .sendSucceeded, at_, proposalId, outcome := str "accepted",
          messageIdSha256 := m, threadIdSha256 := t, egressHosts := [host] }
  | raised : ¬ HashesIds L θ → IdRow P L proposalId at_ host θ
        { eventType := .outcomeUnknown, at_, proposalId, outcome := str "indeterminate",
          errorCode := str "sender_raised" }

theorem idRow (P : Platform) (L : MailLibrary) (proposalId : PyStr) (at_ : Int) (host : PyStr)
    {r : Int × Bytes} (hposts : postsOf θ = [.ok r]) (haccepted : GmailSender.Accepted (.ok r)) :
    IdRow P L proposalId at_ host θ
      (SendFsm.settledRow proposalId at_ (classify P L ⟨r.1, r.2, host⟩)) := by
  have hiff : HashesIds L θ ↔ Hashable L r.2 := by simp [HashesIds, hposts, haccepted]
  by_cases hids : Hashable L r.2
  · obtain ⟨mid, tid, hparse, hmid, htid⟩ := id hids
    have hidsOf : idsOf L θ = (mid, tid) := by simp [idsOf, hposts, hparse, Except.toOption]
    obtain ⟨m, hm⟩ : ∃ m, idSha256 P mid = .ok m := idSha256_ok.mpr hmid
    obtain ⟨t, ht⟩ : ∃ t, idSha256 P tid = .ok t := idSha256_ok.mpr htid
    rw [classify_hashable haccepted hparse hm ht]
    exact .hashed (hiff.mpr hids) (by rw [hidsOf, hm]) (by rw [hidsOf, ht])
  · obtain ⟨e, he⟩ : ∃ e, classify P L ⟨r.1, r.2, host⟩ = .error e :=
      classify_unhashable haccepted hids
    rw [he]
    exact .raised fun h => hids (hiff.mp h)

/-- Rows of accepted responses tell no more, exactly if the ids of both can be hashed or of
neither. -/
theorem IdRow.alike_iff {L : MailLibrary} {at_ : Int} {host : PyStr} {row₁ row₂ : AuditEvent}
    (c : OutcomeClass) (hc : c.Accepted) (rows : List AuditEvent)
    (h₁ : IdRow P L proposalId at_ host θ₁ row₁) (h₂ : IdRow P L proposalId at_ host θ₂ row₂) :
    Alike c (idsOf L θ₁) (idsOf L θ₂) (rows ++ [row₁]) (rows ++ [row₂]) ↔
      (HashesIds L θ₁ ↔ HashesIds L θ₂) := by
  have hdiffer (row₁ row₂ : AuditEvent) (hne : row₁.eventType ≠ row₂.eventType) :
      ¬ Alike c (idsOf L θ₁) (idsOf L θ₂) (rows ++ [row₁]) (rows ++ [row₂]) := by
    intro h
    have herased := h.erased
    rw [List.map_append, List.map_append, List.append_cancel_left_eq] at herased
    have hrow : withoutIds row₁ = withoutIds row₂ := (List.cons.inj herased).1
    have htype := congrArg AuditEvent.eventType hrow
    exact hne htype
  cases h₁ with
  | hashed hids₁ hm₁ ht₁ =>
      cases h₂ with
      | hashed hids₂ hm₂ ht₂ =>
          refine ⟨fun _ => iff_of_true hids₁ hids₂, fun _ => ?_⟩
          refine ⟨fun h => absurd hc h, by simp [withoutIds], fun h => ?_, fun h => ?_⟩
          · rw [h, hm₂] at hm₁
            cases hm₁
            simp
          · rw [h, ht₂] at ht₁
            cases ht₁
            simp
      | raised hids₂ =>
          exact ⟨fun h => absurd h (hdiffer _ _ (by simp)), fun h => absurd (h.mp hids₁) hids₂⟩
  | raised hids₁ =>
      cases h₂ with
      | hashed hids₂ =>
          exact ⟨fun h => absurd h (hdiffer _ _ (by simp)), fun h => absurd (h.mpr hids₂) hids₁⟩
      | raised hids₂ => exact ⟨fun _ => iff_of_false hids₁ hids₂, fun _ => Alike.refl _ _ _ _⟩

/-- **Two answers of one class** are settled by rows that tell no more, exactly if the ids of
both can be hashed or of neither. -/
theorem settled_alike (dispatchedAt : Int) (rows : List AuditEvent)
    (h₁ : Called P cfg proposalId (senderEvents θ₁) answer₁)
    (h₂ : Called P cfg proposalId (senderEvents θ₂) answer₂)
    (hclass : classOf cfg θ₁ = classOf cfg θ₂) :
    Alike (classOf cfg θ₁) (idsOf cfg.library θ₁) (idsOf cfg.library θ₂)
        (rows ++ [SendFsm.settledRow proposalId dispatchedAt answer₁])
        (rows ++ [SendFsm.settledRow proposalId dispatchedAt answer₂]) ↔
      (HashesIds cfg.library θ₁ ↔ HashesIds cfg.library θ₂) := by
  by_cases hc : (classOf cfg θ₁).Accepted
  · obtain ⟨r₁, host, hhost₁, hposts₁, haccepted₁, rfl⟩ := h₁.accepted rfl hc
    obtain ⟨r₂, host₂, hhost₂, hposts₂, haccepted₂, rfl⟩ := h₂.accepted rfl (hclass ▸ hc)
    obtain rfl : host = host₂ := Except.ok.inj (hhost₁.symm.trans hhost₂)
    exact IdRow.alike_iff _ hc rows (idRow P _ proposalId dispatchedAt host hposts₁ haccepted₁)
      (idRow P _ proposalId dispatchedAt host hposts₂ haccepted₂)
  · have hresult₁ := h₁.result rfl hc
    have hresult₂ := h₂.result rfl (hclass ▸ hc)
    rw [← hclass, ← hresult₁] at hresult₂
    rw [SendFsm.settledRow_toOption proposalId dispatchedAt hresult₂]
    exact ⟨fun _ => iff_of_true (h₁.hashesIds hc) (h₂.hashesIds (hclass ▸ hc)),
      fun _ => Alike.refl _ _ _ _⟩

/-- **The ledger tells the class of the outcome.** Two runs of `confirm` and `dispatch` on the
same record, of the same class, append rows that differ at most in the hashes of the ids, exactly
if, after a 2xx status, the ids of both responses can be hashed or of neither. -/
theorem confirmAndDispatch_alike (P : Platform) (cfg : GmailSenderConfig)
    (switchMode : SwitchMode) (proposalId : PyStr) (actor : Actor) (now : Int)
    (agentReachable : Option Bool) (dispatchedAt : Int) {s₁ s₁' s₂ s₂' : GatewayState}
    {r₁ r₂ : Except Exc ProposalStatus} (hrecord : s₁.store.kv proposalId = s₂.store.kv proposalId)
    (h₁ : Exec wireEnv (confirmAndDispatch P cfg switchMode proposalId actor now agentReachable
      dispatchedAt) s₁ θ₁ (.done r₁) s₁')
    (h₂ : Exec wireEnv (confirmAndDispatch P cfg switchMode proposalId actor now agentReachable
      dispatchedAt) s₂ θ₂ (.done r₂) s₂')
    (hclass : classOf cfg θ₁ = classOf cfg θ₂) :
    ∃ rows₁ rows₂, s₁'.store.ledger = s₁.store.ledger ++ rows₁ ∧
      s₂'.store.ledger = s₂.store.ledger ++ rows₂ ∧
      (Alike (classOf cfg θ₁) (idsOf cfg.library θ₁) (idsOf cfg.library θ₂) rows₁ rows₂ ↔
        (HashesIds cfg.library θ₁ ↔ HashesIds cfg.library θ₂)) := by
  obtain ⟨answers₁, rows₁, hledger₁, hrows₁, hcalls₁⟩ := h₁.post
    (confirmAndDispatch_meets switchMode actor now agentReachable dispatchedAt s₁)
  obtain ⟨answers₂, rows₂, hledger₂, hrows₂, hcalls₂⟩ := h₂.post
    (confirmAndDispatch_meets switchMode actor now agentReachable dispatchedAt s₂)
  refine ⟨rows₁, rows₂, hledger₁, hledger₂, ?_⟩
  rw [hrecord] at hrows₁
  have hunsent (rows : List AuditEvent) (hnil₁ : senderEvents θ₁ = [])
      (hnil₂ : senderEvents θ₂ = []) :
      Alike (classOf cfg θ₁) (idsOf cfg.library θ₁) (idsOf cfg.library θ₂) rows rows ↔
        (HashesIds cfg.library θ₁ ↔ HashesIds cfg.library θ₂) :=
    ⟨fun _ => iff_of_true (.of_nil hnil₁) (.of_nil hnil₂), fun _ => Alike.refl _ _ _ _⟩
  -- the record decides how far both runs get
  cases hrows₁ with
  | unconfirmed hno =>
      cases hrows₂ with
      | unconfirmed => exact hunsent [] hcalls₁.eq_nil hcalls₂.eq_nil
      | undispatched hp hconfirms | dispatched hp hconfirms => exact absurd hconfirms (hno _ hp)
  | undispatched hp hconfirms hneg =>
      cases hrows₂ with
      | unconfirmed hno => exact absurd hconfirms (hno _ hp)
      | undispatched hp' =>
          obtain rfl := Except.ok.inj (hp.symm.trans hp')
          exact hunsent _ hcalls₁.eq_nil hcalls₂.eq_nil
      | dispatched _ _ hnonneg => exact absurd hneg (by omega)
  | dispatched hp hconfirms hnonneg =>
      cases hrows₂ with
      | unconfirmed hno => exact absurd hconfirms (hno _ hp)
      | undispatched _ _ hneg => exact absurd hneg (by omega)
      | @dispatched q _ hp' =>
          obtain rfl := Except.ok.inj (hp.symm.trans hp')
          exact settled_alike dispatchedAt [SendFsm.confirmedRow _ proposalId actor now,
            SendFsm.attemptedRow _ proposalId dispatchedAt] hcalls₁.called hcalls₂.called hclass

end TwoRuns

end

/-! ### A run -/

/-- The sample proposal, before it was confirmed. -/
def pendingProposal : Proposal := confirmedProposal.withStatus .pending

/-- It is confirmed by a human and dispatched, with the answer `a` of the transport. -/
@[irreducible] def sampleSending (a : Except Exc (Int × Bytes)) :
    List WireEvent × Outcome Exc ProposalStatus × GatewayState :=
  (confirmAndDispatch samplePlatform sampleSenderConfig .confirmThenSend (str "p") .human 10 none
    20).run (fun _ => wirePerform a) 20 (holdingPayload pendingProposal samplePayload)

theorem sampleSending_exec (a : Except Exc (Int × Bytes)) :
    Exec wireEnv (confirmAndDispatch samplePlatform sampleSenderConfig .confirmThenSend (str "p")
      .human 10 none 20) (holdingPayload pendingProposal samplePayload) (sampleSending a).1
      (sampleSending a).2.1 (sampleSending a).2.2 := by
  unfold sampleSending
  exact run_exec (fun _ => wirePerform_env a) 20 _ _

/-- A 200 response with a message id. -/
def plainId : Except Exc (Int × Bytes) :=
  .ok (200, (str "\x7b\"id\": \"m\"\x7d").flatMap CodePoint.utf8)

/-- What the run with that response left, in one evaluation. -/
theorem plainId_left :
    settled? (sampleSending plainId).2.1 = some .sent ∧
    classOf sampleSenderConfig (sampleSending plainId).1 = .status 200 ∧
    idsOf sampleLibrary (sampleSending plainId).1 = (some (str "m"), none) ∧
    (sampleSending plainId).2.2.store.ledger.map (·.eventType) =
      [.proposalConfirmed, .sendAttempted, .sendSucceeded] := by
  decide +kernel

/-- And with an unpaired surrogate as its message id. -/
theorem surrogateId_left :
    settled? (sampleSending surrogateId).2.1 = some .outcomeUnknown ∧
    classOf sampleSenderConfig (sampleSending surrogateId).1 = .status 200 ∧
    idsOf sampleLibrary (sampleSending surrogateId).1 = (some [0xD800], none) ∧
    (sampleSending surrogateId).2.2.store.ledger.map (·.eventType) =
      [.proposalConfirmed, .sendAttempted, .outcomeUnknown] := by
  decide +kernel

theorem sampleSending_plainId : (sampleSending plainId).2.1 = .done (.ok .sent) :=
  settled?_eq_some plainId_left.1

theorem sampleSending_surrogateId :
    (sampleSending surrogateId).2.1 = .done (.ok .outcomeUnknown) :=
  settled?_eq_some surrogateId_left.1

theorem confirmAndDispatch_alike_sample : ∃ rows₁ rows₂,
    (sampleSending plainId).2.2.store.ledger = [] ++ rows₁ ∧
    (sampleSending surrogateId).2.2.store.ledger = [] ++ rows₂ ∧
      (Alike (.status 200) (some (str "m"), none) (some [0xD800], none) rows₁ rows₂ ↔
        (HashesIds sampleLibrary (sampleSending plainId).1 ↔
          HashesIds sampleLibrary (sampleSending surrogateId).1)) := by
  obtain ⟨-, hclass, hids, -⟩ := plainId_left
  obtain ⟨-, hclass', hids', -⟩ := surrogateId_left
  rw [← hclass, ← hids, ← hids']
  exact confirmAndDispatch_alike samplePlatform sampleSenderConfig .confirmThenSend (str "p") .human
    10 none 20 rfl (sampleSending_plainId ▸ sampleSending_exec plainId)
    (sampleSending_surrogateId ▸ sampleSending_exec surrogateId) (hclass.trans hclass'.symm)

/-- Two responses with status 200 that differ in the id only leave different rows. -/
theorem confirmAndDispatch_surrogateId :
    classOf sampleSenderConfig (sampleSending plainId).1 = .status 200 ∧
    classOf sampleSenderConfig (sampleSending surrogateId).1 = .status 200 ∧
    (∃ s, Exec wireEnv (confirmAndDispatch samplePlatform sampleSenderConfig .confirmThenSend
        (str "p") .human 10 none 20) (holdingPayload pendingProposal samplePayload)
        (sampleSending plainId).1 (.done (.ok .sent)) s ∧
      ∃ s', Exec wireEnv (confirmAndDispatch samplePlatform sampleSenderConfig .confirmThenSend
          (str "p") .human 10 none 20) (holdingPayload pendingProposal samplePayload)
          (sampleSending surrogateId).1 (.done (.ok .outcomeUnknown)) s' ∧
        ∀ c ids₁ ids₂, ¬ Alike c ids₁ ids₂ s.store.ledger s'.store.ledger) := by
  obtain ⟨-, hclass, -, htypes⟩ := plainId_left
  obtain ⟨-, hclass', -, htypes'⟩ := surrogateId_left
  refine ⟨hclass, hclass', _,
    sampleSending_plainId ▸ sampleSending_exec plainId, _,
    sampleSending_surrogateId ▸ sampleSending_exec surrogateId, fun c ids₁ ids₂ h => ?_⟩
  have herased := congrArg (List.map AuditEvent.eventType) h.erased
  rw [List.map_map, List.map_map] at herased
  cases htypes.symm.trans (herased.trans htypes')

end GmailSender

end GmailGateway
