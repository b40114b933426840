import GmailGateway.Gateway.ProposalService
import GmailGateway.Effect.Guards
import GmailGateway.Effect.Pool

/-!
# GmailGateway.Gateway.CallGuards

**What one call of the gateway does, whatever it is answered.** A `propose` call makes its
writes in a fixed order (`rank`): it mints an id, freezes the payload under it, creates the
record, claims the idempotency key, and, if it lost the claim, deletes the record and drops
the payload. Each write rests on what came before it (`Founded`). The other calls only rewrite
a record they have read, with another status (`Rewrites`).

These are facts about the call's own events, so they hold of it in every interleaving.
-/

namespace GmailGateway

open Effect Proc Python

namespace ProposalService

/-! ### Guards -/

/-- The order of the writes of a `propose` call. -/
def rank : GatewayOp → Nat
  | .newProposalId => 1
  | .payloadPut _ _ => 2
  | .store (.put _ _) => 3
  | .store (.claim _ _) => 4
  | .store (.delete _) => 5
  | .payloadDelete _ => 6
  | _ => 0

/-- The call was given this proposal id. -/
def Minted (id : PyStr) (τ : List GatewayEvent) : Prop := ⟨.newProposalId, .ok id⟩ ∈ τ

/-- It froze this payload under it. -/
def Froze (id : PyStr) (canonical : Dict) (τ : List GatewayEvent) : Prop :=
  ⟨.payloadPut id canonical, .ok ()⟩ ∈ τ

/-- It created this record. -/
def Created (p : Proposal) (τ : List GatewayEvent) : Prop :=
  ⟨.store (.put p.proposalId p.toDict), .ok ()⟩ ∈ τ

/-- It claimed this key for the id. -/
def Won (key id : PyStr) (τ : List GatewayEvent) : Prop :=
  ⟨.store (.claim (ProposalStore.idemIndexKey key) (.index id)), .ok true⟩ ∈ τ

/-- It has won no claim. -/
def NoWin (τ : List GatewayEvent) : Prop :=
  ∀ x v, (⟨.store (.claim x v), .ok true⟩ : GatewayEvent) ∉ τ

/-- The record of a `propose` call for these parameters and this payload. -/
structure RecordOf (P : Platform) (params : Dict) (canonical : Dict) (p : Proposal) : Prop where
  digest : digest P (.dict canonical) = .ok p.payloadDigest
  key : idempotencyKey params = .ok p.idempotencyKey

/-- What a write of a `propose` call rests on. -/
def Founded (P : Platform) (params : Dict) : GatewayOp → List GatewayEvent → Prop
  | .payloadPut id canonical, τ => Minted id τ ∧
      ∃ messageId, buildCanonicalPayload (.dict params) messageId = .ok canonical
  | .store (.put id v), τ => ∃ p canonical, id = p.proposalId ∧ v = p.toDict ∧
      Minted id τ ∧ Froze id canonical τ ∧ RecordOf P params canonical p
  | .store (.claim x v), τ => ∃ p key, Created p τ ∧ p.idempotencyKey = some key ∧
      x = ProposalStore.idemIndexKey key ∧ v = .index p.proposalId
  | .store (.delete id), τ => Minted id τ ∧ NoWin τ
  | .payloadDelete id, τ => Minted id τ ∧ NoWin τ
  | .store (.append _), _ | .store (.send _), _ | .payloadGet _, _ | .deliver _, _ => False
  | .store (.get _), _ | .store .now, _ | .newProposalId, _ | .newMessageId, _ => True

/-- The guard of a `propose` call. -/
def ProposeGuard (P : Platform) (params : Dict) (o : GatewayOp) (τ : List GatewayEvent) : Prop :=
  Founded P params o τ ∧ InOrder rank o τ

/-- The guard of the other calls: they write a record they have read, with another status,
and deliver a payload they have read. -/
def Rewrites (proposalId : PyStr) : GatewayOp → List GatewayEvent → Prop
  | .store (.put key v), τ => ∃ raw p status, (⟨.store (.get key), .ok (some raw)⟩ :
      GatewayEvent) ∈ τ ∧ Proposal.fromDict raw = .ok p ∧ v = (p.withStatus status).toDict
  | .deliver canonical, τ => ⟨.payloadGet proposalId, .ok (some canonical)⟩ ∈ τ
  | .store (.claim _ _), _ | .store (.delete _), _ | .payloadPut _ _, _ | .payloadDelete _, _
  | .newProposalId, _ | .newMessageId, _ => False
  | .store _, _ | .payloadGet _, _ => True

/-! ### Confirming, dispatching, expiring -/

section Rewriting
variable {proposalId : PyStr}

theorem respects_setStatus (key : PyStr) (status : ProposalStatus) :
    ((ProposalStore.setStatus key status).implement sendPath).Respects (Rewrites proposalId) := by
  simp only [ProposalStore.setStatus, ProposalStore.get, implement_bind, implement_kvGet,
    implement_kvPut, implement_pure, sendPath_get, sendPath_put, bind_assoc]
  refine respects_perform_bind (fun _ => trivial) fun raw τ hτ => ?_
  cases raw with
  | none => exact hτ
  | some raw =>
      rw [implement_embed]
      cases hp : Proposal.fromDict raw with
      | error e => exact hτ
      | ok p =>
          intro r _ _
          have hread : (⟨.store (.get key), .ok (some raw)⟩ : GatewayEvent) ∈
              τ ++ [⟨.store (.get key), .ok (some raw)⟩] := by simp
          have hτ' := hτ.concat (e := ⟨.store (.put key (p.withStatus status).toDict), r⟩)
            ⟨raw, p, status, hread, hp, rfl⟩
          cases r <;> exact ⟨hτ', hτ'⟩

theorem respects_get (key : PyStr) :
    ((ProposalStore.get key).implement sendPath).Respects (Rewrites proposalId) := by
  simp only [ProposalStore.get, implement_bind, implement_kvGet, sendPath_get]
  refine respects_bind (respects_perform fun _ => trivial) fun raw => ?_
  cases raw with
  | none => exact respects_throw _
  | some raw => rw [implement_embed]; exact respects_embed _

theorem respects_record (event : AuditEvent) :
    ((AuditLedger.record event).implement sendPath).Respects (Rewrites proposalId) := by
  simp only [AuditLedger.record, implement_bind, implement_raiseIf, implement_append,
    sendPath_append]
  exact respects_bind (respects_raiseIf _ _) fun _ => respects_perform fun _ => trivial

theorem respects_confirm (switchMode : SwitchMode) (actor : Actor) (now : Int)
    (agentReachable : Option Bool) :
    ((SendFsm.confirm switchMode proposalId actor now agentReachable).implement
      sendPath).Respects (Rewrites proposalId) := by
  simp only [SendFsm.confirm, ProposalStore.getLive, ProposalStore.isLive, validateTs,
    implement_bind, implement_raiseIf, implement_pure]
  refine respects_bind (respects_bind (respects_get _) fun _ => respects_bind
    (respects_bind (respects_raiseIf _ _) fun _ => respects_pure _) fun _ =>
      respects_bind (respects_raiseIf _ _) fun _ => respects_pure _) fun p => ?_
  refine respects_bind (respects_raiseIf _ _) fun _ => respects_bind (respects_raiseIf _ _)
    fun _ => respects_bind (respects_raiseIf _ _) fun _ => ?_
  exact respects_bind (respects_setStatus _ _) fun _ => respects_record _

/-- A status write and its row. -/
theorem respects_write (status : ProposalStatus) (event : AuditEvent) :
    ((do let _ ← ProposalStore.setStatus proposalId status
         AuditLedger.record event
         pure status : Proc StoreSig Exc ProposalStatus).implement sendPath).Respects
      (Rewrites proposalId) := by
  simp only [implement_bind, implement_pure]
  exact respects_bind (respects_setStatus _ _) fun _ =>
    respects_bind (respects_record _) fun _ => respects_pure _

theorem respects_settle (now : Int) (result : Except Exc SendResult) :
    ((SendFsm.settle proposalId now result).implement sendPath).Respects
      (Rewrites proposalId) := by
  rcases result with e | ⟨kind, m, t, c, hosts⟩
  · exact respects_write _ _
  · cases kind <;> exact respects_write _ _

/-- What the sender delivers it has read under this id. -/
theorem respects_sender (proposalId : PyStr) :
    (GmailSender.call proposalId).Respects (Rewrites proposalId) := by
  simp only [GmailSender.call, loadPayload, bind_assoc]
  refine respects_perform_bind (fun _ => trivial) fun raw τ hτ => ?_
  cases raw with
  | none => exact hτ
  | some canonical =>
      rw [pure_bind]
      split
      · intro r _ _
        have hτ' := hτ.concat (e := ⟨.deliver canonical, r⟩) (List.mem_append_right _ (by simp))
        cases r <;> exact ⟨hτ', hτ'⟩
      · exact hτ
      · exact hτ
      · exact hτ

theorem respects_dispatch (now : Int) :
    ((SendFsm.dispatch proposalId now).implement sendPath).Respects (Rewrites proposalId) := by
  simp only [SendFsm.dispatch, implement_bind, implement_raiseIf, implement_attempt]
  refine respects_bind (respects_get _) fun p => respects_bind (respects_raiseIf _ _) fun _ =>
    respects_bind (respects_raiseIf _ _) fun _ => respects_bind (respects_raiseIf _ _) fun _ =>
      respects_bind (respects_record _) fun _ => respects_bind (respects_attempt ?_) fun result =>
        respects_settle now result
  rw [implement_sender, sendPath_send]
  exact respects_sender proposalId

theorem respects_expire (now : Int) :
    ((SendFsm.expire proposalId now).implement sendPath).Respects (Rewrites proposalId) := by
  simp only [SendFsm.expire, implement_bind, implement_raiseIf, implement_pure]
  refine respects_bind (respects_get _) fun p => respects_bind (respects_raiseIf _ _) fun _ =>
    respects_bind (respects_raiseIf _ _) fun _ => ?_
  exact respects_bind (respects_setStatus _ _) fun _ =>
    respects_bind (respects_record _) fun _ => respects_pure _

end Rewriting

/-! ### Proposing -/

/-- Nothing so far has a rank of `n` or more. -/
def Below (n : Nat) (τ : List GatewayEvent) : Prop := ∀ e ∈ τ, rank e.op < n

/-- No operation so far has raised. -/
def Faultless (τ : List GatewayEvent) : Prop := ∀ e ∈ τ, ∃ a, e.ans = .ok a

/-- The call created the proposal, won its key if it has one, and took nothing back. -/
structure Keeps (p : Proposal) (τ : List GatewayEvent) : Prop where
  created : Created p τ
  below : Below 5 τ
  won : ∀ key, p.idempotencyKey = some key → Won key p.proposalId τ

/-- The call read the proposal that the key's index entry names. -/
def Finds (key : PyStr) (p : Proposal) (τ : List GatewayEvent) : Prop :=
  ∃ entry raw, (⟨.store (.get (ProposalStore.idemIndexKey key)), .ok (some entry)⟩ :
      GatewayEvent) ∈ τ ∧
    (⟨.store (.get entry.proposalId), .ok (some raw)⟩ : GatewayEvent) ∈ τ ∧
    Proposal.fromDict raw = .ok p

/-- The call took back the record and the payload. -/
def Withdrew (id : PyStr) (τ : List GatewayEvent) : Prop :=
  ⟨.store (.delete id), .ok ()⟩ ∈ τ ∧ ⟨.payloadDelete id, .ok ()⟩ ∈ τ

/-- The call found its id in use, and created nothing. -/
def Clashed (id : PyStr) (τ : List GatewayEvent) : Prop :=
  (∃ raw, (⟨.store (.get id), .ok (some raw)⟩ : GatewayEvent) ∈ τ) ∧ Below 3 τ

/-- How a `propose` call for the key ended. -/
structure ProposeEnd (key : Option PyStr) (r : Except Exc PrepareEmailResult)
    (τ : List GatewayEvent) : Prop where
  returned : ∀ result, r = .ok result → ∃ p, result = identifiers p ∧
    (p.idempotencyKey = key ∧ Keeps p τ ∨ ∃ k, key = some k ∧ Finds k p τ)
  /-- Without a fault nothing is left halfway. -/
  settled : Faultless τ → Below 2 τ ∨ ∃ id, Minted id τ ∧
    ((∃ p result, p.proposalId = id ∧ Keeps p τ ∧ r = .ok result) ∨ Withdrew id τ ∨ Clashed id τ)

section Proposing
variable {P : Platform} {params : Dict} {τ τ' : List GatewayEvent} {e : GatewayEvent}

theorem Below.concat {m n : Nat} (h : Below m τ) (hmn : m ≤ n) (he : rank e.op < n) :
    Below n (τ ++ [e]) := by
  intro e' he'
  rcases List.mem_append.mp he' with he' | he'
  · exact (h e' he').trans_le hmn
  · rwa [List.mem_singleton.mp he']

theorem Below.mono {m n : Nat} (h : Below m τ) (hmn : m ≤ n) : Below n τ := fun e he =>
  (h e he).trans_le hmn

theorem Below.append_quiet {n : Nat} (h : Below n τ) (hn : 0 < n)
    (hquiet : ∀ e ∈ τ', rank e.op = 0) : Below n (τ ++ τ') := by
  intro e he
  rcases List.mem_append.mp he with he | he
  · exact h e he
  · rwa [hquiet e he]

/-- Before a claim none is won. -/
theorem Below.noWin {n : Nat} (h : Below n τ) (hn : n ≤ 4) : NoWin τ := by
  intro x v hmem
  exact absurd (h _ hmem) (by simp only [rank]; omega)

theorem NoWin.concat (h : NoWin τ) (he : ∀ x v, e ≠ ⟨.store (.claim x v), .ok true⟩) :
    NoWin (τ ++ [e]) := by
  intro x v hmem
  rcases List.mem_append.mp hmem with hmem | hmem
  · exact h x v hmem
  · exact he x v (List.mem_singleton.mp hmem).symm

theorem not_faultless {o : GatewayOp} {x : Exc} : ¬ Faultless (τ ++ [⟨o, .error x⟩]) := by
  intro h
  obtain ⟨a, ha⟩ := h ⟨o, .error x⟩ (by simp)
  cases ha

/-- A thread of the pool sees any answers. -/
abbrev anyGatewayAnswer : Env GatewaySig Exc Unit := anyAnswer fun _ _ => True

/-- Looking up the key only reads. -/
theorem find_protocol (hτ : Guarded (ProposeGuard P params) τ) (key : PyStr) :
    (onStore (ProposalStore.findByIdempotency key)).sat anyGatewayAnswer
      (fun τ _ => Guarded (ProposeGuard P params) τ)
      (fun r τ' _ => Guarded (ProposeGuard P params) τ' ∧ ∃ reads, τ' = τ ++ reads ∧
        (∀ e ∈ reads, rank e.op = 0) ∧ ∀ p, r = .ok (some p) → Finds key p reads) τ () := by
  have hread : ∀ {τ : List GatewayEvent} (k : PyStr) (r : Except Exc (Option KvValue)),
      Guarded (ProposeGuard P params) τ →
      Guarded (ProposeGuard P params) (τ ++ [⟨.store (.get k), r⟩]) := fun k r h =>
    h.concat ⟨trivial, .inl rfl⟩
  have hindex : ∀ entry : KvValue,
      ((some <$> ProposalStore.get entry.proposalId).implement storePerform).sat anyGatewayAnswer
        (fun τ _ => Guarded (ProposeGuard P params) τ)
        (fun r τ' _ => Guarded (ProposeGuard P params) τ' ∧ ∃ reads, τ' = τ ++ reads ∧
          (∀ e ∈ reads, rank e.op = 0) ∧ ∀ p, r = .ok (some p) → Finds key p reads)
        (τ ++ [⟨.store (.get (ProposalStore.idemIndexKey key)), .ok (some entry)⟩]) () := by
    intro entry
    simp only [ProposalStore.get, map_eq_pure_bind, implement_bind, implement_kvGet, bind_assoc,
      sat_bind]
    intro r _ _
    have hτ' := hread entry.proposalId r (hread (ProposalStore.idemIndexKey key) (.ok entry) hτ)
    refine ⟨hτ', ?_⟩
    rcases r with e | _ | raw
    · exact ⟨hτ', _, List.append_assoc .., by simp [rank], by simp⟩
    · exact ⟨hτ', _, List.append_assoc .., by simp [rank], by simp⟩
    · simp only [andThen_ok, implement_embed, sat_embed]
      cases hp : Proposal.fromDict raw with
      | error e => exact ⟨hτ', _, List.append_assoc .., by simp [rank], by simp⟩
      | ok p =>
          refine ⟨hτ', _, List.append_assoc .., by simp [rank], ?_⟩
          intro q hq
          cases hq
          exact ⟨entry, raw, by simp, by simp, hp⟩
  simp only [ProposalStore.findByIdempotency, implement_bind, implement_kvGet, sat_bind]
  intro r _ _
  have hτ' := hread (ProposalStore.idemIndexKey key) r hτ
  refine ⟨hτ', ?_⟩
  rcases r with e | _ | entry
  · exact ⟨hτ', _, rfl, by simp [rank], by simp⟩
  · exact ⟨hτ', _, rfl, by simp [rank], by simp⟩
  · cases entry with
    | index id => exact hindex (.index id)
    | proposal id d e c x k => exact hindex (.proposal id d e c x k)

/-- The operations of `create`, once its checks on the times have passed. -/
theorem onStore_create {p : Proposal} (hcreated : 0 ≤ p.createdAt)
    (hexpires : p.createdAt < p.expiresAt) :
    onStore (ProposalStore.create p) = (do
      let existing ← storePerform (.get p.proposalId)
      raiseIf (existing ≠ none) (.proposalState "proposal_id already exists")
      storePerform (.put p.proposalId p.toDict)
      match p.idempotencyKey with
      | none => pure p
      | some key => do
          let won ← storePerform (.claim (ProposalStore.idemIndexKey key) (.index p.proposalId))
          if won then pure p
          else do
            storePerform (.delete p.proposalId)
            throw (.duplicateIdempotency "idempotency key already has a proposal")) := by
  have hpass : ∀ (c : Prop) [Decidable c] (e : Exc), ¬ c →
      (raiseIf c e : Proc GatewaySig Exc Unit) = pure () := fun c _ e hc => if_neg hc
  simp only [onStore, ProposalStore.create, validateTs, implement_bind, implement_raiseIf,
    implement_kvGet, implement_kvPut]
  rw [hpass _ _ (by omega), hpass _ _ (by omega), hpass _ _ (by omega)]
  simp only [pure_bind]
  cases p.idempotencyKey with
  | none => rfl
  | some key =>
      have hclaim : ∀ won : Bool,
          (if won = true then (pure p : Proc StoreSig Exc Proposal) else (do
              KVBackend.delete p.proposalId
              throw (.duplicateIdempotency "idempotency key already has a proposal"))).implement
            storePerform =
          (if won = true then pure p else (do
            storePerform (.delete p.proposalId)
            throw (.duplicateIdempotency "idempotency key already has a proposal"))) := by
        intro won
        cases won <;> simp
      simp only [implement_bind, implement_kvClaim, hclaim]

/-- How `create` ended, for the proposal `p`. -/
structure CreateEnd (p : Proposal) (r : Except Exc Proposal) (τ : List GatewayEvent) : Prop where
  kept : ∀ q, r = .ok q → Keeps p τ
  raised : ∀ x, r = .error x → Below 6 τ ∧ NoWin τ
  /-- Without a fault it raised for one of two reasons. -/
  reason : ∀ x, r = .error x → Faultless τ →
    ((∃ message, x = .duplicateIdempotency message) ∧
      (⟨.store (.delete p.proposalId), .ok ()⟩ : GatewayEvent) ∈ τ) ∨
    ((∀ message, x ≠ .duplicateIdempotency message) ∧ Clashed p.proposalId τ)

theorem CreateEnd.fault {p : Proposal} {o : GatewayOp} {x : Exc} (hbelow : Below 6 (τ ++ [⟨o, .error x⟩]))
    (hnone : NoWin (τ ++ [⟨o, .error x⟩])) : CreateEnd p (.error x) (τ ++ [⟨o, .error x⟩]) where
  kept := fun _ h => by cases h
  raised := fun _ _ => ⟨hbelow, hnone⟩
  reason := fun _ _ h => absurd h not_faultless

/-- Creating reads, writes the record, claims the key and, if another call has it, deletes the
record. -/
theorem create_protocol {p : Proposal} {canonical : Dict} (hcreated : 0 ≤ p.createdAt)
    (hexpires : p.createdAt < p.expiresAt) (hrecord : RecordOf P params canonical p)
    (hτ : Guarded (ProposeGuard P params) τ) (hminted : Minted p.proposalId τ)
    (hfroze : Froze p.proposalId canonical τ) (hbelow : Below 3 τ) :
    (onStore (ProposalStore.create p)).sat anyGatewayAnswer
      (fun τ _ => Guarded (ProposeGuard P params) τ)
      (fun r τ' _ => Guarded (ProposeGuard P params) τ' ∧ τ <+: τ' ∧ CreateEnd p r τ') τ () := by
  rw [onStore_create hcreated hexpires]
  simp only [sat_bind, storePerform, perform, sat_op, sat_embed]
  -- Is the id in use?
  intro existing _ _
  have hτ₁ := hτ.concat (e := ⟨.store (.get p.proposalId), existing⟩) ⟨trivial, .inl rfl⟩
  have hbelow₁ : Below 3 (τ ++ [⟨.store (.get p.proposalId), existing⟩]) :=
    hbelow.concat le_rfl (by simp [rank])
  have hnone₁ := hbelow₁.noWin (by omega)
  refine ⟨hτ₁, ?_⟩
  rcases existing with x | existing
  · exact ⟨hτ₁, ⟨_, rfl⟩, .fault (hbelow₁.mono (by omega)) hnone₁⟩
  simp only [andThen_ok, andThen_error, sat_bind, sat_raiseIf, sat_op, sat_embed]
  refine ⟨fun hused => ?_, fun _ => ?_⟩
  · obtain ⟨raw, rfl⟩ := Option.ne_none_iff_exists'.mp hused
    refine ⟨hτ₁, ⟨_, rfl⟩, ?_⟩
    exact {
      kept := fun _ h => by cases h
      raised := fun _ _ => ⟨hbelow₁.mono (by omega), hnone₁⟩
      reason := by
        intro x hx _
        cases hx
        exact .inr ⟨fun _ h => (by cases h), ⟨raw, by simp⟩, hbelow₁⟩ }
  -- The record.
  intro written _ _
  have hτ₂ := hτ₁.concat (e := ⟨.store (.put p.proposalId p.toDict), written⟩)
    ⟨⟨p, canonical, rfl, rfl, List.mem_append_left _ hminted, List.mem_append_left _ hfroze,
      hrecord⟩, .inr hbelow₁⟩
  have hbelow₂ := hbelow₁.concat (n := 4)
    (e := ⟨.store (.put p.proposalId p.toDict), written⟩) (by omega) (by simp [rank])
  have hnone₂ := hbelow₂.noWin le_rfl
  refine ⟨hτ₂, ?_⟩
  rcases written with x | ⟨⟩
  · exact ⟨hτ₂, ⟨_, (List.append_assoc ..).symm⟩, .fault (hbelow₂.mono (by omega)) hnone₂⟩
  have hmade : Created p ((τ ++ [⟨.store (.get p.proposalId), .ok existing⟩]) ++
      [⟨.store (.put p.proposalId p.toDict), .ok ()⟩]) := List.mem_append_right _ (by simp)
  simp only [andThen_ok]
  cases hkey : p.idempotencyKey with
  | none =>
      refine ⟨hτ₂, ⟨_, (List.append_assoc ..).symm⟩, ?_⟩
      exact {
        kept := fun _ _ => ⟨hmade, hbelow₂.mono (by omega), by simp [hkey]⟩
        raised := fun _ h => by cases h
        reason := fun _ h => by cases h }
  | some key =>
      -- The claim.
      simp only [sat_bind, sat_op, sat_embed]
      intro won _ _
      have hτ₃ := hτ₂.concat
        (e := ⟨.store (.claim (ProposalStore.idemIndexKey key) (.index p.proposalId)), won⟩)
        ⟨⟨p, key, hmade, hkey, rfl, rfl⟩, .inr hbelow₂⟩
      have hbelow₃ := hbelow₂.concat (n := 5)
        (e := ⟨.store (.claim (ProposalStore.idemIndexKey key) (.index p.proposalId)), won⟩)
        (by omega) (by simp [rank])
      refine ⟨hτ₃, ?_⟩
      rcases won with x | won
      · exact ⟨hτ₃, by simp, .fault (hbelow₃.mono (by omega)) (hnone₂.concat (by simp))⟩
      cases won with
      | true =>
          refine ⟨hτ₃, by simp, ?_⟩
          exact {
            kept := fun _ _ => ⟨List.mem_append_left _ hmade, hbelow₃, fun k hk => by
              rw [hkey] at hk
              cases hk
              exact List.mem_append_right _ (by simp)⟩
            raised := fun _ h => by cases h
            reason := fun _ h => by cases h }
      | false =>
          -- Lost: the record is rolled back.
          have hnone₃ := hnone₂.concat (e := ⟨.store (.claim (ProposalStore.idemIndexKey key)
            (.index p.proposalId)), .ok false⟩) (by simp)
          simp only [andThen_ok, Bool.false_eq_true, if_false, sat_bind, sat_op,
            sat_embed]
          intro gone _ _
          have hτ₄ := hτ₃.concat (e := ⟨.store (.delete p.proposalId), gone⟩)
            ⟨⟨List.mem_append_left _ (List.mem_append_left _ (List.mem_append_left _ hminted)),
              hnone₃⟩, .inr hbelow₃⟩
          have hbelow₄ := hbelow₃.concat (n := 6) (e := ⟨.store (.delete p.proposalId), gone⟩)
            (by omega) (by simp [rank])
          have hnone₄ := hnone₃.concat (e := ⟨.store (.delete p.proposalId), gone⟩) (by simp)
          refine ⟨hτ₄, ?_⟩
          rcases gone with x | ⟨⟩
          · exact ⟨hτ₄, by simp, .fault hbelow₄ hnone₄⟩
          · refine ⟨hτ₄, by simp, ?_⟩
            exact {
              kept := fun _ h => by cases h
              raised := fun _ _ => ⟨hbelow₄, hnone₄⟩
              reason := by
                intro x hx _
                cases hx
                exact .inl ⟨⟨_, rfl⟩, List.mem_append_right _ (by simp)⟩ }

theorem Faultless.of_append (h : Faultless (τ ++ τ')) : Faultless τ := fun e he =>
  h e (List.mem_append_left _ he)

theorem Finds.append {key : PyStr} {p : Proposal} (h : Finds key p τ') : Finds key p (τ ++ τ') := by
  obtain ⟨entry, raw, hentry, hraw, hp⟩ := h
  exact ⟨entry, raw, List.mem_append_right _ hentry, List.mem_append_right _ hraw, hp⟩

theorem Withdrew.append {id : PyStr} (h : Withdrew id τ) : Withdrew id (τ ++ τ') :=
  ⟨List.mem_append_left _ h.1, List.mem_append_left _ h.2⟩

theorem ProposeEnd.fault {key : Option PyStr} {o : GatewayOp} {x : Exc} :
    ProposeEnd key (.error x) (τ ++ [⟨o, .error x⟩]) where
  returned := nofun
  settled := fun h => absurd h not_faultless

theorem ProposeEnd.refused {key : Option PyStr} {x : Exc} (h : Faultless τ → Below 2 τ) :
    ProposeEnd key (.error x) τ where
  returned := nofun
  settled := fun hτ => .inl (h hτ)

theorem lostRace_of_ne {key : Option PyStr} {id : PyStr} {x : Exc}
    (h : ∀ message, x ≠ .duplicateIdempotency message) : lostRace key id x = throw x := by
  cases x with
  | duplicateIdempotency message => exact absurd rfl (h message)
  | _ => rfl

/-- A call that lost the race drops its payload and looks up the winner; every other exception
goes on. -/
theorem lostRace_protocol {key : Option PyStr} {id : PyStr} {x : Exc}
    (hτ : Guarded (ProposeGuard P params) τ) (hminted : Minted id τ) (hbelow : Below 6 τ)
    (hnone : NoWin τ)
    (hreason : Faultless τ → ((∃ message, x = .duplicateIdempotency message) ∧
        (⟨.store (.delete id), .ok ()⟩ : GatewayEvent) ∈ τ) ∨
      ((∀ message, x ≠ .duplicateIdempotency message) ∧ Clashed id τ)) :
    (lostRace key id x).sat anyGatewayAnswer (fun τ _ => Guarded (ProposeGuard P params) τ)
      (fun r τ' _ => Guarded (ProposeGuard P params) τ' ∧ ProposeEnd key r τ') τ () := by
  by_cases hdup : ∃ message, x = .duplicateIdempotency message
  · obtain ⟨message, rfl⟩ := hdup
    intro gone _ _
    have hτ' := hτ.concat (e := ⟨.payloadDelete id, gone⟩) ⟨⟨hminted, hnone⟩, .inr hbelow⟩
    refine ⟨hτ', ?_⟩
    rcases gone with y | ⟨⟩
    · exact ⟨hτ', .fault⟩
    have hminted' : Minted id (τ ++ [⟨.payloadDelete id, .ok ()⟩]) :=
      List.mem_append_left _ hminted
    have hwithdrew (h : Faultless τ) : Withdrew id (τ ++ [⟨.payloadDelete id, .ok ()⟩]) := by
      rcases hreason h with ⟨-, hdeleted⟩ | ⟨hne, -⟩
      · exact ⟨List.mem_append_left _ hdeleted, List.mem_append_right _ (by simp)⟩
      · exact absurd rfl (hne message)
    cases key with
    | none =>
        refine ⟨hτ', nofun, fun h => .inr ⟨id, hminted', .inr (.inl (hwithdrew h.of_append))⟩⟩
    | some key =>
        change ((onStore (ProposalStore.findByIdempotency key)) >>= _).sat _ _ _ _ _
        rw [sat_bind]
        refine sat_mono (find_protocol hτ' key) fun found τ' _ hfound => ?_
        obtain ⟨hτ'', reads, rfl, -, hfinds⟩ := hfound
        have hsettled (h : Faultless ((τ ++ [⟨.payloadDelete id, .ok ()⟩]) ++ reads)) :
            Withdrew id ((τ ++ [⟨.payloadDelete id, .ok ()⟩]) ++ reads) :=
          (hwithdrew h.of_append.of_append).append
        rcases found with y | _ | p
        · exact ⟨hτ'', nofun, fun h => .inr
            ⟨id, List.mem_append_left _ hminted', .inr (.inl (hsettled h))⟩⟩
        · exact ⟨hτ'', nofun, fun h => .inr
            ⟨id, List.mem_append_left _ hminted', .inr (.inl (hsettled h))⟩⟩
        · refine ⟨hτ'', fun result hresult => ?_, fun h => .inr
            ⟨id, List.mem_append_left _ hminted', .inr (.inl (hsettled h))⟩⟩
          cases hresult
          exact ⟨p, rfl, .inr ⟨key, rfl, (hfinds p rfl).append⟩⟩
  · have hne : ∀ message, x ≠ .duplicateIdempotency message := fun m h => hdup ⟨m, h⟩
    rw [lostRace_of_ne hne]
    refine ⟨hτ, nofun, fun h => ?_⟩
    rcases hreason h with ⟨hdup', -⟩ | ⟨-, hclashed⟩
    · exact absurd hdup' hdup
    · exact .inr ⟨id, hminted, .inr (.inr hclashed)⟩

/-- Freezing and creating, after an id was minted. -/
theorem record_protocol {key : Option PyStr} {now : Int} {canonical : Dict}
    {result : PrepareEmailResult} {messageId : PyVal}
    (hτ : Guarded (ProposeGuard P params) τ) (hminted : Minted result.proposalId τ)
    (hbelow : Below 2 τ) (hbuilt : buildCanonicalPayload (.dict params) messageId = .ok canonical)
    (hdigest : digest P (.dict canonical) = .ok result.payloadDigest)
    (hkey : idempotencyKey params = .ok key) (hnow : 0 ≤ now) (hexpires : now < result.expiresAt) :
    (record key now canonical result).sat anyGatewayAnswer
      (fun τ _ => Guarded (ProposeGuard P params) τ)
      (fun r τ' _ => Guarded (ProposeGuard P params) τ' ∧ ProposeEnd key r τ') τ () := by
  simp only [record, sat_bind, perform, sat_op, sat_embed]
  intro frozen _ _
  have hτ₁ := hτ.concat (e := ⟨.payloadPut result.proposalId canonical, frozen⟩)
    ⟨⟨hminted, messageId, hbuilt⟩, .inr hbelow⟩
  have hbelow₁ := hbelow.concat (n := 3)
    (e := ⟨.payloadPut result.proposalId canonical, frozen⟩) (by omega) (by simp [rank])
  refine ⟨hτ₁, ?_⟩
  rcases frozen with x | ⟨⟩
  · exact ⟨hτ₁, .fault⟩
  have hminted₁ := List.mem_append_left
    [(⟨.payloadPut result.proposalId canonical, .ok ()⟩ : GatewayEvent)] hminted
  simp only [andThen_ok, sat_handle, sat_bind]
  have hfroze : Froze result.proposalId canonical
      (τ ++ [⟨.payloadPut result.proposalId canonical, .ok ()⟩]) :=
    List.mem_append_right _ (by simp)
  refine sat_mono (create_protocol hnow hexpires ⟨hdigest, hkey⟩ hτ₁ hminted₁ hfroze hbelow₁)
    fun r τ₂ _ hcreate => ?_
  obtain ⟨hτ₂, hprefix, hend⟩ := hcreate
  have hminted₂ : Minted result.proposalId τ₂ := hprefix.subset hminted₁
  cases r with
  | ok q =>
      refine ⟨hτ₂, fun r' hr' => ?_, fun _ => ?_⟩
      · cases hr'
        exact ⟨_, rfl, .inl ⟨rfl, hend.kept q rfl⟩⟩
      · exact .inr ⟨_, hminted₂, .inl ⟨_, _, rfl, hend.kept q rfl, rfl⟩⟩
  | error x =>
      obtain ⟨hbelow₂, hnone₂⟩ := hend.raised x rfl
      exact lostRace_protocol hτ₂ hminted₂ hbelow₂ hnone₂ (hend.reason x rfl)

/-- Before anything is written: an exception leaves nothing behind. -/
theorem Below.refuse {key : Option PyStr} {x : Exc} {n : Nat} (h : Below n τ) (hn : n ≤ 2) :
    ProposeEnd key (.error x) τ := .refused fun _ => h.mono hn

/-- A new proposal: readings, the two digests, the id, and what is recorded under it. -/
theorem proposeNew_protocol {cfg : ProposalServiceConfig} {key : Option PyStr}
    (hτ : Guarded (ProposeGuard P params) τ) (hbelow : Below 1 τ)
    (hkey : idempotencyKey params = .ok key) :
    (proposeNew P cfg params key).sat anyGatewayAnswer
      (fun τ _ => Guarded (ProposeGuard P params) τ)
      (fun r τ' _ => Guarded (ProposeGuard P params) τ' ∧ ProposeEnd key r τ') τ () := by
  simp only [proposeNew, sat_bind, perform, sat_op, sat_embed]
  intro now _ _
  have hτ₁ := hτ.concat (e := ⟨.store .now, now⟩) ⟨trivial, .inl rfl⟩
  have hbelow₁ := hbelow.concat (n := 1) (e := ⟨.store .now, now⟩) le_rfl (by simp [rank])
  refine ⟨hτ₁, ?_⟩
  rcases now with x | now
  · exact ⟨hτ₁, .fault⟩
  rw [andThen_ok, sat_bind]
  -- The Message-ID is a reading as well.
  have hminting : (mintMessageId cfg).sat anyGatewayAnswer
      (fun τ _ => Guarded (ProposeGuard P params) τ)
      (fun _ τ' _ => Guarded (ProposeGuard P params) τ' ∧ Below 1 τ')
      (τ ++ [⟨.store .now, .ok now⟩]) () := by
    unfold mintMessageId
    split
    · intro r _ _
      have hτ₂ := hτ₁.concat (e := ⟨.newMessageId, r⟩) ⟨trivial, .inl rfl⟩
      have hbelow₂ := hbelow₁.concat (n := 1) (e := ⟨.newMessageId, r⟩) le_rfl (by simp [rank])
      cases r <;> exact ⟨hτ₂, hτ₂, hbelow₂⟩
    · exact ⟨hτ₁, hbelow₁⟩
  refine sat_mono hminting fun messageId τ₂ _ hread => ?_
  obtain ⟨hτ₂, hbelow₂⟩ := hread
  rcases messageId with x | messageId
  · exact ⟨hτ₂, hbelow₂.refuse (by omega)⟩
  simp only [andThen_ok, andThen_error, sat_bind, sat_raiseIf, prepareEmail, sat_embed]
  refine ⟨fun _ => ⟨hτ₂, hbelow₂.refuse (by omega)⟩, fun _ => ?_⟩
  refine ⟨fun _ => ⟨hτ₂, hbelow₂.refuse (by omega)⟩, fun hnow => ?_⟩
  refine ⟨fun _ => ⟨hτ₂, hbelow₂.refuse (by omega)⟩, fun httl => ?_⟩
  cases hbuilt : buildCanonicalPayload (.dict params) messageId with
  | error x => exact ⟨hτ₂, hbelow₂.refuse (by omega)⟩
  | ok canonical =>
      simp only [andThen_ok]
      cases enforceV1SendPolicy (.dict canonical) with
      | error x => exact ⟨hτ₂, hbelow₂.refuse (by omega)⟩
      | ok u =>
          simp only [andThen_ok, sat_bind, sat_op, sat_embed]
          intro id _ _
          have hτ₃ := hτ₂.concat (e := ⟨.newProposalId, id⟩) ⟨trivial, .inr hbelow₂⟩
          have hbelow₃ := hbelow₂.concat (n := 2) (e := ⟨.newProposalId, id⟩) (by omega)
            (by simp [rank])
          refine ⟨hτ₃, ?_⟩
          rcases id with x | id
          · exact ⟨hτ₃, .fault⟩
          cases hdigest : digest P (.dict canonical) with
          | error x => exact ⟨hτ₃, hbelow₃.refuse le_rfl⟩
          | ok payloadDigest =>
              simp only [andThen_ok, sat_bind, sat_embed, sat_pure, sat_raiseIf, hdigest]
              refine ⟨fun hne => absurd rfl hne, fun _ => ?_⟩
              have hminted : Minted id (τ₂ ++ [⟨.newProposalId, .ok id⟩]) :=
                List.mem_append_right _ (by simp)
              exact record_protocol hτ₃ hminted hbelow₃ hbuilt hdigest hkey (by omega)
                (by simp only; omega)

/-- How a `propose` call for these parameters ended. -/
structure CallEnds (params : Dict) (r : Except Exc PrepareEmailResult) (τ : List GatewayEvent) :
    Prop where
  ended : ∀ key, idempotencyKey params = .ok key → ProposeEnd key r τ
  /-- A malformed key is refused. -/
  keyed : ∀ result, r = .ok result → ∃ key, idempotencyKey params = .ok key

theorem CallEnds.of_key {key : Option PyStr} {r : Except Exc PrepareEmailResult}
    (hkey : idempotencyKey params = .ok key) (h : ProposeEnd key r τ) : CallEnds params r τ where
  ended := fun k hk => by
    cases hkey.symm.trans hk
    exact h
  keyed := fun _ _ => ⟨key, hkey⟩

/-- **The protocol of a `propose` call.** -/
theorem propose_protocol {cfg : ProposalServiceConfig} :
    (propose P cfg params).sat anyGatewayAnswer (fun τ _ => Guarded (ProposeGuard P params) τ)
      (fun r τ _ => Guarded (ProposeGuard P params) τ ∧ CallEnds params r τ) [] () := by
  have hnil : Guarded (ProposeGuard P params) ([] : List GatewayEvent) := .nil
  have hbelow : Below 1 [] := fun _ he => absurd he List.not_mem_nil
  simp only [propose, sat_bind, sat_raiseIf]
  refine ⟨fun _ => ⟨hnil, fun _ _ => hbelow.refuse (by omega), fun _ h => by cases h⟩, fun _ => ?_⟩
  cases hkey : idempotencyKey params with
  | error x => exact ⟨hnil, fun _ h => (by cases hkey.symm.trans h), fun _ h => by cases h⟩
  | ok key =>
      have hnew {τ : List GatewayEvent} (hτ : Guarded (ProposeGuard P params) τ)
          (hbelow : Below 1 τ) :
          (proposeNew P cfg params key).sat anyGatewayAnswer
            (fun τ _ => Guarded (ProposeGuard P params) τ)
            (fun r τ' _ => Guarded (ProposeGuard P params) τ' ∧ CallEnds params r τ') τ () :=
        sat_mono (proposeNew_protocol hτ hbelow hkey) fun _ _ _ h => ⟨h.1, .of_key hkey h.2⟩
      cases key with
      | none => exact hnew hnil hbelow
      | some key =>
          simp only [andThen_ok, sat_bind, sat_embed]
          refine sat_mono (find_protocol hnil key) fun found τ _ hfound => ?_
          obtain ⟨hτ, reads, heq, hquiet, hfinds⟩ := hfound
          rw [List.nil_append] at heq
          subst heq
          have hbelow' : Below 1 τ := hbelow.append_quiet (by omega) hquiet
          rcases found with x | _ | p
          · exact ⟨hτ, .of_key hkey (hbelow'.refuse (by omega))⟩
          · exact hnew hτ hbelow'
          · refine ⟨hτ, .of_key hkey ⟨fun result hresult => ?_, fun _ => ?_⟩⟩
            · cases hresult
              exact ⟨p, rfl, .inr ⟨key, rfl, hfinds p rfl⟩⟩
            · exact .inl (hbelow'.mono (by omega))

end Proposing

end ProposalService

end GmailGateway
