import GmailGateway.Authz.GateState
import GmailGateway.Gateway.ProposalRuns

/-!
# GmailGateway.Gateway.AllOrNothing

**What a single `propose` call leaves behind.** The payload is written before the record that
may be refused, and only a lost claim takes it back. So a call that raises undoes everything
exactly if the minted id was used by neither store: under an id in use the payload that was
there before is replaced, and the call still raises.
-/

namespace GmailGateway

open Effect Proc Python

namespace ProposalService

/-! ### One operation -/

/-- The same state with other records. -/
def withRows (s : GatewayState) (kv : PyStr → Option KvValue) : GatewayState :=
  { s with store := { s.store with kv } }

/-- The same state with other payloads. -/
def withPayloads (s : GatewayState) (payloads : PyStr → Option Dict) : GatewayState :=
  { s with payloads }

section States
variable (s : GatewayState) (kv kv' : PyStr → Option KvValue) (payloads : PyStr → Option Dict)

@[simp] theorem withRows_kv : (withRows s kv).store.kv = kv := rfl

@[simp] theorem withRows_payloads : (withRows s kv).payloads = s.payloads := rfl

@[simp] theorem withPayloads_kv : (withPayloads s payloads).store.kv = s.store.kv := rfl

@[simp] theorem withPayloads_payloads : (withPayloads s payloads).payloads = payloads := rfl

@[simp] theorem withRows_withRows : withRows (withRows s kv) kv' = withRows s kv' := rfl

@[simp] theorem withRows_self : withRows s s.store.kv = s := rfl

@[simp] theorem withPayloads_self : withPayloads s s.payloads = s := rfl

/-- One payload is all that differs: the states are equal just if it does not. -/
theorem withPayloads_update_eq {id : PyStr} {v : Option Dict} :
    withPayloads s (Function.update s.payloads id v) = s ↔ s.payloads id = v := by
  constructor
  · intro h
    have hpayloads := congrArg (fun s : GatewayState => s.payloads id) h
    simpa using hpayloads.symm
  · intro heq
    subst heq
    rw [Function.update_eq_self, withPayloads_self]

end States

section Operations
variable {s s' : GatewayState} {key : PyStr}

/-- A read of the proposal store. -/
theorem gateway_get {r : Except Exc (Option KvValue)} (h : gatewayEnv s (.store (.get key)) r s') :
    s' = s ∧ ∀ v, r = .ok v → v = s.store.kv key := by
  obtain ⟨t, ht, rfl⟩ := h
  cases r with
  | error e =>
      obtain ⟨-, rfl⟩ := ht
      exact ⟨rfl, nofun⟩
  | ok v =>
      obtain ⟨rfl, rfl⟩ := ht
      refine ⟨rfl, fun v hv => ?_⟩
      cases hv
      rfl

theorem gateway_now {r : Except Exc Int} (h : gatewayEnv s (.store .now) r s') : s' = s := by
  obtain ⟨t, ht, rfl⟩ := h
  cases r with
  | error e =>
      obtain ⟨-, rfl⟩ := ht
      rfl
  | ok n =>
      obtain rfl : t = s.store := ht
      rfl

theorem gateway_newProposalId {r : Except Exc PyStr} (h : gatewayEnv s .newProposalId r s') :
    s' = s := by
  cases r <;> exact h

theorem gateway_newMessageId {r : Except Exc PyVal} (h : gatewayEnv s .newMessageId r s') :
    s' = s := by
  cases r <;> exact h

/-- A write to the proposal store that raises changes nothing. -/
theorem gateway_store_error {o : StoreOp} {e : Exc} (h : gatewayEnv s (.store o) (.error e) s')
    (ho : ∀ id, o ≠ .send id) : s' = s := by
  obtain ⟨t, ht, rfl⟩ := h
  cases o with
  | send id => exact absurd rfl (ho id)
  | get | put | claim | delete | append | now =>
      obtain ⟨-, rfl⟩ := ht
      rfl

theorem gateway_put {v : KvValue} (h : gatewayEnv s (.store (.put key v)) (.ok ()) s') :
    s' = withRows s (Function.update s.store.kv key (some v)) := by
  obtain ⟨t, ht, rfl⟩ := h
  obtain rfl : t = _ := ht
  rfl

theorem gateway_claim {v : KvValue} {won : Bool}
    (h : gatewayEnv s (.store (.claim key v)) (.ok won) s') :
    won = (s.store.kv key).isNone ∧
      s' = if won then withRows s (Function.update s.store.kv key (some v)) else s := by
  obtain ⟨t, ⟨hwon, rfl⟩, rfl⟩ := h
  cases won <;> exact ⟨hwon, rfl⟩

theorem gateway_delete (h : gatewayEnv s (.store (.delete key)) (.ok ()) s') :
    s' = withRows s (Function.update s.store.kv key none) := by
  obtain ⟨t, ht, rfl⟩ := h
  obtain rfl : t = _ := ht
  rfl

theorem gateway_payloadPut {canonical : Dict} {r : Except Exc Unit}
    (h : gatewayEnv s (.payloadPut key canonical) r s') :
    s' = s ∧ r ≠ .ok () ∨
      s' = withPayloads s (Function.update s.payloads key (some canonical)) ∧ r = .ok () := by
  cases r with
  | error e => exact .inl ⟨h, nofun⟩
  | ok u => exact .inr ⟨h, rfl⟩

theorem gateway_payloadDelete {r : Except Exc Unit} (h : gatewayEnv s (.payloadDelete key) r s') :
    s' = s ∧ r ≠ .ok () ∨
      s' = withPayloads s (Function.update s.payloads key none) ∧ r = .ok () := by
  cases r with
  | error e => exact .inl ⟨h, nofun⟩
  | ok u => exact .inr ⟨h, rfl⟩

end Operations

/-! ### How a call ends -/

/-- The key has an index entry. -/
def Claimed (key : Option PyStr) (s : GatewayState) : Prop :=
  ∃ k, key = some k ∧ s.store.kv (ProposalStore.idemIndexKey k) ≠ none

/-- The records with a new proposal, and with the index entry of its key. -/
def addRecord (p : Proposal) (kv : PyStr → Option KvValue) : PyStr → Option KvValue :=
  match p.idempotencyKey with
  | none => Function.update kv p.proposalId (some p.toDict)
  | some key => Function.update (Function.update kv p.proposalId (some p.toDict))
      (ProposalStore.idemIndexKey key) (some (.index p.proposalId))

/-- The call added the pending proposal and its payload, and the index entry of its key. None of
the records was there before. -/
structure Adds (key : Option PyStr) (s : GatewayState) (p : Proposal) (canonical : Dict)
    (s' : GatewayState) : Prop where
  pending : p.status = .pending
  keyed : p.idempotencyKey = key
  unused : s.store.kv p.proposalId = none
  unclaimed : ∀ k, key = some k → ProposalStore.idemIndexKey k ≠ p.proposalId ∧
    s.store.kv (ProposalStore.idemIndexKey k) = none
  stored : s' = withRows (withPayloads s (Function.update s.payloads p.proposalId (some canonical)))
    (addRecord p s.store.kv)

/-- The call froze no payload. -/
def Unfrozen (τ : List GatewayEvent) : Prop := ∀ id canonical, ¬ Froze id canonical τ

/-- A store raised the exception that signals a lost claim. -/
def Foreign (τ : List GatewayEvent) : Prop :=
  ∃ o message, (⟨o, .error (.duplicateIdempotency message)⟩ : GatewayEvent) ∈ τ

/-- How a call for the key left the stores. -/
inductive Leaves (key : Option PyStr) (s : GatewayState) :
    Except Exc PrepareEmailResult → List GatewayEvent → GatewayState → Prop
  /-- It raised before it wrote anything. -/
  | refused {e : Exc} {τ : List GatewayEvent} : Unfrozen τ → Leaves key s (.error e) τ s
  /-- It found the proposal of its key. -/
  | replayed {result : PrepareEmailResult} {τ : List GatewayEvent} :
      Unfrozen τ → Claimed key s → Leaves key s (.ok result) τ s
  /-- The record was refused, and the payload stays. -/
  | clashed {e : Exc} {id : PyStr} {canonical : Dict} {τ : List GatewayEvent} :
      Froze id canonical τ → (Faultless τ → s.store.kv id ≠ none) →
      Leaves key s (.error e) τ (withPayloads s (Function.update s.payloads id (some canonical)))
  /-- An operation raised when the record was written, and the record stays. -/
  | stranded {e : Exc} {id : PyStr} {canonical : Dict} {τ : List GatewayEvent}
      {s' : GatewayState} : Froze id canonical τ → ¬ Faultless τ → s.store.kv id = none →
      s'.store.kv id ≠ none → Leaves key s (.error e) τ s'
  /-- The id was the index entry of the key: both writes were taken back. -/
  | withdrawn {e : Exc} {k id : PyStr} {canonical : Dict} {τ : List GatewayEvent} :
      Froze id canonical τ → key = some k → ProposalStore.idemIndexKey k = id →
      s.store.kv id = none →
      Leaves key s (.error e) τ (withPayloads s (Function.update s.payloads id none))
  | added {p : Proposal} {canonical : Dict} {τ : List GatewayEvent} {s' : GatewayState} :
      Froze p.proposalId canonical τ → Faultless τ → Adds key s p canonical s' →
      Leaves key s (.ok (identifiers p)) τ s'
  | foreign {r : Except Exc PrepareEmailResult} {id : PyStr} {canonical : Dict}
      {τ : List GatewayEvent} {s' : GatewayState} : Froze id canonical τ → Foreign τ →
      Leaves key s r τ s'

/-- How a call left the stores. -/
inductive CallLeaves (params : Dict) (s : GatewayState) :
    Except Exc PrepareEmailResult → List GatewayEvent → GatewayState → Prop
  /-- It raised before it had a key. -/
  | malformed {e : Exc} {τ : List GatewayEvent} : Unfrozen τ →
      CallLeaves params s (.error e) τ s
  | keyed {key : Option PyStr} {r : Except Exc PrepareEmailResult} {τ : List GatewayEvent}
      {s' : GatewayState} : idempotencyKey params = .ok key → Leaves key s r τ s' →
      CallLeaves params s r τ s'

/-- How `create` left the stores. -/
inductive CreateLeaves (p : Proposal) (s : GatewayState) :
    Except Exc Proposal → List GatewayEvent → GatewayState → Prop
  | kept {τ : List GatewayEvent} : Faultless τ → s.store.kv p.proposalId = none →
      (∀ k, p.idempotencyKey = some k → ProposalStore.idemIndexKey k ≠ p.proposalId) →
      CreateLeaves p s (.ok p) τ (withRows s (addRecord p s.store.kv))
  | refused {e : Exc} {τ : List GatewayEvent} : (∀ message, e ≠ .duplicateIdempotency message) →
      (Faultless τ → s.store.kv p.proposalId ≠ none) → CreateLeaves p s (.error e) τ s
  | stranded {e : Exc} {τ : List GatewayEvent} {s' : GatewayState} :
      (∀ message, e ≠ .duplicateIdempotency message) → ¬ Faultless τ →
      s.store.kv p.proposalId = none → s'.store.kv p.proposalId ≠ none →
      CreateLeaves p s (.error e) τ s'
  | lost {k : PyStr} {message : String} {τ : List GatewayEvent} :
      s.store.kv p.proposalId = none → p.idempotencyKey = some k →
      ProposalStore.idemIndexKey k = p.proposalId →
      CreateLeaves p s (.error (.duplicateIdempotency message)) τ s
  | foreign {r : Except Exc Proposal} {τ : List GatewayEvent} {s' : GatewayState} :
      Foreign τ → CreateLeaves p s r τ s'

section Ends
variable {P : Platform} {cfg : ProposalServiceConfig} {params : Dict} {key : Option PyStr}
  {s : GatewayState} {τ : List GatewayEvent}

theorem Below.unfrozen (h : Below 2 τ) : Unfrozen τ := fun id canonical hfroze =>
  absurd (h _ hfroze) (by simp [rank])

theorem Faultless.concat {o : GatewayOp} {a : GatewayOp.Ret o} (h : Faultless τ) :
    Faultless (τ ++ [⟨o, .ok a⟩]) := by
  intro e he
  rcases List.mem_append.mp he with he | he
  · exact h e he
  · rw [List.mem_singleton.mp he]
    exact ⟨a, rfl⟩

/-- Before the freeze the call has only read. -/
structure Reading (n : Nat) (τ : List GatewayEvent) : Prop where
  below : Below n τ
  faultless : Faultless τ

theorem Reading.nil {n : Nat} : Reading n [] where
  below := fun _ he => absurd he List.not_mem_nil
  faultless := fun _ he => absurd he List.not_mem_nil

theorem Reading.concat {m n : Nat} {o : GatewayOp} {a : GatewayOp.Ret o} (h : Reading m τ)
    (hmn : m ≤ n) (ho : rank o < n) : Reading n (τ ++ [⟨o, .ok a⟩]) :=
  ⟨h.below.concat hmn ho, h.faultless.concat⟩

/-- What is raised then leaves the stores as they were. -/
theorem Below.leaves {n : Nat} {e : Exc} (h : Below n τ) (hn : n ≤ 2) :
    Leaves key s (.error e) τ s := .refused (h.mono hn).unfrozen

theorem Reading.leaves {n : Nat} {e : Exc} (h : Reading n τ) (hn : n ≤ 2) :
    Leaves key s (.error e) τ s := h.below.leaves hn

/-- So does an operation that raises there. -/
theorem Reading.fault {m n : Nat} {o : GatewayOp} {e x : Exc} (h : Reading m τ) (hmn : m ≤ n)
    (ho : rank o < n) (hn : n ≤ 2) : Leaves key s (.error x) (τ ++ [⟨o, .error e⟩]) s :=
  (h.below.concat hmn ho).leaves hn

theorem Faultless.append {τ' : List GatewayEvent} (h : Faultless τ) (h' : Faultless τ') :
    Faultless (τ ++ τ') := by
  intro e he
  rcases List.mem_append.mp he with he | he
  · exact h e he
  · exact h' e he

theorem Reading.append_quiet {τ' : List GatewayEvent} (h : Reading 1 τ)
    (hquiet : ∀ e ∈ τ', rank e.op = 0) (hfaultless : Faultless τ') : Reading 1 (τ ++ τ') :=
  ⟨h.below.append_quiet (by omega) hquiet, h.faultless.append hfaultless⟩

/-- Looking up the key only reads: the record it names, or nothing if it has no index entry. -/
theorem find_leaves (k : PyStr) :
    (onStore (ProposalStore.findByIdempotency k)).sat gatewayEnv (fun _ _ => True)
      (fun r τ' s' => s' = s ∧ ∃ reads, τ' = τ ++ reads ∧ (∀ e ∈ reads, rank e.op = 0) ∧
        ∀ found, r = .ok found → Faultless reads ∧
          (found = none ↔ s.store.kv (ProposalStore.idemIndexKey k) = none)) τ s := by
  have hindex : ∀ (entry : KvValue), s.store.kv (ProposalStore.idemIndexKey k) = some entry →
      ((some <$> ProposalStore.get entry.proposalId).implement storePerform).sat gatewayEnv
        (fun _ _ => True)
        (fun r τ' s' => s' = s ∧ ∃ reads, τ' = τ ++ reads ∧ (∀ e ∈ reads, rank e.op = 0) ∧
          ∀ found, r = .ok found → Faultless reads ∧
            (found = none ↔ s.store.kv (ProposalStore.idemIndexKey k) = none))
        (τ ++ [⟨.store (.get (ProposalStore.idemIndexKey k)), .ok (some entry)⟩]) s := by
    intro entry hentry
    simp only [ProposalStore.get, map_eq_pure_bind, implement_bind, implement_kvGet, bind_assoc,
      sat_bind]
    intro r s₁ hget
    obtain ⟨rfl, -⟩ := gateway_get hget
    refine ⟨trivial, ?_⟩
    rcases r with e | _ | raw
    · exact ⟨rfl, _, List.append_assoc .., by simp [rank], fun _ h => by cases h⟩
    · exact ⟨rfl, _, List.append_assoc .., by simp [rank], fun _ h => by cases h⟩
    · simp only [andThen_ok, implement_embed, sat_embed]
      cases Proposal.fromDict raw with
      | error e => exact ⟨rfl, _, List.append_assoc .., by simp [rank], fun _ h => by cases h⟩
      | ok p =>
          refine ⟨rfl, _, List.append_assoc .., by simp [rank], fun found hfound => ?_⟩
          cases hfound
          exact ⟨by simp [Faultless], by simp [hentry]⟩
  simp only [ProposalStore.findByIdempotency, implement_bind, implement_kvGet, sat_bind]
  intro r s₁ hget
  obtain ⟨rfl, hread⟩ := gateway_get hget
  refine ⟨trivial, ?_⟩
  rcases r with e | _ | entry
  · exact ⟨rfl, _, rfl, by simp [rank], fun _ h => by cases h⟩
  · refine ⟨rfl, _, rfl, by simp [rank], fun found hfound => ?_⟩
    cases hfound
    exact ⟨by simp [Faultless], by simp [← hread _ rfl]⟩
  · cases entry with
    | index id => exact hindex _ (hread _ rfl).symm
    | proposal id d e c x k => exact hindex _ (hread _ rfl).symm

/-! ### The record -/

theorem duplicate_or_ne (e : Exc) :
    (∃ message, e = .duplicateIdempotency message) ∨ ∀ message, e ≠ .duplicateIdempotency message :=
  or_iff_not_imp_left.mpr fun h message heq => h ⟨message, heq⟩

theorem foreign_concat {o : GatewayOp} {message : String} :
    Foreign (τ ++ [⟨o, .error (.duplicateIdempotency message)⟩]) :=
  ⟨o, message, List.mem_append_right _ List.mem_cons_self⟩

/-- An operation raised before the record was written. -/
theorem CreateLeaves.refused_fault {p : Proposal} {o : GatewayOp} {e : Exc} :
    CreateLeaves p s (.error e) (τ ++ [⟨o, .error e⟩]) s := by
  rcases duplicate_or_ne e with ⟨message, rfl⟩ | hne
  · exact .foreign foreign_concat
  · exact .refused hne fun h => absurd h not_faultless

/-- An operation raised after it was. -/
theorem CreateLeaves.stranded_fault {p : Proposal} {o : GatewayOp} {e : Exc} {s' : GatewayState}
    (hunused : s.store.kv p.proposalId = none) (hstays : s'.store.kv p.proposalId ≠ none) :
    CreateLeaves p s (.error e) (τ ++ [⟨o, .error e⟩]) s' := by
  rcases duplicate_or_ne e with ⟨message, rfl⟩ | hne
  · exact .foreign foreign_concat
  · exact .stranded hne not_faultless hunused hstays

/-- Creating a proposal for a key without an index entry. -/
theorem create_leaves {p : Proposal} (hcreated : 0 ≤ p.createdAt)
    (hexpires : p.createdAt < p.expiresAt) (hτ : Faultless τ)
    (hfree : ∀ k, p.idempotencyKey = some k → s.store.kv (ProposalStore.idemIndexKey k) = none) :
    (onStore (ProposalStore.create p)).sat gatewayEnv (fun _ _ => True)
      (fun r τ' s' => τ <+: τ' ∧ CreateLeaves p s r τ' s') τ s := by
  rw [onStore_create hcreated hexpires]
  simp only [sat_bind, storePerform, perform, sat_op, sat_embed]
  -- Is the id in use?
  intro existing s₁ hget
  obtain ⟨rfl, hread⟩ := gateway_get hget
  refine ⟨trivial, ?_⟩
  rcases existing with e | existing
  · exact ⟨⟨_, rfl⟩, .refused_fault⟩
  obtain rfl := hread existing rfl
  simp only [andThen_ok, andThen_error, sat_bind, sat_raiseIf, sat_op, sat_embed]
  refine ⟨fun hused => ⟨⟨_, rfl⟩, .refused (fun _ h => by cases h) fun _ => hused⟩, fun hunused => ?_⟩
  rw [not_not] at hunused
  -- The record.
  intro written s₂ hput
  refine ⟨trivial, ?_⟩
  rcases written with e | ⟨⟩
  · obtain rfl := gateway_store_error hput (fun _ h => by cases h)
    exact ⟨⟨_, (List.append_assoc ..).symm⟩, .refused_fault⟩
  obtain rfl := gateway_put hput
  have hwritten : (withRows s₁ (Function.update s₁.store.kv p.proposalId (some p.toDict))).store.kv
      p.proposalId ≠ none := by simp
  simp only [andThen_ok]
  cases hkey : p.idempotencyKey with
  | none =>
      refine ⟨⟨_, (List.append_assoc ..).symm⟩, ?_⟩
      have hadd : addRecord p s₁.store.kv =
          Function.update s₁.store.kv p.proposalId (some p.toDict) := by
        rw [addRecord, hkey]
      rw [← hadd]
      exact .kept hτ.concat.concat hunused (by simp [hkey])
  | some key =>
      -- The claim.
      simp only [sat_bind, sat_op, sat_embed]
      intro won s₃ hclaim
      refine ⟨trivial, ?_⟩
      rcases won with e | won
      · obtain rfl := gateway_store_error hclaim (fun _ h => by cases h)
        exact ⟨by simp, .stranded_fault hunused hwritten⟩
      obtain ⟨hwon, hclaimed⟩ := gateway_claim hclaim
      cases won with
      | true =>
          have hindex := Option.isNone_iff_eq_none.mp hwon.symm
          have hne : ProposalStore.idemIndexKey key ≠ p.proposalId := by
            intro heq
            rw [heq] at hindex
            exact hwritten hindex
          have hadd : addRecord p s₁.store.kv =
              Function.update (Function.update s₁.store.kv p.proposalId (some p.toDict))
                (ProposalStore.idemIndexKey key) (some (.index p.proposalId)) := by
            rw [addRecord, hkey]
          rw [if_pos rfl, withRows_kv, withRows_withRows, ← hadd] at hclaimed
          subst hclaimed
          refine ⟨by simp, .kept hτ.concat.concat.concat hunused fun k hk => ?_⟩
          rw [hkey] at hk
          cases hk
          exact hne
      | false =>
          -- The entry that the claim met is the record that was just written.
          have heq : ProposalStore.idemIndexKey key = p.proposalId := by
            by_contra hne
            have hindex := hfree key hkey
            rw [withRows_kv, Function.update_of_ne hne, hindex] at hwon
            cases hwon
          obtain rfl : s₃ = _ := hclaimed
          simp only [andThen_ok, Bool.false_eq_true, if_false, sat_bind, sat_op, sat_embed]
          intro gone s₄ hdelete
          refine ⟨trivial, ?_⟩
          rcases gone with e | ⟨⟩
          · obtain rfl := gateway_store_error hdelete (fun _ h => by cases h)
            exact ⟨by simp, .stranded_fault hunused hwritten⟩
          · have hback := gateway_delete hdelete
            rw [withRows_kv, Function.update_idem, ← hunused, Function.update_eq_self,
              withRows_withRows, withRows_self] at hback
            subst hback
            exact ⟨by simp, .lost hunused hkey heq⟩

/-! ### The call -/

theorem Froze.mono {id : PyStr} {canonical : Dict} {τ' : List GatewayEvent}
    (h : Froze id canonical τ) (hpre : τ <+: τ') : Froze id canonical τ' :=
  hpre.subset h

theorem Foreign.mono {τ' : List GatewayEvent} (h : Foreign τ) (hpre : τ <+: τ') :
    Foreign τ' := by
  obtain ⟨o, message, hmem⟩ := h
  exact ⟨o, message, hpre.subset hmem⟩

/-- Withdrawing the payload after a lost claim, from a state in which the records are back. -/
theorem lostRace_leaves {k id : PyStr} {canonical : Dict} {message : String}
    (hfroze : Froze id canonical τ) (hkey : key = some k)
    (heq : ProposalStore.idemIndexKey k = id) (hunused : s.store.kv id = none) :
    (lostRace key id (.duplicateIdempotency message)).sat gatewayEnv (fun _ _ => True)
      (fun r τ' s' => Leaves key s r τ' s') τ
      (withPayloads s (Function.update s.payloads id (some canonical))) := by
  subst hkey
  intro gone s₁ hdelete
  refine ⟨trivial, ?_⟩
  have hfroze₁ := hfroze.mono (List.prefix_append τ [⟨.payloadDelete id, gone⟩])
  rcases gateway_payloadDelete hdelete with ⟨rfl, hfault⟩ | ⟨rfl, rfl⟩
  · cases gone with
    | error e => exact .clashed hfroze₁ fun h => absurd h not_faultless
    | ok u => exact absurd rfl hfault
  · change ((onStore (ProposalStore.findByIdempotency k)) >>= _).sat _ _ _ _ _
    rw [sat_bind]
    refine sat_mono (find_leaves k) fun found τ' s' hfound => ?_
    obtain ⟨rfl, reads, rfl, -, hnone⟩ := hfound
    have hfroze₂ := hfroze₁.mono (List.prefix_append _ reads)
    rw [withPayloads_payloads, Function.update_idem]
    cases found with
    | error e => exact .withdrawn hfroze₂ rfl heq hunused
    | ok found =>
        obtain rfl := (hnone found rfl).2.mpr (by rw [heq]; exact hunused)
        exact .withdrawn hfroze₂ rfl heq hunused

/-- Freezing and creating, for a key without an index entry. -/
theorem record_leaves {now : Int} {canonical : Dict} {result : PrepareEmailResult}
    (hτ : Reading 2 τ) (hnow : 0 ≤ now) (hexpires : now < result.expiresAt)
    (hfree : ∀ k, key = some k → s.store.kv (ProposalStore.idemIndexKey k) = none) :
    (record key now canonical result).sat gatewayEnv (fun _ _ => True)
      (fun r τ' s' => Leaves key s r τ' s') τ s := by
  simp only [record, sat_bind, perform, sat_op, sat_embed]
  intro frozen s₁ hput
  refine ⟨trivial, ?_⟩
  rcases gateway_payloadPut hput with ⟨rfl, hfault⟩ | ⟨rfl, rfl⟩
  · cases frozen with
    | ok u => exact absurd rfl hfault
    | error e =>
        refine .refused fun id payload hfroze => ?_
        rcases List.mem_append.mp hfroze with hfroze | hfroze
        · exact hτ.below.unfrozen id payload hfroze
        · cases List.mem_singleton.mp hfroze
  simp only [andThen_ok, sat_handle, sat_bind]
  have hfroze : Froze result.proposalId canonical
      (τ ++ [⟨.payloadPut result.proposalId canonical, .ok ()⟩]) :=
    List.mem_append_right _ List.mem_cons_self
  refine sat_mono (create_leaves hnow hexpires hτ.faultless.concat hfree)
    fun r τ₂ s₂ hcreate => ?_
  obtain ⟨hpre, hend⟩ := hcreate
  have hfroze₂ := hfroze.mono hpre
  cases hend with
  | kept hfaultless hunused hne =>
      have hadded : Leaves key s (.ok (identifiers _)) τ₂ _ := .added hfroze₂ hfaultless
        ⟨rfl, rfl, hunused, fun k hk => ⟨hne k hk, hfree k hk⟩, rfl⟩
      exact hadded
  | refused hne hused =>
      rw [andThen_error, andThen_error, lostRace_of_ne hne]
      exact .clashed hfroze₂ hused
  | stranded hne hfaulty hunused hstays =>
      rw [andThen_error, andThen_error, lostRace_of_ne hne]
      exact .stranded hfroze₂ hfaulty hunused hstays
  | lost hunused hkey heq => exact lostRace_leaves hfroze₂ hkey heq hunused
  | foreign hforeign =>
      cases r with
      | ok q => exact .foreign hfroze₂ hforeign
      | error e =>
          refine sat_of_exec fun θ _ _ _ => ?_
          exact .foreign (hfroze₂.mono (List.prefix_append τ₂ θ))
            (hforeign.mono (List.prefix_append τ₂ θ))

/-- The Message-ID is a reading. -/
theorem mintMessageId_leaves (hτ : Reading 1 τ) :
    (mintMessageId cfg).sat gatewayEnv (fun _ _ => True)
      (fun r τ' s' => s' = s ∧ Below 1 τ' ∧ ∀ v, r = .ok v → Reading 1 τ') τ s := by
  unfold mintMessageId
  split
  · intro r s₁ hmint
    obtain rfl := gateway_newMessageId hmint
    refine ⟨trivial, ?_⟩
    cases r with
    | error e => exact ⟨rfl, hτ.below.concat le_rfl (by simp [rank]), nofun⟩
    | ok v =>
        have hτ₁ := hτ.concat (n := 1) (o := .newMessageId) (a := v) le_rfl (by simp [rank])
        exact ⟨rfl, hτ₁.below, fun _ _ => hτ₁⟩
  · exact ⟨rfl, hτ.below, fun _ _ => hτ⟩

/-- A new proposal for a key without an index entry. -/
theorem proposeNew_leaves (hτ : Reading 1 τ)
    (hfree : ∀ k, key = some k → s.store.kv (ProposalStore.idemIndexKey k) = none) :
    (proposeNew P cfg params key).sat gatewayEnv (fun _ _ => True)
      (fun r τ' s' => Leaves key s r τ' s') τ s := by
  simp only [proposeNew, sat_bind, perform, sat_op, sat_embed]
  intro now s₁ hclock
  obtain rfl := gateway_now hclock
  refine ⟨trivial, ?_⟩
  rcases now with e | now
  · exact hτ.fault le_rfl (by simp [rank]) (by omega)
  rw [andThen_ok, sat_bind]
  have hτ₁ := hτ.concat (n := 1) (o := .store .now) (a := now) le_rfl (by simp [rank])
  refine sat_mono (mintMessageId_leaves hτ₁) fun messageId τ₂ s₂ hmint => ?_
  obtain ⟨rfl, hbelow, hread⟩ := hmint
  rcases messageId with e | messageId
  · exact hbelow.leaves (by omega)
  have hτ₂ := hread messageId rfl
  -- The checks and the digests touch nothing.
  simp only [andThen_ok, andThen_error, sat_bind, sat_raiseIf, prepareEmail, sat_embed]
  refine ⟨fun _ => hτ₂.leaves (by omega), fun _ => ?_⟩
  refine ⟨fun _ => hτ₂.leaves (by omega), fun hnow => ?_⟩
  refine ⟨fun _ => hτ₂.leaves (by omega), fun httl => ?_⟩
  cases buildCanonicalPayload (.dict params) messageId with
  | error e => exact hτ₂.leaves (by omega)
  | ok canonical =>
      simp only [andThen_ok]
      cases enforceV1SendPolicy (.dict canonical) with
      | error e => exact hτ₂.leaves (by omega)
      | ok u =>
          simp only [andThen_ok, sat_bind, sat_op, sat_embed]
          intro id s₃ hmint
          obtain rfl := gateway_newProposalId hmint
          refine ⟨trivial, ?_⟩
          rcases id with e | id
          · exact hτ₂.fault (n := 2) (by omega) (by simp [rank]) le_rfl
          have hτ₃ := hτ₂.concat (n := 2) (o := .newProposalId) (a := id) (by omega)
            (by simp [rank])
          cases hdigest : digest P (.dict canonical) with
          | error e => exact hτ₃.leaves le_rfl
          | ok payloadDigest =>
              simp only [andThen_ok, sat_bind, sat_embed, sat_pure, sat_raiseIf, hdigest]
              refine ⟨fun hne => absurd rfl hne, fun _ => ?_⟩
              exact record_leaves hτ₃ (by omega) (by simp only; omega) hfree

/-- **How a call leaves the stores.** -/
theorem propose_leaves :
    (propose P cfg params).sat gatewayEnv (fun _ _ => True)
      (fun r τ s' => CallLeaves params s r τ s') [] s := by
  have hnil : Reading 1 ([] : List GatewayEvent) := .nil
  have hunfrozen := (hnil.below.mono (n := 2) (by omega)).unfrozen
  simp only [propose, sat_bind, sat_raiseIf]
  refine ⟨fun _ => .malformed hunfrozen, fun _ => ?_⟩
  cases hkey : idempotencyKey params with
  | error e => exact .malformed hunfrozen
  | ok key =>
      have hnew {τ : List GatewayEvent} (hτ : Reading 1 τ)
          (hfree : ∀ k, key = some k → s.store.kv (ProposalStore.idemIndexKey k) = none) :
          (proposeNew P cfg params key).sat gatewayEnv (fun _ _ => True)
            (fun r τ s' => CallLeaves params s r τ s') τ s :=
        sat_mono (proposeNew_leaves hτ hfree) fun _ _ _ h => .keyed hkey h
      cases key with
      | none => exact hnew hnil nofun
      | some k =>
          simp only [andThen_ok, sat_bind, sat_embed]
          refine sat_mono (find_leaves k) fun found τ s' hfound => ?_
          obtain ⟨rfl, reads, heq, hquiet, hnone⟩ := hfound
          rw [List.nil_append] at heq
          subst heq
          have hbelow := hnil.below.append_quiet (by omega) hquiet
          have hunfrozen := (hbelow.mono (n := 2) (by omega)).unfrozen
          rcases found with e | found
          · exact .malformed hunfrozen
          obtain ⟨hfaultless, hfound⟩ := hnone found rfl
          cases found with
          | none =>
              refine hnew ⟨hbelow, hfaultless⟩ fun k' hk' => ?_
              cases hk'
              exact hfound.mp rfl
          | some existing =>
              refine .keyed hkey (.replayed hunfrozen ⟨k, rfl, fun h => ?_⟩)
              cases hfound.mpr h

end Ends

/-! ### All or nothing -/

/-- A call that raised changed nothing. One that returned changed nothing either and found its
key claimed, or added a pending proposal and a payload under an id that neither store used. -/
def AllOrNothing (params : Dict) (s : GatewayState) :
    Except Exc PrepareEmailResult → GatewayState → Prop
  | .error _, s' => s' = s
  | .ok result, s' => ∃ key, idempotencyKey params = .ok key ∧ (s' = s ∧ Claimed key s ∨
      ∃ p canonical, result = identifiers p ∧ s.payloads p.proposalId = none ∧
        Adds key s p canonical s')

/-- Freezing the payload under the id spoils nothing: neither store uses the id, or the proposal
store does and this very payload was frozen under it before. -/
structure Harmless (s : GatewayState) (id : PyStr) (canonical : Dict) : Prop where
  unused : s.store.kv id = none → s.payloads id = none
  same : s.store.kv id ≠ none → s.payloads id = some canonical

/-- The id is new to both stores, and is not the index entry of the key. -/
structure Fresh (params : Dict) (s : GatewayState) (id : PyStr) : Prop where
  row : s.store.kv id = none
  payload : s.payloads id = none
  index : ∀ k, idempotencyKey params = .ok (some k) → ProposalStore.idemIndexKey k ≠ id

section Frozen
variable {P : Platform} {cfg : ProposalServiceConfig} {params : Dict} {s s' : GatewayState}
  {τ : List GatewayEvent} {id : PyStr} {canonical : Dict}

/-- A call freezes one payload at most. -/
theorem Froze.unique {id' : PyStr} {canonical' : Dict} (h : Guarded (ProposeGuard P params) τ)
    (hfroze : Froze id canonical τ) (hfroze' : Froze id' canonical' τ) :
    id' = id ∧ canonical' = canonical := by
  have horder : Guarded (InOrder rank) τ := h.mono fun _ _ h => h.2
  cases horder.eq_of_rank hfroze hfroze' rfl (by simp [rank])
  exact ⟨rfl, rfl⟩

theorem forall_froze_iff {G : PyStr → Dict → Prop} (h : Guarded (ProposeGuard P params) τ)
    (hfroze : Froze id canonical τ) : (∀ id c, Froze id c τ → G id c) ↔ G id canonical := by
  refine ⟨fun hall => hall id canonical hfroze, fun hG id' canonical' hfroze' => ?_⟩
  obtain ⟨rfl, rfl⟩ := hfroze.unique h hfroze'
  exact hG

theorem forall_froze_of_unfrozen {G : PyStr → Dict → Prop} (h : Unfrozen τ) :
    ∀ id c, Froze id c τ → G id c := fun id c hfroze => absurd hfroze (h id c)

theorem harmless_iff_unused (h : s.store.kv id = none) :
    Harmless s id canonical ↔ s.payloads id = none :=
  ⟨fun hs => hs.unused h, fun hs => ⟨fun _ => hs, fun hne => absurd h hne⟩⟩

theorem harmless_iff_same (h : s.store.kv id ≠ none) :
    Harmless s id canonical ↔ s.payloads id = some canonical :=
  ⟨fun hs => hs.same h, fun hs => ⟨fun hnone => absurd hnone h, fun _ => hs⟩⟩

/-- A record that stays is a change. -/
theorem ne_of_row (h : s.store.kv id = none) (h' : s'.store.kv id ≠ none) : s' ≠ s := by
  intro heq
  subst heq
  exact h' h

theorem added_iff {key : Option PyStr} {p : Proposal} (hkey : idempotencyKey params = .ok key)
    (hadds : Adds key s p canonical s') :
    AllOrNothing params s (.ok (identifiers p)) s' ↔ s.payloads p.proposalId = none := by
  have hrow : s'.store.kv p.proposalId ≠ none := by
    rw [hadds.stored, withRows_kv, addRecord]
    cases hk : p.idempotencyKey with
    | none => simp
    | some k =>
        have hne := (hadds.unclaimed k (hadds.keyed.symm.trans hk)).1
        simp [Function.update_of_ne hne.symm]
  constructor
  · intro h
    obtain ⟨_, -, ⟨heq, -⟩ | ⟨q, payload, hq, hnone, -⟩⟩ := h
    · exact absurd heq (ne_of_row hadds.unused hrow)
    · have hid : p.proposalId = q.proposalId := congrArg PrepareEmailResult.proposalId hq
      rw [hid]
      exact hnone
  · intro hnone
    exact ⟨key, hkey, .inr ⟨p, canonical, rfl, hnone, hadds⟩⟩

/-- **All or nothing, if the id is unused.** A `propose` call that runs alone, and whose stores
raise nothing once the payload is frozen, is all or nothing exactly if its id is used by neither
store, or the same payload was frozen under it before. Under a new id it is so exactly if nothing
raises at all. -/
theorem propose_allOrNothing_iff {r : Except Exc PrepareEmailResult}
    (h : Exec gatewayEnv (propose P cfg params) s τ (.done r) s') :
    ((∀ id c, Froze id c τ → Faultless τ) →
      (AllOrNothing params s r s' ↔ ∀ id c, Froze id c τ → Harmless s id c)) ∧
    ∀ id c, Froze id c τ → Fresh params s id → ¬ Foreign τ →
      (AllOrNothing params s r s' ↔ Faultless τ) := by
  have hend := h.post propose_leaves
  have hguarded : Guarded (ProposeGuard P params) τ :=
    (h.post (sat_of_anyAnswer (fun _ _ _ _ _ => trivial) propose_protocol)).1
  cases hend with
  | malformed hunfrozen =>
      refine ⟨fun _ => ⟨fun _ => forall_froze_of_unfrozen hunfrozen, fun _ => rfl⟩, ?_⟩
      exact fun id c hfroze => absurd hfroze (hunfrozen id c)
  | @keyed key _ _ _ hkey hleaves =>
      cases hleaves with
      | refused hunfrozen =>
          refine ⟨fun _ => ⟨fun _ => forall_froze_of_unfrozen hunfrozen, fun _ => rfl⟩, ?_⟩
          exact fun id c hfroze => absurd hfroze (hunfrozen id c)
      | replayed hunfrozen hclaimed =>
          refine ⟨fun _ => ⟨fun _ => forall_froze_of_unfrozen hunfrozen, fun _ => ?_⟩, ?_⟩
          · exact ⟨key, hkey, .inl ⟨rfl, hclaimed⟩⟩
          · exact fun id c hfroze => absurd hfroze (hunfrozen id c)
      | @clashed _ id canonical _ hfroze hused =>
          refine ⟨fun hfault => ?_, fun id' c hfroze' hfresh _ => ?_⟩
          · rw [forall_froze_iff hguarded hfroze, harmless_iff_same (hused (hfault _ _ hfroze))]
            exact withPayloads_update_eq s
          · obtain ⟨rfl, rfl⟩ := hfroze.unique hguarded hfroze'
            refine ⟨fun heq => ?_, fun hfaultless => absurd hfresh.row (hused hfaultless)⟩
            have hsome := (withPayloads_update_eq s).mp heq
            rw [hfresh.payload] at hsome
            cases hsome
      | stranded hfroze hfaulty hunused hstays =>
          refine ⟨fun hfault => absurd (hfault _ _ hfroze) hfaulty, fun id' c _ _ _ => ?_⟩
          exact ⟨fun heq => absurd heq (ne_of_row hunused hstays), fun h => absurd h hfaulty⟩
      | @withdrawn _ k id _ _ hfroze hk heq hunused =>
          subst hk
          refine ⟨fun hfault => ?_, fun id' c hfroze' hfresh _ => ?_⟩
          · rw [forall_froze_iff hguarded hfroze, harmless_iff_unused hunused]
            exact withPayloads_update_eq s
          · obtain ⟨rfl, rfl⟩ := hfroze.unique hguarded hfroze'
            exact absurd heq (hfresh.index k hkey)
      | added hfroze hfaultless hadds =>
          refine ⟨fun _ => ?_, fun id' c hfroze' hfresh _ => ?_⟩
          · rw [forall_froze_iff hguarded hfroze, harmless_iff_unused hadds.unused]
            exact added_iff hkey hadds
          · obtain ⟨rfl, rfl⟩ := hfroze.unique hguarded hfroze'
            exact ⟨fun _ => hfaultless, fun _ => (added_iff hkey hadds).mpr hfresh.payload⟩
      | foreign hfroze hforeign =>
          refine ⟨fun hfault => ?_, fun _ _ _ _ hno => absurd hforeign hno⟩
          obtain ⟨o, message, hmem⟩ := hforeign
          obtain ⟨a, ha⟩ := hfault _ _ hfroze _ hmem
          cases ha

end Frozen

/-! ### Two calls with one id -/

/-- A call that runs alone. Nothing fails, and every proposal is named `p0`. -/
def alone (params : Dict) (s : GatewayState) :
    List GatewayEvent × Outcome Exc PrepareEmailResult × GatewayState :=
  (propose samplePlatform sampleServiceConfig params).run (fun _ => reliableGateway 0) 20 s

theorem alone_exec (params : Dict) (s : GatewayState) :
    Exec gatewayEnv (propose samplePlatform sampleServiceConfig params) s (alone params s).1
      (alone params s).2.1 (alone params s).2.2 :=
  run_exec (fun _ => reliableGateway_env 0) 20 _ s

/-- With which message `create` refused. -/
def refusal? : Outcome Exc PrepareEmailResult → Option String
  | .done (.error (.proposalState message)) => some message
  | _ => none

theorem refusal?_eq_some {out : Outcome Exc PrepareEmailResult} {message : String}
    (h : refusal? out = some message) : out = .done (.error (.proposalState message)) := by
  match out, h with
  | .done (.error (.proposalState _)), rfl => rfl

/-- The first call, from empty stores. -/
@[irreducible] def firstProposal :
    List GatewayEvent × Outcome Exc PrepareEmailResult × GatewayState :=
  alone (sampleAction "s") .empty

/-- An action with another subject and without a key. -/
def clashingAction : Dict := (sampleAction "t").dropLast

/-- A second call, which is given the id of the first. -/
@[irreducible] def clashingProposal :
    List GatewayEvent × Outcome Exc PrepareEmailResult × GatewayState :=
  alone clashingAction firstProposal.2.2

/-- The subject of the frozen payload. -/
def subject? (s : GatewayState) (id : PyStr) : Option PyStr :=
  (s.payloads id).bind fun canonical =>
    match canonical.get (str "subject") with
    | .str subject => some subject
    | _ => none

theorem faultless_of_all {τ : List GatewayEvent} (h : τ.all (·.ans.isOk) = true) :
    Faultless τ := by
  intro e he
  have hok := List.all_eq_true.mp h e he
  cases hans : e.ans with
  | ok a => exact ⟨a, rfl⟩
  | error x => rw [hans] at hok; cases hok

/-- What the two calls left, in one evaluation. -/
theorem proposals_left :
    (returned? firstProposal.2.1).isSome = true ∧
    subject? firstProposal.2.2 (str "p0") = some (str "s") ∧
    refusal? clashingProposal.2.1 = some "proposal_id already exists" ∧
    clashingProposal.1.all (·.ans.isOk) = true ∧
    clashingProposal.2.2.store.status? (str "p0") = some .pending ∧
    subject? clashingProposal.2.2 (str "p0") = some (str "t") := by
  decide +kernel

theorem firstProposal_exec : ∃ result,
    Exec gatewayEnv (propose samplePlatform sampleServiceConfig (sampleAction "s")) .empty
      firstProposal.1 (.done (.ok result)) firstProposal.2.2 := by
  obtain ⟨result, hresult⟩ := Option.isSome_iff_exists.mp proposals_left.1
  have h : Exec gatewayEnv (propose samplePlatform sampleServiceConfig (sampleAction "s")) .empty
      firstProposal.1 firstProposal.2.1 firstProposal.2.2 := by
    unfold firstProposal
    exact alone_exec _ _
  rw [returned?_eq_some.mp hresult] at h
  exact ⟨result, h⟩

theorem clashingProposal_exec :
    Exec gatewayEnv (propose samplePlatform sampleServiceConfig clashingAction)
      firstProposal.2.2 clashingProposal.1
      (.done (.error (.proposalState "proposal_id already exists"))) clashingProposal.2.2 := by
  obtain ⟨-, -, hrefused, -⟩ := proposals_left
  have h : Exec gatewayEnv (propose samplePlatform sampleServiceConfig clashingAction)
      firstProposal.2.2 clashingProposal.1 clashingProposal.2.1 clashingProposal.2.2 := by
    unfold clashingProposal
    exact alone_exec _ _
  rw [refusal?_eq_some hrefused] at h
  exact h

theorem propose_allOrNothing_iff_sample :
    ((∀ id c, Froze id c clashingProposal.1 → Faultless clashingProposal.1) →
      (AllOrNothing clashingAction firstProposal.2.2
          (.error (.proposalState "proposal_id already exists")) clashingProposal.2.2 ↔
        ∀ id c, Froze id c clashingProposal.1 → Harmless firstProposal.2.2 id c)) ∧
    ∀ id c, Froze id c clashingProposal.1 → Fresh clashingAction firstProposal.2.2 id →
      ¬ Foreign clashingProposal.1 →
      (AllOrNothing clashingAction firstProposal.2.2
          (.error (.proposalState "proposal_id already exists")) clashingProposal.2.2 ↔
        Faultless clashingProposal.1) :=
  propose_allOrNothing_iff clashingProposal_exec

/-- Nothing fails. The second call is refused, and the pending proposal of the first has the
payload of the second. -/
theorem propose_clash : ∃ result τ τ' s s',
    Exec gatewayEnv (propose samplePlatform sampleServiceConfig (sampleAction "s")) .empty τ
      (.done (.ok result)) s ∧
    Exec gatewayEnv (propose samplePlatform sampleServiceConfig clashingAction) s τ'
      (.done (.error (.proposalState "proposal_id already exists"))) s' ∧
    Faultless τ' ∧ s'.store.status? (str "p0") = some .pending ∧
    subject? s (str "p0") = some (str "s") ∧ subject? s' (str "p0") = some (str "t") ∧
    ¬ AllOrNothing clashingAction s (.error (.proposalState "proposal_id already exists")) s' := by
  obtain ⟨result, hfirst⟩ := firstProposal_exec
  obtain ⟨-, hbefore, -, hok, hpending, hafter⟩ := proposals_left
  refine ⟨result, _, _, _, _, hfirst, clashingProposal_exec, faultless_of_all hok, hpending,
    hbefore, hafter, fun h => ?_⟩
  rw [show clashingProposal.2.2 = firstProposal.2.2 from h, hbefore] at hafter
  cases hafter

end ProposalService

end GmailGateway
