import GmailGateway.Effect.Implement
import GmailGateway.Gateway.FailedWrites
import GmailGateway.SendFsm.Redispatch
import GmailGateway.Store.Encoding

/-!
# GmailGateway.Gateway.SqliteStores

The stores on disk: the operations the store logic is written against, each as the method of
`SqliteKV` or `SqliteAppendLog` that implements it, with rows as JSON text.

**The SQLite stores refine the atomic ones** (`exec_simulated`). What a procedure does over the two
connections, where any statement, commit and rollback may fail and the process may be killed
anywhere, it does over stores whose operations happen at once or raise and change nothing.
-/

namespace GmailGateway

open Effect Proc Python

/-! ### Two connections and a mail client -/

namespace SqliteStores

open Persistence (Backend backendSchema Handles)

/-- The tables hold JSON text. -/
abbrev schema (b : Backend) : Schema := backendSchema PyStr b

/-- What the store logic performs over SQLite. -/
inductive StoresOp
  | handle (b : Backend) (o : SqliteOp (schema b))
  | send (proposalId : PyStr)
  | now

/-- The answers of handles, sender and clock. -/
abbrev StoresOp.Ret : StoresOp → Type
  | .handle _ o => o.Ret
  | .send _ => SendResult
  | .now => Int

/-- Two handles, the sender and the clock. -/
abbrev Sig : Signature := ⟨StoresOp, StoresOp.Ret⟩

/-- Both handles, and the proposals the sender was invoked for. -/
structure Stores where
  handles : Handles PyStr
  sends : List PyStr := []

/-- The same stores with another handle. -/
def Stores.with (t : Stores) (b : Backend) (h : Handle (schema b)) : Stores :=
  { t with handles := Function.update t.handles b h }

@[simp] theorem Stores.with_sends (t : Stores) (b : Backend) (h : Handle (schema b)) :
    (t.with b h).sends = t.sends := rfl

@[simp] theorem Stores.with_self (t : Stores) (b : Backend) (h : Handle (schema b)) :
    (t.with b h).handles b = h := Function.update_self _ _ _

theorem Stores.with_of_ne (t : Stores) {b b' : Backend} (hne : b' ≠ b) (h : Handle (schema b)) :
    (t.with b h).handles b' = t.handles b' := Function.update_of_ne hne _ _

@[simp] theorem Stores.with_with (t : Stores) (b : Backend) (h h' : Handle (schema b)) :
    (t.with b h).with b h' = t.with b h' := by
  simp [Stores.with]

@[simp] theorem Stores.with_handle (t : Stores) (b : Backend) : t.with b (t.handles b) = t := by
  simp [Stores.with]

/-- Connections that may fail, and a clock and a sender that answer anything. -/
def env : Env Sig Exc Stores
  | t, .handle b o, r, t' => ∃ h', sqliteEnv (schema b) (t.handles b) o r h' ∧ t' = t.with b h'
  | t, .send proposalId, _, t' => t' = { t with sends := t.sends ++ [proposalId] }
  | t, .now, _, t' => t' = t

/-- A method of one of the backends. -/
def onHandle {α : Type} (b : Backend) (p : SqliteProc (schema b) α) : Proc Sig Exc α :=
  p.implement fun o => perform (S := Sig) (.handle b o)

/-! ### The operations of the stores -/

section
variable (toFloat : PyStr → PyFloat) (floatRepr : PyFloat → PyStr)

/-- Rows are JSON. -/
def codec : JsonCodec PyVal PyStr := ⟨Json.dumps floatRepr, Json.loads toFloat⟩

/-- The row that was read; the store writes no others. -/
def typed : Option PyVal → Except Exc (Option KvValue)
  | none => .ok none
  | some v =>
      match KvValue.ofVal v with
      | some row => .ok (some row)
      | none => .error .other

/-- The backend method of an operation. -/
def method : (o : StoreOp) → Proc Sig Exc o.Ret
  | .get key => do
      let row ← onHandle .kv (SqliteKV.get (codec toFloat floatRepr) key)
      embed (typed row)
  | .put key value => onHandle .kv (SqliteKV.put (codec toFloat floatRepr) key (.dict value.toDict))
  | .claim key value =>
      onHandle .kv (SqliteKV.claim (codec toFloat floatRepr) key (.dict value.toDict))
  | .delete key => onHandle .kv (SqliteKV.delete key)
  | .append event =>
      onHandle .log (SqliteAppendLog.append (codec toFloat floatRepr) (.dict event.toDict))
  | .send proposalId => perform (S := Sig) (.send proposalId)
  | .now => perform (S := Sig) .now

end

/-! ### What the connections hold -/

/-- Every row can be read back. -/
def Lossless (s : StoreState) : Prop := ∀ key v, s.kv key = some v → v.Lossless

section
variable (toFloat : PyStr → PyFloat) (floatRepr : PyFloat → PyStr)

/-- The text stored under a key, as the row it is read as. -/
def RowStored (v : Option KvValue) (blob : Option PyStr) : Prop :=
  match v, blob with
  | none, none => True
  | some v, some blob => Json.loads toFloat blob = .ok (.dict v.toDict)
  | _, _ => False

/-- The stores hold what was committed. -/
structure Holds (s : StoreState) (t : Stores) : Prop where
  rows : ∀ key, RowStored toFloat (s.kv key) (Table.get? (t.handles .kv).committed key)
  ledger : List.Forall₂ (fun e blob => Json.dumps floatRepr (.dict e.toDict) = .ok blob)
    s.ledger (t.handles .log).committed
  sends : s.sends = t.sends

/-- And no failed write is left on a handle that is used. -/
def Coupled (s : StoreState) (t : Stores) : Prop :=
  Holds toFloat floatRepr s t ∧ ∀ b, (t.handles b).Settled

end

/-! ### One method -/

section
variable {toFloat : PyStr → PyFloat} {floatRepr : PyFloat → PyStr} {s : StoreState} {t : Stores}

/-- A method of a backend only sees that backend. -/
theorem sat_onHandle {α : Type} {b : Backend} {p : SqliteProc (schema b) α}
    {W : Env Sig Exc Stores} {V : Env (SqliteSig (schema b)) Exc (Handle (schema b))}
    {J : Handle (schema b) → Prop} {Q : Except Exc α → Handle (schema b) → Prop}
    {K : Stores → Prop} {P : Except Exc α → Stores → Prop} {τ : List (SqliteEvent (schema b))}
    {θ : List (Event Sig Exc)} {h : Handle (schema b)}
    (hW : ∀ t o r t', W t (.handle b o) r t' → ∃ h', V (t.handles b) o r h' ∧ t' = t.with b h')
    (hp : p.sat V (fun _ h' => J h') (fun r _ h' => Q r h') τ h)
    (hJ : ∀ h', J h' → K (t.with b h')) (hQ : ∀ r h', Q r h' → P r (t.with b h')) :
    (onHandle b p).sat W (fun _ t' => K t') (fun r _ t' => P r t') θ (t.with b h) := by
  induction p generalizing τ θ h with
  | ret a => exact hQ _ _ hp
  | raise e => exact hQ _ _ hp
  | op o k ih =>
      change (attempt (perform (S := Sig) (.handle b o)) >>= fun r =>
        onHandle b (k r)).sat W _ _ θ _
      rw [sat_bind, sat_attempt, sat_perform]
      intro r t' hw
      obtain ⟨h', hstep, rfl⟩ := hW _ o r t' hw
      rw [Stores.with_self] at hstep
      obtain ⟨hj, hk⟩ := hp r h' hstep
      rw [Stores.with_with]
      exact ⟨hJ _ hj, ih r hk⟩

/-- A handle is as it was, or settled again. -/
theorem settled_with (ht : ∀ b, (t.handles b).Settled) {b : Backend} {h' : Handle (schema b)}
    (hh' : h'.Settled) : ∀ b', ((t.with b h').handles b').Settled := by
  intro b'
  by_cases hb : b' = b
  · subst hb
    rwa [Stores.with_self]
  · rw [Stores.with_of_ne t hb]
    exact ht b'

section
variable {S : Signature} {σ α : Type} {V : Env S Exc σ} {C : σ → Stores → Prop} {s : σ}
  {o : S.Op} {b : Backend} {effect : (schema b).Db → (schema b).Db}

/-- **A method that lands simulates its operation**, if the operation may raise, and what is
committed when it returns is what the operation does. `C` only sees what is committed. -/
theorem simulates_of_lands {p : SqliteProc (schema b) α} {A : α → (schema b).Db → Prop}
    {g : α → Except Exc (S.Ret o)} (hp : Lands effect A p) (ht : ∀ b, (t.handles b).Settled)
    (hsame : ∀ h', h'.committed = (t.handles b).committed → C s (t.with b h'))
    (hraise : ∀ e, V s o (.error e) s)
    (hpartway : ∃ s', (s' = s ∨ ∃ r, V s o r s') ∧
      ∀ h', h'.committed = effect (t.handles b).committed → C s' (t.with b h'))
    (hreturn : ∀ a, A a (t.handles b).committed → ∃ s', V s o (g a) s' ∧
      ∀ h', h'.committed = effect (t.handles b).committed → C s' (t.with b h')) :
    Simulates V env (fun s t => C s t ∧ ∀ b, (t.handles b).Settled) C o
      (do let a ← onHandle b p; embed (g a)) s t := by
  have hmethod : (onHandle b p).sat env
      (fun _ t' => ∃ s', (s' = s ∨ ∃ r, V s o r s') ∧ C s' t')
      (fun r _ t' => (∀ e, r = .error e → C s t' ∧ ∀ b, (t'.handles b).Settled) ∧
        ∀ a, r = .ok a → ∃ s', V s o (g a) s' ∧ C s' t' ∧ ∀ b, (t'.handles b).Settled) [] t := by
    have hp' : p.sat (sqliteEnv (schema b)) (fun _ h' => Partway effect (t.handles b) h')
        (fun r _ h' => Landed effect A (t.handles b) r [] h') [] (t.handles b) :=
      sat_mono (hp (t.handles b) (ht b)) fun r τ h' hl =>
        ⟨hl.settled, fun hf => absurd hf.choose_spec List.not_mem_nil, hl.returned, hl.raised⟩
    have hon := sat_onHandle (W := env) (t := t) (θ := []) (fun _ _ _ _ hw => hw) hp'
      (K := fun t' => ∃ s', (s' = s ∨ ∃ r, V s o r s') ∧ C s' t')
      (P := fun r t' => (∀ e, r = .error e → C s t' ∧ ∀ b, (t'.handles b).Settled) ∧
        ∀ a, r = .ok a → ∃ s', V s o (g a) s' ∧ C s' t' ∧ ∀ b, (t'.handles b).Settled) ?_ ?_
    · rwa [Stores.with_handle] at hon
    · intro h' hpart
      rcases hpart with hcommitted | hcommitted
      · exact ⟨s, .inl rfl, hsame h' hcommitted⟩
      · obtain ⟨s', hs', hholds⟩ := hpartway
        exact ⟨s', hs', hholds h' hcommitted⟩
    · intro r h' hlanded
      have hsettled := settled_with ht hlanded.settled
      refine ⟨fun e he => ⟨hsame h' (hlanded.raised e he), hsettled⟩, fun a ha => ?_⟩
      obtain ⟨hcommitted, hA⟩ := hlanded.returned a ha
      obtain ⟨s', hs', hholds⟩ := hreturn a hA
      exact ⟨s', hs', hholds h' hcommitted, hsettled⟩
  rw [Simulates, sat_bind]
  refine sat_mono hmethod ?_
  rintro (e | a) τ t' hend
  · exact ⟨s, hraise e, hend.1 e rfl⟩
  · rw [andThen_ok, sat_embed]
    exact hend.2 a rfl

/-- The same, for a method that answers what the operation answers. -/
theorem simulates_of_lands_ok {p : SqliteProc (schema b) (S.Ret o)}
    {A : S.Ret o → (schema b).Db → Prop} (hp : Lands effect A p)
    (ht : ∀ b, (t.handles b).Settled)
    (hsame : ∀ h', h'.committed = (t.handles b).committed → C s (t.with b h'))
    (hraise : ∀ e, V s o (.error e) s)
    (hpartway : ∃ s', (s' = s ∨ ∃ r, V s o r s') ∧
      ∀ h', h'.committed = effect (t.handles b).committed → C s' (t.with b h'))
    (hreturn : ∀ a, A a (t.handles b).committed → ∃ s', V s o (.ok a) s' ∧
      ∀ h', h'.committed = effect (t.handles b).committed → C s' (t.with b h')) :
    Simulates V env (fun s t => C s t ∧ ∀ b, (t.handles b).Settled) C o (onHandle b p) s t := by
  have hsim := simulates_of_lands (g := .ok) hp ht hsame hraise hpartway hreturn
  rwa [show (do let a ← onHandle b p; embed (.ok a)) = onHandle b p from bind_pure _] at hsim

end

/-- An operation without an effect. -/
theorem Coupled.unchanged (ht : Coupled toFloat floatRepr s t) {b : Backend}
    {h' : Handle (schema b)} (hcommitted : h'.committed = (t.handles b).committed) :
    Holds toFloat floatRepr s (t.with b h') := by
  cases b with
  | kv => exact ⟨by simpa [hcommitted] using ht.1.rows, ht.1.ledger, ht.1.sends⟩
  | log => exact ⟨ht.1.rows, by simpa [hcommitted] using ht.1.ledger, ht.1.sends⟩

/-- An operation on one row. -/
theorem Coupled.row (ht : Coupled toFloat floatRepr s t) {key : PyStr} {v : Option KvValue}
    {h' : Handle (schema .kv)}
    (hself : RowStored toFloat v (Table.get? h'.committed key))
    (hother : ∀ other, other ≠ key → Table.get? h'.committed other =
      Table.get? (t.handles .kv).committed other) :
    Holds toFloat floatRepr { s with kv := Function.update s.kv key v } (t.with .kv h') := by
  refine ⟨fun other => ?_, ht.1.ledger, ht.1.sends⟩
  rw [Stores.with_self]
  by_cases hkey : other = key
  · subst hkey
    simpa using hself
  · rw [hother other hkey]
    simpa [Function.update_of_ne hkey] using ht.1.rows other

end

/-! ### Every operation -/

section
variable {toFloat : PyStr → PyFloat} {floatRepr : PyFloat → PyStr} {s : StoreState} {t : Stores}

theorem typed_stored {v : Option KvValue} {blob : Option PyStr} {row : Option PyVal}
    (h : RowStored toFloat v blob)
    (hdecode : SqliteKV.decode (codec toFloat floatRepr) blob = .ok row) : typed row = .ok v := by
  cases v with
  | none =>
      cases blob with
      | none => cases hdecode; rfl
      | some blob => exact absurd h id
  | some v =>
      cases blob with
      | none => exact absurd h id
      | some blob =>
          have hloads : Json.loads toFloat blob = .ok (.dict v.toDict) := h
          simp only [SqliteKV.decode, codec, hloads] at hdecode
          cases hdecode
          simp [typed]

theorem get_simulates (ht : Coupled toFloat floatRepr s t) (key : PyStr) :
    Simulates faultyStores env (Coupled toFloat floatRepr) (Holds toFloat floatRepr) (.get key)
      (method toFloat floatRepr (.get key)) s t := by
  have hlands : Lands (D := kvSchema PyStr) (fun db => db)
      (fun row db => SqliteKV.decode (codec toFloat floatRepr) (Table.get? db key) = .ok row)
      (SqliteKV.get (codec toFloat floatRepr) key) :=
    EvictableSqlite.read_lands (D := kvSchema PyStr) (.value key) _
  refine simulates_of_lands (V := faultyStores) (C := Holds toFloat floatRepr)
    (o := .get key) (b := .kv) (g := typed) hlands ht.2 (fun _ => ht.unchanged)
    (fun e => ⟨trivial, rfl⟩) ⟨s, .inl rfl, fun h' => ht.unchanged⟩ fun row hrow =>
      ⟨s, ?_, fun h' => ht.unchanged⟩
  rw [typed_stored (ht.1.rows key) hrow]
  exact ⟨rfl, rfl⟩

/-- What was written of a row is read as the row. -/
theorem put_simulates (ht : Coupled toFloat floatRepr s t) {key : PyStr} {value : KvValue}
    (hlossless : value.Lossless) :
    Simulates faultyStores env (Coupled toFloat floatRepr) (Holds toFloat floatRepr)
      (.put key value) (method toFloat floatRepr (.put key value)) s t := by
  have hlands := EvictableSqlite.write_lands (D := kvSchema PyStr)
    (Json.dumps floatRepr (.dict value.toDict)) (KvStmt.upsert key) fun _ => ()
  have hafter : ∀ blob, Json.dumps floatRepr (.dict value.toDict) = .ok blob →
      ∀ h' : Handle (schema .kv),
        h'.committed = (Table.upsert key blob (t.handles .kv).committed : Table PyStr) →
        Holds toFloat floatRepr { s with kv := Function.update s.kv key (some value) }
          (t.with .kv h') := by
    intro blob hdumps h' hcommitted
    refine ht.row ?_ fun other hother => ?_
    · rw [hcommitted, Table.get?_upsert_self]
      exact hlossless.loads hdumps
    · rw [hcommitted, Table.get?_upsert_of_ne hother]
  refine simulates_of_lands_ok (V := faultyStores) (C := Holds toFloat floatRepr)
    (o := .put key value) (b := .kv) hlands ht.2 (fun _ => ht.unchanged)
    (fun e => ⟨trivial, rfl⟩) ?_ ?_
  · cases hdumps : Json.dumps floatRepr (.dict value.toDict) with
    | error e => exact ⟨s, .inl rfl, fun h' hh' => ht.unchanged hh'⟩
    | ok blob => exact ⟨_, .inr ⟨.ok (), rfl⟩, hafter blob hdumps⟩
  · rintro _ ⟨blob, hdumps, -⟩
    rw [hdumps]
    exact ⟨_, rfl, hafter blob hdumps⟩

/-- The test and the insert are one statement. -/
theorem claim_simulates (ht : Coupled toFloat floatRepr s t) {key : PyStr} {value : KvValue}
    (hlossless : s.kv key = none → value.Lossless) :
    Simulates faultyStores env (Coupled toFloat floatRepr) (Holds toFloat floatRepr)
      (.claim key value) (method toFloat floatRepr (.claim key value)) s t := by
  have hlands := EvictableSqlite.write_lands (D := kvSchema PyStr)
    (Json.dumps floatRepr (.dict value.toDict)) (KvStmt.insertAbsent key) fun n => decide (n = 1)
  have hrow := ht.1.rows key
  cases hkv : s.kv key with
  | some row =>
      -- The key is taken.
      rw [hkv] at hrow
      cases hblob : Table.get? (t.handles .kv).committed key with
      | none => exact absurd hrow (by simp [hblob, RowStored])
      | some blob =>
          have hexec : ∀ blob', KvStmt.exec (.insertAbsent key blob') (t.handles .kv).committed =
              ((t.handles .kv).committed, 0) := fun blob' => by simp only [KvStmt.exec, hblob]
          have hafter : ∀ h' : Handle (schema .kv), h'.committed =
              EvictableSqlite.effectOf (D := kvSchema PyStr) ((Json.dumps floatRepr
                (.dict value.toDict)).map (KvStmt.insertAbsent key)) (t.handles .kv).committed →
              Holds toFloat floatRepr s (t.with .kv h') := by
            intro h' hcommitted
            refine ht.unchanged (hcommitted.trans ?_)
            cases Json.dumps floatRepr (.dict value.toDict) with
            | error e => rfl
            | ok blob' => exact congrArg Prod.fst (hexec blob')
          refine simulates_of_lands_ok (V := faultyStores) (C := Holds toFloat floatRepr)
            (o := .claim key value) (b := .kv) hlands ht.2 (fun _ => ht.unchanged)
            (fun e => ⟨trivial, rfl⟩) ⟨s, .inl rfl, hafter⟩ ?_
          rintro won ⟨blob', -, rfl⟩
          refine ⟨s, ⟨?_, ?_⟩, hafter⟩
          · simp [hkv, hexec blob']
          · simp [hexec blob']
  | none =>
      rw [hkv] at hrow
      cases hblob : Table.get? (t.handles .kv).committed key with
      | some blob => exact absurd hrow (by simp [hblob, RowStored])
      | none =>
          have hexec : ∀ blob', KvStmt.exec (.insertAbsent key blob') (t.handles .kv).committed =
              ((t.handles .kv).committed ++ [(key, blob')], 1) :=
            fun blob' => by simp only [KvStmt.exec, hblob]
          have hafter : ∀ blob', Json.dumps floatRepr (.dict value.toDict) = .ok blob' →
              ∀ h' : Handle (schema .kv), h'.committed =
                EvictableSqlite.effectOf (D := kvSchema PyStr) ((Json.dumps floatRepr
                  (.dict value.toDict)).map (KvStmt.insertAbsent key)) (t.handles .kv).committed →
                Holds toFloat floatRepr { s with kv := Function.update s.kv key (some value) }
                  (t.with .kv h') := by
            intro blob' hdumps h' hcommitted
            rw [hdumps] at hcommitted
            have happend : h'.committed = (t.handles .kv).committed ++ [(key, blob')] :=
              hcommitted.trans (congrArg Prod.fst (hexec blob'))
            rw [Table.get?] at hblob
            refine ht.row ?_ fun other hother => ?_
            · rw [happend, Table.get?, List.lookup_append, hblob]
              simpa [RowStored] using (hlossless hkv).loads hdumps
            · rw [happend, Table.get?, List.lookup_append]
              simp [Table.get?, List.lookup_cons, beq_false_of_ne hother]
          refine simulates_of_lands_ok (V := faultyStores) (C := Holds toFloat floatRepr)
            (o := .claim key value) (b := .kv) hlands ht.2 (fun _ => ht.unchanged)
            (fun e => ⟨trivial, rfl⟩) ?_ ?_
          · cases hdumps : Json.dumps floatRepr (.dict value.toDict) with
            | error e => exact ⟨s, .inl rfl, fun h' hh' => ht.unchanged hh'⟩
            | ok blob' =>
                refine ⟨_, .inr ⟨.ok true, ?_, rfl⟩, fun h' hh' => hafter blob' hdumps h' ?_⟩
                · simp [hkv]
                · rw [hdumps]
                  exact hh'
          · rintro won ⟨blob', hdumps, rfl⟩
            refine ⟨_, ⟨?_, rfl⟩, fun h' hh' => ?_⟩
            · simp [hkv, hexec blob']
            · simpa [hexec blob'] using hafter blob' hdumps h' hh'

theorem delete_simulates (ht : Coupled toFloat floatRepr s t) (key : PyStr) :
    Simulates faultyStores env (Coupled toFloat floatRepr) (Holds toFloat floatRepr)
      (.delete key) (method toFloat floatRepr (.delete key)) s t := by
  have hlands := EvictableSqlite.write_lands (D := kvSchema PyStr) (.ok key) KvStmt.delete
    fun _ => ()
  have hlookup : ∀ (rows : Table PyStr) (other : PyStr),
      Table.get? (rows.filter (·.1 ≠ key)) other = if other = key then none
        else Table.get? rows other := by
    intro rows other
    induction rows with
    | nil => simp [Table.get?]
    | cons row rows ih =>
        obtain ⟨k, blob⟩ := row
        rw [Table.get?, Table.get?] at ih
        rw [Table.get?, Table.get?, List.lookup_cons]
        by_cases hk : k = key
        · subst hk
          by_cases hother : other = k
          · simpa [hother] using ih
          · simpa [hother, beq_false_of_ne hother] using ih
        · by_cases hother : other = k
          · simp [hother, hk]
          · simpa [List.lookup_cons, hk, beq_false_of_ne hother] using ih
  have hafter : ∀ h' : Handle (schema .kv),
      h'.committed = (t.handles .kv).committed.filter (·.1 ≠ key) →
      Holds toFloat floatRepr { s with kv := Function.update s.kv key none } (t.with .kv h') := by
    intro h' hcommitted
    refine ht.row ?_ fun other hother => ?_
    · simp only [hcommitted, hlookup, if_true]
      trivial
    · simp only [hcommitted, hlookup, if_neg hother]
  exact simulates_of_lands_ok (V := faultyStores) (C := Holds toFloat floatRepr)
    (o := .delete key) (b := .kv) hlands ht.2 (fun _ => ht.unchanged)
    (fun e => ⟨trivial, rfl⟩) ⟨_, .inr ⟨.ok (), rfl⟩, hafter⟩ fun _ _ => ⟨_, rfl, hafter⟩

theorem append_simulates (ht : Coupled toFloat floatRepr s t) (event : AuditEvent) :
    Simulates faultyStores env (Coupled toFloat floatRepr) (Holds toFloat floatRepr)
      (.append event) (method toFloat floatRepr (.append event)) s t := by
  have hlands := EvictableSqlite.write_lands (D := logSchema PyStr)
    (Json.dumps floatRepr (.dict event.toDict)) id fun _ => ()
  have hafter : ∀ blob, Json.dumps floatRepr (.dict event.toDict) = .ok blob →
      ∀ h' : Handle (schema .log),
        h'.committed = (t.handles .log).committed ++ [blob] →
        Holds toFloat floatRepr { s with ledger := s.ledger ++ [event] } (t.with .log h') := by
    intro blob hdumps h' hcommitted
    refine ⟨ht.1.rows, ?_, ht.1.sends⟩
    rw [Stores.with_self, hcommitted]
    exact List.rel_append ht.1.ledger (.cons hdumps .nil)
  refine simulates_of_lands_ok (V := faultyStores) (C := Holds toFloat floatRepr)
    (o := .append event) (b := .log) hlands ht.2 (fun _ => ht.unchanged)
    (fun e => ⟨trivial, rfl⟩) ?_ ?_
  · cases hdumps : Json.dumps floatRepr (.dict event.toDict) with
    | error e => exact ⟨s, .inl rfl, fun h' hh' => ht.unchanged hh'⟩
    | ok blob => exact ⟨_, .inr ⟨.ok (), rfl⟩, hafter blob hdumps⟩
  · rintro _ ⟨blob, hdumps, -⟩
    rw [hdumps]
    exact ⟨_, rfl, hafter blob hdumps⟩

/-- **Every operation is simulated**, where the rows it leaves can be read back. -/
theorem method_simulates (ht : Coupled toFloat floatRepr s t) (o : StoreOp)
    (hlossless : ∀ r s', faultyStores s o r s' → Lossless s') :
    Simulates faultyStores env (Coupled toFloat floatRepr) (Holds toFloat floatRepr) o
      (method toFloat floatRepr o) s t := by
  cases o with
  | get key => exact get_simulates ht key
  | put key value =>
      exact put_simulates ht (hlossless (.ok ()) _ rfl key value (Function.update_self _ _ _))
  | claim key value =>
      refine claim_simulates ht fun hnone => ?_
      refine hlossless (.ok true) { s with kv := Function.update s.kv key (some value) }
        ⟨?_, rfl⟩ key value (Function.update_self _ _ _)
      simp [hnone]
  | delete key => exact delete_simulates ht key
  | append event => exact append_simulates ht event
  | send proposalId =>
      rw [Simulates, method]
      rintro r t' rfl
      have hsent : faultyStores s (.send proposalId) r
          { s with sends := s.sends ++ [proposalId] } := by cases r <;> rfl
      have hholds : Holds toFloat floatRepr { s with sends := s.sends ++ [proposalId] }
          { t with sends := t.sends ++ [proposalId] } :=
        ⟨ht.1.rows, ht.1.ledger, congrArg (· ++ [proposalId]) ht.1.sends⟩
      exact ⟨⟨_, .inr ⟨r, hsent⟩, hholds⟩, (sat_embed r).mpr ⟨_, hsent, hholds, ht.2⟩⟩
  | now =>
      rw [Simulates, method]
      rintro r t' rfl
      have hread : faultyStores s .now r s := by
        cases r with
        | error e => exact ⟨trivial, rfl⟩
        | ok now => rfl
      exact ⟨⟨s, .inl rfl, ht.1⟩, (sat_embed r).mpr ⟨s, hread, ht⟩⟩

/-! ### Every procedure -/

/-- **The SQLite stores refine the atomic ones.** Every execution of a procedure over the two
connections, under any faults of theirs and wherever it is killed, is one over stores whose
operations happen at once or raise and change nothing; and what is committed then is what those
stores hold. -/
theorem exec_simulated {α : Type} {p : Proc StoreSig Exc α} {θ : List (Event Sig Exc)}
    {out : Outcome Exc α} {t' : Stores} (ht : Coupled toFloat floatRepr s t)
    (hp : p.sat faultyStores (fun _ s' => Lossless s') (fun _ _ _ => True) [] s)
    (h : Exec env (p.implement (method toFloat floatRepr)) t θ out t') :
    ∃ τ s', Exec faultyStores p s τ out s' ∧ Holds toFloat floatRepr s' t' ∧
      (Ends out → ∀ b, (t'.handles b).Settled) := by
  have hsat := sat_implement_exec (R := Coupled toFloat floatRepr)
    (C := Holds toFloat floatRepr) (θ := []) (fun o τ s t hl hR => method_simulates hR o hl) hp ht
  have hsound := h.sound hsat
  cases out with
  | done r =>
      obtain ⟨τ, s', hx, hcoupled⟩ := hsound.2 r rfl
      exact ⟨τ, s', hx, hcoupled.1, fun _ => hcoupled.2⟩
  | stopped =>
      by_cases hθ : θ = []
      · rw [h.state_eq_of_nil hθ]
        exact ⟨[], s, .stop, ht.1, fun _ => ht.2⟩
      · obtain ⟨τ, s', hx, hholds⟩ := hsound.1 hθ
        exact ⟨τ, s', hx, hholds, fun hends => by obtain ⟨r, hr⟩ := hends; cases hr⟩

end

/-! ### The rows that the store logic writes -/

theorem Lossless.update {s : StoreState} (hs : Lossless s) (key : PyStr) {v : Option KvValue}
    (hv : ∀ row, v = some row → row.Lossless) :
    Lossless { s with kv := Function.update s.kv key v } := by
  intro other row hrow
  by_cases hother : other = key
  · subst hother
    exact hv row (by simpa using hrow)
  · exact hs other row (by simpa [Function.update_of_ne hother] using hrow)

/-- Started on rows that can be read back, the procedure leaves such rows everywhere. -/
def KeepsLossless {α : Type} (p : Proc StoreSig Exc α) : Prop :=
  ∀ τ s, Lossless s →
    p.sat faultyStores (fun _ s' => Lossless s') (fun _ _ s' => Lossless s') τ s

/-- Operations that write no row. -/
def WritesNoRow : StoreOp → Prop
  | .put _ _ | .claim _ _ => False
  | _ => True

section
variable {α β : Type}

theorem keepsLossless_of_performs {p : Proc StoreSig Exc α} (hp : p.Performs WritesNoRow) :
    KeepsLossless p := by
  intro τ s hs
  have hkeeps : ∀ s o r s', WritesNoRow o → faultyStores s o r s' → Lossless s → Lossless s' := by
    intro s o r s' ho h hs
    cases o with
    | put | claim => exact ho.elim
    | send => rw [show s' = _ by cases r <;> exact h]; exact hs
    | get | now | append =>
        cases r with
        | error e => rwa [h.2]
        | ok a => first | rwa [h.2] | (rw [show s' = _ from h]; exact hs)
    | delete key =>
        cases r with
        | error e => rwa [h.2]
        | ok a =>
            rw [show s' = _ from h]
            exact hs.update key (by simp)
  have hframe := sat_keeps (R := fun s s' => Lossless s → Lossless s') hp
    (fun _ _ _ h h' hs => h' (h hs)) hkeeps (τ := τ)
    (fun h : Lossless s => h)
  exact sat_weaken hframe (fun _ _ h => h hs) fun _ _ _ h => h hs

theorem keepsLossless_perform {o : StoreOp} (ho : WritesNoRow o) :
    KeepsLossless (perform (S := StoreSig) o : Proc StoreSig Exc o.Ret) :=
  keepsLossless_of_performs (performs_perform ho)

theorem keepsLossless_raiseIf (c : Prop) [Decidable c] (e : Exc) :
    KeepsLossless (raiseIf c e : Proc StoreSig Exc Unit) :=
  keepsLossless_of_performs (performs_raiseIf _ _)

theorem keepsLossless_pure (a : α) : KeepsLossless (pure a : Proc StoreSig Exc α) :=
  keepsLossless_of_performs trivial

theorem KeepsLossless.bind {p : Proc StoreSig Exc α} {f : α → Proc StoreSig Exc β}
    (hp : KeepsLossless p) (hf : ∀ a, KeepsLossless (f a)) : KeepsLossless (p >>= f) := by
  intro τ s hs
  rw [sat_bind]
  refine sat_mono (hp τ s hs) ?_
  rintro (e | a) τ' s' hs'
  · exact hs'
  · exact hf a τ' s' hs'

/-- A status is written over the row that was read. -/
theorem keepsLossless_setStatus (proposalId : PyStr) (status : ProposalStatus) :
    KeepsLossless (ProposalStore.setStatus proposalId status) := by
  intro τ s hs
  simp only [ProposalStore.sat_setStatus]
  intro r s₁ hr
  obtain ⟨rfl, hread⟩ := get_effect hr
  refine ⟨hs, ?_⟩
  cases hdec : ProposalStore.decode proposalId r with
  | error e => exact hs
  | ok p =>
      intro r' s₂ hput
      have hp : p.toDict.Lossless := by
        have hstored := hread p hdec
        obtain ⟨row, hrow, hfrom⟩ := Option.bind_eq_some_iff.mp hstored
        have hdict : Proposal.fromDict row = .ok p := by
          cases hfrom' : Proposal.fromDict row <;> simp [hfrom', Except.toOption] at hfrom
          rw [hfrom]
        rw [Proposal.toDict_fromDict hdict]
        exact hs proposalId row hrow
      have hs₂ : Lossless s₂ := by
        cases r' with
        | error e => rwa [hput.2]
        | ok u =>
            rw [show s₂ = _ from hput]
            refine hs.update proposalId fun row hrow => ?_
            rw [← Option.some.inj hrow]
            exact (Proposal.lossless_withStatus status).mpr hp
      exact ⟨hs₂, hs₂⟩

theorem keepsLossless_put {key : PyStr} {value : KvValue} (hv : value.Lossless) :
    KeepsLossless (KVBackend.put key value) := by
  intro τ s hs
  simp only [KVBackend.put, perform, sat_op, sat_embed]
  intro r s' hput
  have hs' : Lossless s' := by
    cases r with
    | error e => rwa [hput.2]
    | ok u =>
        rw [show s' = _ from hput]
        refine hs.update key fun row hrow => ?_
        rwa [← Option.some.inj hrow]
  exact ⟨hs', hs'⟩

theorem keepsLossless_claim {key : PyStr} {value : KvValue} (hv : value.Lossless) :
    KeepsLossless (KVBackend.claim key value) := by
  intro τ s hs
  simp only [KVBackend.claim, perform, sat_op, sat_embed]
  intro r s' hclaim
  have hs' : Lossless s' := by
    cases r with
    | error e => rwa [hclaim.2]
    | ok won =>
        rw [hclaim.2]
        split
        · refine hs.update key fun row hrow => ?_
          rwa [← Option.some.inj hrow]
        · exact hs
  exact ⟨hs', hs'⟩

/-- A proposal whose record can be read back, and its index entry with it. -/
theorem keepsLossless_create {p : Proposal} (hp : p.toDict.Lossless) :
    KeepsLossless (ProposalStore.create p) := by
  have hkey : Json.unpaired (str "proposal_id") = true := by decide
  have hindex : (KvValue.index p.proposalId).Lossless := by
    simp only [KvValue.Lossless, Json.surrogatesUnpaired, Proposal.toDict, KvValue.toDict,
      PyVal.every_dict, List.forall_mem_cons] at hp ⊢
    exact ⟨by simp [hkey], hp.2.1, by simp⟩
  refine (keepsLossless_raiseIf _ _).bind fun _ =>
    (keepsLossless_raiseIf _ _).bind fun _ =>
      (keepsLossless_raiseIf _ _).bind fun _ =>
        (keepsLossless_perform (o := .get p.proposalId) trivial).bind fun _ =>
          (keepsLossless_raiseIf _ _).bind fun _ =>
            (keepsLossless_put hp).bind fun _ => ?_
  cases p.idempotencyKey with
  | none => exact keepsLossless_pure _
  | some key =>
      refine (keepsLossless_claim hindex).bind fun won => ?_
      cases won with
      | true => exact keepsLossless_pure _
      | false =>
          exact (keepsLossless_perform (o := .delete p.proposalId) trivial).bind fun _ =>
            keepsLossless_of_performs (performs_throw _)

/-- Writing a status and its row. -/
theorem keepsLossless_write (proposalId : PyStr) (status : ProposalStatus) (row : AuditEvent) :
    KeepsLossless (do
      let _ ← ProposalStore.setStatus proposalId status
      AuditLedger.record row : Proc StoreSig Exc Unit) :=
  (keepsLossless_setStatus proposalId status).bind fun _ =>
    keepsLossless_of_performs (AuditLedger.performs_record trivial)

theorem keepsLossless_write_pure (proposalId : PyStr) (status : ProposalStatus)
    (row : AuditEvent) :
    KeepsLossless (do
      let _ ← ProposalStore.setStatus proposalId status
      AuditLedger.record row
      pure status : Proc StoreSig Exc ProposalStatus) :=
  (keepsLossless_setStatus proposalId status).bind fun _ =>
    (keepsLossless_of_performs (AuditLedger.performs_record trivial)).bind fun _ =>
      keepsLossless_pure _

theorem keepsLossless_confirm (switchMode : SwitchMode) (proposalId : PyStr) (actor : Actor)
    (now : Int) (agentReachable : Option Bool) :
    KeepsLossless (SendFsm.confirm switchMode proposalId actor now agentReachable) :=
  (keepsLossless_of_performs (ProposalStore.performs_getLive trivial _)).bind fun _ =>
    (keepsLossless_raiseIf _ _).bind fun _ =>
      (keepsLossless_raiseIf _ _).bind fun _ =>
        (keepsLossless_raiseIf _ _).bind fun _ =>
          keepsLossless_write _ _ _

theorem keepsLossless_settle (proposalId : PyStr) (now : Int) (result : Except Exc SendResult) :
    KeepsLossless (SendFsm.settle proposalId now result) := by
  rcases result with e | ⟨kind, m, t, c, hosts⟩
  · exact keepsLossless_write_pure _ _ _
  · cases kind <;> exact keepsLossless_write_pure _ _ _

theorem keepsLossless_dispatch (proposalId : PyStr) (now : Int) :
    KeepsLossless (SendFsm.dispatch proposalId now) :=
  (keepsLossless_of_performs (ProposalStore.performs_get trivial)).bind fun _ =>
    (keepsLossless_raiseIf _ _).bind fun _ =>
      (keepsLossless_raiseIf _ _).bind fun _ =>
        (keepsLossless_raiseIf _ _).bind fun _ =>
          (keepsLossless_of_performs (AuditLedger.performs_record trivial)).bind fun _ =>
            (keepsLossless_of_performs (performs_attempt
              (performs_perform (S := StoreSig) (o := .send proposalId) trivial))).bind fun _ =>
                keepsLossless_settle _ _ _

theorem keepsLossless_expire (proposalId : PyStr) (now : Int) :
    KeepsLossless (SendFsm.expire proposalId now) :=
  (keepsLossless_of_performs (ProposalStore.performs_get trivial)).bind fun _ =>
    (keepsLossless_raiseIf _ _).bind fun _ =>
      (keepsLossless_raiseIf _ _).bind fun _ =>
        keepsLossless_write_pure _ _ _

theorem keepsLossless_confirmAndDispatch (switchMode : SwitchMode) (proposalId : PyStr) :
    KeepsLossless (ConfirmDispatcher.confirmAndDispatch switchMode proposalId) :=
  (keepsLossless_perform (o := .now) trivial).bind fun _ =>
    (keepsLossless_confirm _ _ _ _ _).bind fun _ =>
      (keepsLossless_dispatch _ _).bind fun _ => keepsLossless_pure _

end

/-! ### Histories over restarts -/

/-- What another process finds: fresh handles on what was committed. -/
def reopen (t : Stores) : Stores :=
  { t with handles := fun b => { committed := (t.handles b).committed } }

section
variable {toFloat : PyStr → PyFloat} {floatRepr : PyFloat → PyStr} {s : StoreState} {t : Stores}
  {α κ : Type}

theorem Holds.reopen (h : Holds toFloat floatRepr s t) :
    Coupled toFloat floatRepr s (reopen t) :=
  ⟨⟨h.rows, h.ledger, h.sends⟩, fun _ _ => rfl⟩

/-- One call, and what the next one finds. -/
theorem call_simulated {p : Proc StoreSig Exc α} {θ : List (Event Sig Exc)} {out : Outcome Exc α}
    {t' : Stores} (hp : KeepsLossless p) (hs : Lossless s) (ht : Coupled toFloat floatRepr s t)
    (h : Exec env (p.implement (method toFloat floatRepr)) t θ out t') :
    ∃ τ s', Exec faultyStores p s τ out s' ∧ Lossless s' ∧
      Coupled toFloat floatRepr s' (out.resume reopen t') := by
  have hsat := hp [] s hs
  obtain ⟨τ, s', hx, hholds, hsettled⟩ := exec_simulated ht
    (sat_mono hsat fun _ _ _ _ => trivial) h
  have hs' : Lossless s' := by
    by_cases hτ : τ = []
    · rwa [hx.state_eq_of_nil hτ]
    · simpa using (hx.sound hsat).1 hτ
  refine ⟨τ, s', hx, hs', ?_⟩
  cases out with
  | done r => exact ⟨hholds, hsettled ⟨r, rfl⟩⟩
  | stopped => exact hholds.reopen

/-- **A history on disk is a history of the atomic stores.** Calls of procedures that write
rows which can be read back, one after the other over SQLite, with any faults of the connections
and killed and restarted anywhere: the atomic stores have a session of the same calls that end the
same way, and hold what is committed. -/
theorem lifetimes_refine {run : κ → Proc StoreSig Exc α} {s₀ : StoreState} {t₀ : Stores}
    {calls : List (Call Sig Exc α κ)} (hrun : ∀ k, KeepsLossless (run k)) (hs₀ : Lossless s₀)
    (ht₀ : Coupled toFloat floatRepr s₀ t₀)
    (h : Lifetimes env (fun k => (run k).implement (method toFloat floatRepr)) reopen t₀ calls t) :
    ∃ calls' s, Session faultyStores run anyCall s₀ calls' s ∧
      calls'.map (fun k => (k.key, k.outcome)) = calls.map (fun k => (k.key, k.outcome)) ∧
      Lossless s ∧ Coupled toFloat floatRepr s t := by
  induction h with
  | start => exact ⟨[], s₀, .start, rfl, hs₀, ht₀⟩
  | @call calls t k θ out t' _ hexec ih =>
      obtain ⟨calls', s, hsession, hkeys, hs, ht⟩ := ih
      obtain ⟨τ, s', hx, hs', ht'⟩ := call_simulated (hrun k) hs ht hexec
      exact ⟨_, s', hsession.call hx trivial, by simp [hkeys], hs', ht'⟩
  | restart _ ih =>
      obtain ⟨calls', s, hsession, hkeys, hs, ht⟩ := ih
      exact ⟨calls', s, hsession, hkeys, hs, ht.1.reopen⟩

end

/-! ### A history -/

/-- A call of the proposal store or of the state machine. -/
inductive StoreCall
  | create (proposal : { p : Proposal // p.toDict.Lossless })
  | fsm (call : Redispatch.FsmCall)

/-- The call, with its arguments. -/
def StoreCall.run : StoreCall → Proc StoreSig Exc Unit
  | .create proposal => do
      let _ ← ProposalStore.create proposal.val
      pure ()
  | .fsm call => call.run

theorem StoreCall.keepsLossless (k : StoreCall) : KeepsLossless k.run := by
  cases k with
  | create p => exact (keepsLossless_create p.property).bind fun _ => keepsLossless_pure _
  | fsm call =>
      cases call with
      | confirm => exact keepsLossless_confirm _ _ _ _ _
      | dispatch => exact (keepsLossless_dispatch _ _).bind fun _ => keepsLossless_pure _
      | expire => exact (keepsLossless_expire _ _).bind fun _ => keepsLossless_pure _

/-- Perform one operation; the requests in `fails` raise. -/
def Stores.perform (fails : (b : Backend) → SqliteOp (schema b) → Bool) (now : Int)
    (result : Except Exc SendResult) (t : Stores) : (o : StoresOp) → Except Exc o.Ret × Stores
  | .handle b o =>
      (((t.handles b).perform (fails b) o).1, t.with b ((t.handles b).perform (fails b) o).2)
  | .send proposalId => (result, { t with sends := t.sends ++ [proposalId] })
  | .now => (.ok now, t)

theorem Stores.perform_env (fails : (b : Backend) → SqliteOp (schema b) → Bool)
    (now : Int) (result : Except Exc SendResult) (t : Stores) (o : StoresOp) :
    env t o (t.perform fails now result o).1 (t.perform fails now result o).2 := by
  cases o with
  | handle b o => exact ⟨_, (t.handles b).perform_env (fails b) o, rfl⟩
  | send | now => rfl

/-- New databases. -/
def emptyStores : Stores := { handles := Persistence.emptyHandles PyStr }

/-- The atomic stores that correspond to them. -/
def emptyState : StoreState := { kv := fun _ => none, ledger := [], sends := [] }

theorem emptyState_lossless : Lossless emptyState := fun _ _ h => by cases h

theorem coupled_empty (toFloat : PyStr → PyFloat) (floatRepr : PyFloat → PyStr) :
    Coupled toFloat floatRepr emptyState emptyStores :=
  ⟨⟨fun _ => trivial, .nil, rfl⟩, fun b _ => by cases b <;> rfl⟩

/-- A method, without floats. -/
abbrev sampleMethod := method (fun _ => .nan) fun _ => []

/-- A proposal with an idempotency key. -/
def historyProposal : { p : Proposal // p.toDict.Lossless } :=
  ⟨{ proposalId := str "p1", payloadDigest := str "d1", expiresAt := 100, createdAt := 0,
     idempotencyKey := some (str "k1") }, by decide +kernel⟩

/-- A proposal is created and confirmed, the first time with a failing commit; its dispatch is
killed once the sender was called, and the next process finds it confirmed. -/
def sampleHistory :
    List (StoreCall × Nat × (Stores → (o : StoresOp) → Except Exc o.Ret × Stores)) :=
  let perform (commit : Bool) (t : Stores) (o : StoresOp) :=
    t.perform (Persistence.failing commit false) 1 (.ok { kind := .accepted }) o
  [(.create historyProposal, 40, perform false),
    (.fsm Redispatch.confirmCall, 40, perform true),
    (.fsm Redispatch.confirmCall, 40, perform false),
    (.fsm Redispatch.dispatchCall, 6, perform false),
    (.fsm (.expire (str "p1") 200), 40, perform false)]

/-- The sample history on new databases. -/
@[irreducible] def sampleLives : List (Call Sig Exc Unit StoreCall) × Stores :=
  scriptedLives (fun k : StoreCall => k.run.implement sampleMethod) reopen sampleHistory emptyStores

theorem sampleLives_lifetimes :
    Lifetimes env (fun k : StoreCall => k.run.implement sampleMethod) reopen emptyStores
      sampleLives.1 sampleLives.2 := by
  unfold sampleLives
  generalize hlives : scriptedLives (fun k : StoreCall => k.run.implement sampleMethod) reopen
    sampleHistory emptyStores = lives
  have hscripted : Lifetimes env (fun k : StoreCall => k.run.implement sampleMethod) reopen
      emptyStores ([] ++ lives.1) lives.2 :=
    hlives ▸ scriptedLives_lifetimes (by simp [sampleHistory, Stores.perform_env]) .start
  rwa [List.nil_append] at hscripted

/-- How a call ended: it returned, it raised, or it was killed. -/
def ending (out : Outcome Exc Unit) : Option Bool :=
  match out with
  | .done (.ok _) => some true
  | .done (.error _) => some false
  | .stopped => none

theorem lifetimes_refine_killed :
    sampleLives.1.map (fun k => ending k.outcome) =
      [some true, some false, some true, none, some false] ∧
    sampleLives.2.sends = [str "p1"] ∧
    ∃ calls' s, Session faultyStores StoreCall.run anyCall emptyState calls' s ∧
      calls'.map (fun k => (k.key, k.outcome)) = sampleLives.1.map (fun k => (k.key, k.outcome)) ∧
      Lossless s ∧ Coupled (fun _ => .nan) (fun _ => []) s sampleLives.2 :=
  ⟨by decide +kernel, by decide +kernel, lifetimes_refine StoreCall.keepsLossless
    emptyState_lossless (coupled_empty _ _) sampleLives_lifetimes⟩

end SqliteStores

end GmailGateway
