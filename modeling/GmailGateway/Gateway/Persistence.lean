import GmailGateway.Effect.Session
import GmailGateway.Errors

/-!
# GmailGateway.Gateway.Persistence

The SQLite backends (`gateway/persistence.py`): `SqliteKV` and `SqliteAppendLog` over one
connection each.

A connection is the committed database and the transaction that may be pending on it.
Every request to it may fail, and a failed commit leaves the transaction pending, which is
what the backends have to clean up after: a later commit would take the failed write with
it.

JSON text is what the tables hold. What `json.dumps` and `json.loads` do is a parameter,
and both may raise.
-/

namespace GmailGateway

open Effect Proc Python

/-! ### Connections -/

/-- What a database holds, and what its statements and queries do to it. A statement
answers its `rowcount`. -/
structure Schema where
  Db : Type
  Stmt : Type
  exec : Stmt → Db → Db × Nat
  Query : Type
  Rows : Query → Type
  fetch : (q : Query) → Db → Rows q

/-- The requests to a connection, and the handle's own `_broken` flag. -/
inductive SqliteOp (D : Schema)
  | broken
  | setBroken
  | select (q : D.Query)
  | execute (stmt : D.Stmt)
  | commit
  | rollback
  | close

/-- Rows for a query, the number of changed rows for a statement. -/
abbrev SqliteOp.Ret {D : Schema} : SqliteOp D → Type
  | .broken => Bool
  | .select q => D.Rows q
  | .execute _ => Nat
  | .setBroken | .commit | .rollback | .close => Unit

/-- The requests to a handle on a database with this schema. -/
abbrev SqliteSig (D : Schema) : Signature := ⟨SqliteOp D, SqliteOp.Ret⟩

/-- What the methods of the SQLite backends are. -/
abbrev SqliteProc (D : Schema) (α : Type) := Proc (SqliteSig D) Exc α

/-- A request with its answer. -/
abbrev SqliteEvent (D : Schema) := Event (SqliteSig D) Exc

/-- A handle: its connection, and whether it was evicted. -/
structure Handle (D : Schema) where
  committed : D.Db
  pending : Option D.Db := none
  broken : Bool := false

/-- What the connection's own statements see. -/
def Handle.visible {D : Schema} (h : Handle D) : D.Db := h.pending.getD h.committed

/-- The connection. A data-changing statement opens the transaction if none is pending; one
that fails may leave any transaction behind. -/
def sqliteEnv (D : Schema) : Env (SqliteSig D) Exc (Handle D)
  | h, .broken, .ok b, h' => b = h.broken ∧ h' = h
  | h, .setBroken, .ok _, h' => h' = { h with broken := true }
  | h, .select q, .ok rows, h' => rows = D.fetch q h.visible ∧ h' = h
  | h, .execute stmt, .ok n, h' => n = (D.exec stmt h.visible).2 ∧
      h' = { h with pending := some (D.exec stmt h.visible).1 }
  | h, .commit, .ok _, h' => h' = { h with committed := h.visible, pending := none }
  | h, .rollback, .ok _, h' | h, .close, .ok _, h' => h' = { h with pending := none }
  | h, .execute _, .error _, h' => ∃ pending, h' = { h with pending }
  | _, .broken, .error _, _ | _, .setBroken, .error _, _ => False
  | h, _, .error _, h' => h' = h

/-- Perform one request; the requests in `fails` raise. -/
def Handle.perform {D : Schema} (fails : SqliteOp D → Bool) (h : Handle D) :
    (o : SqliteOp D) → Except Exc o.Ret × Handle D
  | .broken => (.ok h.broken, h)
  | .setBroken => (.ok (), { h with broken := true })
  | .select q => if fails (.select q) then (.error .other, h) else (.ok (D.fetch q h.visible), h)
  | .execute stmt =>
      if fails (.execute stmt) then (.error .other, h)
      else (.ok (D.exec stmt h.visible).2, { h with pending := some (D.exec stmt h.visible).1 })
  | .commit =>
      if fails .commit then (.error .other, h)
      else (.ok (), { h with committed := h.visible, pending := none })
  | .rollback => if fails .rollback then (.error .other, h) else (.ok (), { h with pending := none })
  | .close => if fails .close then (.error .other, h) else (.ok (), { h with pending := none })

theorem Handle.perform_env {D : Schema} (fails : SqliteOp D → Bool) (h : Handle D)
    (o : SqliteOp D) : sqliteEnv D h o (h.perform fails o).1 (h.perform fails o).2 := by
  cases o with
  | broken | setBroken => simp [perform, sqliteEnv]
  | execute stmt =>
      dsimp only [perform]
      split
      · exact ⟨h.pending, rfl⟩
      · exact ⟨rfl, rfl⟩
  | _ =>
      dsimp only [perform]
      split <;> simp [sqliteEnv]

/-! ### `_EvictableSqlite` -/

namespace EvictableSqlite

variable {D : Schema}

/-- An evicted handle refuses. -/
def ensureLive : SqliteProc D Unit := do
  let broken ← perform (S := SqliteSig D) .broken
  raiseIf (broken = true) .connectionEvicted

/-- Roll the pending transaction back; evict the handle if that fails too. -/
def discardFailedWrite : SqliteProc D Unit :=
  tryCatch (perform (S := SqliteSig D) .rollback) fun _ => do
    perform (S := SqliteSig D) .setBroken
    tryCatch (perform (S := SqliteSig D) .close) fun _ => pure ()

/-- The `try` block of every mutator: execute and commit, or discard and re-raise. The
statement may raise while it is built. -/
def write (stmt : Except Exc D.Stmt) : SqliteProc D Nat :=
  tryCatch
    (do let stmt ← embed stmt
        let rowcount ← perform (S := SqliteSig D) (.execute stmt)
        perform (S := SqliteSig D) .commit
        pure rowcount)
    fun e => do
      discardFailedWrite
      throw e

end EvictableSqlite

/-- `json.dumps` and `json.loads` at the values of a table. -/
structure JsonCodec (V Blob : Type) where
  dumps : V → Except Exc Blob
  loads : Blob → Except Exc V

/-! ### `SqliteKV` -/

/-- The rows of `kv`: one for each key. -/
abbrev Table (Blob : Type) := List (PyStr × Blob)

namespace Table
variable {Blob : Type}

/-- The value in the row of the key. -/
def get? (t : Table Blob) (key : PyStr) : Option Blob := t.lookup key

/-- `ON CONFLICT(key) DO UPDATE`. -/
def upsert (key : PyStr) (blob : Blob) : Table Blob → Table Blob
  | [] => [(key, blob)]
  | row :: t => if row.1 = key then (key, blob) :: t else row :: upsert key blob t

@[simp] theorem get?_upsert_self (key : PyStr) (blob : Blob) (t : Table Blob) :
    (t.upsert key blob).get? key = some blob := by
  induction t with
  | nil => simp [upsert, get?]
  | cons row t ih =>
      by_cases hrow : row.1 = key
      · simp [upsert, get?, hrow]
      · rw [upsert, if_neg hrow, get?, List.lookup_cons, beq_false_of_ne (Ne.symm hrow)]
        exact ih

@[simp] theorem get?_upsert_of_ne {key other : PyStr} (hne : other ≠ key) (blob : Blob)
    (t : Table Blob) : (t.upsert key blob).get? other = t.get? other := by
  induction t with
  | nil => simp [upsert, get?, List.lookup_cons, beq_false_of_ne hne]
  | cons row t ih =>
      by_cases hrow : row.1 = key
      · rw [upsert, if_pos hrow, get?, get?, List.lookup_cons, List.lookup_cons, hrow,
          beq_false_of_ne hne]
      · rw [upsert, if_neg hrow, get?, get?, List.lookup_cons, List.lookup_cons]
        cases other == row.1 with
        | true => rfl
        | false => exact ih

end Table

/-- The statements of `SqliteKV`. -/
inductive KvStmt (Blob : Type)
  | upsert (key : PyStr) (blob : Blob)
  /-- `ON CONFLICT(key) DO NOTHING`. -/
  | insertAbsent (key : PyStr) (blob : Blob)
  | delete (key : PyStr)

/-- What a statement does to the table, and the number of rows it changes. -/
def KvStmt.exec {Blob : Type} : KvStmt Blob → Table Blob → Table Blob × Nat
  | .upsert key blob, t => (t.upsert key blob, 1)
  | .insertAbsent key blob, t =>
      match t.get? key with
      | some _ => (t, 0)
      | none => (t ++ [(key, blob)], 1)
  | .delete key, t => (t.filter (·.1 ≠ key), (t.filter (·.1 = key)).length)

/-- The queries of `SqliteKV`. -/
inductive KvQuery
  | value (key : PyStr)
  | values

/-- The table of `SqliteKV`: a key column that is unique, and a value column. -/
abbrev kvSchema (Blob : Type) : Schema where
  Db := Table Blob
  Stmt := KvStmt Blob
  exec := KvStmt.exec
  Query := KvQuery
  Rows
    | .value _ => Option Blob
    | .values => List Blob
  fetch
    | .value key, t => t.get? key
    | .values, t => t.map (·.2)

namespace SqliteKV

open EvictableSqlite

variable {V H Blob : Type} (codec : JsonCodec V Blob)

/-- Run a query of `SqliteKV`. -/
abbrev select (q : KvQuery) : SqliteProc (kvSchema Blob) ((kvSchema Blob).Rows q) :=
  perform (S := SqliteSig (kvSchema Blob)) (.select q)

/-- `None if row is None else json.loads(row[0])`. -/
def decode : Option Blob → Except Exc (Option V)
  | none => .ok none
  | some blob => some <$> codec.loads blob

/-- `SqliteKV.get`. -/
def get (key : PyStr) : SqliteProc (kvSchema Blob) (Option V) := do
  ensureLive
  let row ← select (.value key)
  embed (decode codec row)

/-- `SqliteKV.put`: encoded before the handle is looked at. -/
def put (key : PyStr) (value : V) : SqliteProc (kvSchema Blob) Unit := do
  let blob ← embed (codec.dumps value)
  ensureLive
  let _ ← write (D := kvSchema Blob) (.ok (.upsert key blob))

/-- `SqliteKV.claim`: the table decides, by its unique key. -/
def claim (key : PyStr) (value : V) : SqliteProc (kvSchema Blob) Bool := do
  let blob ← embed (codec.dumps value)
  ensureLive
  let rowcount ← write (D := kvSchema Blob) (.ok (.insertAbsent key blob))
  pure (rowcount = 1)

/-- `SqliteKV.delete`. -/
def delete (key : PyStr) : SqliteProc (kvSchema Blob) Unit := do
  ensureLive
  let _ ← write (D := kvSchema Blob) (.ok (.delete key))

/-- Read-modify-write of one key. `fn` returns the value to persist, or `none` for
`ABORT`; `H` is what it leaves in the variables it captures. -/
def update (key : PyStr) (fn : Option V → Except Exc (H × Option V)) :
    SqliteProc (kvSchema Blob) (H × Option V) := do
  ensureLive
  let row ← select (.value key)
  let current ← embed (decode codec row)
  let result ← embed (fn current)
  match result.2 with
  | none => pure result
  | some value =>
      let _ ← write (D := kvSchema Blob) ((codec.dumps value).map (.upsert key))
      pure result

/-- `SqliteKV.values`. -/
def values : SqliteProc (kvSchema Blob) (List V) := do
  ensureLive
  let rows ← select .values
  embed (rows.mapM codec.loads)

end SqliteKV

/-! ### `SqliteAppendLog` -/

/-- The rows of `audit` in the order of `seq`. -/
abbrev logSchema (Blob : Type) : Schema where
  Db := List Blob
  Stmt := Blob
  exec blob rows := (rows ++ [blob], 1)
  Query := Unit
  Rows _ := List Blob
  fetch _ rows := rows

namespace SqliteAppendLog

open EvictableSqlite

variable {V Blob : Type} (codec : JsonCodec V Blob)

/-- `SqliteAppendLog.append`. -/
def append (entry : V) : SqliteProc (logSchema Blob) Unit := do
  let blob ← embed (codec.dumps entry)
  ensureLive
  let _ ← write (D := logSchema Blob) (.ok blob)

/-- `SqliteAppendLog.entries`, in the order of insertion. -/
def entries : SqliteProc (logSchema Blob) (List V) := do
  ensureLive
  let rows ← perform (S := SqliteSig (logSchema Blob)) (.select ())
  embed (rows.mapM codec.loads)

end SqliteAppendLog

/-! ### What a call does

A call on a settled handle takes its effect in one commit or has none. The handle it
leaves is settled again: nothing is pending, or it is evicted. -/

section Calls
variable {D : Schema} {α β : Type}

/-- No failed write is left on a handle that is still used. -/
def Handle.Settled (h : Handle D) : Prop := h.broken = false → h.pending = none

/-- A rollback of these events failed. -/
def RollbackFailed (τ : List (SqliteEvent D)) : Prop := ∃ e, ⟨.rollback, .error e⟩ ∈ τ

theorem RollbackFailed.of_concat {τ : List (SqliteEvent D)} {e : SqliteEvent D}
    (h : RollbackFailed (τ ++ [e])) (he : e.op ≠ .rollback) : RollbackFailed τ := by
  obtain ⟨x, hx⟩ := h
  rcases List.mem_append.mp hx with hx | hx
  · exact ⟨x, hx⟩
  · rw [← List.mem_singleton.mp hx] at he
    exact absurd rfl he

/-- Up to here a call from `h` has taken its effect or none. -/
def Partway (effect : D.Db → D.Db) (h h' : Handle D) : Prop :=
  h'.committed = h.committed ∨ h'.committed = effect h.committed

/-- How a call from `h` that has `effect` ends: it returns with the effect committed, or it
raises and nothing has changed. A result is one that `R` allows on what was committed. -/
structure Landed (effect : D.Db → D.Db) (R : α → D.Db → Prop) (h : Handle D) (r : Except Exc α)
    (τ : List (SqliteEvent D)) (h' : Handle D) : Prop where
  settled : h'.Settled
  evicted : RollbackFailed τ → h'.broken = true
  returned : ∀ a, r = .ok a → h'.committed = effect h.committed ∧ R a h.committed
  raised : ∀ e, r = .error e → h'.committed = h.committed

/-- Every call of `p` on a settled handle lands. -/
def Lands (effect : D.Db → D.Db) (R : α → D.Db → Prop) (p : SqliteProc D α) : Prop :=
  ∀ h : Handle D, h.Settled →
    p.sat (sqliteEnv D) (fun _ h' => Partway effect h h') (Landed effect R h) [] h

namespace EvictableSqlite

/-- What `write` does to the database when it returns. -/
def effectOf (stmt : Except Exc D.Stmt) (db : D.Db) : D.Db :=
  match stmt with
  | .ok stmt => (D.exec stmt db).1
  | .error _ => db

/-- After a failed write nothing is pending, unless the handle was evicted. -/
theorem discardFailedWrite_meets {J : List (SqliteEvent D) → Handle D → Prop} {h : Handle D}
    {τ : List (SqliteEvent D)} (hlive : h.broken = false) (hτ : ¬ RollbackFailed τ)
    (hJ : ∀ τ h', h'.committed = h.committed → J τ h') :
    (discardFailedWrite (D := D)).sat (sqliteEnv D) J
      (fun r τ' h' => r = .ok () ∧ h'.committed = h.committed ∧ h'.Settled ∧
        (RollbackFailed τ' → h'.broken = true)) τ h := by
  rw [discardFailedWrite, sat_handle]
  rintro (e | ⟨⟩) h₁ hrollback
  · -- The rollback failed: the handle is evicted, whatever closing it does.
    obtain rfl : h₁ = h := hrollback
    refine ⟨hJ _ _ rfl, ?_⟩
    rw [sat_embed, andThen_error, sat_bind]
    rintro (e | ⟨⟩) h₂ hset
    · exact absurd hset id
    obtain rfl : h₂ = { h₁ with broken := true } := hset
    refine ⟨hJ _ _ rfl, ?_⟩
    rw [sat_embed, andThen_ok, sat_handle]
    rintro (e | ⟨⟩) h₃ hclose
    · obtain rfl : h₃ = { h₁ with broken := true } := hclose
      exact ⟨hJ _ _ rfl, rfl, rfl, nofun, fun _ => rfl⟩
    · obtain rfl : h₃ = { h₁ with broken := true, pending := none } := hclose
      exact ⟨hJ _ _ rfl, rfl, rfl, nofun, fun _ => rfl⟩
  · obtain rfl : h₁ = { h with pending := none } := hrollback
    refine ⟨hJ _ _ rfl, rfl, rfl, fun _ => rfl, fun hfailed => ?_⟩
    obtain ⟨x, hx⟩ := hfailed
    rcases List.mem_append.mp hx with hx | hx
    · exact absurd ⟨x, hx⟩ hτ
    · cases List.mem_singleton.mp hx

/-- **A write lands.** -/
theorem write_meets {J : List (SqliteEvent D) → Handle D → Prop} {stmt : Except Exc D.Stmt}
    {h : Handle D} {τ : List (SqliteEvent D)} (hlive : h.broken = false) (hnone : h.pending = none)
    (hτ : ¬ RollbackFailed τ) (hJ : ∀ τ h', Partway (effectOf stmt) h h' → J τ h') :
    (write stmt).sat (sqliteEnv D) J
      (Landed (effectOf stmt) (fun n db => ∃ st, stmt = .ok st ∧ n = (D.exec st db).2) h) τ h := by
  -- A failing step leaves what was committed, and the handler cleans up behind it.
  have hfail : ∀ (e : Exc) (h₁ : Handle D) (τ₁ : List (SqliteEvent D)), h₁.broken = false →
      h₁.committed = h.committed → ¬ RollbackFailed τ₁ →
      (do discardFailedWrite; throw e : SqliteProc D Nat).sat (sqliteEnv D) J
        (Landed (effectOf stmt) (fun n db => ∃ st, stmt = .ok st ∧ n = (D.exec st db).2) h) τ₁
        h₁ := by
    intro e h₁ τ₁ hlive₁ hcommitted hτ₁
    rw [sat_bind]
    refine sat_mono (discardFailedWrite_meets hlive₁ hτ₁ fun τ' h' hh' =>
      hJ τ' h' (.inl (hh'.trans hcommitted))) ?_
    rintro r τ' h' ⟨rfl, hh', hsettled, hevicted⟩
    exact ⟨hsettled, hevicted, fun _ h => (by cases h), fun _ _ => hh'.trans hcommitted⟩
  rw [write, sat_handle]
  cases stmt with
  | error e => exact hfail e h τ hlive rfl hτ
  | ok st =>
      rw [sat_bind, sat_embed, andThen_ok, sat_bind]
      rintro (e | n) h₁ hexec
      · obtain ⟨pending, rfl⟩ := hexec
        exact ⟨hJ _ _ (.inl rfl), hfail e _ _ hlive rfl fun hf => hτ (hf.of_concat (fun h => by cases h))⟩
      · obtain ⟨rfl, rfl⟩ := hexec
        refine ⟨hJ _ _ (.inl rfl), ?_⟩
        have hτ₁ : ¬ RollbackFailed (τ ++ [⟨.execute st, .ok (D.exec st h.visible).2⟩]) :=
          fun hf => hτ (hf.of_concat (fun h => by cases h))
        rw [sat_embed, andThen_ok, sat_bind]
        rintro (e | ⟨⟩) h₂ hcommit
        · -- The commit failed: the transaction is still pending.
          obtain rfl := hcommit
          refine ⟨hJ _ _ (.inl rfl), hfail e _ _ hlive rfl fun hf => hτ₁ (hf.of_concat (fun h => by cases h))⟩
        · have hvisible : h.visible = h.committed := by rw [Handle.visible, hnone]; rfl
          obtain rfl : h₂ = _ := hcommit
          have heffect : (D.exec st h.visible).1 = effectOf (.ok st) h.committed := by
            rw [hvisible]
            rfl
          refine ⟨hJ _ _ (.inr heffect), fun _ => rfl,
            fun hf => absurd (hf.of_concat nofun) hτ₁, ?_, nofun⟩
          rintro n ⟨⟩
          exact ⟨heffect, st, rfl, by rw [hvisible]⟩

/-- What the first check of every operation does: nothing, to the connection. -/
theorem sat_ensureLive {J : List (SqliteEvent D) → Handle D → Prop}
    {Q : Except Exc Unit → List (SqliteEvent D) → Handle D → Prop} {h : Handle D}
    {τ : List (SqliteEvent D)} :
    (ensureLive (D := D)).sat (sqliteEnv D) J Q τ h ↔ J (τ ++ [⟨.broken, .ok h.broken⟩]) h ∧
      (h.broken = true → Q (.error .connectionEvicted) (τ ++ [⟨.broken, .ok h.broken⟩]) h) ∧
      (h.broken = false → Q (.ok ()) (τ ++ [⟨.broken, .ok h.broken⟩]) h) := by
  rw [ensureLive, sat_bind]
  constructor
  · intro hsat
    obtain ⟨hJ, hQ⟩ := hsat (.ok h.broken) h ⟨rfl, rfl⟩
    rw [sat_embed, andThen_ok, sat_raiseIf, Bool.not_eq_true] at hQ
    exact ⟨hJ, hQ⟩
  · rintro ⟨hJ, hQ⟩ (e | broken) h' hread
    · exact absurd hread id
    · obtain ⟨rfl, rfl⟩ := hread
      rw [sat_embed, andThen_ok, sat_raiseIf, Bool.not_eq_true]
      exact ⟨hJ, hQ⟩

/-- A query reads the committed contents or raises; either way it changes nothing. -/
theorem sat_select {J : List (SqliteEvent D) → Handle D → Prop} {q : D.Query}
    {Q : Except Exc (D.Rows q) → List (SqliteEvent D) → Handle D → Prop} {h : Handle D}
    {τ : List (SqliteEvent D)} :
    (perform (S := SqliteSig D) (.select q) : SqliteProc D (D.Rows q)).sat (sqliteEnv D) J Q τ h ↔
      (∀ e, J (τ ++ [⟨.select q, .error e⟩]) h ∧ Q (.error e) (τ ++ [⟨.select q, .error e⟩]) h) ∧
      J (τ ++ [⟨.select q, .ok (D.fetch q h.visible)⟩]) h ∧
      Q (.ok (D.fetch q h.visible)) (τ ++ [⟨.select q, .ok (D.fetch q h.visible)⟩]) h := by
  constructor
  · intro hsat
    refine ⟨fun e => ?_, ?_⟩
    · have hQ := hsat (.error e) h rfl
      rwa [sat_embed] at hQ
    · have hQ := hsat (.ok (D.fetch q h.visible)) h ⟨rfl, rfl⟩
      rwa [sat_embed] at hQ
  · rintro ⟨herror, hok⟩ (e | rows) h' hread
    · obtain rfl : h' = h := hread
      rw [sat_embed]
      exact herror e
    · obtain ⟨rfl, rfl⟩ := hread
      rw [sat_embed]
      exact hok

/-- A write that is encoded before the handle is looked at lands. -/
theorem write_lands {Blob : Type} (dumped : Except Exc Blob) (stmt : Blob → D.Stmt) (g : Nat → α) :
    Lands (effectOf (dumped.map stmt))
      (fun a db => ∃ blob, dumped = .ok blob ∧ a = g (D.exec (stmt blob) db).2)
      (do let blob ← embed dumped
          ensureLive
          let n ← write (.ok (stmt blob))
          pure (g n) : SqliteProc D α) := by
  intro h hsettled
  rw [sat_bind, sat_embed]
  cases dumped with
  | error e => exact ⟨hsettled, fun hf => absurd hf.choose_spec List.not_mem_nil, nofun, fun _ _ => rfl⟩
  | ok blob =>
      rw [andThen_ok, sat_bind, sat_ensureLive]
      refine ⟨.inl rfl, fun hbroken => ?_, fun hlive => ?_⟩
      · exact ⟨hsettled, fun _ => hbroken, nofun, fun _ _ => rfl⟩
      · have hτ : ¬ RollbackFailed (D := D) ([] ++ [⟨.broken, .ok h.broken⟩]) :=
          fun hf => absurd (hf.of_concat nofun).choose_spec List.not_mem_nil
        rw [andThen_ok, sat_bind]
        refine sat_mono (write_meets hlive (hsettled hlive) hτ fun _ _ hp => hp) ?_
        rintro (e | n) τ h' hlanded
        · exact ⟨hlanded.settled, hlanded.evicted, nofun, fun _ _ => hlanded.raised e rfl⟩
        · obtain ⟨hcommitted, st, hst, hn⟩ := hlanded.returned n rfl
          cases hst
          refine ⟨hlanded.settled, hlanded.evicted, ?_, nofun⟩
          rintro a ⟨⟩
          exact ⟨hcommitted, blob, rfl, by rw [hn]⟩

/-- A read lands without an effect. -/
theorem read_lands (q : D.Query) (f : D.Rows q → Except Exc α) :
    Lands (fun db => db) (fun a db => f (D.fetch q db) = .ok a)
      (do ensureLive
          let rows ← perform (S := SqliteSig D) (.select q)
          embed (f rows) : SqliteProc D α) := by
  intro h hsettled
  have hnil : ¬ RollbackFailed ([] : List (SqliteEvent D)) :=
    fun hf => absurd hf.choose_spec List.not_mem_nil
  rw [sat_bind, sat_ensureLive]
  refine ⟨.inl rfl, fun hbroken => ?_, fun hlive => ?_⟩
  · exact ⟨hsettled, fun _ => hbroken, nofun, fun _ _ => rfl⟩
  · have hvisible : h.visible = h.committed := by rw [Handle.visible, hsettled hlive]; rfl
    rw [andThen_ok, sat_bind, sat_select, hvisible]
    refine ⟨fun e => ⟨.inl rfl, ?_⟩, .inl rfl, ?_⟩
    · exact ⟨hsettled, fun hf => absurd ((hf.of_concat nofun).of_concat nofun) hnil, nofun,
        fun _ _ => rfl⟩
    · rw [andThen_ok, sat_embed]
      exact ⟨hsettled, fun hf => absurd ((hf.of_concat nofun).of_concat nofun) hnil,
        fun a ha => ⟨rfl, ha⟩, fun _ _ => rfl⟩

end EvictableSqlite

end Calls

namespace SqliteKV

open EvictableSqlite

variable {V H Blob : Type} (codec : JsonCodec V Blob)

/-- What the transform of an `update` makes of the stored row. -/
def transformed (key : PyStr) (fn : Option V → Except Exc (H × Option V)) (t : Table Blob) :
    Except Exc (H × Option V) := do
  let current ← decode codec (t.get? key)
  fn current

/-- What an `update` that returns does to the table. -/
def updated (key : PyStr) (fn : Option V → Except Exc (H × Option V)) (t : Table Blob) :
    Table Blob :=
  match transformed codec key fn t with
  | .ok (_, some value) =>
      match codec.dumps value with
      | .ok blob => t.upsert key blob
      | .error _ => t
  | _ => t

/-- **Read-modify-write.** An `update` that returns has applied its transform to the committed
row, and one that raises has not touched it. -/
theorem update_lands (key : PyStr) (fn : Option V → Except Exc (H × Option V)) :
    Lands (updated codec key fn)
      (fun a t => transformed codec key fn t = .ok a ∧ ∀ v, a.2 = some v → ∃ b, codec.dumps v = .ok b)
      (update codec key fn) := by
  intro h hsettled
  have hnil : ¬ RollbackFailed ([] : List (SqliteEvent (kvSchema Blob))) :=
    fun hf => absurd hf.choose_spec List.not_mem_nil
  rw [update, sat_bind, sat_ensureLive]
  refine ⟨.inl rfl, fun hbroken => ?_, fun hlive => ?_⟩
  · exact ⟨hsettled, fun _ => hbroken, nofun, fun _ _ => rfl⟩
  have hvisible : h.visible = h.committed := by rw [Handle.visible, hsettled hlive]; rfl
  rw [andThen_ok, sat_bind, select, sat_select, hvisible]
  have hτ : ∀ r, ¬ RollbackFailed (D := kvSchema Blob)
      (([] ++ [⟨.broken, .ok h.broken⟩]) ++ [⟨.select (.value key), r⟩]) :=
    fun r hf => absurd ((hf.of_concat nofun).of_concat nofun) hnil
  -- Until the write starts, raising leaves everything as it was.
  have hraise : ∀ e r, Landed (α := H × Option V) (updated codec key fn)
      (fun a t => transformed codec key fn t = .ok a ∧ ∀ v, a.2 = some v → ∃ b, codec.dumps v = .ok b)
      h (.error e) (([] ++ [⟨.broken, .ok h.broken⟩]) ++ [⟨.select (.value key), r⟩]) h :=
    fun e r => ⟨hsettled, fun hf => absurd hf (hτ r), nofun, fun _ _ => rfl⟩
  refine ⟨fun e => ⟨.inl rfl, hraise e _⟩, .inl rfl, ?_⟩
  rw [andThen_ok, sat_bind, sat_embed]
  cases hdecode : decode codec (h.committed.get? key) with
  | error e => exact hraise e _
  | ok current =>
      rw [andThen_ok, sat_bind, sat_embed]
      cases hfn : fn current with
      | error e => exact hraise e _
      | ok result =>
          have htransformed : transformed codec key fn h.committed = .ok result := by
            rw [transformed, hdecode]
            exact hfn
          obtain ⟨holder, result⟩ := result
          rw [andThen_ok]
          cases result with
          | none =>
              -- `ABORT`.
              refine ⟨hsettled, fun hf => absurd hf (hτ _), ?_, nofun⟩
              rintro a ⟨⟩
              exact ⟨by rw [updated, htransformed], htransformed, nofun⟩
          | some value =>
              have heffect : effectOf (D := kvSchema Blob) ((codec.dumps value).map (.upsert key))
                  h.committed = updated codec key fn h.committed := by
                rw [updated, htransformed]
                dsimp only
                cases codec.dumps value <;> rfl
              dsimp only
              rw [sat_bind]
              refine sat_mono (write_meets hlive (hsettled hlive) (hτ _)
                fun _ _ hp => by rwa [Partway, heffect] at hp) ?_
              rintro (e | n) τ' h' hlanded
              · exact ⟨hlanded.settled, hlanded.evicted, nofun, fun _ _ => hlanded.raised e rfl⟩
              · obtain ⟨hcommitted, st, hst, -⟩ := hlanded.returned n rfl
                refine ⟨hlanded.settled, hlanded.evicted, ?_, nofun⟩
                rintro a ⟨⟩
                refine ⟨hcommitted.trans heffect, htransformed, ?_⟩
                rintro v ⟨⟩
                cases hdumps : codec.dumps value with
                | error e => rw [hdumps] at hst; cases hst
                | ok blob => exact ⟨blob, rfl⟩

end SqliteKV

end GmailGateway
