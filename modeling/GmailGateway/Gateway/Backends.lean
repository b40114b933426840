import GmailGateway.Gateway.SqliteStores

/-!
# GmailGateway.Gateway.Backends

The seam of the store logic (`store/backend.py`): `KVBackend` and `AppendLog`, their in-memory
implementations, and the SQLite ones of `gateway/persistence.py` behind the same interface.

**The backends cannot be told apart.** What a client of the interface does over SQLite it does over
the in-memory backends, with the same answers and in the same order of rows. Where a request to a
connection fails, the operation raises and changes nothing.
-/

namespace GmailGateway

open Effect Proc Python

namespace Backends

open SqliteStores (Stores schema onHandle codec)
open Persistence (Backend)

/-! ### The interface -/

/-- The methods of `KVBackend` and `AppendLog`. -/
inductive BackendOp
  /- `KVBackend` -/
  | get (key : PyStr)
  | put (key : PyStr) (value : Dict)
  | claim (key : PyStr) (value : Dict)
  | values
  | delete (key : PyStr)
  /- `AppendLog` -/
  | append (entry : Dict)
  | entries

/-- What they return. -/
abbrev BackendOp.Ret : BackendOp → Type
  | .get _ => Option PyVal
  | .claim _ _ => Bool
  | .values | .entries => List PyVal
  | .put _ _ | .delete _ | .append _ => Unit

/-- The seam that the store logic is written against. -/
abbrev BackendSig : Signature := ⟨BackendOp, BackendOp.Ret⟩

/-! ### In memory -/

/-- `_d` and `_log`. What is stored and what is answered are copies, of one level in the source: the
clients here do not change what is nested in a record they handed over or were given. -/
structure Memory where
  kv : Table Dict := []
  log : List Dict := []

namespace InMemoryKV

/-- `InMemoryKV.get`. -/
def get (d : Table Dict) (key : PyStr) : Option PyVal := (d.get? key).map .dict

/-- `_d[key] = dict(value)`. -/
def put (d : Table Dict) (key : PyStr) (value : Dict) : Table Dict := d.upsert key value

/-- `setdefault`, and whether it placed the value. -/
def claim (d : Table Dict) (key : PyStr) (value : Dict) : Bool × Table Dict :=
  match d.get? key with
  | some _ => (false, d)
  | none => (true, d ++ [(key, value)])

/-- `InMemoryKV.delete`. -/
def delete (d : Table Dict) (key : PyStr) : Table Dict := d.filter (·.1 ≠ key)

/-- A generator over the live dict in the source, exhausted here before the client goes on. -/
def values (d : Table Dict) : List PyVal := d.map fun row => .dict row.2

end InMemoryKV

namespace InMemoryAppendLog

/-- `InMemoryAppendLog.append`. -/
def append (log : List Dict) (entry : Dict) : List Dict := log ++ [entry]

/-- `InMemoryAppendLog.entries`. -/
def entries (log : List Dict) : List PyVal := log.map .dict

end InMemoryAppendLog

/-- One operation on the backends in memory. -/
def Memory.step (m : Memory) : (o : BackendOp) → o.Ret × Memory
  | .get key => (InMemoryKV.get m.kv key, m)
  | .put key value => ((), { m with kv := InMemoryKV.put m.kv key value })
  | .claim key value => ((InMemoryKV.claim m.kv key value).1,
      { m with kv := (InMemoryKV.claim m.kv key value).2 })
  | .values => (InMemoryKV.values m.kv, m)
  | .delete key => ((), { m with kv := InMemoryKV.delete m.kv key })
  | .append entry => ((), { m with log := InMemoryAppendLog.append m.log entry })
  | .entries => (InMemoryAppendLog.entries m.log, m)

/-- The backends in memory; if they `mayRaise`, an operation may raise and have no effect. -/
def memoryEnv (mayRaise : Prop) : Env BackendSig Exc Memory
  | m, o, .ok a, m' => m.step o = (a, m')
  | m, _, .error _, m' => mayRaise ∧ m' = m

/-! ### On disk -/

section
variable (toFloat : PyStr → PyFloat) (floatRepr : PyFloat → PyStr)

/-- The method of the SQLite backend. -/
def method : (o : BackendOp) → Proc SqliteStores.Sig Exc o.Ret
  | .get key => onHandle .kv (SqliteKV.get (codec toFloat floatRepr) key)
  | .put key value => onHandle .kv (SqliteKV.put (codec toFloat floatRepr) key (.dict value))
  | .claim key value => onHandle .kv (SqliteKV.claim (codec toFloat floatRepr) key (.dict value))
  | .values => onHandle .kv (SqliteKV.values (codec toFloat floatRepr))
  | .delete key => onHandle .kv (SqliteKV.delete key)
  | .append entry =>
      onHandle .log (SqliteAppendLog.append (codec toFloat floatRepr) (.dict entry))
  | .entries => onHandle .log (SqliteAppendLog.entries (codec toFloat floatRepr))

/-- The text is read as the record. -/
def Stored (row : Dict) (blob : PyStr) : Prop := Json.loads toFloat blob = .ok (.dict row)

/-- What is committed is what the backends in memory hold, row by row. -/
structure Holds (m : Memory) (t : Stores) : Prop where
  rows : List.Forall₂ (fun row row' => row.1 = row'.1 ∧ Stored toFloat row.2 row'.2)
    m.kv (t.handles .kv).committed
  log : List.Forall₂ (Stored toFloat) m.log (t.handles .log).committed

/-- A record that can be written, and is read back. -/
def Persistable (row : Dict) : Prop :=
  ∃ text, Json.dumps floatRepr (.dict row) = .ok text ∧ Stored toFloat row text

/-- What a client writes is persistable. -/
def Writes : BackendOp → Prop
  | .put _ row | .claim _ row | .append row => Persistable toFloat floatRepr row
  | _ => True

end

/-! ### Rows that correspond -/

section
variable {α β : Type} {R : α → β → Prop} {t : Table α} {t' : Table β}

/-- Two tables with the same keys in the same order, and values related by `R`. -/
abbrev Matches (R : α → β → Prop) (t : Table α) (t' : Table β) : Prop :=
  List.Forall₂ (fun row row' => row.1 = row'.1 ∧ R row.2 row'.2) t t'

theorem Matches.get? (h : Matches R t t') (key : PyStr) :
    Option.Rel R (t.get? key) (t'.get? key) := by
  induction h with
  | nil => exact .none
  | @cons row row' t t' hrow _ ih =>
      obtain ⟨k, a⟩ := row
      obtain ⟨k', b⟩ := row'
      obtain ⟨rfl, hab⟩ := hrow
      rw [Table.get?, Table.get?, List.lookup_cons, List.lookup_cons]
      cases key == k with
      | true => exact .some hab
      | false => exact ih

theorem Matches.upsert (h : Matches R t t') (key : PyStr) {a : α} {b : β} (hab : R a b) :
    Matches R (t.upsert key a) (t'.upsert key b) := by
  induction h with
  | nil => exact .cons ⟨rfl, hab⟩ .nil
  | @cons row row' t t' hrow hrest ih =>
      rw [Table.upsert, Table.upsert, ← hrow.1]
      split
      · exact .cons ⟨rfl, hab⟩ hrest
      · exact .cons hrow ih

theorem Matches.delete (h : Matches R t t') (key : PyStr) :
    Matches R (t.filter (·.1 ≠ key)) (t'.filter (·.1 ≠ key)) := by
  induction h with
  | nil => exact .nil
  | @cons row row' t t' hrow _ ih =>
      rw [List.filter_cons, List.filter_cons, ← hrow.1]
      split
      · exact .cons hrow ih
      · exact ih

end

/-! ### Requests that succeed -/

section
variable {D : Schema} {α : Type} {S : Signature}

/-- The operation did not raise. -/
def Answered (e : Event S Exc) : Prop := ∃ a, e.ans = .ok a

/-- In use, with nothing pending. -/
def Live (h : Handle D) : Prop := h.broken = false ∧ h.pending = none

/-- On a live handle that holds `db`, a call whose requests all succeed returns, and has taken its
effect. -/
def Succeeds (effect : D.Db → D.Db) (A : α → D.Db → Prop) (db : D.Db) (p : SqliteProc D α) : Prop :=
  ∀ h : Handle D, h.committed = db → Live h →
    p.sat ((sqliteEnv D).only Answered) (fun _ h' => Partway effect h h')
      (fun r _ h' => ∃ a, r = .ok a ∧ A a db ∧ h'.committed = effect db ∧ Live h') [] h

theorem ensureLive_succeeds {h : Handle D} (hlive : Live h) {τ : List (SqliteEvent D)}
    {J : List (SqliteEvent D) → Handle D → Prop}
    {Q : Except Exc Unit → List (SqliteEvent D) → Handle D → Prop}
    (hJ : J (τ ++ [⟨.broken, .ok h.broken⟩]) h)
    (hQ : Q (.ok ()) (τ ++ [⟨.broken, .ok h.broken⟩]) h) :
    (EvictableSqlite.ensureLive (D := D)).sat ((sqliteEnv D).only Answered) J Q τ h := by
  refine (sat_perform_bind _ _).mpr ?_
  rintro (e | broken) h' ⟨hread, -⟩
  · exact absurd hread id
  · obtain ⟨rfl, rfl⟩ := hread
    refine ⟨hJ, ?_⟩
    rw [andThen_ok, sat_raiseIf]
    exact ⟨fun hbroken => absurd (hbroken.symm.trans hlive.1) (by simp), fun _ => hQ⟩

theorem read_succeeds {q : D.Query} {f : D.Rows q → Except Exc α} {db : D.Db} {a : α}
    (ha : f (D.fetch q db) = .ok a) :
    Succeeds (fun db => db) (fun a db => f (D.fetch q db) = .ok a) db
      (do EvictableSqlite.ensureLive
          let rows ← perform (S := SqliteSig D) (.select q)
          embed (f rows) : SqliteProc D α) := by
  rintro h rfl hlive
  rw [sat_bind]
  refine ensureLive_succeeds hlive (.inl rfl) ?_
  rw [andThen_ok]
  refine (sat_perform_bind _ _).mpr ?_
  rintro (e | rows) h' ⟨hread, answer, hanswer⟩
  · cases hanswer
  · obtain ⟨rfl, rfl⟩ := hread
    have hvisible : h'.visible = h'.committed := by rw [Handle.visible, hlive.2]; rfl
    refine ⟨.inl rfl, ?_⟩
    rw [andThen_ok, sat_embed, hvisible]
    exact ⟨a, ha, ha, rfl, hlive⟩

theorem write_succeeds {Blob : Type} {dumped : Except Exc Blob} {blob : Blob}
    (hblob : dumped = .ok blob) (stmt : Blob → D.Stmt) (g : Nat → α) (db : D.Db) :
    Succeeds (EvictableSqlite.effectOf (dumped.map stmt))
      (fun a db => ∃ blob, dumped = .ok blob ∧ a = g (D.exec (stmt blob) db).2) db
      (do let blob ← embed dumped
          EvictableSqlite.ensureLive
          let n ← EvictableSqlite.write (.ok (stmt blob))
          pure (g n) : SqliteProc D α) := by
  rintro h rfl hlive
  subst hblob
  have hvisible : h.visible = h.committed := by rw [Handle.visible, hlive.2]; rfl
  rw [sat_bind, sat_embed, andThen_ok, sat_bind]
  refine ensureLive_succeeds hlive (.inl rfl) ?_
  rw [andThen_ok, sat_bind, EvictableSqlite.write, sat_handle, sat_bind, sat_embed, andThen_ok]
  refine (sat_perform_bind _ _).mpr ?_
  rintro (e | n) h₁ ⟨hexec, answer, hanswer⟩
  · cases hanswer
  · obtain ⟨rfl, rfl⟩ := hexec
    refine ⟨.inl rfl, ?_⟩
    rw [andThen_ok]
    refine (sat_perform_bind _ _).mpr ?_
    rintro (e | u) h₂ ⟨hcommit, answer, hanswer⟩
    · cases hanswer
    · obtain rfl : h₂ = _ := hcommit
      have heffect : (D.exec (stmt blob) h.visible).1 =
          EvictableSqlite.effectOf ((Except.ok blob).map stmt) h.committed := by
        rw [hvisible]
        rfl
      exact ⟨.inr heffect, _, rfl, ⟨blob, rfl, by rw [hvisible]⟩, heffect, hlive.1, rfl⟩

end

/-! ### Every method -/

section
variable {toFloat : PyStr → PyFloat} {floatRepr : PyFloat → PyStr} {m : Memory} {t : Stores}

/-- `p` does to what is committed in `t` what the operation does to `m`. -/
def Implements (toFloat : PyStr → PyFloat) (m : Memory) (t : Stores) (o : BackendOp) (b : Backend)
    (p : SqliteProc (schema b) o.Ret) : Prop :=
  ∃ (effect : (schema b).Db → (schema b).Db) (A : o.Ret → (schema b).Db → Prop),
    Lands effect A p ∧ Succeeds effect A (t.handles b).committed p ∧
    (∀ a, A a (t.handles b).committed → a = (m.step o).1) ∧
    ∀ h', h'.committed = effect (t.handles b).committed →
      Holds toFloat (m.step o).2 (t.with b h')

theorem Holds.with_kv (hm : Holds toFloat m t) {kv : Table Dict} {h' : Handle (schema .kv)}
    (hrows : Matches (Stored toFloat) kv h'.committed) :
    Holds toFloat { m with kv } (t.with .kv h') :=
  ⟨by simpa using hrows, hm.log⟩

theorem Holds.with_log (hm : Holds toFloat m t) {log : List Dict} {h' : Handle (schema .log)}
    (hrows : List.Forall₂ (Stored toFloat) log h'.committed) :
    Holds toFloat { m with log } (t.with .log h') :=
  ⟨hm.rows, by simpa using hrows⟩

/-- A method that reads. -/
theorem implements_read {o : BackendOp} {b : Backend} (q : (schema b).Query)
    (f : (schema b).Rows q → Except Exc o.Ret)
    (hanswer : f ((schema b).fetch q (t.handles b).committed) = .ok (m.step o).1)
    (hafter : ∀ h', h'.committed = (t.handles b).committed →
      Holds toFloat (m.step o).2 (t.with b h')) :
    Implements toFloat m t o b (do
      EvictableSqlite.ensureLive
      let rows ← perform (S := SqliteSig (schema b)) (.select q)
      embed (f rows)) :=
  ⟨_, _, EvictableSqlite.read_lands q f, read_succeeds hanswer,
    fun _ ha => Except.ok.inj (ha.symm.trans hanswer), hafter⟩

/-- A method that writes what it could encode. -/
theorem implements_write {o : BackendOp} {b : Backend} {Blob : Type} (dumped : Except Exc Blob)
    {blob : Blob} (stmt : Blob → (schema b).Stmt) (g : Nat → o.Ret) (hblob : dumped = .ok blob)
    (hanswer : g ((schema b).exec (stmt blob) (t.handles b).committed).2 = (m.step o).1)
    (hafter : ∀ h', h'.committed = ((schema b).exec (stmt blob) (t.handles b).committed).1 →
      Holds toFloat (m.step o).2 (t.with b h')) :
    Implements toFloat m t o b (do
      let blob ← embed dumped
      EvictableSqlite.ensureLive
      let n ← EvictableSqlite.write (.ok (stmt blob))
      pure (g n)) := by
  refine ⟨_, _, EvictableSqlite.write_lands dumped stmt g, write_succeeds hblob stmt g _, ?_, ?_⟩
  · rintro a ⟨blob', hblob', rfl⟩
    obtain rfl := Except.ok.inj (hblob.symm.trans hblob')
    exact hanswer
  · intro h' hh'
    subst hblob
    exact hafter h' hh'

theorem get_implements (hm : Holds toFloat m t) (key : PyStr) :
    Implements toFloat m t (.get key) .kv (SqliteKV.get (codec toFloat floatRepr) key) := by
  refine implements_read (o := .get key) (b := .kv) (.value key) _ ?_ fun h' hh' =>
    hm.with_kv (hh' ▸ hm.rows)
  have hrow := Matches.get? hm.rows key
  change SqliteKV.decode _ (Table.get? (t.handles .kv).committed key) =
    .ok ((m.kv.get? key).map PyVal.dict)
  generalize m.kv.get? key = row at hrow ⊢
  generalize Table.get? (t.handles .kv).committed key = blob at hrow ⊢
  cases hrow with
  | none => rfl
  | some hstored =>
      change some <$> Json.loads toFloat _ = _
      rw [hstored]
      rfl

/-- The rows are read as what they are, in their order. -/
theorem mapM_stored {rows : List Dict} {blobs : List PyStr}
    (h : List.Forall₂ (Stored toFloat) rows blobs) :
    blobs.mapM (Json.loads toFloat) = .ok (rows.map PyVal.dict) := by
  induction h with
  | nil => rfl
  | cons hrow _ ih =>
      rw [List.mapM_cons, hrow, ih]
      rfl

theorem values_implements (hm : Holds toFloat m t) :
    Implements toFloat m t .values .kv (SqliteKV.values (codec toFloat floatRepr)) := by
  refine implements_read (o := .values) (b := .kv) .values _ ?_ fun h' hh' =>
    hm.with_kv (hh' ▸ hm.rows)
  have hblobs : List.Forall₂ (Stored toFloat) (m.kv.map (·.2))
      ((t.handles .kv).committed.map (·.2)) := by
    rw [List.forall₂_map_left_iff, List.forall₂_map_right_iff]
    exact hm.rows.imp fun _ _ h => h.2
  have hread := mapM_stored hblobs
  rw [List.map_map] at hread
  exact hread

theorem entries_implements (hm : Holds toFloat m t) :
    Implements toFloat m t .entries .log (SqliteAppendLog.entries (codec toFloat floatRepr)) :=
  implements_read (o := .entries) (b := .log) () _ (mapM_stored hm.log) fun _ hh' =>
    hm.with_log (hh' ▸ hm.log)

theorem put_implements (hm : Holds toFloat m t) (key : PyStr) {row : Dict}
    (hrow : Persistable toFloat floatRepr row) :
    Implements toFloat m t (.put key row) .kv
      (SqliteKV.put (codec toFloat floatRepr) key (.dict row)) := by
  obtain ⟨text, hdumps, hstored⟩ := hrow
  exact implements_write (o := .put key row) (b := .kv) _ (KvStmt.upsert key) (fun _ => ()) hdumps
    rfl fun _ hh' => hm.with_kv (hh' ▸ Matches.upsert hm.rows key hstored)

/-- The key is absent from both tables or from neither. -/
theorem Matches.claim {d : Table Dict} {rows : Table PyStr} (h : Matches (Stored toFloat) d rows)
    (key : PyStr) {row : Dict} {text : PyStr} (hstored : Stored toFloat row text) :
    decide ((KvStmt.exec (.insertAbsent key text) rows).2 = 1) = (InMemoryKV.claim d key row).1 ∧
      Matches (Stored toFloat) (InMemoryKV.claim d key row).2
        (KvStmt.exec (.insertAbsent key text) rows).1 := by
  have hrow := h.get? key
  cases hfound : d.get? key with
  | none =>
      cases hblob : rows.get? key with
      | none =>
          have hrel := List.rel_append h (.cons ⟨rfl, hstored⟩ .nil :
            Matches (Stored toFloat) [(key, row)] [(key, text)])
          simpa [KvStmt.exec, InMemoryKV.claim, hfound, hblob] using hrel
      | some blob => rw [hfound, hblob] at hrow; cases hrow
  | some found =>
      cases hblob : rows.get? key with
      | none => rw [hfound, hblob] at hrow; cases hrow
      | some blob => simpa [KvStmt.exec, InMemoryKV.claim, hfound, hblob] using h

theorem claim_implements (hm : Holds toFloat m t) (key : PyStr) {row : Dict}
    (hrow : Persistable toFloat floatRepr row) :
    Implements toFloat m t (.claim key row) .kv
      (SqliteKV.claim (codec toFloat floatRepr) key (.dict row)) := by
  obtain ⟨text, hdumps, hstored⟩ := hrow
  have hboth := Matches.claim hm.rows key hstored
  exact implements_write (o := .claim key row) (b := .kv) _ (KvStmt.insertAbsent key)
    (fun n => decide (n = 1)) hdumps hboth.1 fun _ hh' => hm.with_kv (hh' ▸ hboth.2)

theorem delete_implements (hm : Holds toFloat m t) (key : PyStr) :
    Implements toFloat m t (.delete key) .kv (SqliteKV.delete key) :=
  implements_write (o := .delete key) (b := .kv) (.ok key) KvStmt.delete (fun _ => ()) rfl
    rfl fun _ hh' => hm.with_kv (hh' ▸ Matches.delete hm.rows key)

theorem append_implements (hm : Holds toFloat m t) {row : Dict}
    (hrow : Persistable toFloat floatRepr row) :
    Implements toFloat m t (.append row) .log
      (SqliteAppendLog.append (codec toFloat floatRepr) (.dict row)) := by
  obtain ⟨text, hdumps, hstored⟩ := hrow
  exact implements_write (o := .append row) (b := .log) _ id (fun _ => ()) hdumps rfl fun _ hh' =>
    hm.with_log (hh' ▸ List.rel_append hm.log (.cons hstored .nil))

/-- Every method of the SQLite backends. -/
theorem method_implements (hm : Holds toFloat m t) (o : BackendOp)
    (hw : Writes toFloat floatRepr o) :
    ∃ b p, method toFloat floatRepr o = onHandle b p ∧ Implements toFloat m t o b p := by
  cases o with
  | get key => exact ⟨.kv, _, rfl, get_implements hm key⟩
  | put key row => exact ⟨.kv, _, rfl, put_implements hm key hw⟩
  | claim key row => exact ⟨.kv, _, rfl, claim_implements hm key hw⟩
  | values => exact ⟨.kv, _, rfl, values_implements hm⟩
  | delete key => exact ⟨.kv, _, rfl, delete_implements hm key⟩
  | append row => exact ⟨.log, _, rfl, append_implements hm hw⟩
  | entries => exact ⟨.log, _, rfl, entries_implements hm⟩

theorem Holds.unchanged (hm : Holds toFloat m t) {b : Backend} {h' : Handle (schema b)}
    (hh' : h'.committed = (t.handles b).committed) : Holds toFloat m (t.with b h') := by
  cases b with
  | kv => exact hm.with_kv (hh' ▸ hm.rows)
  | log => exact hm.with_log (hh' ▸ hm.log)

/-- With any faults. -/
theorem simulates_faulty {mayRaise : Prop} (hmay : mayRaise) (hm : Holds toFloat m t)
    (ht : ∀ b, (t.handles b).Settled) {o : BackendOp} (hw : Writes toFloat floatRepr o) :
    Simulates (memoryEnv mayRaise) SqliteStores.env
      (fun m t => Holds toFloat m t ∧ ∀ b, (t.handles b).Settled) (Holds toFloat) o
      (method toFloat floatRepr o) m t := by
  obtain ⟨b, p, hmethod, effect, A, hlands, -, hanswer, hafter⟩ := method_implements hm o hw
  rw [hmethod]
  refine SqliteStores.simulates_of_lands_ok hlands ht (fun h' hh' => hm.unchanged hh')
    (fun e => ⟨hmay, rfl⟩) ⟨_, .inr ⟨.ok (m.step o).1, rfl⟩, hafter⟩ fun a ha => ?_
  rw [hanswer a ha]
  exact ⟨_, rfl, hafter⟩

/-- With none. -/
theorem simulates_answered (mayRaise : Prop) (hm : Holds toFloat m t)
    (ht : ∀ b, Live (t.handles b)) {o : BackendOp} (hw : Writes toFloat floatRepr o) :
    Simulates (memoryEnv mayRaise) (SqliteStores.env.only Answered)
      (fun m t => Holds toFloat m t ∧ ∀ b, Live (t.handles b)) (Holds toFloat) o
      (method toFloat floatRepr o) m t := by
  obtain ⟨b, p, hmethod, effect, A, -, hsucceeds, hanswer, hafter⟩ := method_implements hm o hw
  rw [hmethod]
  have hon := SqliteStores.sat_onHandle (W := SqliteStores.env.only Answered) (t := t) (θ := [])
    (V := (sqliteEnv (schema b)).only Answered)
    (K := fun t' => ∃ m', (m' = m ∨ ∃ r, memoryEnv mayRaise m o r m') ∧ Holds toFloat m' t')
    (P := fun r t' => ∃ m', memoryEnv mayRaise m o r m' ∧ Holds toFloat m' t' ∧
      ∀ b, Live (t'.handles b)) ?_ (hsucceeds _ rfl (ht b)) ?_ ?_
  · rwa [Stores.with_handle] at hon
  · rintro t o r t' ⟨⟨h', hstep, rfl⟩, answer, hanswer⟩
    exact ⟨h', ⟨hstep, answer, hanswer⟩, rfl⟩
  · intro h' hpart
    rcases hpart with hcommitted | hcommitted
    · exact ⟨m, .inl rfl, hm.unchanged hcommitted⟩
    · exact ⟨_, .inr ⟨.ok (m.step o).1, rfl⟩, hafter h' hcommitted⟩
  · rintro r h' ⟨a, rfl, ha, hcommitted, hlive⟩
    refine ⟨_, ?_, hafter h' hcommitted, fun b' => ?_⟩
    · rw [hanswer a ha]
      rfl
    · by_cases hb : b' = b
      · subst hb
        rwa [Stores.with_self]
      · rw [Stores.with_of_ne t hb]
        exact ht b'

/-- **The backends cannot be told apart.** Whatever a client that writes persistable records does over
the SQLite backends, with any faults of the connections and wherever it is killed, it does over the
backends in memory, with the same outcome and the same records in the same order; there an operation
raises, and then without an effect, only if a request to a connection did. -/
theorem exec_agrees {α : Type} {p : Proc BackendSig Exc α} {θ : List (Event SqliteStores.Sig Exc)}
    {out : Outcome Exc α} {t' : Stores} (hp : p.Performs (Writes toFloat floatRepr))
    (hm : Holds toFloat m t) (ht : ∀ b, Live (t.handles b))
    (h : Exec SqliteStores.env (p.implement (method toFloat floatRepr)) t θ out t') :
    ∃ τ m', Exec (memoryEnv (∃ e ∈ θ, ¬ Answered e)) p m τ out m' ∧ Holds toFloat m' t' := by
  have hwrites := sat_frame (W := memoryEnv (∃ e ∈ θ, ¬ Answered e)) (R := fun _ _ => True)
    (s := m) hp (fun _ _ _ _ _ => trivial) (fun _ _ _ _ _ _ => trivial) trivial
  have hend : ∀ {R : Memory → Stores → Prop} {W : Env SqliteStores.Sig Exc Stores},
      (∀ m t, R m t → Holds toFloat m t) → Exec W (p.implement (method toFloat floatRepr)) t θ out t' →
      R m t → (∀ o m t, Writes toFloat floatRepr o → R m t → Simulates
        (memoryEnv (∃ e ∈ θ, ¬ Answered e)) W R (Holds toFloat) o (method toFloat floatRepr o) m t) →
      ∃ τ m', Exec (memoryEnv (∃ e ∈ θ, ¬ Answered e)) p m τ out m' ∧ Holds toFloat m' t' := by
    intro R W hR hexec hstart hstep
    have hsat := sat_implement_exec (R := R) (C := Holds toFloat) (θ := [])
      (fun o τ m t hj hmt => hstep o m t
        ((hj (.ok (m.step o).1) (m.step o).2 rfl).2 ⟨o, .ok (m.step o).1⟩ (by simp)) hmt)
      hwrites hstart
    have hsound := hexec.sound hsat
    cases out with
    | done r =>
        obtain ⟨τ, m', hx, hm'⟩ := hsound.2 r rfl
        exact ⟨τ, m', hx, hR _ _ hm'⟩
    | stopped =>
        by_cases hθ : θ = []
        · rw [hexec.state_eq_of_nil hθ]
          exact ⟨[], m, .stop, hR _ _ hstart⟩
        · exact hsound.1 hθ
  by_cases hfaulted : ∃ e ∈ θ, ¬ Answered e
  · exact hend (fun _ _ h => h.1) h ⟨hm, fun b _ => (ht b).2⟩ fun o m t hw hmt =>
      simulates_faulty hfaulted hmt.1 hmt.2 hw
  · have hanswered : ∀ e ∈ θ, Answered e := by simpa using hfaulted
    exact hend (fun _ _ h => h.1) (h.only hanswered) ⟨hm, ht⟩ fun o m t hw hmt =>
      simulates_answered _ hmt.1 hmt.2 hw

/-- What can be encoded, without floats, repeated members or paired surrogates, is read back. -/
theorem persistable_of_plain {row : Dict} (hfree : Json.floatFree (.dict row) = true)
    (hkeys : Json.distinctKeys (.dict row) = true)
    (hpairs : Json.surrogatesUnpaired (.dict row) = true)
    (hdumps : (Json.dumps floatRepr (.dict row)).toOption.isSome = true) :
    Persistable toFloat floatRepr row := by
  cases htext : Json.dumps floatRepr (.dict row) with
  | error e => simp [htext, Except.toOption] at hdumps
  | ok text => exact ⟨text, htext, (Json.loads_dumps_iff hfree hkeys htext).mpr hpairs⟩

end

/-! ### A client -/

/-- A record of one field. -/
def numbered (n : Int) : Dict := [(str "n", .int n)]

/-- It tries a write, claims a key that is taken and one that is not, and reads everything. -/
def sampleClient : Proc BackendSig Exc (Bool × Bool × List PyVal) := do
  perform (S := BackendSig) (.put (str "b") (numbered 1))
  let _ ← attempt (perform (S := BackendSig) (.put (str "b") (numbered 2)))
  let taken ← perform (S := BackendSig) (.claim (str "b") (numbered 3))
  let won ← perform (S := BackendSig) (.claim (str "a") (numbered 4))
  let rows ← perform (S := BackendSig) .values
  pure (taken, won, rows)

theorem persistable_numbered {n : Int} (hn : n ∈ [1, 2, 3, 4]) :
    Persistable (fun _ => .nan) (fun _ => []) (numbered n) := by
  have hplain : ∀ n ∈ ([1, 2, 3, 4] : List Int), Json.floatFree (.dict (numbered n)) = true ∧
      Json.distinctKeys (.dict (numbered n)) = true ∧
      Json.surrogatesUnpaired (.dict (numbered n)) = true ∧
      (Json.dumps (fun _ => []) (.dict (numbered n))).toOption.isSome = true := by decide +kernel
  obtain ⟨hfree, hkeys, hpairs, hdumps⟩ := hplain n hn
  exact persistable_of_plain hfree hkeys hpairs hdumps

theorem sampleClient_performs :
    sampleClient.Performs (Writes (fun _ => .nan) fun _ => []) := by
  refine performs_bind (performs_perform (S := BackendSig) (persistable_numbered (by simp)))
    fun _ => ?_
  refine performs_bind (performs_attempt
    (performs_perform (S := BackendSig) (persistable_numbered (by simp)))) fun _ => ?_
  refine performs_bind (performs_perform (S := BackendSig) (persistable_numbered (by simp)))
    fun _ => ?_
  refine performs_bind (performs_perform (S := BackendSig) (persistable_numbered (by simp)))
    fun _ => ?_
  exact performs_bind (performs_perform (S := BackendSig) (o := .values) trivial) fun _ =>
    performs_pure _

/-- The second commit fails. -/
@[irreducible] def sampleRun :
    List (Event SqliteStores.Sig Exc) × Outcome Exc (Bool × Bool × List PyVal) × Stores :=
  (sampleClient.implement (method (fun _ => .nan) fun _ => [])).run (fun n t o =>
    t.perform (Persistence.failing (n = 34) false) 0 (.error .other) o) 40 SqliteStores.emptyStores

theorem sampleRun_exec : Exec SqliteStores.env
    (sampleClient.implement (method (fun _ => .nan) fun _ => [])) SqliteStores.emptyStores
    sampleRun.1 sampleRun.2.1 sampleRun.2.2 := by
  unfold sampleRun
  exact run_exec (fun _ t o => t.perform_env _ _ _ o) _ _ _

/-- The claims a client lost and won, and the keys of what it read. -/
def readOf (out : Outcome Exc (Bool × Bool × List PyVal)) :
    Option (Bool × Bool × List (Option Int)) :=
  match out with
  | .done (.ok (taken, won, rows)) => some (taken, won, rows.map fun
      | .dict [(_, .int n)] => some n
      | _ => none)
  | _ => none

theorem holds_empty : Holds (fun _ => .nan) {} SqliteStores.emptyStores := ⟨.nil, .nil⟩

/-- The failed write has left no row, and the rows are read in the order they came in. -/
theorem exec_agrees_sample :
    readOf sampleRun.2.1 = some (false, true, [some 1, some 4]) ∧
    ∃ τ m', Exec (memoryEnv (∃ e ∈ sampleRun.1, ¬ Answered e)) sampleClient {} τ sampleRun.2.1 m' ∧
      Holds (fun _ => .nan) m' sampleRun.2.2 :=
  ⟨by decide +kernel, exec_agrees sampleClient_performs holds_empty
    (fun b => by cases b <;> exact ⟨rfl, rfl⟩) sampleRun_exec⟩

end Backends

end GmailGateway
