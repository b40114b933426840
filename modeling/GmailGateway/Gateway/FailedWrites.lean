import GmailGateway.Gateway.Persistence

/-!
# GmailGateway.Gateway.FailedWrites

**A failed write never surfaces.** Any sequence of calls of a `SqliteKV` and a
`SqliteAppendLog`, under any faults of their connections: what is committed is what the
calls that returned did, in their order. A call that raised contributes nothing, then or
later, and a handle whose rollback failed refuses every later call.
-/

namespace GmailGateway

open Effect Proc Python

namespace Persistence

/-! ### The calls -/

/-- The two SQLite backends. -/
inductive Backend
  | kv
  | log
  deriving DecidableEq

/-- A call of a method of `SqliteKV`. -/
inductive KvCall (V H : Type)
  | get (key : PyStr)
  | put (key : PyStr) (value : V)
  | claim (key : PyStr) (value : V)
  | delete (key : PyStr)
  | update (key : PyStr) (fn : Option V → Except Exc (H × Option V))
  | values

/-- A call of a method of `SqliteAppendLog`. -/
inductive LogCall (V : Type)
  | append (entry : V)
  | entries

/-- The schema of a backend's database. -/
abbrev backendSchema (Blob : Type) : Backend → Schema
  | .kv => kvSchema Blob
  | .log => logSchema Blob

/-- A call of a method of the backend. -/
abbrev BackendCall (V H : Type) : Backend → Type
  | .kv => KvCall V H
  | .log => LogCall V

section
variable {V H Blob : Type} (codec : JsonCodec V Blob)

/-- The method of a call; the result it answers is left out. -/
def KvCall.proc : KvCall V H → SqliteProc (kvSchema Blob) Unit
  | .get key => do let _ ← SqliteKV.get codec key
  | .put key value => SqliteKV.put codec key value
  | .claim key value => do let _ ← SqliteKV.claim codec key value
  | .delete key => SqliteKV.delete key
  | .update key fn => do let _ ← SqliteKV.update codec key fn
  | .values => do let _ ← SqliteKV.values codec

/-- What the table is after the call if the call returns. -/
def KvCall.effect : KvCall V H → Table Blob → Table Blob
  | .get _, t | .values, t => t
  | .put key value, t =>
      match codec.dumps value with
      | .ok blob => t.upsert key blob
      | .error _ => t
  | .claim key value, t =>
      match codec.dumps value, t.get? key with
      | .ok blob, none => t ++ [(key, blob)]
      | _, _ => t
  | .delete key, t => t.filter (·.1 ≠ key)
  | .update key fn, t => SqliteKV.updated codec key fn t

/-- What `json.dumps` makes of the argument, where it is encoded before the handle is
looked at. -/
def KvCall.encoded : KvCall V H → Except Exc Unit
  | .put _ value | .claim _ value => (codec.dumps value).map fun _ => ()
  | _ => .ok ()

/-- The method that is called. -/
def LogCall.proc : LogCall V → SqliteProc (logSchema Blob) Unit
  | .append entry => SqliteAppendLog.append codec entry
  | .entries => do let _ ← SqliteAppendLog.entries codec

/-- What the call does to the committed rows when it succeeds. -/
def LogCall.effect : LogCall V → List Blob → List Blob
  | .append entry, rows =>
      match codec.dumps entry with
      | .ok blob => rows ++ [blob]
      | .error _ => rows
  | .entries, rows => rows

/-- Whether JSON can write the argument. -/
def LogCall.encoded : LogCall V → Except Exc Unit
  | .append entry => (codec.dumps entry).map fun _ => ()
  | .entries => .ok ()

namespace BackendCall

/-- The method that is called. -/
def proc : (b : Backend) → BackendCall V H b → SqliteProc (backendSchema Blob b) Unit
  | .kv, k => KvCall.proc codec k
  | .log, k => LogCall.proc codec k

/-- What the call does to the committed rows when it succeeds. -/
def effect : (b : Backend) → BackendCall V H b → (backendSchema Blob b).Db →
    (backendSchema Blob b).Db
  | .kv, k => KvCall.effect codec k
  | .log, k => LogCall.effect codec k

/-- Whether JSON can write the argument. -/
def encoded : (b : Backend) → BackendCall V H b → Except Exc Unit
  | .kv, k => KvCall.encoded codec k
  | .log, k => LogCall.encoded codec k

/-- What a call on an evicted handle raises: `ConnectionEvicted`, unless `json.dumps` has
already refused the argument. -/
def refusal (b : Backend) (k : BackendCall V H b) : Exc :=
  match encoded codec b k with
  | .ok _ => .connectionEvicted
  | .error e => e

end BackendCall

/-- A call of one of the two handles. -/
abbrev Call (V H : Type) := Σ b : Backend, BackendCall V H b

/-- A request to one of the two handles. -/
abbrev Sig (Blob : Type) : Signature :=
  Signature.all fun b => SqliteSig (backendSchema Blob b)

/-- Both handles. -/
abbrev Handles (Blob : Type) := ∀ b, Handle (backendSchema Blob b)

/-- The two handles side by side. -/
abbrev env (Blob : Type) : Env (Sig Blob) Exc (Handles Blob) :=
  Env.all fun b => sqliteEnv (backendSchema Blob b)

/-- The method, on the handle of its backend. -/
def Call.run (k : Call V H) : Proc (Sig Blob) Exc Unit :=
  (BackendCall.proc codec k.1 k.2).at (S := fun b => SqliteSig (backendSchema Blob b)) k.1

/-- The committed contents of both databases. -/
def committed (s : Handles Blob) : ∀ b, (backendSchema Blob b).Db :=
  fun b => (s b).committed

/-- What the contents are after a call that returns. -/
def Call.apply (db : ∀ b, (backendSchema Blob b).Db) (k : Call V H) :
    ∀ b, (backendSchema Blob b).Db :=
  Function.update db k.1 (BackendCall.effect codec k.1 k.2 (db k.1))

/-- A call with its events, its outcome and the state it found. -/
abbrev History (V H Blob : Type) :=
  Effect.Call (Sig Blob) Exc Unit (Call V H)

/-- The call ended. -/
abbrev Ended (k : History V H Blob) : Prop := Ends k.outcome

/-- The call returned normally. -/
def Returned (k : History V H Blob) : Bool :=
  match k.outcome with
  | .done (.ok _) => true
  | _ => false

/-- The calls of a history that returned normally, in order. -/
def returned (calls : List (History V H Blob)) : List (Call V H) :=
  (calls.filter Returned).map (·.key)

end

/-! ### Every method lands or refuses -/

section
variable {D : Schema} {α β : Type}

theorem lands_bind_pure {effect effect' : D.Db → D.Db} {R : α → D.Db → Prop} {p : SqliteProc D α}
    (h : Lands effect R p) (heffect : ∀ db, effect db = effect' db) (f : α → β) :
    Lands effect' (fun _ _ => True) (do let a ← p; pure (f a)) := by
  intro h₀ hsettled
  obtain rfl : effect = effect' := funext heffect
  rw [sat_bind]
  refine sat_mono (h h₀ hsettled) ?_
  rintro (e | a) τ h' hlanded
  · exact ⟨hlanded.settled, hlanded.evicted, nofun, fun _ _ => hlanded.raised e rfl⟩
  · refine ⟨hlanded.settled, hlanded.evicted, ?_, nofun⟩
    rintro _ ⟨⟩
    exact ⟨(hlanded.returned a rfl).1, trivial⟩

theorem lands_weaken {effect effect' : D.Db → D.Db} {R : α → D.Db → Prop} {p : SqliteProc D α}
    (h : Lands effect R p) (heffect : ∀ db, effect db = effect' db) :
    Lands effect' (fun _ _ => True) p := by
  intro h₀ hsettled
  obtain rfl : effect = effect' := funext heffect
  refine sat_mono (h h₀ hsettled) fun r τ h' hlanded => ?_
  exact ⟨hlanded.settled, hlanded.evicted, fun a ha => ⟨(hlanded.returned a ha).1, trivial⟩,
    hlanded.raised⟩

/-- On an evicted handle `p` raises `e`, and all it does is to look at the flag. -/
def Refuses (e : Exc) (p : SqliteProc D α) : Prop :=
  ∀ h : Handle D, h.broken = true →
    p.sat (sqliteEnv D) (fun τ h' => h' = h ∧ ∀ ev ∈ τ, ev.op = .broken)
      (fun r τ h' => r = .error e ∧ h' = h ∧ ∀ ev ∈ τ, ev.op = .broken) [] h

theorem refuses_ensureLive (f : Unit → SqliteProc D α) :
    Refuses .connectionEvicted (EvictableSqlite.ensureLive >>= f) := by
  intro h hbroken
  have hread : ∀ ev ∈ ([] ++ [⟨.broken, .ok h.broken⟩] : List (SqliteEvent D)),
      ev.op = .broken := by
    intro ev hev
    rw [List.mem_singleton.mp hev]
  rw [sat_bind, EvictableSqlite.sat_ensureLive]
  refine ⟨⟨rfl, hread⟩, fun _ => ⟨rfl, rfl, hread⟩, fun hlive => ?_⟩
  rw [hbroken] at hlive
  cases hlive

theorem refuses_embed {Blob : Type} {dumped : Except Exc Blob} {e : Exc}
    {f : Blob → SqliteProc D α} (hf : ∀ blob, dumped = .ok blob → Refuses e (f blob))
    (herror : ∀ e', dumped = .error e' → e' = e) : Refuses e (Proc.embed dumped >>= f) := by
  intro h hbroken
  rw [sat_bind, sat_embed]
  cases dumped with
  | ok blob => exact hf blob rfl h hbroken
  | error e' => exact ⟨by rw [herror e' rfl], rfl, fun ev hev => absurd hev List.not_mem_nil⟩

theorem Refuses.bind {e : Exc} {p : SqliteProc D α} (h : Refuses e p) (f : α → SqliteProc D β) :
    Refuses e (p >>= f) := by
  intro h₀ hbroken
  rw [sat_bind]
  refine sat_mono (h h₀ hbroken) ?_
  rintro r τ h' ⟨rfl, hrest⟩
  exact ⟨rfl, hrest⟩

end

section
variable {V H Blob : Type} (codec : JsonCodec V Blob)

theorem KvCall.lands (k : KvCall V H) :
    Lands (KvCall.effect codec k) (fun _ _ => True) (KvCall.proc codec k) := by
  cases k with
  | get key => exact lands_bind_pure (EvictableSqlite.read_lands _ _) (fun _ => rfl) _
  | values => exact lands_bind_pure (EvictableSqlite.read_lands _ _) (fun _ => rfl) _
  | put key value =>
      refine lands_weaken (EvictableSqlite.write_lands (D := kvSchema Blob) (codec.dumps value)
        (KvStmt.upsert key) fun _ => ()) fun t => ?_
      dsimp only [KvCall.effect]
      cases codec.dumps value <;> rfl
  | claim key value =>
      refine lands_bind_pure (EvictableSqlite.write_lands (D := kvSchema Blob) (codec.dumps value)
        (KvStmt.insertAbsent key) fun n => (decide (n = 1))) (fun t => ?_) _
      dsimp only [KvCall.effect]
      cases codec.dumps value with
      | error e => rfl
      | ok blob =>
          simp only [EvictableSqlite.effectOf, Except.map, KvStmt.exec]
          cases t.get? key <;> rfl
  | delete key =>
      exact lands_weaken (EvictableSqlite.write_lands (D := kvSchema Blob) (.ok key) KvStmt.delete
        fun _ => ()) fun _ => rfl
  | update key fn => exact lands_bind_pure (SqliteKV.update_lands codec key fn) (fun _ => rfl) _

theorem LogCall.lands (k : LogCall V) :
    Lands (LogCall.effect codec k) (fun _ _ => True) (LogCall.proc codec k) := by
  cases k with
  | append entry =>
      refine lands_weaken (EvictableSqlite.write_lands (D := logSchema Blob) (codec.dumps entry) id
        fun _ => ()) fun rows => ?_
      dsimp only [LogCall.effect]
      cases codec.dumps entry <;> rfl
  | entries => exact lands_bind_pure (EvictableSqlite.read_lands _ _) (fun _ => rfl) _

theorem KvCall.refuses (k : KvCall V H) :
    Refuses (BackendCall.refusal codec .kv k) (KvCall.proc codec k) := by
  have hencode : ∀ {α} (value : V) (f : Blob → Unit → SqliteProc (kvSchema Blob) α),
      Refuses (match (codec.dumps value).map fun _ => () with
        | .ok _ => .connectionEvicted
        | .error e => e)
        (do let blob ← Proc.embed (codec.dumps value)
            EvictableSqlite.ensureLive >>= f blob) := by
    intro α value f
    cases hdumps : codec.dumps value with
    | ok blob => exact refuses_embed (fun _ _ => refuses_ensureLive _) nofun
    | error e =>
        refine refuses_embed nofun ?_
        rintro e' ⟨⟩
        rfl
  cases k with
  | get key => exact (refuses_ensureLive _).bind _
  | values => exact (refuses_ensureLive _).bind _
  | put key value => exact hencode value _
  | claim key value => exact (hencode value fun _ _ => _).bind _
  | delete key => exact refuses_ensureLive _
  | update key fn => exact (refuses_ensureLive _).bind _

theorem LogCall.refuses (k : LogCall V) :
    Refuses (BackendCall.refusal (H := H) codec .log k) (LogCall.proc codec k) := by
  cases k with
  | append entry =>
      dsimp only [BackendCall.refusal, BackendCall.encoded, LogCall.encoded]
      cases hdumps : codec.dumps entry with
      | ok blob =>
          refine refuses_embed (fun _ _ => refuses_ensureLive _) fun e he => ?_
          rw [hdumps] at he
          cases he
      | error e =>
          refine refuses_embed (fun blob hblob => ?_) fun e' he' => ?_
          · rw [hdumps] at hblob
            cases hblob
          · rw [hdumps] at he'
            cases he'
            rfl
  | entries => exact (refuses_ensureLive _).bind _

theorem BackendCall.lands : ∀ (b : Backend) (k : BackendCall V H b),
    Lands (BackendCall.effect codec b k) (fun _ _ => True) (BackendCall.proc codec b k)
  | .kv, k => KvCall.lands codec k
  | .log, k => LogCall.lands codec k

theorem BackendCall.refuses : ∀ (b : Backend) (k : BackendCall V H b),
    Refuses (BackendCall.refusal codec b k) (BackendCall.proc codec b k)
  | .kv, k => KvCall.refuses codec k
  | .log, k => LogCall.refuses codec k

/-! ### Runs -/

/-- A rollback on handle `b` failed. -/
def EvictedBy (b : Backend) (τ : List (Event (Sig Blob) Exc)) : Prop :=
  ∃ e, ⟨⟨b, .rollback⟩, .error e⟩ ∈ τ

theorem evictedBy_map_at {b b' : Backend} {τ : List (SqliteEvent (backendSchema Blob b))}
    (h : EvictedBy b' (τ.map
      (Event.at (S := fun b => SqliteSig (backendSchema Blob b)) b))) :
    b' = b ∧ RollbackFailed τ := by
  obtain ⟨e, he⟩ := h
  obtain ⟨ev, hev, heq⟩ := List.mem_map.mp he
  obtain ⟨o, r⟩ := ev
  cases heq
  exact ⟨rfl, e, hev⟩

/-- How a call ends that was made on settled handles. -/
structure CallLanded (k : Call V H) (s : Handles Blob) (r : Except Exc Unit)
    (τ : List (Event (Sig Blob) Exc)) (s' : Handles Blob) : Prop where
  settled : ∀ b, (s' b).Settled
  others : ∀ b, b ≠ k.1 → s' b = s b
  evicted : ∀ b, EvictedBy b τ → (s' b).broken = true
  committed : committed s' = match r with
    | .ok _ => Call.apply codec (committed s) k
    | .error _ => committed s

/-- **One call.** It takes its effect in one commit and returns, or it raises and has none. -/
theorem call_lands {k : Call V H} {s s' : Handles Blob} {τ : List (Event (Sig Blob) Exc)}
    {r : Except Exc Unit} (hs : ∀ b, (s b).Settled)
    (hexec : Exec (env Blob) (k.run codec) s τ (.done r) s') : CallLanded codec k s r τ s' := by
  have hlands := BackendCall.lands codec k.1 k.2 (s k.1) (hs k.1)
  refine hexec.post (J := fun _ _ => True) (Q := CallLanded codec k s)
    (sat_party k.1 (sat_weaken hlands (fun _ _ _ => trivial) ?_))
  intro r τ h' hlanded
  rw [List.nil_append]
  refine ⟨fun b => ?_, fun b hb => Function.update_of_ne hb _ _, fun b hb => ?_, ?_⟩
  · by_cases hb : b = k.1
    · subst hb
      rw [Function.update_self]
      exact hlanded.settled
    · rw [Function.update_of_ne hb]
      exact hs b
  · obtain ⟨rfl, hfailed⟩ := evictedBy_map_at hb
    rw [Function.update_self]
    exact hlanded.evicted hfailed
  · funext b
    by_cases hb : b = k.1
    · subst hb
      cases r with
      | error e => simpa [Persistence.committed] using hlanded.raised e rfl
      | ok a => simpa [Persistence.committed, Call.apply] using (hlanded.returned a rfl).1
    · have hother : (Function.update s k.1 h' : Handles Blob) b = s b :=
        Function.update_of_ne hb _ _
      dsimp only [Persistence.committed]
      rw [hother]
      cases r with
      | ok a => exact (Function.update_of_ne hb _ (committed s)).symm
      | error e => rfl

/-- A call on an evicted handle raises, and its only request is a look at the flag. -/
theorem call_refused {k : Call V H} {s s' : Handles Blob} {τ : List (Event (Sig Blob) Exc)}
    {r : Except Exc Unit} (hbroken : (s k.1).broken = true)
    (hexec : Exec (env Blob) (k.run codec) s τ (.done r) s') :
    s' = s ∧ r = .error (BackendCall.refusal codec k.1 k.2) ∧
      ∀ ev ∈ τ, ev.op = ⟨k.1, .broken⟩ := by
  have hrefuses := BackendCall.refuses codec k.1 k.2 (s k.1) hbroken
  refine hexec.post (J := fun _ _ => True)
    (Q := fun r τ s' => s' = s ∧ r = .error (BackendCall.refusal codec k.1 k.2) ∧
      ∀ ev ∈ τ, ev.op = (⟨k.1, .broken⟩ : (Sig Blob).Op))
    (sat_party k.1 (sat_weaken hrefuses (fun _ _ _ => trivial) ?_))
  rintro r τ h' ⟨rfl, rfl, hread⟩
  refine ⟨Function.update_eq_self _ _, rfl, fun ev hev => ?_⟩
  obtain ⟨ev', hev', rfl⟩ := List.mem_map.mp (List.nil_append _ ▸ hev)
  exact congrArg (Sigma.mk k.1) (hread ev' hev')

theorem returned_ok (calls : List (History V H Blob)) (k : Call V H)
    (τ : List (Event (Sig Blob) Exc)) (a : Unit) :
    returned (calls ++ [⟨k, τ, .done (.ok a)⟩]) = returned calls ++ [k] := by
  rw [returned, List.filter_append, List.map_append]
  rfl

theorem returned_error (calls : List (History V H Blob)) (k : Call V H)
    (τ : List (Event (Sig Blob) Exc)) (e : Exc) :
    returned (calls ++ [⟨k, τ, .done (.error e)⟩]) = returned calls := by
  rw [returned, List.filter_append, List.map_append]
  exact List.append_nil _

/-- What every call keeps: the handles are settled, the committed contents are the fold of the
calls that returned, and a handle is evicted from its first failed rollback on. -/
structure Replayed (s₀ : Handles Blob) (calls : List (History V H Blob)) (s : Handles Blob) :
    Prop where
  settled : ∀ b, (s b).Settled
  committed : committed s = (returned calls).foldl (Call.apply codec) (committed s₀)
  evicted : ∀ k ∈ calls, ∀ b, EvictedBy b k.events → (s b).broken = true

theorem session_replayed {s₀ s : Handles Blob} {calls : List (History V H Blob)}
    (h₀ : ∀ b, (s₀ b).Settled)
    (h : Session (env Blob) (Call.run codec) Ended s₀ calls s) : Replayed codec s₀ calls s := by
  induction h with
  | start => exact ⟨h₀, rfl, fun k hk => absurd hk List.not_mem_nil⟩
  | @call calls s k τ out s' _ hexec hended ih =>
      obtain ⟨r, rfl⟩ := hended
      have hlanded := call_lands codec ih.settled hexec
      refine ⟨hlanded.settled, ?_, fun j hj b hb => ?_⟩
      · rw [hlanded.committed, ih.committed]
        cases r with
        | ok a => rw [returned_ok, List.foldl_append]; rfl
        | error e => rw [returned_error]
      · rcases List.mem_append.mp hj with hj | hj
        · have hbroken := ih.evicted j hj b hb
          -- An evicted handle stays evicted.
          by_cases hbk : b = k.1
          · subst hbk
            rw [(call_refused codec hbroken hexec).1]
            exact hbroken
          · rw [hlanded.others b hbk]
            exact hbroken
        · rw [List.mem_singleton.mp hj] at hb
          exact hlanded.evicted b hb

/-- **A failed write never surfaces.** In every sequence of calls on fresh handles, under any
faults: nothing is pending on a handle that is not evicted, the committed contents are the
fold of exactly the calls that returned, and after a failed rollback every later call on the
handle raises and asks nothing of the connection. -/
theorem session_committed {s₀ s : Handles Blob} {calls : List (History V H Blob)}
    (hfresh : ∀ b, (s₀ b).pending = none)
    (h : Session (env Blob) (Call.run codec) Ended s₀ calls s) :
    (∀ b, (s b).broken = false → (s b).pending = none) ∧
    committed s = (returned calls).foldl (Call.apply codec) (committed s₀) ∧
    ∀ before k, before ++ [k] <+: calls → (∃ j ∈ before, EvictedBy k.key.1 j.events) →
      k.outcome = .done (.error (BackendCall.refusal codec k.key.1 k.key.2)) ∧
        ∀ ev ∈ k.events, ev.op = ⟨k.key.1, .broken⟩ := by
  have h₀ : ∀ b, (s₀ b).Settled := fun b _ => hfresh b
  have hreplayed := session_replayed codec h₀ h
  refine ⟨hreplayed.settled, hreplayed.committed, ?_⟩
  intro before k hpre hwas
  obtain ⟨j, hj, hevicted⟩ := hwas
  obtain ⟨s₁, s₂, hbefore, hexec, r, hr⟩ := h.of_prefix hpre
  have hbroken := (session_replayed codec h₀ hbefore).evicted j hj _ hevicted
  rw [hr] at hexec ⊢
  obtain ⟨-, hrefused, hread⟩ := call_refused codec hbroken hexec
  exact ⟨by rw [hrefused], hread⟩

end

/-! ### A run -/

section
variable {Blob : Type}

/-- Perform one request of either handle. -/
def performAt (fails : (b : Backend) → SqliteOp (backendSchema Blob b) → Bool) (s : Handles Blob)
    (o : (Sig Blob).Op) : Except Exc ((Sig Blob).Ret o) × Handles Blob :=
  (((s o.1).perform (fails o.1) o.2).1,
    Function.update s o.1 ((s o.1).perform (fails o.1) o.2).2)

theorem performAt_env (fails : (b : Backend) → SqliteOp (backendSchema Blob b) → Bool)
    (s : Handles Blob) (o : (Sig Blob).Op) :
    env Blob s o (performAt fails s o).1 (performAt fails s o).2 :=
  ⟨_, (s o.1).perform_env (fails o.1) o.2, rfl⟩

end

/-- Flags as `{"ok": …}`. -/
def flagCodec : JsonCodec Bool PyStr where
  dumps b := .ok (if b then str "\x7b\"ok\": true\x7d" else str "\x7b\"ok\": false\x7d")
  loads blob :=
    if blob = str "\x7b\"ok\": true\x7d" then .ok true
    else if blob = str "\x7b\"ok\": false\x7d" then .ok false
    else .error .valueError

/-- New databases. -/
def emptyHandles (Blob : Type) : Handles Blob
  | .kv => { committed := [] }
  | .log => { committed := [] }

/-- Faults at the listed kinds of requests. -/
def failing (commit rollback : Bool) (b : Backend) : SqliteOp (backendSchema PyStr b) → Bool
  | .commit => commit
  | .rollback => rollback
  | _ => false

/-- A put whose commit fails and one that succeeds; an append whose commit and rollback fail,
and one after it. -/
def sampleScript : List (Call Bool Unit × (Handles PyStr → (o : (Sig PyStr).Op) →
    Except Exc ((Sig PyStr).Ret o) × Handles PyStr)) :=
  [(⟨.kv, .put (str "a") true⟩, performAt (failing true false)),
    (⟨.kv, .put (str "b") false⟩, performAt (failing false false)),
    (⟨.log, .append true⟩, performAt (failing true true)),
    (⟨.log, .append false⟩, performAt (failing false false))]

/-- The sample script, run on new databases. -/
@[irreducible] def sampleRun : List (History Bool Unit PyStr) × Handles PyStr :=
  scripted (Call.run flagCodec) 10 sampleScript (emptyHandles PyStr)

theorem sampleRun_session : Session (env PyStr) (Call.run flagCodec) Ended (emptyHandles PyStr)
    sampleRun.1 sampleRun.2 := by
  have hended : ∀ k ∈ sampleRun.1, Ended k := by decide +kernel
  refine Session.of_forall (C := anyCall) ?_ hended
  unfold sampleRun
  have hscripted : Session (env PyStr) (Call.run flagCodec) anyCall (emptyHandles PyStr)
      ([] ++ (scripted (Call.run flagCodec) 10 sampleScript (emptyHandles PyStr)).1) _ :=
    scripted_session (by simp [sampleScript, performAt_env]) .start
  rwa [List.nil_append] at hscripted

/-- Only the second call returned; what it wrote is all that is committed, and the last call
was refused. -/
theorem session_committed_faults :
    sampleRun.1.map Returned = [false, true, false, false] ∧
    (sampleRun.2 .log).broken = true ∧
    committed sampleRun.2 =
      (returned sampleRun.1).foldl (Call.apply flagCodec) (committed (emptyHandles PyStr)) :=
  ⟨by decide +kernel, by decide +kernel,
    (session_committed flagCodec (fun b => by cases b <;> rfl) sampleRun_session).2.1⟩

end Persistence

end GmailGateway
