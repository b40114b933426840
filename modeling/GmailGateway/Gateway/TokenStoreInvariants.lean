import GmailGateway.Gateway.TokenRows
import GmailGateway.Gateway.TokenStoreRuns

/-!
# GmailGateway.Gateway.TokenStoreInvariants

**Runs of the token store.** Over any calls, restarts and faults: a void is permanent, a
reserved generation is fresh and stays usable until a later void reaches it, and the commit
record, its `invalidated` flag and the sealed credentials agree.

Each invariant is about the row and the calls so far. A call keeps it by the cases of
`Frame`. An operation is voided as JSON reads it back: one whose name holds a high surrogate before a
low one is voided under another name, and is not found (`run_void_lost`).
-/

namespace GmailGateway

open Effect Proc Python SealedTokenStore

variable {Blob : Type} {P : TokenPlatform Blob} {Good : PyVal → Prop} {ρ : Row → Row}

/-- A call of a run. -/
abbrev TokenHistory (Blob : Type) := Call (TokenSig Blob) Exc TokenAnswer TokenCall

/-- Calls of the store from `s₀`, over restarts. -/
abbrev TokenRun (P : TokenPlatform Blob) (s₀ : TokenState Blob) :
    List (TokenHistory Blob) → TokenState Blob → Prop :=
  Lifetimes (tokenEnv Blob) (TokenCall.run P) TokenState.reopen s₀

/-- A database in which the store has not written yet; other rows may be there. -/
structure Fresh (s : TokenState Blob) : Prop where
  absent : (s .kv).committed.get? stateKey = none
  idle : (s .kv).pending = none

theorem Fresh.stored {s : TokenState Blob} (h : Fresh s) :
    stored P (s .kv).committed = .ok none := by
  rw [SealedTokenStore.stored, h.absent]
  rfl

theorem Fresh.row_eq {s : TokenState Blob} (h : Fresh s) : row P s = {} :=
  GmailGateway.row_eq h.stored

theorem Fresh.ready {s : TokenState Blob} (h : Fresh s) (hback : ReadsBack P Good ρ) :
    Ready P Good s :=
  ⟨fun _ => h.idle, ⟨none, h.stored⟩, by rw [h.row_eq]; exact hback.absent⟩

/-- **Invariants of runs.** What holds at the start, is kept by every call wherever it ends,
and only depends on what is committed, holds after any run. -/
theorem TokenRun.invariant {I : List (TokenHistory Blob) → Row → Prop} {s₀ s : TokenState Blob}
    {calls : List (TokenHistory Blob)} (h : TokenRun P s₀ calls s) (hback : ReadsBack P Good ρ)
    (hready : Ready P Good s₀) (h₀ : I [] (row P s₀))
    (hcall : ∀ calls s k τ out s', I calls (row P s) → Stepped P Good ρ k s τ out s' →
      I (calls ++ [⟨k, τ, out⟩]) (row P s')) : Ready P Good s ∧ I calls (row P s) := by
  induction h with
  | start => exact ⟨hready, h₀⟩
  | call _ hexec ih =>
      have hstep := call_steps hback ih.1 hexec
      exact ⟨hstep.ready, hcall _ _ _ _ _ _ ih.2 hstep⟩
  | @restart calls s _ ih =>
      have hrow : row P (TokenState.reopen s) = row P s := row_congr (reopen_committed s)
      exact ⟨ih.1.reopen, by rw [hrow]; exact ih.2⟩

theorem TokenRun.ready {s₀ s : TokenState Blob} {calls : List (TokenHistory Blob)}
    (h : TokenRun P s₀ calls s) (hback : ReadsBack P Good ρ) (h₀ : Ready P Good s₀) :
    Ready P Good s :=
  (h.invariant (I := fun _ _ => True) hback h₀ trivial fun _ _ _ _ _ _ _ _ => trivial).1

/-- Rows that are JSON text come back with their surrogates joined. -/
theorem readsBack_rowCodec {toFloat : PyStr → PyFloat} {floatRepr : PyFloat → PyStr}
    {P : TokenPlatform PyStr} (hrows : P.rows = rowCodec toFloat floatRepr) :
    ReadsBack P (fun v => Json.floatFree v = true) Row.reread where
  loads r text hr h := by
    rw [hrows] at h ⊢
    exact rowCodec_reread hr h
  absent := rfl
  sealed credentials dek v hwith := by
    obtain ⟨plaintext, tag, nonce, ciphertext, -, -, -, -, -, rfl⟩ := hwith
    rfl
  reread r hr := Json.floatFree_reread hr

theorem resume_committed (out : Outcome Exc TokenAnswer) (s : TokenState Blob) :
    (out.resume TokenState.reopen s .kv).committed = (s .kv).committed := by
  cases out <;> rfl

/-! ### Voids are permanent -/

/-- A call that returned has voided this commit: its operation, or its generation. -/
def Voided (calls : List (TokenHistory Blob)) (args : CommitArgs) : Prop :=
  ∃ j ∈ calls, (∃ a, j.outcome = .done (.ok a)) ∧
    (j.key = .invalidateCommit args.operationId ∨
      ∃ g, j.key = .voidGeneration g ∧ args.generation ≤ g)

/-- The barrier and the voided operations of `r'` cover those of `r`. -/
structure Covers (r r' : Row) : Prop where
  barrier : r.barrier ≤ r'.barrier
  ops : ∀ op ∈ r.invalidatedOps, op ∈ r'.invalidatedOps

theorem Covers.refl (r : Row) : Covers r r := ⟨le_rfl, fun _ h => h⟩

theorem Covers.trans {r₁ r₂ r₃ : Row} (h : Covers r₁ r₂) (h' : Covers r₂ r₃) : Covers r₁ r₃ :=
  ⟨h.barrier.trans h'.barrier, fun op hop => h'.ops op (h.ops op hop)⟩

/-- No call drops a void. -/
theorem Frame.covers {k : TokenCall} {v : PyVal} {r r' : Row} (h : Frame k v r r') :
    Covers r r' := by
  cases h with
  | voidGeneration => exact ⟨le_max_left _ _, fun _ h => h⟩
  | invalidateCommit =>
      refine ⟨le_rfl, fun op hop => ?_⟩
      dsimp only
      split
      · exact hop
      · exact List.mem_append_left _ hop
  | _ => exact ⟨le_rfl, fun _ h => h⟩

/-- The voided operations come back as they are. -/
def Noted (r : Row) : Prop := ∀ op ∈ r.invalidatedOps, Json.unpaired op = true

theorem Row.reread_noted (w : Row) : Noted w.reread := by
  intro op hop
  obtain ⟨op', -, rfl⟩ := List.mem_map.mp hop
  exact Json.unpaired_joinSurrogates op'

theorem Covers.reread {r w : Row} (h : Covers r w) (hr : Noted r) : Covers r w.reread := by
  refine ⟨h.barrier, fun op hop => ?_⟩
  have hread := List.mem_map_of_mem (f := Json.joinSurrogates) (h.ops op hop)
  rwa [Json.joinSurrogates_eq_self.mpr (hr op hop)] at hread

/-- A commit that is written was not refused. -/
theorem Frame.not_refused {args : CommitArgs} {v : PyVal} {r r' : Row}
    (h : Frame (.saveCommit args) v r r') : refusal? args r = none := by
  cases h
  assumption

theorem Stepped.covers {k : TokenCall} {s s' : TokenState Blob} {τ : List (TokenEvent Blob)}
    {out : Outcome Exc TokenAnswer} (h : Stepped P Good Row.reread k s τ out s')
    (hs : Noted (row P s)) : Noted (row P s') ∧ Covers (row P s) (row P s') := by
  rcases h.frame with hrow | ⟨v, w, -, hframe, hrow⟩
  · rw [hrow]
    exact ⟨hs, .refl _⟩
  · rw [hrow]
    exact ⟨w.reread_noted, hframe.covers.reread hs⟩

section Voids
variable {s₀ s s' : TokenState Blob} {calls : List (TokenHistory Blob)}
  {τ : List (TokenEvent Blob)} {a : TokenAnswer}

theorem TokenRun.covers {later : List (TokenHistory Blob)} (h : TokenRun P s later s')
    (hback : ReadsBack P Good Row.reread) (hs : Ready P Good s) (hnoted : Noted (row P s)) :
    Noted (row P s') ∧ Covers (row P s) (row P s') := by
  refine (h.invariant (I := fun _ r => Noted r ∧ Covers (row P s) r) hback hs
    ⟨hnoted, .refl _⟩ ?_).2
  intro calls s₁ k τ out s₂ ih hstep
  obtain ⟨hnoted', hcovers⟩ := hstep.covers ih.1
  exact ⟨hnoted', ih.2.trans hcovers⟩

theorem Fresh.noted (h : Fresh s) : Noted (row P s) := by
  rw [h.row_eq]
  exact fun op hop => by cases hop

/-- An operation that `invalidate_commit` returned for is voided in the row. -/
theorem Stepped.invalidated {op : PyStr}
    (h : Stepped P Good Row.reread (.invalidateCommit op) s τ (.done (.ok a)) s') :
    Json.joinSurrogates op ∈ (row P s').invalidatedOps := by
  obtain ⟨-, v, -, hrow⟩ := h.returned a rfl
  rw [hrow, TokenCall.write, invalidateTxn_snd, Option.map_some, Option.getD_some, Row.reread]
  refine List.mem_map_of_mem ?_
  by_cases hop : op ∈ (row P s).invalidatedOps
  · simp [hop]
  · simp [hop]

/-- A generation that `void_generation` returned for is at or below the barrier. -/
theorem Stepped.voided {g : Int}
    (h : Stepped P Good Row.reread (.voidGeneration g) s τ (.done (.ok a)) s') :
    g ≤ (row P s').barrier := by
  obtain ⟨-, v, -, hrow⟩ := h.returned a rfl
  rw [hrow]
  exact le_max_right _ _

/-- What the call voids holds no high surrogate before a low one. -/
def TokenCall.voidsUnpaired : TokenCall → Bool
  | .invalidateCommit operationId => Json.unpaired operationId
  | _ => true

/-- The operations that a run voids come back as they are. -/
def VoidsUnpaired (calls : List (TokenHistory Blob)) : Prop :=
  ∀ j ∈ calls, j.key.voidsUnpaired = true

theorem VoidsUnpaired.reread (h : VoidsUnpaired calls) {j : TokenHistory Blob} {op : PyStr}
    (hj : j ∈ calls) (hkey : j.key = .invalidateCommit op) : Json.joinSurrogates op = op := by
  have hunpaired := h j hj
  rw [hkey] at hunpaired
  exact Json.joinSurrogates_eq_self.mpr hunpaired

/-- A voided commit is refused. -/
theorem refused_of_voided {args : CommitArgs} (h : TokenRun P s₀ calls s) (h₀ : Fresh s₀)
    (hback : ReadsBack P Good Row.reread) (hvoids : VoidsUnpaired calls)
    (hvoided : Voided calls args) : refusal? args (row P s) ≠ none := by
  obtain ⟨j, hj, ⟨a, ha⟩, hkey⟩ := hvoided
  obtain ⟨before, later, hcalls⟩ := List.append_of_mem hj
  obtain ⟨s₁, s₂, hbefore, hexec, hlater⟩ := Lifetimes.split h hcalls
  rw [ha] at hexec hlater
  have hready := TokenRun.ready hbefore hback (h₀.ready hback)
  have hstep := call_steps hback hready hexec
  -- Nothing drops the void later.
  have hnoted := (hstep.covers (TokenRun.covers hbefore hback (h₀.ready hback) h₀.noted).1).1
  have hcovers := (TokenRun.covers hlater hback hstep.ready hnoted).2
  rcases hkey with hkey | ⟨g, hkey, hg⟩
  · rw [hkey] at hstep
    have hop := hcovers.ops _ hstep.invalidated
    rw [hvoids.reread hj hkey] at hop
    simp [refusal?, hop]
  · rw [hkey] at hstep
    have hbarrier : args.generation ≤ (row P s).barrier :=
      (hg.trans hstep.voided).trans hcovers.barrier
    rw [refusal?]
    by_cases hop : args.operationId ∈ (row P s).invalidatedOps
    · simp [hop]
    · simp [hop, hbarrier]

end Voids

/-- **Voids are permanent.** After any run whose voided operations come back as they are: a commit
that a returned call has voided is refused and writes nothing, wherever its call ends; the barrier
never decreases and no voided operation is dropped, however the run goes on; and a `save_commit` that
raises leaves the table as it is. -/
theorem run_voidsPermanent {toFloat : PyStr → PyFloat} {floatRepr : PyFloat → PyStr}
    {P : TokenPlatform PyStr} {s₀ s : TokenState PyStr} {calls : List (TokenHistory PyStr)}
    (hrows : P.rows = rowCodec toFloat floatRepr) (h₀ : Fresh s₀) (h : TokenRun P s₀ calls s)
    (hvoids : VoidsUnpaired calls) :
    (∀ args τ out s', Voided calls args →
      Exec (tokenEnv PyStr) ((TokenCall.saveCommit args).run P) s τ out s' →
      (s' .kv).committed = (s .kv).committed ∧ ∀ a, out ≠ .done (.ok a)) ∧
    (∀ later s', TokenRun P s later s' → (row P s).barrier ≤ (row P s').barrier ∧
      ∀ op ∈ (row P s).invalidatedOps, op ∈ (row P s').invalidatedOps) ∧
    ∀ args τ e s', Exec (tokenEnv PyStr) ((TokenCall.saveCommit args).run P) s τ
        (.done (.error e)) s' →
      (s' .kv).committed = (s .kv).committed := by
  have hback := readsBack_rowCodec hrows
  have hready := h.ready hback (h₀.ready hback)
  refine ⟨fun args τ out s' hvoided hexec => ?_, fun later s' hlater => ?_, ?_⟩
  · have hrefused := refused_of_voided h h₀ hback hvoids hvoided
    have hstep := call_steps hback hready hexec
    constructor
    · rw [← resume_committed out s']
      rcases hstep.wrote with hsame | ⟨v, w, -, hwrite, -⟩
      · exact hsame
      · exact absurd (Frame.of_write hwrite).not_refused hrefused
    · intro a ha
      exact hrefused (hstep.returned a ha).1.1
  · have hnoted := (h.covers hback (h₀.ready hback) h₀.noted).1
    have hcovers := (hlater.covers hback hready hnoted).2
    exact ⟨hcovers.barrier, hcovers.ops⟩
  · intro args τ e s' hexec
    exact ((call_steps hback hready hexec).raised e rfl).1

/-! ### Generations are fresh -/

/-- The generations a run has handed out, oldest first. -/
def issued (calls : List (TokenHistory Blob)) : List Int :=
  calls.filterMap fun k =>
    match k.key, k.outcome with
    | .reserveGeneration, .done (.ok (.int g)) => some g
    | _, _ => none

theorem issued_append (calls later : List (TokenHistory Blob)) :
    issued (calls ++ later) = issued calls ++ issued later :=
  List.filterMap_append

/-- What one call hands out. -/
theorem mem_issued_singleton {k : TokenCall} {τ : List (TokenEvent Blob)}
    {out : Outcome Exc TokenAnswer} {g : Int} :
    g ∈ issued [⟨k, τ, out⟩] ↔ k = .reserveGeneration ∧ out = .done (.ok (.int g)) := by
  simp only [issued, List.mem_filterMap, List.mem_singleton, exists_eq_left]
  constructor
  · intro h
    split at h
    · cases h
      exact ⟨rfl, rfl⟩
    · cases h
  · intro h
    obtain ⟨rfl, rfl⟩ := h
    rfl

/-- No call turns the counter back. -/
theorem Frame.counter {k : TokenCall} {v : PyVal} {r r' : Row} (h : Frame k v r r') :
    r.lastGeneration ≤ r'.lastGeneration := by
  cases h with
  | reserveGeneration =>
      dsimp only
      omega
  | _ => exact le_rfl

/-- A reserved generation is past the counter and past the barrier, and becomes the counter. -/
theorem Stepped.reserved {s s' : TokenState Blob} {τ : List (TokenEvent Blob)} {g : Int}
    (h : Stepped P Good Row.reread .reserveGeneration s τ (.done (.ok (.int g))) s') :
    (row P s).lastGeneration < g ∧ (row P s).barrier < g ∧ (row P s').lastGeneration = g ∧
      (row P s').barrier = (row P s).barrier := by
  obtain ⟨hanswer, v, -, hrow⟩ := h.returned _ rfl
  have hg : g = max (row P s).lastGeneration (row P s).barrier + 1 := TokenAnswer.int.inj hanswer
  have hrow' : row P s' = Row.reread { row P s with
      lastGeneration := max (row P s).lastGeneration (row P s).barrier + 1 } := hrow
  rw [hrow', hg, Row.reread]
  dsimp only
  omega

/-- The generations handed out so far increase up to the counter. -/
def Increasing (calls : List (TokenHistory Blob)) (r : Row) : Prop :=
  (issued calls).Pairwise (· < ·) ∧ ∀ g ∈ issued calls, g ≤ r.lastGeneration

theorem TokenRun.increasing {s₀ s : TokenState Blob} {calls : List (TokenHistory Blob)}
    (h : TokenRun P s₀ calls s) (hback : ReadsBack P Good Row.reread) (h₀ : Ready P Good s₀) :
    Increasing calls (row P s) := by
  refine (h.invariant hback h₀ ⟨.nil, nofun⟩ ?_).2
  intro calls s k τ out s' hincreasing hstep
  obtain ⟨hpair, hle⟩ := hincreasing
  have hcounter : (row P s).lastGeneration ≤ (row P s').lastGeneration := by
    rcases hstep.frame with hrow | ⟨v, w, -, hframe, hrow⟩
    · rw [hrow]
    · rw [hrow]
      exact hframe.counter
  constructor
  · rw [issued_append]
    refine List.pairwise_append.mpr ⟨hpair, ?_, fun g hg g' hg' => ?_⟩
    · -- One call hands out one generation.
      simp only [issued, List.filterMap_cons, List.filterMap_nil]
      split <;> simp
    · obtain ⟨rfl, rfl⟩ := mem_issued_singleton.mp hg'
      exact (hle g hg).trans_lt hstep.reserved.1
  · intro g hg
    rw [issued_append] at hg
    rcases List.mem_append.mp hg with hg | hg
    · exact (hle g hg).trans hcounter
    · obtain ⟨rfl, rfl⟩ := mem_issued_singleton.mp hg
      exact hstep.reserved.2.2.1.ge

/-- The call did not raise, so what it was to write may be written. -/
def MayHaveLanded (k : TokenHistory Blob) : Prop := ∀ e, k.outcome ≠ .done (.error e)

/-- A call that raised has changed nothing. -/
theorem Stepped.landed {k : TokenCall} {s s' : TokenState Blob} {τ : List (TokenEvent Blob)}
    {out : Outcome Exc TokenAnswer} (h : Stepped P Good ρ k s τ out s')
    (hchanged : row P s' ≠ row P s) : MayHaveLanded ⟨k, τ, out⟩ := by
  intro e he
  exact hchanged (row_congr (h.raised e he).1)

/-- What is voided in the row is what is read back of an operation voided by a call. -/
theorem TokenRun.invalidated_only {s₀ s : TokenState Blob} {calls : List (TokenHistory Blob)}
    (h : TokenRun P s₀ calls s) (hback : ReadsBack P Good Row.reread) (h₀ : Fresh s₀) {op : PyStr}
    (hop : op ∈ (row P s).invalidatedOps) :
    ∃ j ∈ calls, ∃ op', Json.joinSurrogates op' = op ∧ j.key = .invalidateCommit op' ∧
      MayHaveLanded j := by
  refine (h.invariant (I := fun calls r => Noted r ∧ (op ∈ r.invalidatedOps →
    ∃ j ∈ calls, ∃ op', Json.joinSurrogates op' = op ∧ j.key = .invalidateCommit op' ∧
      MayHaveLanded j)) hback (h₀.ready hback) ⟨h₀.noted, fun hop => ?_⟩ ?_).2.2 hop
  · rw [h₀.row_eq] at hop
    cases hop
  · intro calls s k τ out s' ih hstep
    obtain ⟨hnoted, ih⟩ := ih
    refine ⟨(hstep.covers hnoted).1, fun hop => ?_⟩
    by_cases hbefore : op ∈ (row P s).invalidatedOps
    · obtain ⟨j, hj, hkey⟩ := ih hbefore
      exact ⟨j, List.mem_append_left _ hj, hkey⟩
    · have hlanded := hstep.landed fun hrow => hbefore (hrow ▸ hop)
      refine ⟨⟨k, τ, out⟩, List.mem_append_right _ List.mem_cons_self, ?_⟩
      rcases hstep.frame with hrow | ⟨v, w, -, hframe, hrow⟩
      · exact absurd (hrow ▸ hop) hbefore
      · rw [hrow] at hop
        obtain ⟨op', hop', rfl⟩ := List.mem_map.mp hop
        -- An older void came back as it is.
        have hold : op' ∉ (row P s).invalidatedOps := by
          intro hold
          rw [Json.joinSurrogates_eq_self.mpr (hnoted op' hold)] at hbefore
          exact hbefore hold
        cases hframe with
        | invalidateCommit =>
            dsimp only at hop'
            split at hop'
            · exact absurd hop' hold
            · rcases List.mem_append.mp hop' with hop' | hop'
              · exact absurd hop' hold
              · cases List.mem_singleton.mp hop'
                exact ⟨_, rfl, rfl, hlanded⟩
        | _ => exact absurd hop' hold

/-- The barrier reaches a generation only by a `void_generation` that does. -/
theorem TokenRun.barrier_only {s s' : TokenState Blob} {later : List (TokenHistory Blob)} {g : Int}
    (h : TokenRun P s later s') (hback : ReadsBack P Good Row.reread) (hs : Ready P Good s)
    (hbelow : (row P s).barrier < g) (hreached : g ≤ (row P s').barrier) :
    ∃ j ∈ later, ∃ g', g ≤ g' ∧ j.key = .voidGeneration g' ∧ MayHaveLanded j := by
  refine (h.invariant (I := fun calls r => g ≤ r.barrier →
    ∃ j ∈ calls, ∃ g', g ≤ g' ∧ j.key = .voidGeneration g' ∧ MayHaveLanded j) hback hs ?_ ?_).2
      hreached
  · intro hreached
    omega
  · intro calls s k τ out s' ih hstep hreached
    by_cases hbefore : g ≤ (row P s).barrier
    · obtain ⟨j, hj, hkey⟩ := ih hbefore
      exact ⟨j, List.mem_append_left _ hj, hkey⟩
    · have hchanged : row P s' ≠ row P s := by
        intro hrow
        rw [hrow] at hreached
        exact hbefore hreached
      refine ⟨⟨k, τ, out⟩, List.mem_append_right _ List.mem_cons_self, ?_⟩
      have hlanded := hstep.landed hchanged
      rcases hstep.frame with hrow | ⟨v, w, -, hframe, hrow⟩
      · exact absurd hrow hchanged
      · rw [hrow] at hreached
        cases hframe with
        | voidGeneration =>
            dsimp only [Row.reread] at hreached
            exact ⟨_, by omega, rfl, hlanded⟩
        | _ => exact absurd hreached hbefore

/-- **Generations are fresh and usable.** The generations of a run strictly increase; one handed
out now is above the barrier and above what the barrier was in any state before; and, where the voided
operations come back as they are, a commit with a generation reserved in the run is refused only if
its operation was voided, or a `void_generation` after the reservation reached its generation. -/
theorem run_generationsFresh {toFloat : PyStr → PyFloat} {floatRepr : PyFloat → PyStr}
    {P : TokenPlatform PyStr} {s₀ s : TokenState PyStr} {calls : List (TokenHistory PyStr)}
    (hrows : P.rows = rowCodec toFloat floatRepr) (h₀ : Fresh s₀) (h : TokenRun P s₀ calls s)
    (hvoids : VoidsUnpaired calls) :
    (issued calls).Pairwise (· < ·) ∧
    (∀ before s₁ later τ g s', calls = before ++ later → TokenRun P s₀ before s₁ →
      TokenRun P s₁ later s →
      Exec (tokenEnv PyStr) (TokenCall.reserveGeneration.run P) s τ (.done (.ok (.int g))) s' →
      (row P s₁).barrier < g ∧ ∀ g' ∈ issued calls, g' < g) ∧
    ∀ before k mid args τ m s', calls = before ++ k :: mid → k.key = .reserveGeneration →
      k.outcome = .done (.ok (.int args.generation)) →
      Exec (tokenEnv PyStr) ((TokenCall.saveCommit args).run P) s τ
        (.done (.error (.commitInvalidated m))) s' →
      (∃ j ∈ calls, j.key = .invalidateCommit args.operationId ∧ MayHaveLanded j) ∨
      ∃ j ∈ mid, ∃ g, args.generation ≤ g ∧ j.key = .voidGeneration g ∧ MayHaveLanded j := by
  have hback := readsBack_rowCodec hrows
  have hready₀ := h₀.ready (P := P) hback
  have hincreasing := h.increasing hback hready₀
  refine ⟨hincreasing.1, ?_, ?_⟩
  · intro before s₁ later τ g s' _ hbefore hlater hexec
    obtain ⟨hcounter, hbarrier, -⟩ := (call_steps hback (h.ready hback hready₀) hexec).reserved
    have hnoted := (hbefore.covers hback hready₀ h₀.noted).1
    have hcovers := (hlater.covers hback (hbefore.ready hback hready₀) hnoted).2
    exact ⟨hcovers.barrier.trans_lt hbarrier,
      fun g' hg' => (hincreasing.2 g' hg').trans_lt hcounter⟩
  · intro before k mid args τ m s' hcalls hkey hreserved hexec
    have hrefusal := ((call_steps hback (h.ready hback hready₀) hexec).raised _ rfl).2 ⟨m, rfl⟩
    obtain ⟨args', hargs, hrefused⟩ := hrefusal
    obtain rfl : args = args' := TokenCall.saveCommit.inj hargs
    by_cases hop : args.operationId ∈ (row P s).invalidatedOps
    · obtain ⟨j, hj, op, hjoined, hjkey, hlanded⟩ := h.invalidated_only hback h₀ hop
      rw [hvoids.reread hj hjkey] at hjoined
      exact .inl ⟨j, hj, hjoined ▸ hjkey, hlanded⟩
    · -- Not voided, so the barrier has reached the generation, which was above it when reserved.
      have hreached : args.generation ≤ (row P s).barrier := by
        by_contra hbelow
        exact hrefused (by simp [refusal?, hop, hbelow])
      obtain ⟨s₁, s₂, hbefore, hreserve, hmid⟩ := Lifetimes.split h hcalls
      rw [hkey, hreserved] at hreserve
      rw [hreserved] at hmid
      have hstep := call_steps hback (TokenRun.ready hbefore hback hready₀) hreserve
      obtain ⟨-, hbelow, -, hsame⟩ := hstep.reserved
      exact .inr (TokenRun.barrier_only hmid hback hstep.ready (by rw [hsame]; exact hbelow)
        hreached)

/-! ### The commit and the credentials -/

/-- Apart from the two flags that later calls may flip, `c` is the record of `args`. -/
def CommitRecord.IsOf (c : CommitRecord) (args : CommitArgs) : Prop :=
  c = { args.record with ackPending := c.ackPending, invalidated := c.invalidated }

/-- One call wrote both: the commit record is of its arguments, and what is sealed are its
credentials, under a key it was given. -/
def WrittenBy (P : TokenPlatform Blob) (j : TokenHistory Blob) (args : CommitArgs) (dek : Bytes)
    (r : Row) : Prop :=
  j.key = .saveCommit args ∧ (∃ c, r.commit = some c ∧ c.IsOf args) ∧ GaveDek j.events dek ∧
    SealedWith P args.credentials dek r.sealed

/-- Credentials that are present were sealed by the call that wrote the commit. -/
def CredentialsPaired (P : TokenPlatform Blob) (calls : List (TokenHistory Blob)) (r : Row) : Prop :=
  r.sealed ≠ .none → ∃ j ∈ calls, ∃ args dek, WrittenBy P j args dek r

/-- The commit is marked iff its operation is voided. -/
def FlagAgrees (r : Row) : Prop :=
  ∀ c, r.commit = some c → (c.invalidated = true ↔ c.operationId ∈ r.invalidatedOps)

theorem Frame.flagAgrees {k : TokenCall} {v : PyVal} {r r' : Row} (h : Frame k v r r')
    (hr : FlagAgrees r) : FlagAgrees r' := by
  cases h with
  | saveCommit hnone =>
      intro c hc
      cases hc
      -- A commit that is not refused is not voided.
      have hop : ‹CommitArgs›.operationId ∉ r.invalidatedOps := by
        intro hop
        simp [refusal?, hop] at hnone
      simpa [CommitArgs.record] using hop
  | markAckConfirmed hcommit =>
      intro c hc
      cases hc
      have hiff := hr _ hcommit
      exact hiff
  | @invalidateCommit operationId v r =>
      intro c' hc'
      dsimp only at hc' ⊢
      obtain ⟨c, hc, rfl⟩ := Option.map_eq_some_iff.mp hc'
      have hiff := hr c hc
      by_cases hid : c.operationId = operationId
      · by_cases hmem : operationId ∈ r.invalidatedOps
        · simp [hid, hmem]
        · simp [hid, hmem]
      · by_cases hmem : operationId ∈ r.invalidatedOps
        · simp [hid, hmem, hiff]
        · simp [hid, hmem, hiff]
  | _ => exact hr

theorem Stepped.credentialsPaired {calls : List (TokenHistory Blob)} {k : TokenCall}
    {s s' : TokenState Blob} {τ : List (TokenEvent Blob)} {out : Outcome Exc TokenAnswer}
    (h : Stepped P Good id k s τ out s') (hs : CredentialsPaired P calls (row P s)) :
    CredentialsPaired P (calls ++ [⟨k, τ, out⟩]) (row P s') := by
  have hkept : (row P s').sealed = (row P s).sealed →
      (∀ c args, (row P s).commit = some c → c.IsOf args →
        ∃ c', (row P s').commit = some c' ∧ c'.IsOf args) →
      CredentialsPaired P (calls ++ [⟨k, τ, out⟩]) (row P s') := by
    intro hsealed hcommit hpresent
    rw [hsealed] at hpresent
    obtain ⟨j, hj, args, dek, hkey, ⟨c, hc, hof⟩, hdek, hwith⟩ := hs hpresent
    exact ⟨j, List.mem_append_left _ hj, args, dek, hkey, hcommit c args hc hof, hdek,
      by rw [hsealed]; exact hwith⟩
  rcases h.frame with hrow | ⟨v, w, hseals, hframe, hrow⟩
  · rw [hrow] at hkept ⊢
    exact hkept rfl fun c args hc hof => ⟨c, hc, hof⟩
  · rw [hrow, id] at hkept ⊢
    cases hframe with
    | saveCommit _ =>
        intro _
        obtain ⟨dek, hdek, hwith⟩ := hseals
        exact ⟨⟨_, τ, out⟩, List.mem_append_right _ List.mem_cons_self, _, dek, rfl,
          ⟨_, rfl, rfl⟩, hdek, hwith⟩
    | markAckConfirmed hcommit =>
        refine hkept rfl fun c args hc hof => ⟨_, rfl, ?_⟩
        rw [hcommit] at hc
        cases hc
        rw [CommitRecord.IsOf] at hof ⊢
        rw [hof]
    | invalidateCommit =>
        refine hkept rfl fun c args hc hof => ?_
        dsimp only
        rw [hc, Option.map_some]
        refine ⟨_, rfl, ?_⟩
        rw [CommitRecord.IsOf] at hof ⊢
        split
        · rw [hof]
        · exact hof
    | clearCredentials => exact fun hpresent => absurd rfl hpresent
    | reserveGeneration | voidGeneration =>
        exact hkept rfl fun c args hc hof => ⟨c, hc, hof⟩

/-- A record opens under the key it was encrypted with. -/
theorem openRecord_returns {gcm : AesGcm} {r : SealedRecord} {plaintext tag dek : Bytes}
    (hgcm : gcm.RoundTrips) (htag : aad r.recordType r.version = .ok tag)
    (hdek : dek.length = dekLen)
    (hencrypt : gcm.encrypt dek r.nonce plaintext tag = .ok r.ciphertext)
    {W : Env KeystoreSig Exc Unit} {u : Unit} :
    (AEADCipher.openRecord gcm r).sat W (fun _ _ => True)
      (fun x τ _ => (⟨.getDek, .ok dek⟩ : Event KeystoreSig Exc) ∈ τ → x = .ok plaintext) [] u := by
  rw [AEADCipher.openRecord, htag, sat_bind, sat_embed, andThen_ok, sat_bind, requireDek, sat_bind,
    sat_perform]
  intro x _ _
  refine ⟨trivial, ?_⟩
  cases x with
  | error e =>
      intro hmem
      simp at hmem
  | ok dek' =>
      rw [andThen_ok, sat_bind, sat_raiseIf]
      by_cases hsame : dek' = dek
      · subst hsame
        refine ⟨fun hlen => absurd hdek hlen, fun _ => ?_⟩
        rw [andThen_ok, sat_pure, andThen_ok, hgcm _ _ _ _ _ hencrypt]
        exact fun _ => rfl
      · -- Under another key nothing is promised.
        have hnot : (⟨.getDek, .ok dek⟩ : Event KeystoreSig Exc) ∉ ([] ++ [⟨.getDek, .ok dek'⟩] :
            List (Event KeystoreSig Exc)) := by
          intro hmem
          cases List.mem_singleton.mp hmem
          exact hsame rfl
        refine ⟨fun _ hmem => absurd hmem hnot, fun _ => ?_⟩
        rw [andThen_ok, sat_pure, andThen_ok]
        cases gcm.decrypt dek' r.nonce r.ciphertext tag with
        | none => exact fun hmem => absurd hmem hnot
        | some p => exact fun hmem => absurd hmem hnot

/-- Opening what was sealed gives the credentials back, once the key provider hands out the same
key. -/
theorem openSealed_returns {credentials v : PyVal} {dek : Bytes} (hgcm : P.gcm.RoundTrips)
    (hjson : ∀ c p, P.credentials.dumps c = .ok p → P.credentials.loads p = .ok c)
    (hwith : SealedWith P credentials dek v) {τ : List (TokenEvent Blob)} {s : TokenState Blob}
    (hτ : ¬ GaveDek τ dek) :
    (openSealed P v).sat (tokenEnv Blob) (fun _ _ => True)
      (fun r τ' _ => GaveDek τ' dek → r = .ok credentials) τ s := by
  obtain ⟨plaintext, tag, nonce, ciphertext, hdumps, htag, hdek, hnonce, hencrypt, rfl⟩ := hwith
  have hrecord : SealedRecord.fromDict
      (SealedRecord.toDict ⟨sealVersion, recordTypeCredentials, nonce, ciphertext⟩) =
      .ok ⟨sealVersion, recordTypeCredentials, nonce, ciphertext⟩ := by
    rw [SealedRecord.fromDict, SealedRecord.fields?_toDict]
    simp only [hnonce, ne_eq, not_true_eq_false, if_false, htag]
    rfl
  rw [openSealed, hrecord, sat_bind, sat_handle, sat_embed, andThen_ok, andThen_ok, sat_bind,
    sat_handle]
  have hopen := openRecord_returns (r := ⟨sealVersion, recordTypeCredentials, nonce, ciphertext⟩)
    (W := tokenPartyEnv Blob .keystore) (u := s .keystore) hgcm htag hdek hencrypt
  refine sat_party TokenParty.keystore (sat_weaken hopen (fun _ _ _ => trivial) ?_)
  intro x τ' u hx
  have hgave : GaveDek (τ ++ τ'.map (Event.at (S := TokenPartySig Blob) .keystore)) dek →
      x = .ok plaintext := by
    intro hmem
    rcases List.mem_append.mp hmem with hmem | hmem
    · exact absurd hmem hτ
    · obtain ⟨ev, hev, heq⟩ := List.mem_map.mp hmem
      obtain ⟨o, a⟩ := ev
      cases heq
      exact hx hev
  cases x with
  | error e =>
      have hnot : ¬ GaveDek (τ ++ τ'.map (Event.at (S := TokenPartySig Blob) .keystore)) dek :=
        fun hmem => nomatch hgave hmem
      rw [andThen_error]
      split <;> exact fun hmem => absurd hmem hnot
  | ok p =>
      rw [andThen_ok, andThen_ok, sat_handle, sat_embed]
      by_cases hmem : GaveDek (τ ++ τ'.map (Event.at (S := TokenPartySig Blob) .keystore)) dek
      · obtain rfl : p = plaintext := Except.ok.inj (hgave hmem)
        rw [hjson _ _ hdumps]
        exact fun _ => rfl
      · cases P.credentials.loads p with
        | ok c => exact fun h => absurd h hmem
        | error e =>
            rw [andThen_error]
            split <;> exact fun h => absurd h hmem

theorem loadCredentials_returns {credentials v : PyVal} {dek : Bytes} {current : Option Row}
    {s : TokenState Blob} (hgcm : P.gcm.RoundTrips)
    (hjson : ∀ c p, P.credentials.dumps c = .ok p → P.credentials.loads p = .ok c)
    (hsettled : (s .kv).Settled) (hcurrent : stored P (s .kv).committed = .ok current)
    (hv : (current.getD {}).sealed = v) (hpresent : v ≠ .none)
    (hwith : SealedWith P credentials dek v) :
    (TokenCall.loadCredentials.run P).sat (tokenEnv Blob) (fun _ _ => True)
      (fun r τ _ => GaveDek τ dek → r = .ok (.credentials credentials)) [] s := by
  have hevents := sat_frame (W := tokenEnv Blob) (R := fun _ _ => True) (s := s)
    (performs_at TokenParty.kv (SqliteKV.get P.rows stateKey)) (fun _ _ _ _ _ => trivial)
    (fun _ _ _ _ _ _ => trivial) trivial
  rw [TokenCall.run, loadCredentials, bind_assoc, sat_bind]
  refine sat_weaken (sat_and hevents (get_meets hsettled)) (fun _ _ _ => trivial) ?_
  intro r τ s' hpost
  obtain ⟨⟨-, hkv⟩, -, -, -, hread, -⟩ := hpost
  have hτ : ¬ GaveDek τ dek := fun hmem => by cases hkv _ hmem
  cases r with
  | error e => exact fun hmem => absurd hmem hτ
  | ok current' =>
      obtain rfl : current = current' := by
        have hrow := hread current' rfl
        rw [hcurrent] at hrow
        exact Except.ok.inj hrow
      cases current with
      | none => exact fun hmem => absurd hmem hτ
      | some r =>
          obtain rfl : r.sealed = v := hv
          rw [andThen_ok]
          dsimp only
          split
          · rename_i hnone
            exact absurd hnone hpresent
          · rw [sat_bind]
            refine sat_mono (openSealed_returns hgcm hjson hwith hτ) ?_
            intro x τ' _ hx
            cases x with
            | error e => exact fun hmem => by cases hx hmem
            | ok c =>
                intro hmem
                rw [Except.ok.inj (hx hmem)]

/-- **The commit and the credentials agree, and every call keeps its frame.** After any run:
credentials that are present were sealed by the call whose record is the stored commit, and
`load_credentials` returns exactly that call's credentials as soon as it is handed the key they
were sealed under; the commit is marked iff its operation is voided; and a call changes of the
row only what `Frame` says, and no other row. -/
theorem run_paired {s₀ s : TokenState Blob} {calls : List (TokenHistory Blob)}
    (h₀ : Fresh s₀) (h : TokenRun P s₀ calls s) (hgcm : P.gcm.RoundTrips)
    (hrows : ∀ r blob, P.rows.dumps r = .ok blob → P.rows.loads blob = .ok r)
    (hjson : ∀ c p, P.credentials.dumps c = .ok p → P.credentials.loads p = .ok c) :
    ((row P s).sealed ≠ .none → ∃ j ∈ calls, ∃ args dek, WrittenBy P j args dek (row P s) ∧
      ∀ τ r s', Exec (tokenEnv Blob) (TokenCall.loadCredentials.run P) s τ (.done r) s' →
        GaveDek τ dek → r = .ok (.credentials args.credentials)) ∧
    (∀ c, (row P s).commit = some c →
      (c.invalidated = true ↔ c.operationId ∈ (row P s).invalidatedOps)) ∧
    ∀ k τ out s', Exec (tokenEnv Blob) (k.run P) s τ out s' →
      (row P s' = row P s ∨ ∃ v, Frame k v (row P s) (row P s')) ∧
      ∀ key, key ≠ stateKey → (s' .kv).committed.get? key = (s .kv).committed.get? key := by
  have hback : ReadsBack P (fun _ => True) id :=
    ⟨fun r blob _ => hrows r blob, trivial, fun _ _ _ _ => trivial, fun _ _ => trivial⟩
  have hinvariant := h.invariant (I := fun calls r => CredentialsPaired P calls r ∧ FlagAgrees r)
    hback (h₀.ready hback) ?_ ?_
  · obtain ⟨hready, hpaired, hflag⟩ := hinvariant
    refine ⟨fun hpresent => ?_, hflag, fun k τ out s' hexec => ?_⟩
    · obtain ⟨j, hj, args, dek, hwritten⟩ := hpaired hpresent
      refine ⟨j, hj, args, dek, hwritten, fun τ r s' hexec => ?_⟩
      obtain ⟨hsettled, ⟨current, hcurrent⟩, -⟩ := hready
      rw [row_eq hcurrent] at hpresent hwritten
      obtain ⟨-, -, -, hwith⟩ := hwritten
      exact hexec.post (loadCredentials_returns hgcm hjson hsettled hcurrent rfl hpresent hwith)
    · have hstep := call_steps hback hready hexec
      have hsame := resume_committed out s'
      constructor
      · rw [← row_congr hsame]
        rcases hstep.frame with hrow | ⟨v, w, -, hframe, hrow⟩
        · exact .inl hrow
        · rw [hrow]
          exact .inr ⟨v, hframe⟩
      · intro key hkey
        rw [← hsame]
        exact hstep.others key hkey
  · rw [h₀.row_eq]
    exact ⟨fun hpresent => absurd rfl hpresent, nofun⟩
  · intro calls s k τ out s' hs hstep
    refine ⟨hstep.credentialsPaired hs.1, ?_⟩
    rcases hstep.frame with hrow | ⟨v, w, -, hframe, hrow⟩
    · rw [hrow]
      exact hs.2
    · rw [hrow]
      exact hframe.flagAgrees hs.2

/-! ### A run -/

/-- Credentials of one field. -/
def sampleCredentials : PyVal := .dict [(str "access_token", .str (str "t"))]

/-- They as JSON. -/
def sampleCredentialsJson : Bytes :=
  (str "\x7b\"access_token\": \"t\"\x7d").flatMap CodePoint.utf8

/-- The JSON text of one credentials object. -/
def sampleCredentialsCodec : JsonCodec PyVal Bytes where
  dumps
    | .dict [(key, .str token)] =>
        if key = str "access_token" ∧ token = str "t" then .ok sampleCredentialsJson
        else .error .typeError
    | _ => .error .typeError
  loads p := if p = sampleCredentialsJson then .ok sampleCredentials else .error .valueError

theorem sampleCredentialsCodec_dumps {c : PyVal} {e : Exc}
    (h : sampleCredentialsCodec.dumps c = .error e) : ¬ e.IsRefusal := by
  dsimp only [sampleCredentialsCodec] at h
  split at h
  · split at h
    · cases h
    · cases h
      exact nofun
  · cases h
    exact nofun

theorem sampleCredentialsCodec_loads {p : Bytes} {e : Exc}
    (h : sampleCredentialsCodec.loads p = .error e) : ¬ e.IsRefusal := by
  dsimp only [sampleCredentialsCodec] at h
  split at h
  · cases h
  · cases h
    exact nofun

theorem sampleCredentialsCodec_roundTrip (c : PyVal) (p : Bytes)
    (h : sampleCredentialsCodec.dumps c = .ok p) : sampleCredentialsCodec.loads p = .ok c := by
  dsimp only [sampleCredentialsCodec] at h ⊢
  split at h
  · split at h
    · rename_i hc
      cases h
      rw [if_pos rfl, hc.1, hc.2, sampleCredentials]
    · cases h
  · cases h

/-- A cipher that shows everything. -/
def sampleGcm : AesGcm where
  encrypt dek nonce data aad := .ok (dek ++ nonce ++ aad ++ data)
  decrypt dek nonce data aad :=
    if (dek ++ nonce ++ aad).isPrefixOf data then some (data.drop (dek ++ nonce ++ aad).length)
    else none

theorem sampleGcm_roundTrips : sampleGcm.RoundTrips := by
  intro dek nonce data aad ciphertext h
  cases h
  simp [sampleGcm]

/-- Rows that are stored as they are. -/
def sampleRows : JsonCodec Row Row where
  dumps := .ok
  loads := .ok

/-- A token store whose rows are stored as they are. -/
def sampleTokens : TokenPlatform Row where
  rows := sampleRows
  credentials := sampleCredentialsCodec
  gcm := sampleGcm
  rows_dumps row e h := by cases h
  rows_loads blob e h := by cases h
  credentials_dumps _ _ h := sampleCredentialsCodec_dumps h
  credentials_loads _ _ h := sampleCredentialsCodec_loads h
  gcm_encrypt dek nonce data aad e h := by cases h

theorem sampleTokens_roundTrip (r blob : Row) (h : sampleTokens.rows.dumps r = .ok blob) :
    sampleTokens.rows.loads blob = .ok r := by
  cases h
  rfl

/-- The same store over rows that are JSON text. -/
def sampleJsonTokens : TokenPlatform PyStr where
  rows := rowCodec (fun _ => .nan) fun _ => []
  credentials := sampleCredentialsCodec
  gcm := sampleGcm
  rows_dumps _ _ h := rowCodec_dumps_error h
  rows_loads _ _ h := rowCodec_loads_error h
  credentials_dumps _ _ h := sampleCredentialsCodec_dumps h
  credentials_loads _ _ h := sampleCredentialsCodec_loads h
  gcm_encrypt dek nonce data aad e h := by cases h

section Runs
variable {Blob : Type} (P : TokenPlatform Blob) (dedup : Blob)

/-- A database with a row of another subsystem. -/
def sampleTokenState : TokenState Blob
  | .kv => { committed := [(str "dedup", dedup)] }
  | .keystore => ()

theorem sampleTokenState_fresh : Fresh (sampleTokenState dedup) := ⟨rfl, rfl⟩

/-- These calls one after the other. -/
@[irreducible] def sampleTokenRun (calls : List TokenCall) : List (TokenHistory Blob) × TokenState Blob :=
  scripted (TokenCall.run P) 20
    (calls.map fun k => (k, TokenState.perform (List.replicate 32 7) (List.replicate 12 9)))
    (sampleTokenState dedup)

theorem sampleTokenRun_run {calls : List TokenCall}
    (hended : ∀ k ∈ (sampleTokenRun P dedup calls).1, Ends k.outcome) :
    TokenRun P (sampleTokenState dedup) (sampleTokenRun P dedup calls).1
      (sampleTokenRun P dedup calls).2 := by
  refine Session.lifetimes _ (Session.of_forall (C := anyCall) ?_ hended)
  have hscripted : Session (tokenEnv Blob) (TokenCall.run P) anyCall (sampleTokenState dedup)
      ([] ++ (sampleTokenRun P dedup calls).1) (sampleTokenRun P dedup calls).2 := by
    unfold sampleTokenRun
    exact scripted_session (by simp [TokenState.perform_env]) .start
  rwa [List.nil_append] at hscripted

/-- A commit after them. -/
@[irreducible] def sampleCommitted (calls : List TokenCall) (args : CommitArgs) :
    List (TokenEvent Blob) × Outcome Exc TokenAnswer × TokenState Blob :=
  ((TokenCall.saveCommit args).run P).run
    (fun _ => TokenState.perform (List.replicate 32 7) (List.replicate 12 9)) 20
    (sampleTokenRun P dedup calls).2

theorem sampleCommitted_exec (calls : List TokenCall) (args : CommitArgs) :
    Exec (tokenEnv Blob) ((TokenCall.saveCommit args).run P) (sampleTokenRun P dedup calls).2
      (sampleCommitted P dedup calls args).1 (sampleCommitted P dedup calls args).2.1
      (sampleCommitted P dedup calls args).2.2 := by
  unfold sampleCommitted
  exact run_exec (fun _ => TokenState.perform_env _ _) 20 _ _

end Runs

/-- The arguments of a commit of the first generation. -/
def sampleCommitArgs : CommitArgs where
  operationId := str "o1"
  connectionId := str "c1"
  resultId := str "r1"
  version := 1
  generation := 1
  credentials := sampleCredentials
  ackPending := true

/-- Connect, commit, cancel, and connect again. -/
def sampleTokenCalls : List TokenCall :=
  [.reserveGeneration, .saveCommit sampleCommitArgs, .invalidateCommit (str "o1"),
    .reserveGeneration]

/-- An `invalidate_commit` of `op` that returned. -/
def returnedInvalidate (op : PyStr) (k : TokenHistory Blob) : Bool :=
  match k.key, k.outcome with
  | .invalidateCommit op', .done (.ok _) => op' = op
  | _, _ => false

theorem voided_of_any {calls : List (TokenHistory Blob)} {args : CommitArgs}
    (h : calls.any (returnedInvalidate args.operationId) = true) : Voided calls args := by
  obtain ⟨j, hj, hreturned⟩ := List.any_eq_true.mp h
  unfold returnedInvalidate at hreturned
  split at hreturned
  · rename_i op a hkey hout
    exact ⟨j, hj, ⟨a, hout⟩, .inl (by rw [hkey, of_decide_eq_true hreturned])⟩
  · cases hreturned

/-- The call returned. -/
def storeReturned? : Outcome Exc TokenAnswer → Bool
  | .done (.ok _) => true
  | _ => false

theorem storeReturned_of_true {out : Outcome Exc TokenAnswer} (h : storeReturned? out = true) :
    ∃ a, out = .done (.ok a) := by
  unfold storeReturned? at h
  split at h
  · exact ⟨_, rfl⟩
  · cases h

/-- The store refused. -/
def storeRefused? : Outcome Exc TokenAnswer → Bool
  | .done (.error (.commitInvalidated _)) => true
  | _ => false

theorem storeRefused_of_true {out : Outcome Exc TokenAnswer} (h : storeRefused? out = true) :
    ∃ m, out = .done (.error (.commitInvalidated m)) := by
  unfold storeRefused? at h
  split at h
  · exact ⟨_, rfl⟩
  · cases h

/-- The call voids neither this operation nor any generation. -/
def TokenCall.leaves (operationId : PyStr) : TokenCall → Bool
  | .invalidateCommit operationId' => operationId' ≠ operationId
  | .voidGeneration _ => false
  | _ => true

/-- An operation that is invalidated and then saved. -/
abbrev sampleCancelled : List (TokenHistory PyStr) × TokenState PyStr :=
  sampleTokenRun sampleJsonTokens (str "\x7b\x7d") sampleTokenCalls

/-- What happens in these calls. -/
theorem sampleCancelled_calls : (∀ k ∈ sampleCancelled.1, Ends k.outcome) ∧
    VoidsUnpaired sampleCancelled.1 ∧ issued sampleCancelled.1 = [1, 2] ∧
    sampleCancelled.1.any (returnedInvalidate sampleCommitArgs.operationId) = true := by
  unfold VoidsUnpaired
  decide +kernel

theorem sampleCancelled_run : TokenRun sampleJsonTokens (sampleTokenState (str "\x7b\x7d"))
    sampleCancelled.1 sampleCancelled.2 :=
  sampleTokenRun_run _ _ sampleCancelled_calls.1

/-- The commit again after that. -/
abbrev sampleCancelledCommit : List (TokenEvent PyStr) × Outcome Exc TokenAnswer × TokenState PyStr :=
  sampleCommitted sampleJsonTokens (str "\x7b\x7d") sampleTokenCalls sampleCommitArgs

/-- The commit that was cancelled after it was written cannot be written again. -/
theorem run_voidsPermanent_cancelled :
    (sampleCancelledCommit.2.2 .kv).committed = (sampleCancelled.2 .kv).committed ∧
      ∀ a, sampleCancelledCommit.2.1 ≠ .done (.ok a) := by
  obtain ⟨-, hunpaired, -, hany⟩ := sampleCancelled_calls
  exact (run_voidsPermanent rfl (sampleTokenState_fresh _) sampleCancelled_run hunpaired).1 _ _ _ _
    (voided_of_any hany)
    (sampleCommitted_exec sampleJsonTokens (str "\x7b\x7d") sampleTokenCalls sampleCommitArgs)

/-- Two generations, the second past the first. -/
theorem run_generationsFresh_two :
    issued sampleCancelled.1 = [1, 2] ∧ (issued sampleCancelled.1).Pairwise (· < ·) := by
  obtain ⟨-, hunpaired, hissued, -⟩ := sampleCancelled_calls
  exact ⟨hissued, (run_generationsFresh rfl (sampleTokenState_fresh _) sampleCancelled_run
    hunpaired).1⟩

/-! ### A void that is lost -/

/-- `'\ud83d\ude00'`, which JSON reads back as the one character `sampleEmoji`. -/
def samplePair : PyStr := [0xD83D, 0xDE00]

/-- A code point beyond the basic plane. -/
def sampleEmoji : PyStr := [0x1F600]

/-- Connect, and cancel under that name. -/
def sampleLostCalls : List TokenCall := [.reserveGeneration, .invalidateCommit samplePair]

/-- An operation id in two halves is invalidated, and saved in one. -/
abbrev sampleLost : List (TokenHistory PyStr) × TokenState PyStr :=
  sampleTokenRun sampleJsonTokens (str "\x7b\x7d") sampleLostCalls

/-- The commit of an operation after that. -/
abbrev sampleLostCommit (operationId : PyStr) :
    List (TokenEvent PyStr) × Outcome Exc TokenAnswer × TokenState PyStr :=
  sampleCommitted sampleJsonTokens (str "\x7b\x7d") sampleLostCalls
    { sampleCommitArgs with operationId }

/-- What happens in these calls, and what becomes of the two commits. -/
theorem sampleLost_calls : (∀ k ∈ sampleLost.1, Ends k.outcome) ∧
    issued sampleLost.1 = [sampleCommitArgs.generation] ∧
    (sampleLost.1.any (returnedInvalidate samplePair) = true ∧
      sampleLost.1.all (fun j => TokenCall.leaves sampleEmoji j.key) = true) ∧
    storeReturned? (sampleLostCommit samplePair).2.1 = true ∧
    storeRefused? (sampleLostCommit sampleEmoji).2.1 = true := by
  decide +kernel

theorem sampleLost_run : TokenRun sampleJsonTokens (sampleTokenState (str "\x7b\x7d"))
    sampleLost.1 sampleLost.2 :=
  sampleTokenRun_run _ _ sampleLost_calls.1

/-- The operation that was voided commits: its void is kept under another name. -/
theorem run_void_lost :
    TokenRun sampleJsonTokens (sampleTokenState (str "\x7b\x7d")) sampleLost.1 sampleLost.2 ∧
    Voided sampleLost.1 { sampleCommitArgs with operationId := samplePair } ∧
    ∃ τ a s', Exec (tokenEnv PyStr) ((TokenCall.saveCommit
      { sampleCommitArgs with operationId := samplePair }).run sampleJsonTokens) sampleLost.2 τ
        (.done (.ok a)) s' := by
  obtain ⟨-, -, ⟨hany, -⟩, hreturned, -⟩ := sampleLost_calls
  obtain ⟨a, ha⟩ := storeReturned_of_true hreturned
  have hexec := sampleCommitted_exec sampleJsonTokens (str "\x7b\x7d") sampleLostCalls
    { sampleCommitArgs with operationId := samplePair }
  rw [ha] at hexec
  exact ⟨sampleLost_run, voided_of_any hany, _, a, _, hexec⟩

/-- And a commit under that other name is refused, with a generation that was reserved, though
neither its operation nor any generation was voided. -/
theorem run_generation_refused :
    TokenRun sampleJsonTokens (sampleTokenState (str "\x7b\x7d")) sampleLost.1 sampleLost.2 ∧
    issued sampleLost.1 = [sampleCommitArgs.generation] ∧
    (∃ τ m s', Exec (tokenEnv PyStr) ((TokenCall.saveCommit
      { sampleCommitArgs with operationId := sampleEmoji }).run sampleJsonTokens) sampleLost.2 τ
        (.done (.error (.commitInvalidated m))) s') ∧
    ∀ j ∈ sampleLost.1, j.key ≠ .invalidateCommit sampleEmoji ∧ ∀ g, j.key ≠ .voidGeneration g := by
  obtain ⟨-, hissued, ⟨-, hall⟩, -, hrefused⟩ := sampleLost_calls
  obtain ⟨m, hm⟩ := storeRefused_of_true hrefused
  have hexec := sampleCommitted_exec sampleJsonTokens (str "\x7b\x7d") sampleLostCalls
    { sampleCommitArgs with operationId := sampleEmoji }
  rw [hm] at hexec
  refine ⟨sampleLost_run, hissued, ⟨_, m, _, hexec⟩, fun j hj => ?_⟩
  have hleaves := List.all_eq_true.mp hall j hj
  constructor
  · intro hkey
    rw [hkey] at hleaves
    simp [TokenCall.leaves] at hleaves
  · intro g hkey
    rw [hkey] at hleaves
    cases hleaves

/-- The credentials of the one commit are present, and it wrote its record too. -/
theorem run_paired_present :
    (row sampleTokens (sampleTokenRun sampleTokens {} sampleTokenCalls).2).sealed ≠ .none ∧
    ∃ j ∈ (sampleTokenRun sampleTokens {} sampleTokenCalls).1, ∃ args dek,
      WrittenBy sampleTokens j args dek
        (row sampleTokens (sampleTokenRun sampleTokens {} sampleTokenCalls).2) := by
  have hended : ∀ k ∈ (sampleTokenRun sampleTokens {} sampleTokenCalls).1, Ends k.outcome := by
    decide +kernel
  have hpresent : (row sampleTokens
      (sampleTokenRun sampleTokens {} sampleTokenCalls).2).sealed ≠ .none := by
    intro hnone
    have hkey : ((row sampleTokens
        (sampleTokenRun sampleTokens {} sampleTokenCalls).2).sealed.hashKey).isSome = false := by
      decide +kernel
    rw [hnone] at hkey
    cases hkey
  obtain ⟨j, hj, args, dek, hwritten, -⟩ := (run_paired (sampleTokenState_fresh _)
    (sampleTokenRun_run sampleTokens {} hended) sampleGcm_roundTrips sampleTokens_roundTrip
    sampleCredentialsCodec_roundTrip).1 hpresent
  exact ⟨hpresent, j, hj, args, dek, hwritten⟩

end GmailGateway
