import GmailGateway.Authz.SingleUse

/-!
# GmailGateway.Authz.AntiRollback

**The high-water mark under interleavings.** `_sync_and_accept` reads the mark, compares
it with the head's version and raises the mark in separate operations. The mark never
decreases and is only raised to versions of verified heads. But between a call's
comparison and its raise another call may raise the mark further, and `raise_to` ignores a
version below the mark: the call then goes on with a head older than the mark.

What holds is what is left when nobody passes a call that is about to raise
(`Undisturbed`).
-/

namespace GmailGateway

open Effect Proc Python

namespace AuthorizationGate

section Pool
variable {P : Platform} {cfg : GateConfig P} {requests : Nat → AuthorizationRequest}
  {expected : Nat → PyStr} {mayRaise : GateOp → Exc → Prop} {s₀ : GateState}
  {c c' : Config (GateSig P) Exc Authorization GateState} {t : Nat} {e : GateEvent P}

/-- The version a procedure raises the mark to next. -/
def nextRaise : GateProc P Authorization → Option Int
  | .op (.hwRaise v) _ => some v
  | _ => none

theorem nextRaise_eq_some {p : GateProc P Authorization} {v : Int} :
    nextRaise p = some v ↔ ∃ k, p = .op (.hwRaise v) k := by
  constructor
  · intro h
    unfold nextRaise at h
    split at h
    · cases h
      exact ⟨_, rfl⟩
    · cases h
  · intro hspec
    obtain ⟨k, rfl⟩ := hspec
    rfl

/-- The call has compared its head with the mark and raises the mark to `v` next. -/
def AboutToRaise (c : Config (GateSig P) Exc Authorization GateState) (t : Nat) (v : Int) : Prop :=
  nextRaise (c.threads t) = some v

/-- **The condition.** The step does not advance the mark past the version of a head that
another call is about to raise it to. -/
def Undisturbed (c : Config (GateSig P) Exc Authorization GateState) (t : Nat)
    (e : GateEvent P) : Prop :=
  ∀ w, e.op = .hwRaise w → c.state.mark < w → ∀ u v, u ≠ t → AboutToRaise c u v → w ≤ v

/-- A call about to raise has just read a mark that is not above its version. -/
theorem guard_of_aboutToRaise {C} {u : Nat} {v : Int}
    (h : Run (gateEnv mayRaise) C (calls cfg requests expected s₀) c) (hu : AboutToRaise c u v) :
    Guard cfg (requests u) (expected u) (.hwRaise v) (eventsOf u c.history) := by
  obtain ⟨k, hk⟩ := nextRaise_eq_some.mp hu
  have hsat := (calls_local h u).2
  rw [hk] at hsat
  have hguard := (hsat (.ok ()) () trivial).1
  exact hguard _ ⟨.hwRaise v, .ok ()⟩ List.prefix_rfl

/-! ### What holds of every interleaving -/

/-- The version of a verified head that was delivered to a call. -/
def DeliveredVersion (cfg : GateConfig P) (history : List (Nat × GateEvent P)) (v : Int) : Prop :=
  ∃ t env synced, (t, (⟨.sync, .ok env⟩ : GateEvent P)) ∈ history ∧
    verifySync P cfg env = .ok synced ∧ synced.stateVersionInt = v

/-- The mark as it was, or the version of a verified head. -/
theorem mark_origin {C} (h : Run (gateEnv mayRaise) C (calls cfg requests expected s₀) c) :
    c.state.mark = s₀.mark ∨ DeliveredVersion cfg c.history c.state.mark := by
  induction h with
  | start => exact .inl rfl
  | @step c t e c' hrun _ hs ih =>
      have hold {v : Int} (hv : DeliveredVersion cfg c.history v) :
          DeliveredVersion cfg c'.history v := by
        obtain ⟨u, env, synced, hmem, hsync⟩ := hv
        exact ⟨u, env, synced, by rw [hs.history_eq]; exact List.mem_append_left _ hmem, hsync⟩
      by_cases hmark : c'.state.mark = c.state.mark
      · rw [hmark]
        exact ih.imp id hold
      · -- only a raise changes the mark, to the version of the raising call's head
        cases hs with
        | @perform o k r s' hk hw =>
            obtain ⟨v, rfl, hs'⟩ : ∃ v, o = .hwRaise v ∧
                s' = { c.state with mark := raiseTo c.state.mark v } := by
              rcases gateEnv_cases hw with rfl | ⟨v, rfl, hs'⟩ | ⟨_, _, -, rfl⟩ |
                ⟨_, _, _, -, -, rfl⟩ | ⟨_, -, rfl⟩
              · exact absurd rfl hmark
              · exact ⟨v, rfl, hs'⟩
              · exact absurd rfl hmark
              · exact absurd rfl hmark
              · exact absurd rfl hmark
            obtain ⟨env, synced, hw', hmem, hsync, rfl, -⟩ := guard_of_aboutToRaise hrun (nextRaise_eq_some.mpr ⟨k, hk⟩)
            refine .inr (hold ⟨t, env, synced, mem_eventsOf.mp hmem, hsync, ?_⟩)
            show synced.stateVersionInt = s'.mark
            have hne : s'.mark ≠ c.state.mark := hmark
            rw [hs'] at hne ⊢
            simp only [raiseTo] at hne ⊢
            split <;> simp_all

theorem mark_mono {C} (h : Run (gateEnv (P := P) mayRaise) C c c') : c.state.mark ≤ c'.state.mark := by
  induction h with
  | start => exact le_rfl
  | step _ _ hs ih => exact ih.trans (mark_le hs.answer)

/-! ### What the condition gives -/

/-- The invariant: nobody who is about to raise has been passed. -/
theorem mark_le_of_aboutToRaise
    (h : Run (gateEnv mayRaise) Undisturbed (calls cfg requests expected s₀) c) :
    ∀ u v, AboutToRaise c u v → c.state.mark ≤ v := by
  induction h with
  | start =>
      intro u v hu
      cases hu
  | @step c t e c' hrun hC hs ih =>
      intro u v hu
      have hrun' := hrun.step hC hs
      by_cases htu : u = t
      · -- its last operation read the mark
        subst htu
        obtain ⟨env, synced, hw, -, -, -, hlast, hle⟩ := guard_of_aboutToRaise hrun' hu
        cases hs with
        | @perform o k r s' hk hw' =>
            simp only [eventsOf_append_self, List.getLast?_append, List.getLast?_singleton,
              Option.some_or, Option.some.injEq] at hlast
            cases hlast
            obtain ⟨rfl, rfl⟩ := hw'
            exact hle
      · have hold : AboutToRaise c u v := by
          rwa [AboutToRaise, hs.threads_of_ne htu] at hu
        have hmark := ih u v hold
        cases hs with
        | @perform o k r s' hk hw' =>
            show s'.mark ≤ v
            rcases gateEnv_cases hw' with rfl | ⟨w, rfl, rfl⟩ | ⟨_, _, -, rfl⟩ |
              ⟨_, _, _, -, -, rfl⟩ | ⟨_, -, rfl⟩
            · exact hmark
            · show raiseTo c.state.mark w ≤ v
              rw [raiseTo_eq_max]
              by_cases hw : c.state.mark < w
              · have := hC w rfl hw u v htu hold
                omega
              · omega
            · exact hmark
            · exact hmark
            · exact hmark

/-- **Anti-rollback.** In every run in which nobody passes a call that is about to raise, the
mark only grows, to versions of verified heads, and a call that raised it goes on with a
head that is not below it. -/
theorem calls_antiRollback
    (h : Run (gateEnv mayRaise) Undisturbed (calls cfg requests expected s₀) c) :
    (c.state.mark = s₀.mark ∨ DeliveredVersion cfg c.history c.state.mark) ∧
      ∀ t e c', Step (gateEnv mayRaise) c t e c' → c.state.mark ≤ c'.state.mark ∧
        ∀ v u, e = ⟨.hwRaise v, .ok u⟩ → c'.state.mark ≤ v := by
  refine ⟨mark_origin h, fun t e c' hs => ⟨mark_le hs.answer, ?_⟩⟩
  rintro v u rfl
  cases hs with
  | @perform o k r s' hk hw =>
      have hle := mark_le_of_aboutToRaise h t v (nextRaise_eq_some.mpr ⟨k, hk⟩)
      have hs' : s' = { c.state with mark := raiseTo c.state.mark v } := hw
      show s'.mark ≤ v
      rw [hs']
      show raiseTo c.state.mark v ≤ v
      rw [raiseTo_eq_max]
      omega

end Pool

/-! ### Two heads at once -/

/-- The first call is delivered version 1 and the others version 2. -/
def twoHeads (ts : List Nat) : Config (GateSig samplePlatform) Exc Authorization GateState :=
  sameCalls.schedule
    (fun t => GateState.perform
      (sampleScript (sampleHead (if t = 0 then "1" else "2")) .auto .osAccount (str "d1")
        (str "x1"))) ts

theorem twoHeads_run (ts : List Nat) : Run (gateEnv reliable) anyStep sameCalls (twoHeads ts) :=
  Config.schedule_anyStep (fun _ s o => s.perform_env reliable _ o) _ _

/-- A call that is about to raise raises. -/
theorem twoHeads_step {ts : List Nat} {t : Nat} {v : Int} (h : AboutToRaise (twoHeads ts) t v) :
    ∃ c', Step (gateEnv reliable) (twoHeads ts) t ⟨.hwRaise v, .ok ()⟩ c' ∧
      c'.state.mark = raiseTo (twoHeads ts).state.mark v := by
  obtain ⟨k, hk⟩ := nextRaise_eq_some.mp h
  exact ⟨_, .perform (r := .ok ()) hk rfl, rfl⟩

/-- Version 1 is compared with the mark, version 2 is raised to, and the first call goes on
with version 1 under the mark 2. -/
theorem calls_rollback :
    ¬ ∀ (P : Platform) (cfg : GateConfig P) (requests : Nat → AuthorizationRequest)
      (expected : Nat → PyStr) (s₀ : GateState)
      (c c' : Config (GateSig P) Exc Authorization GateState) (t : Nat) (v : Int) (u : Unit),
      Run (gateEnv reliable) anyStep (calls cfg requests expected s₀) c →
      Step (gateEnv reliable) c t ⟨.hwRaise v, .ok u⟩ c' → c'.state.mark ≤ v := by
  intro hclaim
  have hnext : AboutToRaise (twoHeads [0, 0, 0, 1, 1, 1, 1]) 0 1 := by
    show nextRaise _ = some 1
    decide +kernel
  obtain ⟨c', hstep, hmark⟩ := twoHeads_step hnext
  have hle := hclaim _ _ _ _ _ _ _ _ _ _ (twoHeads_run _) hstep
  rw [hmark] at hle
  exact absurd hle (by decide +kernel)

/-- `Undisturbed`, tested on the calls that have done something. -/
def undisturbed (c : Config (GateSig samplePlatform) Exc Authorization GateState) (t : Nat)
    (e : GateEvent samplePlatform) : Bool :=
  match e.op with
  | .hwRaise w => c.history.all fun x =>
      x.1 = t || (nextRaise (c.threads x.1)).all fun v => decide (w ≤ v)
  | _ => true

theorem undisturbed_sound {c : Config (GateSig samplePlatform) Exc Authorization GateState}
    {t : Nat} {e : GateEvent samplePlatform} (hrun : Run (gateEnv reliable) Undisturbed sameCalls c)
    (h : undisturbed c t e = true) : Undisturbed c t e := by
  intro w hw _ u v hu hv
  -- A call that has done nothing is not about to raise.
  have hstarted : eventsOf u c.history ≠ [] := by
    intro hnil
    rw [AboutToRaise, hrun.threads_of_eventsOf_nil hnil] at hv
    cases hv
  obtain ⟨e', he'⟩ := exists_mem_of_eventsOf hstarted
  simp only [undisturbed, hw, List.all_eq_true, Bool.or_eq_true, decide_eq_true_eq] at h
  have hall := (h _ he').resolve_left hu
  rw [show nextRaise (c.threads u) = some v from hv] at hall
  exact of_decide_eq_true hall

/-- Both calls compare their heads with the mark, the one with the older head raises first: the
raise of the other leaves the mark at its version. -/
theorem calls_antiRollback_twoHeads :
    ∃ c', Step (gateEnv reliable) (twoHeads [0, 1, 0, 1, 0, 1, 0]) 1 ⟨.hwRaise 2, .ok ()⟩ c' ∧
      (twoHeads [0, 1, 0, 1, 0, 1, 0]).state.mark = 1 ∧ c'.state.mark ≤ 2 := by
  have hnext : AboutToRaise (twoHeads [0, 1, 0, 1, 0, 1, 0]) 1 2 := by
    show nextRaise _ = some 2
    decide +kernel
  have hrun : Run (gateEnv reliable) Undisturbed sameCalls (twoHeads [0, 1, 0, 1, 0, 1, 0]) :=
    Config.schedule_of_passes (fun _ s o => s.perform_env reliable _ o)
      (fun _ _ _ => undisturbed_sound) _ _ .start (by decide +kernel)
  obtain ⟨c', hstep, -⟩ := twoHeads_step hnext
  exact ⟨c', hstep, by decide +kernel, ((calls_antiRollback hrun).2 _ _ _ hstep).2 2 () rfl⟩

end AuthorizationGate

end GmailGateway
