import GmailGateway.Effect.Session

/-!
# GmailGateway.Effect.Pool

**Interleaved procedures.** A pool of procedures shares one state; a step lets one
thread perform its next operation, atomically, in the surroundings `W`. Any
number of threads and every order of their operations is a `Run`.

A thread sees the others only through the answers it gets, so what holds of a
procedure under *every* answer (`Proc.sat` in `anyAnswer`) holds of that thread's
own events in every run (`Run.localEvents`). Claims about interleavings are proved
from these local protocols and from what one atomic operation does to the state,
without opening the procedures again.
-/

namespace GmailGateway.Effect

variable {S : Signature} {ε α σ : Type}

/-- The shared state, everything performed so far, and what every thread still
has to do. -/
structure Config (S : Signature) (ε α σ : Type) where
  state : σ
  history : List (Nat × Event S ε)
  threads : Nat → Proc S ε α

/-- A pool about to start. -/
def Config.start (s : σ) (threads : Nat → Proc S ε α) : Config S ε α σ :=
  ⟨s, [], threads⟩

/-- The events of one thread, in order. -/
def eventsOf (t : Nat) (history : List (Nat × Event S ε)) : List (Event S ε) :=
  (history.filter (·.1 = t)).map (·.2)

@[simp] theorem eventsOf_nil (t : Nat) : eventsOf t ([] : List (Nat × Event S ε)) = [] := rfl

@[simp] theorem eventsOf_append_self (t : Nat) (h : List (Nat × Event S ε)) (e : Event S ε) :
    eventsOf t (h ++ [(t, e)]) = eventsOf t h ++ [e] := by
  simp [eventsOf]

theorem eventsOf_append_of_ne {t u : Nat} (hne : u ≠ t) (h : List (Nat × Event S ε))
    (e : Event S ε) : eventsOf u (h ++ [(t, e)]) = eventsOf u h := by
  simp [eventsOf, hne.symm]

/-- An event of a thread is an event of the history, and conversely. -/
theorem mem_eventsOf {t : Nat} {h : List (Nat × Event S ε)} {e : Event S ε} :
    e ∈ eventsOf t h ↔ (t, e) ∈ h := by
  simp only [eventsOf, List.mem_map, List.mem_filter, decide_eq_true_eq]
  constructor
  · intro hspec
    obtain ⟨⟨u, e'⟩, ⟨hm, rfl⟩, rfl⟩ := hspec
    exact hm
  · intro hm
    exact ⟨(t, e), ⟨hm, rfl⟩, rfl⟩

/-- A thread that has performed something is in the history. -/
theorem exists_mem_of_eventsOf {t : Nat} {h : List (Nat × Event S ε)} (hne : eventsOf t h ≠ []) :
    ∃ e, (t, e) ∈ h := by
  obtain ⟨e, he⟩ := List.exists_mem_of_ne_nil _ hne
  exact ⟨e, mem_eventsOf.mp he⟩

/-- What only one thread performs is seen in its events, in the same order. -/
theorem filter_eventsOf {t : Nat} {h : List (Nat × Event S ε)} {p : Event S ε → Bool}
    (hp : ∀ x ∈ h, p x.2 = true → x.1 = t) :
    (eventsOf t h).filter p = (h.map Prod.snd).filter p := by
  induction h with
  | nil => rfl
  | cons x h ih =>
      rw [List.forall_mem_cons] at hp
      rw [List.map_cons, List.filter_cons, ← ih hp.2]
      by_cases hx : x.1 = t
      · simp [eventsOf, hx, List.filter_cons]
      · have hfalse : p x.2 = false := by
          by_contra htrue
          exact hx (hp.1 (by simpa using htrue))
        simp [eventsOf, hx, hfalse]

/-- One step: thread `t` performs its next operation. -/
inductive Step (W : Env S ε σ) :
    Config S ε α σ → Nat → Event S ε → Config S ε α σ → Prop
  | perform {c : Config S ε α σ} {t o k r s'} : c.threads t = .op o k → W c.state o r s' →
      Step W c t ⟨o, r⟩ ⟨s', c.history ++ [(t, ⟨o, r⟩)], Function.update c.threads t (k r)⟩

/-- A run from `c₀` all of whose steps meet the condition `C`. -/
inductive Run (W : Env S ε σ) (C : Config S ε α σ → Nat → Event S ε → Prop)
    (c₀ : Config S ε α σ) : Config S ε α σ → Prop
  | start : Run W C c₀ c₀
  | step {c t e c'} : Run W C c₀ c → C c t e → Step W c t e c' → Run W C c₀ c'

/-- No condition on the schedule. -/
abbrev anyStep : Config S ε α σ → Nat → Event S ε → Prop := fun _ _ _ => True

section
variable {W : Env S ε σ} {C : Config S ε α σ → Nat → Event S ε → Prop}
  {c₀ c c' : Config S ε α σ} {t : Nat} {e : Event S ε}

theorem Step.history_eq (h : Step W c t e c') : c'.history = c.history ++ [(t, e)] := by
  cases h; rfl

theorem Step.answer (h : Step W c t e c') : W c.state e.op e.ans c'.state := by
  cases h; assumption

/-- A step adds its event to those of its thread. -/
theorem Step.mem_eventsOf (h : Step W c t e c') {u : Nat} {e' : Event S ε} :
    e' ∈ eventsOf u c'.history ↔ e' ∈ eventsOf u c.history ∨ u = t ∧ e' = e := by
  simp only [Effect.mem_eventsOf, h.history_eq, List.mem_append, List.mem_singleton,
    Prod.mk.injEq]

theorem Step.eventsOf_mono (h : Step W c t e c') {u : Nat} {e' : Event S ε}
    (he' : e' ∈ eventsOf u c.history) : e' ∈ eventsOf u c'.history :=
  h.mem_eventsOf.mpr (.inl he')

/-- The thread's guard held when it made the step. -/
theorem Step.guard {G : S.Op → List (Event S ε) → Prop} (h : Step W c t e c')
    (hG : Guarded G (eventsOf t c'.history)) : G e.op (eventsOf t c.history) := by
  rw [h.history_eq, eventsOf_append_self] at hG
  exact hG _ _ List.prefix_rfl

/-- A step leaves the other threads where they are. -/
theorem Step.threads_of_ne (h : Step W c t e c') {u : Nat} (hne : u ≠ t) :
    c'.threads u = c.threads u := by
  cases h
  exact Function.update_of_ne hne _ _

/-- A thread that has performed nothing stands where it started. -/
theorem Run.threads_of_eventsOf_nil (h : Run W C c₀ c) {u : Nat} (hu : eventsOf u c.history = []) :
    c.threads u = c₀.threads u := by
  induction h with
  | start => rfl
  | @step c₁ t e c₂ _ _ hstep ih =>
      have hne : u ≠ t := by
        rintro rfl
        rw [hstep.history_eq, eventsOf_append_self] at hu
        exact List.append_ne_nil_of_right_ne_nil _ (List.cons_ne_nil e []) hu
      rw [hstep.history_eq, eventsOf_append_of_ne hne] at hu
      rw [hstep.threads_of_ne hne, ih hu]

/-- The steps of a run only extend its history. -/
theorem Run.history_prefix (h : Run W C c c') : c.history <+: c'.history := by
  induction h with
  | start => exact List.prefix_rfl
  | step _ _ hs ih => exact ih.trans ⟨_, hs.history_eq.symm⟩

/-- A condition that implies another one restricts the runs. -/
theorem Run.mono {C' : Config S ε α σ → Nat → Event S ε → Prop}
    (hC : ∀ c t e, C c t e → C' c t e) (h : Run W C c₀ c) : Run W C' c₀ c := by
  induction h with
  | start => exact .start
  | step _ hc hs ih => exact ih.step (hC _ _ _ hc) hs

theorem Run.trans (h : Run W C c₀ c) (h' : Run W C c c') : Run W C c₀ c' := by
  induction h' with
  | start => exact h
  | step _ hc hs ih => exact ih.step hc hs

/-- **Locality.** What a thread's procedure guarantees under every allowed answer
holds of that thread's events, and of its result, in every run of the pool. -/
theorem Run.localEvents {A : (o : S.Op) → Except ε (S.Ret o) → Prop}
    {J : Nat → List (Event S ε) → Prop} {Q : Nat → Except ε α → List (Event S ε) → Prop}
    (hA : ∀ s o r s', W s o r s' → A o r) (hJ : ∀ t, J t []) (h₀ : c₀.history = [])
    (hp : ∀ t, (c₀.threads t).sat (anyAnswer A) (fun τ _ => J t τ) (fun r τ _ => Q t r τ) [] ())
    (h : Run W C c₀ c) (t : Nat) :
    J t (eventsOf t c.history) ∧
      (c.threads t).sat (anyAnswer A) (fun τ _ => J t τ) (fun r τ _ => Q t r τ)
        (eventsOf t c.history) () := by
  induction h with
  | start => rw [h₀]; exact ⟨hJ t, hp t⟩
  | @step c u e c' _ _ hs ih =>
      obtain ⟨hj, hsat⟩ := ih
      cases hs with
      | @perform o k r s' hu hw =>
          by_cases htu : t = u
          · subst htu
            rw [hu] at hsat
            simp only [eventsOf_append_self, Function.update_self]
            exact hsat r () (hA _ _ _ _ hw)
          · simp only [eventsOf_append_of_ne htu, Function.update_of_ne htu]
            exact ⟨hj, hsat⟩

/-- The same, where the steps of the run restrict what each thread is answered. -/
theorem Run.localAnswers {A : Nat → Event S ε → Prop} {J : Nat → List (Event S ε) → Prop}
    {Q : Nat → Except ε α → List (Event S ε) → Prop} (hA : ∀ c t e, C c t e → A t e)
    (hJ : ∀ t, J t []) (h₀ : c₀.history = [])
    (hp : ∀ t, (c₀.threads t).sat (anyAnswer fun o r => A t ⟨o, r⟩) (fun τ _ => J t τ)
      (fun r τ _ => Q t r τ) [] ())
    (h : Run W C c₀ c) (t : Nat) :
    J t (eventsOf t c.history) ∧
      (c.threads t).sat (anyAnswer fun o r => A t ⟨o, r⟩) (fun τ _ => J t τ)
        (fun r τ _ => Q t r τ) (eventsOf t c.history) () := by
  induction h with
  | start => rw [h₀]; exact ⟨hJ t, hp t⟩
  | @step c u e c' _ hC hs ih =>
      obtain ⟨hj, hsat⟩ := ih
      cases hs with
      | @perform o k r s' hu hw =>
          by_cases htu : t = u
          · subst htu
            rw [hu] at hsat
            simp only [eventsOf_append_self, Function.update_self]
            exact hsat r () (hA _ _ _ hC)
          · simp only [eventsOf_append_of_ne htu, Function.update_of_ne htu]
            exact ⟨hj, hsat⟩

/-- A run performs what its threads perform at all. -/
theorem Run.performs {P : Nat → S.Op → Prop} (hp : ∀ t, (c₀.threads t).Performs (P t))
    (h₀ : c₀.history = []) (h : Run W C c₀ c) :
    (∀ x ∈ c.history, P x.1 x.2.op) ∧ ∀ t, (c.threads t).Performs (P t) := by
  induction h with
  | start => exact ⟨by simp [h₀], hp⟩
  | @step c u e c' _ _ hs ih =>
      obtain ⟨hhist, hthreads⟩ := ih
      cases hs with
      | @perform o k r s' hu _ =>
          have hop : (Proc.op o k).Performs (P u) := hu ▸ hthreads u
          constructor
          · intro x hx
            rcases List.mem_append.mp hx with hx | hx
            · exact hhist x hx
            · rw [List.mem_singleton.mp hx]
              exact hop.1
          · intro t
            by_cases htu : t = u
            · subst htu
              simp only [Function.update_self]
              exact hop.2 r
            · simp only [Function.update_of_ne htu]
              exact hthreads t

/-- A thread whose operations are always answered can run to its end. -/
theorem Run.finishes {P : S.Op → Prop} (hW : ∀ s o, P o → ∃ r s', W s o r s')
    (hp : (c.threads t).Performs P) :
    ∃ c' r, Run W anyStep c c' ∧ c'.threads t = Proc.embed r := by
  generalize hthread : c.threads t = p at hp
  induction p generalizing c with
  | ret a => exact ⟨c, .ok a, .start, hthread⟩
  | raise e => exact ⟨c, .error e, .start, hthread⟩
  | op o k ih =>
      obtain ⟨r, s', hans⟩ := hW c.state o hp.1
      have hstep := Step.perform (W := W) hthread hans
      have hnext : (Config.mk s' (c.history ++ [(t, ⟨o, r⟩)])
          (Function.update c.threads t (k r))).threads t = k r := Function.update_self ..
      obtain ⟨c', r', hrun, hend⟩ := ih r hnext (hp.2 r)
      exact ⟨c', r', (Run.start.step trivial hstep).trans hrun, hend⟩

/-- **One winner.** A key that is held from the event that wins it on, and won only while
it is not held, is won by at most one event of a run. -/
theorem Run.unique_winner {κ : Type} {won : Event S ε → κ → Prop} (held : σ → κ → Prop)
    (hkeep : ∀ s o r s' k, W s o r s' → held s k → held s' k)
    (hwin : ∀ s o r s' k, W s o r s' → won ⟨o, r⟩ k → ¬ held s k ∧ held s' k)
    (h₀ : c₀.history = []) (h : Run W C c₀ c) :
    (∀ x ∈ c.history, ∀ k, won x.2 k → held c.state k) ∧
      c.history.Pairwise fun x y => ∀ k, won x.2 k → ¬ won y.2 k := by
  induction h with
  | start => simp [h₀]
  | @step c t e c' _ _ hs ih =>
      obtain ⟨hheld, hpair⟩ := ih
      have hans := hs.answer
      rw [hs.history_eq]
      constructor
      · intro x hx k hk
        rcases List.mem_append.mp hx with hx | hx
        · exact hkeep _ _ _ _ _ hans (hheld x hx k hk)
        · rw [List.mem_singleton.mp hx] at hk
          exact (hwin _ _ _ _ _ hans hk).2
      · refine List.pairwise_append.mpr ⟨hpair, List.pairwise_singleton _ _, ?_⟩
        intro x hx y hy k hxk hyk
        rw [List.mem_singleton.mp hy] at hyk
        exact (hwin _ _ _ _ _ hans hyk).1 (hheld x hx k hxk)

/-- The threads of two events that win one key are one thread. -/
theorem Run.winner_thread {κ : Type} {won : Event S ε → κ → Prop} (held : σ → κ → Prop)
    (hkeep : ∀ s o r s' k, W s o r s' → held s k → held s' k)
    (hwin : ∀ s o r s' k, W s o r s' → won ⟨o, r⟩ k → ¬ held s k ∧ held s' k)
    (h₀ : c₀.history = []) (h : Run W C c₀ c) {t u : Nat} {e e' : Event S ε} {k : κ}
    (ht : e ∈ eventsOf t c.history) (hu : e' ∈ eventsOf u c.history) (he : won e k)
    (he' : won e' k) : t = u := by
  have hpair := (h.unique_winner held hkeep hwin h₀).2
  by_contra hne
  have hnot : ∀ x ∈ c.history, ∀ y ∈ c.history, x ≠ y → won x.2 k → ¬ won y.2 k :=
    fun x hx y hy hxy => by
      have hget := List.pairwise_iff_getElem.mp hpair
      obtain ⟨i, hi, rfl⟩ := List.getElem_of_mem hx
      obtain ⟨j, hj, rfl⟩ := List.getElem_of_mem hy
      rcases Nat.lt_trichotomy i j with hij | rfl | hji
      · exact hget i j hi hj hij k
      · exact absurd rfl hxy
      · exact fun h₁ h₂ => hget j i hj hi hji k h₂ h₁
  refine hnot _ (mem_eventsOf.mp ht) _ (mem_eventsOf.mp hu) (fun h => hne ?_) he he'
  exact congrArg Prod.fst h

end

/-! ### Running a schedule -/

/-- Let the listed threads take one step each, with the answers of `h`; a thread
that has finished is skipped. -/
def Config.schedule (h : Nat → σ → (o : S.Op) → Except ε (S.Ret o) × σ) :
    List Nat → Config S ε α σ → Config S ε α σ
  | [], c => c
  | t :: ts, c =>
      match c.threads t with
      | .op o k =>
          Config.schedule h ts ⟨(h t c.state o).2, c.history ++ [(t, ⟨o, (h t c.state o).1⟩)],
            Function.update c.threads t (k (h t c.state o).1)⟩
      | _ => Config.schedule h ts c

theorem Config.schedule_append (h : Nat → σ → (o : S.Op) → Except ε (S.Ret o) × σ)
    (ts us : List Nat) (c : Config S ε α σ) :
    c.schedule h (ts ++ us) = (c.schedule h ts).schedule h us := by
  induction ts generalizing c with
  | nil => rfl
  | cons t ts ih =>
      simp only [List.cons_append, schedule]
      split <;> exact ih _

/-- A schedule is a run, in any surroundings that allow the answers: its steps meet the
condition `C` if an invariant `I` of the scheduled threads ensures it. -/
theorem Config.schedule_run {W : Env S ε σ} {C : Config S ε α σ → Nat → Event S ε → Prop}
    {h : Nat → σ → (o : S.Op) → Except ε (S.Ret o) × σ} {I : Config S ε α σ → Prop}
    (hW : ∀ t s o, W s o (h t s o).1 (h t s o).2) :
    ∀ (ts : List Nat) (c : Config S ε α σ),
      (∀ c t e c', t ∈ ts → I c → Step W c t e c' → C c t e ∧ I c') → I c →
      Run W C c (c.schedule h ts)
  | [], _, _, _ => .start
  | t :: ts, c, hI, hc => by
      have hts : ∀ c u e c', u ∈ ts → I c → Step W c u e c' → C c u e ∧ I c' :=
        fun c u e c' hu => hI c u e c' (List.mem_cons_of_mem _ hu)
      unfold Config.schedule
      split
      · rename_i o k hk
        have hstep := Step.perform (W := W) hk (hW t c.state o)
        obtain ⟨hC, hc'⟩ := hI c t _ _ List.mem_cons_self hc hstep
        exact (Run.start.step hC hstep).trans (schedule_run hW ts _ hts hc')
      · exact schedule_run hW ts c hts hc

/-- Without a condition every schedule is a run. -/
theorem Config.schedule_anyStep {W : Env S ε σ}
    {h : Nat → σ → (o : S.Op) → Except ε (S.Ret o) × σ}
    (hW : ∀ t s o, W s o (h t s o).1 (h t s o).2) (ts : List Nat) (c : Config S ε α σ) :
    Run W anyStep c (c.schedule h ts) :=
  schedule_run (I := fun _ => True) hW ts c (fun _ _ _ _ _ _ _ => ⟨trivial, trivial⟩) trivial

/-- Whether every step of a schedule passes a test. -/
def Config.passes (h : Nat → σ → (o : S.Op) → Except ε (S.Ret o) × σ)
    (test : Config S ε α σ → Nat → Event S ε → Bool) : List Nat → Config S ε α σ → Bool
  | [], _ => true
  | t :: ts, c =>
      match c.threads t with
      | .op o k =>
          test c t ⟨o, (h t c.state o).1⟩ &&
            Config.passes h test ts ⟨(h t c.state o).2,
              c.history ++ [(t, ⟨o, (h t c.state o).1⟩)],
              Function.update c.threads t (k (h t c.state o).1)⟩
      | _ => Config.passes h test ts c

/-- A schedule that passes a test is a run under a condition, if the test ensures the condition
wherever the schedule gets. -/
theorem Config.schedule_of_passes {W : Env S ε σ}
    {C : Config S ε α σ → Nat → Event S ε → Prop}
    {h : Nat → σ → (o : S.Op) → Except ε (S.Ret o) × σ}
    {test : Config S ε α σ → Nat → Event S ε → Bool} {c₀ : Config S ε α σ}
    (hW : ∀ t s o, W s o (h t s o).1 (h t s o).2)
    (htest : ∀ c t e, Run W C c₀ c → test c t e = true → C c t e) :
    ∀ (ts : List Nat) (c : Config S ε α σ), Run W C c₀ c → c.passes h test ts = true →
      Run W C c₀ (c.schedule h ts)
  | [], _, hrun, _ => hrun
  | t :: ts, c, hrun, hc => by
      unfold Config.passes at hc
      unfold Config.schedule
      split at hc
      · rename_i o k hk
        rw [Bool.and_eq_true] at hc
        have hstep := Step.perform (W := W) hk (hW t c.state o)
        exact schedule_of_passes hW htest ts _ (hrun.step (htest c t _ hrun hc.1) hstep) hc.2
      · exact schedule_of_passes hW htest ts c hrun hc

end GmailGateway.Effect
