import GmailGateway.Effect.Pool
import GmailGateway.Effect.Implement

/-!
# GmailGateway.Effect.Hiding

**Operations that do not count.** A pool of threads may do what another pool does and, in between,
operations that leave the state alone, such as reading a request and answering it. `view` says of an
event what it is to the other pool, `none` where it is nothing.

`Refines view good p q`: on good answers, what is visible of `p` is what `q` does, as far as it
gets. A run of threads that refine others is a run of the others, with the events that are visible
(`Run.view`).
-/

namespace GmailGateway.Effect

open Proc

variable {S T : Signature} {ε α β γ σ ρ : Type}

/-- What `p` visibly does is a beginning of what `q` does. -/
inductive Refines (view : Event T ε → Option (Event S ε)) (good : Event T ε → Prop) :
    Proc T ε α → Proc S ε β → Prop
  | ret {a q} : Refines view good (.ret a) q
  | raise {e q} : Refines view good (.raise e) q
  | hides {o k q} : (∀ r, good ⟨o, r⟩ → view ⟨o, r⟩ = none) →
      (∀ r, good ⟨o, r⟩ → Refines view good (k r) q) → Refines view good (.op o k) q
  | shows {o o' k k'} (ans : Except ε (T.Ret o) → Except ε (S.Ret o')) :
      (∀ r, good ⟨o, r⟩ → view ⟨o, r⟩ = some ⟨o', ans r⟩) →
      (∀ r, good ⟨o, r⟩ → Refines view good (k r) (k' (ans r))) →
      Refines view good (.op o k) (.op o' k')

/-- The visible events of a history. -/
def viewed (view : Event T ε → Option (Event S ε)) (h : List (Nat × Event T ε)) :
    List (Nat × Event S ε) :=
  h.filterMap fun x => (view x.2).map (x.1, ·)

section
variable {view : Event T ε → Option (Event S ε)} {good : Event T ε → Prop}

/-! ### Visible events -/

@[simp] theorem viewed_nil : viewed view ([] : List (Nat × Event T ε)) = [] := rfl

@[simp] theorem viewed_append (h h' : List (Nat × Event T ε)) :
    viewed view (h ++ h') = viewed view h ++ viewed view h' :=
  List.filterMap_append

/-- A thread's visible events are the visible ones of its events. -/
theorem eventsOf_viewed (t : Nat) (h : List (Nat × Event T ε)) :
    eventsOf t (viewed view h) = (eventsOf t h).filterMap view := by
  induction h with
  | nil => rfl
  | cons x h ih =>
      obtain ⟨u, e⟩ := x
      have hrest : viewed view ((u, e) :: h) = viewed view [(u, e)] ++ viewed view h :=
        viewed_append [(u, e)] h
      have hevents : eventsOf t (viewed view ((u, e) :: h)) =
          eventsOf t (viewed view [(u, e)]) ++ (eventsOf t h).filterMap view := by
        rw [hrest, ← ih]
        simp [eventsOf]
      rw [hevents]
      by_cases hut : u = t <;> cases hview : view e <;>
        simp [eventsOf, viewed, hview, hut]

theorem mem_viewed {h : List (Nat × Event T ε)} {t : Nat} {e' : Event S ε} :
    (t, e') ∈ viewed view h ↔ ∃ e, (t, e) ∈ h ∧ view e = some e' := by
  simp only [viewed, List.mem_filterMap, Option.map_eq_some_iff, Prod.mk.injEq, Prod.exists]
  constructor
  · intro hmem
    obtain ⟨u, e, hmem, e'', hview, rfl, rfl⟩ := hmem
    exact ⟨e, hmem, hview⟩
  · intro hmem
    obtain ⟨e, hmem, hview⟩ := hmem
    exact ⟨t, e, hmem, e', hview, rfl, rfl⟩

/-! ### Procedures -/

/-- A procedure none of whose operations is visible refines every other. -/
theorem Refines.of_hidden {P : T.Op → Prop} {p : Proc T ε α} {q : Proc S ε β} (hp : p.Performs P)
    (hP : ∀ o r, P o → view ⟨o, r⟩ = none) : Refines view good p q := by
  induction p with
  | ret a => exact .ret
  | raise e => exact .raise
  | op o k ih => exact .hides (fun r _ => hP o r hp.1) fun r _ => ih r (hp.2 r)

/-- An operation that is not visible, and what follows it. -/
theorem Refines.hidden_bind {o : T.Op} {f : T.Ret o → Proc T ε γ} {q : Proc S ε β}
    (ho : ∀ r, view ⟨o, r⟩ = none) (hf : ∀ a, good ⟨o, .ok a⟩ → Refines view good (f a) q) :
    Refines view good (perform o >>= f) q := by
  refine .hides (fun r _ => ho r) fun r hr => ?_
  cases r with
  | error e => exact .raise
  | ok a => exact hf a hr

/-- An attempt at a procedure of the other interface, before something that refines anything. -/
theorem Refines.attempt_implement {f : (o : S.Op) → Proc T ε (S.Ret o)} {inj : S.Op → T.Op}
    {ans : ∀ o, Except ε (T.Ret (inj o)) → Except ε (S.Ret o)}
    (hf : ∀ o, f o = .op (inj o) fun r => embed (ans o r))
    (hview : ∀ o r, view ⟨inj o, r⟩ = some ⟨o, ans o r⟩) (p : Proc S ε α)
    {g : Except ε α → Proc T ε γ} (hg : ∀ r (q : Proc S ε β), Refines view good (g r) q)
    (h : α → Proc S ε β) : Refines view good ((p.implement f).attempt >>= g) (p >>= h) := by
  have hembed : ∀ {δ : Type} (x : Except ε δ),
      (embed x : Proc T ε δ).attempt = Proc.ret x := by
    intro δ x
    cases x <;> rfl
  rw [← implement_attempt]
  change Refines view good ((p.attempt.implement f).bind g) (p.bind h)
  induction p with
  | ret a => exact hg _ _
  | raise e => exact hg _ _
  | op o k ih =>
      have hop : ((Proc.op o k).attempt.implement f).bind g =
          .op (inj o) fun r => (((k (ans o r)).attempt).implement f).bind g := by
        change (((f o).attempt).bind fun r => ((k r).attempt).implement f).bind g = _
        rw [hf o]
        change Proc.op (inj o) (fun r => ((embed (ans o r) : Proc T ε _).attempt.bind
          fun r => ((k r).attempt).implement f).bind g) = _
        exact congrArg (Proc.op (inj o)) (funext fun r => by rw [hembed]; rfl)
      rw [hop]
      exact .shows (ans o) (fun r _ => hview o r) fun r _ => ih (ans o r)

end

/-! ### Runs -/

section
variable {view : Event T ε → Option (Event S ε)} {good : Nat → Event T ε → Prop}
  {V : Env T ε σ} {W : Env S ε ρ} {f : σ → ρ} {C : Config T ε α σ → Nat → Event T ε → Prop}
  {D : Config S ε β ρ → Nat → Event S ε → Prop} {c₀ c : Config T ε α σ} {d₀ : Config S ε β ρ}

/-- **A run, viewed.** Where visible events do to `f` of the state what the other surroundings
do and the others leave it alone, it is a run of the procedures that are refined. -/
theorem Run.viewed
    (hshown : ∀ s e s' e', V s e.op e.ans s' → view e = some e' → W (f s) e'.op e'.ans (f s'))
    (hhidden : ∀ s e s', V s e.op e.ans s' → view e = none → f s' = f s)
    (hgood : ∀ c t e, C c t e → good t e)
    (hD : ∀ c d t e e', C c t e → view e = some e' → d.history = Effect.viewed view c.history →
      D d t e')
    (hstate : d₀.state = f c₀.state) (hhistory : d₀.history = Effect.viewed view c₀.history)
    (hthreads : ∀ t, Refines view (good t) (c₀.threads t) (d₀.threads t)) (h : Run V C c₀ c) :
    ∃ d, Run W D d₀ d ∧ d.state = f c.state ∧ d.history = Effect.viewed view c.history ∧
      ∀ t, Refines view (good t) (c.threads t) (d.threads t) := by
  induction h with
  | start => exact ⟨d₀, .start, hstate, hhistory, hthreads⟩
  | @step c t e c' _ hC hs ih =>
      obtain ⟨d, hrun, hstate, hhistory, hthreads⟩ := ih
      cases hs with
      | @perform o k r s' ht hw =>
          have hr := hgood _ _ _ hC
          have hrefines := hthreads t
          rw [ht] at hrefines
          generalize hq : d.threads t = q at hrefines
          cases hrefines with
          | hides hnone hk =>
              refine ⟨d, hrun, ?_, ?_, fun u => ?_⟩
              · rw [hstate, hhidden _ _ _ hw (hnone r hr)]
              · simp [hhistory, Effect.viewed, hnone r hr]
              · by_cases hu : u = t
                · subst hu
                  simpa [hq] using hk r hr
                · simpa [Function.update_of_ne hu] using hthreads u
          | @shows _ o' _ k' ans hsome hk =>
              have hans := hshown _ _ _ _ hw (hsome r hr)
              rw [← hstate] at hans
              have hstep := Step.perform (W := W) hq hans
              refine ⟨_, hrun.step (hD _ _ _ _ _ hC (hsome r hr) hhistory) hstep, rfl, ?_,
                fun u => ?_⟩
              · simp [hhistory, Effect.viewed, hsome r hr]
              · by_cases hu : u = t
                · subst hu
                  simpa using hk r hr
                · simpa [Function.update_of_ne hu] using hthreads u

end

end GmailGateway.Effect
