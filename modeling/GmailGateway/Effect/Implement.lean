import GmailGateway.Effect.Proc

/-!
# GmailGateway.Effect.Implement

**Implementing an interface.** A procedure written against a signature `S` becomes one over
another signature when every operation of `S` is implemented by a procedure there
(`Proc.implement`). An exception of the implementation is what the operation raised, so the
handlers of the procedure see it.

Implementing commutes with every way of building a procedure, so an implemented procedure is
the same statements over the implemented operations.
-/

namespace GmailGateway.Effect

variable {S T : Signature} {ε α β : Type}

namespace Proc

/-- What follows an attempt only sees its result, also an exception. -/
theorem handle_attempt_bind (p : Proc S ε α) (g : Except ε α → Proc S ε β)
    (h : ε → Proc S ε β) :
    ((attempt p).bind g).handle h = (attempt p).bind fun r => (g r).handle h := by
  induction p with
  | ret a => rfl
  | raise e => rfl
  | op o k ih => exact congrArg (op o) (funext ih)

/-- Letting out what an attempt caught is not attempting. -/
theorem attempt_bind_embed (p : Proc S ε α) : (attempt p).bind embed = p := by
  induction p with
  | ret a => rfl
  | raise e => rfl
  | op o k ih => exact congrArg (op o) (funext ih)

/-- `p` with every operation implemented by `f`. -/
def implement (f : (o : S.Op) → Proc T ε (S.Ret o)) : Proc S ε α → Proc T ε α
  | ret a => ret a
  | raise e => raise e
  | op o k => (attempt (f o)).bind fun r => (k r).implement f

variable {f : (o : S.Op) → Proc T ε (S.Ret o)}

@[simp] theorem implement_pure (a : α) : (pure a : Proc S ε α).implement f = pure a := rfl

@[simp] theorem implement_throw (e : ε) : (throw e : Proc S ε α).implement f = throw e := rfl

@[simp] theorem implement_raiseIf (c : Prop) [Decidable c] (e : ε) :
    (raiseIf c e : Proc S ε Unit).implement f = raiseIf c e := by
  unfold raiseIf
  split <;> rfl

@[simp] theorem implement_embed (x : Except ε α) :
    (embed x : Proc S ε α).implement f = embed x := by
  cases x <;> rfl

@[simp] theorem implement_perform (o : S.Op) :
    (perform o : Proc S ε _).implement f = f o := by
  have hrest : (fun r => (embed r : Proc S ε (S.Ret o)).implement f) = embed :=
    funext fun r => implement_embed r
  change (attempt (f o)).bind (fun r => (embed r).implement f) = f o
  rw [hrest]
  exact attempt_bind_embed (f o)

@[simp] theorem implement_bind (p : Proc S ε α) (g : α → Proc S ε β) :
    (p >>= g).implement f = p.implement f >>= fun a => (g a).implement f := by
  change (p.bind g).implement f = (p.implement f).bind fun a => (g a).implement f
  induction p with
  | ret a => rfl
  | raise e => rfl
  | op o k ih =>
      have hrest : (fun r => ((k r).bind g).implement f) =
          fun r => ((k r).implement f).bind fun a => (g a).implement f := funext ih
      simp only [Proc.bind, implement, hrest]
      exact (bind_assoc (attempt (f o)) _ _).symm

@[simp] theorem implement_map (g : α → β) (p : Proc S ε α) :
    (g <$> p).implement f = g <$> p.implement f := by
  rw [map_eq_pure_bind, map_eq_pure_bind, implement_bind]
  rfl

theorem implement_handle (p : Proc S ε α) (h : ε → Proc S ε α) :
    (p.handle h).implement f = (p.implement f).handle fun e => (h e).implement f := by
  induction p with
  | ret a => rfl
  | raise e => rfl
  | op o k ih =>
      have hrest : (fun r => ((k r).handle h).implement f) =
          fun r => ((k r).implement f).handle fun e => (h e).implement f := funext ih
      simp only [Proc.handle, implement, hrest]
      exact (handle_attempt_bind (f o) _ _).symm

@[simp] theorem implement_tryCatch (p : Proc S ε α) (h : ε → Proc S ε α) :
    (tryCatch p h).implement f = tryCatch (p.implement f) fun e => (h e).implement f :=
  implement_handle p h

@[simp] theorem implement_attempt (p : Proc S ε α) :
    (attempt p).implement f = attempt (p.implement f) := by
  have hbody : (p.bind fun a => ret (Except.ok (ε := ε) a)).implement f =
      (p.implement f).bind fun a => ret (Except.ok a) := implement_bind p _
  unfold attempt
  rw [implement_handle, hbody]
  rfl

/-- Implementing in two steps. -/
theorem implement_implement {U : Signature} {g : (o : T.Op) → Proc U ε (T.Ret o)}
    (p : Proc S ε α) :
    (p.implement f).implement g = p.implement fun o => (f o).implement g := by
  induction p with
  | ret a => rfl
  | raise e => rfl
  | op o k ih =>
      have hrest : (fun r => ((k r).implement f).implement g) =
          fun r => (k r).implement fun o => (f o).implement g := funext ih
      have hop : ((attempt (f o)).bind fun r => (k r).implement f).implement g =
          ((attempt (f o)).implement g).bind fun r => ((k r).implement f).implement g :=
        implement_bind (attempt (f o)) _
      rw [implement_attempt, hrest] at hop
      exact hop

/-! ### Refinement

A state of the interface is coupled to one of the implementation by `R`, each with what was
performed so far. If every implemented operation does what the operation may do and keeps them
coupled, what is proved against the interface holds of the implementation. -/

section Refinement
variable {σ ρ : Type} {W : Env T ε ρ} {V : Env S ε σ} {J : List (Event S ε) → σ → Prop}
  {K : List (Event T ε) → ρ → Prop} {Q : Except ε α → List (Event S ε) → σ → Prop}
  {R : List (Event S ε) → σ → List (Event T ε) → ρ → Prop}

theorem sat_implement {p : Proc S ε α} {τ : List (Event S ε)} {s : σ} {θ : List (Event T ε)}
    {t : ρ} (hstep : ∀ o τ s θ t, (∀ r s', V s o r s' → J (τ ++ [⟨o, r⟩]) s') → R τ s θ t →
      (f o).sat W K (fun r θ' t' => ∃ s', V s o r s' ∧ R (τ ++ [⟨o, r⟩]) s' θ' t') θ t)
    (hp : p.sat V J Q τ s) (hR : R τ s θ t) :
    (p.implement f).sat W K (fun r θ' t' => ∃ τ' s', R τ' s' θ' t' ∧ Q r τ' s') θ t := by
  induction p generalizing τ s θ t with
  | ret a => exact ⟨τ, s, hR, hp⟩
  | raise e => exact ⟨τ, s, hR, hp⟩
  | op o k ih =>
      change (attempt (f o) >>= fun r => (k r).implement f).sat W K _ θ t
      rw [sat_bind, sat_attempt]
      have hop := hstep o τ s θ t (fun r s' hv => (hp r s' hv).1) hR
      refine sat_mono hop fun r θ' t' hend => ?_
      obtain ⟨s', hv, hR'⟩ := hend
      exact ih r (hp r s' hv).2 hR'

/-! ### Simulation

A killed process leaves an implemented operation anywhere. If what is left then is still coupled
(by `C`) to the state before the operation or after it, every execution of the implementation is
one of the procedure, killed where the other was. -/

/-- What is said of the states alone holds after any events. -/
theorem sat_events {J : σ → Prop} {Q : Except ε α → σ → Prop} {W : Env S ε σ} {p : Proc S ε α}
    {τ τ' : List (Event S ε)} {s : σ}
    (h : p.sat W (fun _ s => J s) (fun r _ s => Q r s) τ s) :
    p.sat W (fun _ s => J s) (fun r _ s => Q r s) τ' s := by
  induction p generalizing τ τ' s with
  | ret a => exact h
  | raise e => exact h
  | op o k ih =>
      intro r s' hw
      obtain ⟨hj, hk⟩ := h r s' hw
      exact ⟨hj, ih r hk⟩

section Simulation
variable {σ ρ : Type} {W : Env T ε ρ} {V : Env S ε σ} {J : List (Event S ε) → σ → Prop}
  {Q : Except ε α → List (Event S ε) → σ → Prop} {R C : σ → ρ → Prop}

/-- The implementation `g` of an operation does to a coupled state what the operation may do; on
the way the operation has happened or has not. -/
def Simulates (V : Env S ε σ) (W : Env T ε ρ) (R C : σ → ρ → Prop) (o : S.Op)
    (g : Proc T ε (S.Ret o)) (s : σ) (t : ρ) : Prop :=
  g.sat W (fun _ t' => ∃ s', (s' = s ∨ ∃ r, V s o r s') ∧ C s' t')
    (fun r _ t' => ∃ s', V s o r s' ∧ R s' t') [] t

theorem sat_implement_exec {p : Proc S ε α} {τ : List (Event S ε)} {s : σ} {θ : List (Event T ε)}
    {t : ρ} (hstep : ∀ o τ s t, (∀ r s', V s o r s' → J (τ ++ [⟨o, r⟩]) s') → R s t →
      Simulates V W R C o (f o) s t)
    (hp : p.sat V J Q τ s) (hR : R s t) :
    (p.implement f).sat W (fun _ t' => ∃ τ' s', Exec V p s τ' .stopped s' ∧ C s' t')
      (fun r _ t' => ∃ τ' s', Exec V p s τ' (.done r) s' ∧ R s' t') θ t := by
  induction p generalizing τ s θ t with
  | ret a => exact ⟨[], s, .ret, hR⟩
  | raise e => exact ⟨[], s, .raise, hR⟩
  | op o k ih =>
      change (attempt (f o) >>= fun r => (k r).implement f).sat W _ _ θ t
      rw [sat_bind, sat_attempt]
      have hop := hstep o τ s t (fun r s' hv => (hp r s' hv).1) hR
      refine sat_weaken (sat_events hop) ?_ ?_
      · intro _ t' hkilled
        obtain ⟨s', hs', hC⟩ := hkilled
        rcases hs' with rfl | ⟨r, hv⟩
        · exact ⟨[], s', .stop, hC⟩
        · exact ⟨[⟨o, r⟩], s', .op hv .stop, hC⟩
      · intro r θ' t' hend
        obtain ⟨s', hv, hR'⟩ := hend
        refine sat_weaken (ih r (hp r s' hv).2 hR') ?_ ?_
        · intro _ t' hkilled
          obtain ⟨τ', s'', hx, hC⟩ := hkilled
          exact ⟨⟨o, r⟩ :: τ', s'', .op hv hx, hC⟩
        · intro r' _ t' hend
          obtain ⟨τ', s'', hx, hR''⟩ := hend
          exact ⟨⟨o, r⟩ :: τ', s'', .op hv hx, hR''⟩

end Simulation

end Refinement

end Proc

end GmailGateway.Effect
