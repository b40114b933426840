import GmailGateway.Effect.Session

/-!
# GmailGateway.Effect.Determined

**Surroundings that leave no choice.** Where every operation has at most one outcome, a procedure
ends in at most one way, and one execution says everything about it (`Exec.yields`).

Where they are a function, so is the procedure: `Proc.result` runs it, and commutes with the
statements of the language.
-/

namespace GmailGateway.Effect

open Proc

variable {S : Signature} {ε α β σ : Type}

/-- Every operation has at most one outcome. -/
def Env.Functional (W : Env S ε σ) : Prop :=
  ∀ {s : σ} {o : S.Op} {r r' : Except ε (S.Ret o)} {s' s'' : σ}, W s o r s' → W s o r' s'' →
    r = r' ∧ s' = s''

/-- Two executions that end are the same. -/
theorem Exec.unique {W : Env S ε σ} (hW : W.Functional) {p : Proc S ε α} {s s' s'' : σ}
    {τ τ' : List (Event S ε)} {x x' : Except ε α} (h : Exec W p s τ (.done x) s')
    (h' : Exec W p s τ' (.done x') s'') : τ = τ' ∧ x = x' ∧ s' = s'' := by
  generalize hout : Outcome.done x = out at h
  induction h generalizing τ' with
  | ret =>
      cases hout
      cases h'
      exact ⟨rfl, rfl, rfl⟩
  | raise =>
      cases hout
      cases h'
      exact ⟨rfl, rfl, rfl⟩
  | stop => cases hout
  | op hw _ ih =>
      cases h' with
      | op hw' h' =>
          obtain ⟨rfl, rfl⟩ := hW hw hw'
          obtain ⟨rfl, hx, hs⟩ := ih h' hout
          exact ⟨rfl, hx, hs⟩

/-- `p`, run from `s`, can end with `x` and with nothing else. -/
def Proc.Yields (W : Env S ε σ) (p : Proc S ε α) (s : σ) (x : Except ε α) : Prop :=
  (∃ τ s', Exec W p s τ (.done x) s') ∧ ∀ τ y s', Exec W p s τ (.done y) s' → y = x

theorem Exec.yields {W : Env S ε σ} (hW : W.Functional) {p : Proc S ε α} {s s' : σ}
    {τ : List (Event S ε)} {x : Except ε α} (h : Exec W p s τ (.done x) s') : p.Yields W s x :=
  ⟨⟨τ, s', h⟩, fun _ _ _ h' => (h'.unique hW h).2.1⟩

theorem Proc.Yields.unique {W : Env S ε σ} {p : Proc S ε α} {s : σ} {x y : Except ε α}
    (hx : p.Yields W s x) (hy : p.Yields W s y) : x = y := by
  obtain ⟨τ, s', h⟩ := hx.1
  exact hy.2 τ x s' h

/-! ### Surroundings that are a function -/

/-- Each operation, performed in a state, answers and leaves what `h` says. -/
def Env.handled (h : σ → (o : S.Op) → Except ε (S.Ret o) × σ) : Env S ε σ :=
  fun s o r s' => h s o = (r, s')

theorem Env.handled_functional (h : σ → (o : S.Op) → Except ε (S.Ret o) × σ) :
    (Env.handled h).Functional := by
  intro s o r r' s' s'' hr hr'
  exact Prod.mk.inj (hr.symm.trans hr')

/-- How a run goes on: with `f` from a value, with `g` from an exception. -/
def resume {γ : Type} (f : α → σ → γ) (g : ε → σ → γ) : Except ε α × σ → γ
  | (.ok a, s) => f a s
  | (.error e, s) => g e s

namespace Proc
variable {h : σ → (o : S.Op) → Except ε (S.Ret o) × σ} {s : σ}

/-- What `p` ends with, and in which state. -/
def result (h : σ → (o : S.Op) → Except ε (S.Ret o) × σ) : Proc S ε α → σ → Except ε α × σ
  | ret a, s => (.ok a, s)
  | raise e, s => (.error e, s)
  | op o k, s => (k (h s o).1).result h (h s o).2

@[simp] theorem result_pure (a : α) : (pure a : Proc S ε α).result h s = (.ok a, s) := rfl

@[simp] theorem result_throw (e : ε) : (throw e : Proc S ε α).result h s = (.error e, s) := rfl

@[simp] theorem result_embed (x : Except ε α) : (embed x : Proc S ε α).result h s = (x, s) := by
  cases x <;> rfl

@[simp] theorem result_perform (o : S.Op) : (perform o : Proc S ε _).result h s = h s o :=
  result_embed _

@[simp] theorem result_raiseIf (c : Prop) [Decidable c] (e : ε) :
    (raiseIf c e : Proc S ε Unit).result h s = (if c then .error e else .ok (), s) := by
  unfold raiseIf
  split <;> rfl

/-- A handled procedure ends, and with nothing but its result. -/
theorem result_yields (p : Proc S ε α) (s : σ) : p.Yields (Env.handled h) s (p.result h s).1 := by
  have hexec : ∀ (p : Proc S ε α) (s : σ),
      ∃ τ, Exec (Env.handled h) p s τ (.done (p.result h s).1) (p.result h s).2 := by
    intro p
    induction p with
    | ret a => exact fun s => ⟨[], .ret⟩
    | raise e => exact fun s => ⟨[], .raise⟩
    | op o k ih =>
        intro s
        obtain ⟨τ, hexec⟩ := ih (h s o).1 (h s o).2
        exact ⟨_, .op rfl hexec⟩
  obtain ⟨τ, hrun⟩ := hexec p s
  exact hrun.yields (Env.handled_functional h)

end Proc

end GmailGateway.Effect
