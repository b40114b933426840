import Mathlib.Data.List.Induction
import Mathlib.Logic.Function.Basic

/-!
# GmailGateway.Effect.Proc

**Effectful procedures.** A `Proc S ε α` is a procedure that performs operations
of the signature `S` on its surroundings and then returns an `α` or raises an
`ε`. Every operation either answers or raises, and the procedure continues from
that answer; nothing else about the surroundings is fixed here.

The surroundings are an `Env`: a relation saying which answers an operation may
get in a state, and which state it leaves. The same procedure is therefore run
alone, under injected faults, or interleaved with other procedures
(`Effect.Pool`) without being written twice.

`Proc.sat` is the verification predicate. It is computed by recursion on the
procedure, so a specification is proved by running the procedure symbolically:
`sat_bind` and `sat_handle` cut it at its statements, `sat_mono` weakens a
postcondition, and `Exec.sound` reads the result back on executions.
-/

namespace GmailGateway.Effect

/-- The operations a procedure may perform, and what each one answers. -/
structure Signature where
  Op : Type
  Ret : Op → Type

/-- A procedure over the operations of `S`, raising `ε` or returning `α`. -/
inductive Proc (S : Signature) (ε α : Type) : Type
  | ret (a : α)
  | raise (e : ε)
  /-- Perform `o` and continue from what it answered or raised. -/
  | op (o : S.Op) (k : Except ε (S.Ret o) → Proc S ε α)

/-- One performed operation together with what came back. -/
structure Event (S : Signature) (ε : Type) where
  op : S.Op
  ans : Except ε (S.Ret op)

variable {S : Signature} {ε α β σ : Type}

/-- Surroundings: `W s o r s'` when `o`, performed in `s`, may answer `r` and
leave `s'`. -/
abbrev Env (S : Signature) (ε σ : Type) :=
  σ → (o : S.Op) → Except ε (S.Ret o) → σ → Prop

/-- Surroundings that answer anything allowed by `A`: what a procedure can rely on
without knowing what answers it. -/
def anyAnswer (A : (o : S.Op) → Except ε (S.Ret o) → Prop) : Env S ε Unit :=
  fun _ o r _ => A o r

/-- How an execution ended: with a result, or stopped before its next
operation (a killed process). -/
inductive Outcome (ε α : Type)
  | done (r : Except ε α)
  | stopped

/-- It was not stopped. -/
def Ends (out : Outcome ε α) : Prop := ∃ r, out = .done r

instance (out : Outcome ε α) : Decidable (Ends out) :=
  match out with
  | .done r => .isTrue ⟨r, rfl⟩
  | .stopped => .isFalse nofun

namespace Proc

/-! ### The procedures as a monad with exceptions -/

/-- Sequencing: an exception skips the rest. -/
protected def bind : Proc S ε α → (α → Proc S ε β) → Proc S ε β
  | ret a, f => f a
  | raise e, _ => raise e
  | op o k, f => op o fun r => (k r).bind f

/-- `try p except`: the handler sees every exception `p` lets out. -/
protected def handle : Proc S ε α → (ε → Proc S ε α) → Proc S ε α
  | ret a, _ => ret a
  | raise e, h => h e
  | op o k, h => op o fun r => (k r).handle h

instance : Monad (Proc S ε) where
  pure := ret
  bind := Proc.bind

instance : MonadExceptOf ε (Proc S ε) where
  throw := raise
  tryCatch := Proc.handle

private theorem bind_ret_self (p : Proc S ε α) : p.bind ret = p := by
  induction p with
  | ret a => rfl
  | raise e => rfl
  | op o k ih => exact congrArg (op o) (funext ih)

private theorem bind_bind {γ : Type} (p : Proc S ε α) (f : α → Proc S ε β)
    (g : β → Proc S ε γ) : (p.bind f).bind g = p.bind fun a => (f a).bind g := by
  induction p with
  | ret a => rfl
  | raise e => rfl
  | op o k ih => exact congrArg (op o) (funext ih)

instance : LawfulMonad (Proc S ε) :=
  LawfulMonad.mk' _ bind_ret_self (fun _ _ => rfl) bind_bind

/-- A computation that touches nothing. -/
def embed : Except ε α → Proc S ε α
  | .ok a => ret a
  | .error e => raise e

theorem embed_ok_bind {β : Type} (a : α) (f : α → Proc S ε β) :
    ((embed (.ok a) : Proc S ε α) >>= f) = f a := rfl

/-- Perform one operation. -/
def perform (o : S.Op) : Proc S ε (S.Ret o) := op o embed

/-- `if c: raise e`. -/
def raiseIf (c : Prop) [Decidable c] (e : ε) : Proc S ε Unit := if c then raise e else ret ()

/-- `try` with a handler that goes on: the result of `p`, value or exception. -/
def attempt (p : Proc S ε α) : Proc S ε (Except ε α) :=
  Proc.handle (p.bind fun a => ret (.ok a)) fun e => ret (.error e)

/-! ### Verification conditions -/

/-- `p.sat W J Q τ s`: started in `s` after the events `τ`, every execution of `p`
in `W` keeps `J` after each operation and establishes `Q` when it ends. -/
def sat (W : Env S ε σ) (J : List (Event S ε) → σ → Prop)
    (Q : Except ε α → List (Event S ε) → σ → Prop) :
    Proc S ε α → List (Event S ε) → σ → Prop
  | ret a, τ, s => Q (.ok a) τ s
  | raise e, τ, s => Q (.error e) τ s
  | op o k, τ, s => ∀ r s', W s o r s' →
      J (τ ++ [⟨o, r⟩]) s' ∧ (k r).sat W J Q (τ ++ [⟨o, r⟩]) s'

/-- The assertion that holds of the rest of a statement list: continue after a
value, leave through an exception. -/
def andThen (f : α → List (Event S ε) → σ → Prop)
    (x : ε → List (Event S ε) → σ → Prop) :
    Except ε α → List (Event S ε) → σ → Prop
  | .ok a => f a
  | .error e => x e

@[simp] theorem andThen_ok (f : α → List (Event S ε) → σ → Prop) (x) (a : α) :
    andThen f x (.ok a) = f a := rfl
@[simp] theorem andThen_error (f : α → List (Event S ε) → σ → Prop) (x) (e : ε) :
    andThen f x (.error e) = x e := rfl

variable {W : Env S ε σ} {J : List (Event S ε) → σ → Prop}
  {Q Q' : Except ε α → List (Event S ε) → σ → Prop}
  {τ : List (Event S ε)} {s : σ}

@[simp] theorem sat_ret (a : α) : (ret a : Proc S ε α).sat W J Q τ s ↔ Q (.ok a) τ s := Iff.rfl

@[simp] theorem sat_raise (e : ε) : (raise e : Proc S ε α).sat W J Q τ s ↔ Q (.error e) τ s :=
  Iff.rfl

theorem sat_op (o : S.Op) (k : Except ε (S.Ret o) → Proc S ε α) :
    (op o k).sat W J Q τ s ↔ ∀ r s', W s o r s' →
      J (τ ++ [⟨o, r⟩]) s' ∧ (k r).sat W J Q (τ ++ [⟨o, r⟩]) s' := Iff.rfl

@[simp] theorem sat_pure (a : α) :
    (pure a : Proc S ε α).sat W J Q τ s ↔ Q (.ok a) τ s := Iff.rfl

@[simp] theorem sat_throw (e : ε) :
    (throw e : Proc S ε α).sat W J Q τ s ↔ Q (.error e) τ s := Iff.rfl

@[simp] theorem sat_embed (x : Except ε α) :
    (embed x : Proc S ε α).sat W J Q τ s ↔ Q x τ s := by
  cases x <;> rfl

@[simp] theorem sat_perform (o : S.Op) {Q : Except ε (S.Ret o) → List (Event S ε) → σ → Prop} :
    (perform o : Proc S ε _).sat W J Q τ s ↔
      ∀ r s', W s o r s' → J (τ ++ [⟨o, r⟩]) s' ∧ Q r (τ ++ [⟨o, r⟩]) s' := by
  simp only [perform, sat, sat_embed]

@[simp] theorem sat_bind (p : Proc S ε α) (f : α → Proc S ε β)
    {Q : Except ε β → List (Event S ε) → σ → Prop} :
    (p >>= f).sat W J Q τ s ↔
      p.sat W J (andThen (fun a => (f a).sat W J Q) fun e => Q (.error e)) τ s := by
  change (p.bind f).sat W J Q τ s ↔ _
  induction p generalizing τ s with
  | ret a => rfl
  | raise e => rfl
  | op o k ih => simp only [Proc.bind, sat, ih]

@[simp] theorem sat_handle (p : Proc S ε α) (h : ε → Proc S ε α) :
    (tryCatch p h).sat W J Q τ s ↔
      p.sat W J (andThen (fun a => Q (.ok a)) fun e => (h e).sat W J Q) τ s := by
  change (p.handle h).sat W J Q τ s ↔ _
  induction p generalizing τ s with
  | ret a => rfl
  | raise e => rfl
  | op o k ih => simp only [Proc.handle, sat, ih]

/-- Performing an operation and going on from its answer. -/
theorem sat_perform_bind (o : S.Op) (f : S.Ret o → Proc S ε β)
    {Q : Except ε β → List (Event S ε) → σ → Prop} :
    (perform o >>= f).sat W J Q τ s ↔ ∀ r s', W s o r s' → J (τ ++ [⟨o, r⟩]) s' ∧
      andThen (fun a => (f a).sat W J Q) (fun e => Q (.error e)) r (τ ++ [⟨o, r⟩]) s' := by
  rw [sat_bind, sat_perform]

@[simp] theorem sat_raiseIf (c : Prop) [Decidable c] (e : ε)
    {Q : Except ε Unit → List (Event S ε) → σ → Prop} :
    (raiseIf c e).sat W J Q τ s ↔ (c → Q (.error e) τ s) ∧ (¬ c → Q (.ok ()) τ s) := by
  unfold raiseIf
  split <;> rename_i hc <;> simp [hc]

@[simp] theorem sat_attempt (p : Proc S ε α)
    {Q : Except ε (Except ε α) → List (Event S ε) → σ → Prop} :
    p.attempt.sat W J Q τ s ↔ p.sat W J (fun r => Q (.ok r)) τ s := by
  unfold attempt
  induction p generalizing τ s with
  | ret a => rfl
  | raise e => rfl
  | op o k ih => simp only [Proc.bind, Proc.handle, sat, ih]

/-- A postcondition may be weakened. -/
theorem sat_mono {p : Proc S ε α} (h : p.sat W J Q τ s)
    (hQ : ∀ r τ' s', Q r τ' s' → Q' r τ' s') : p.sat W J Q' τ s := by
  induction p generalizing τ s with
  | ret a => exact hQ _ _ _ h
  | raise e => exact hQ _ _ _ h
  | op o k ih =>
      intro r s' hw
      obtain ⟨hj, hk⟩ := h r s' hw
      exact ⟨hj, ih r hk⟩

/-- So may an invariant. -/
theorem sat_weaken {J' : List (Event S ε) → σ → Prop} {p : Proc S ε α} (h : p.sat W J Q τ s)
    (hJ : ∀ τ' s', J τ' s' → J' τ' s') (hQ : ∀ r τ' s', Q r τ' s' → Q' r τ' s') :
    p.sat W J' Q' τ s := by
  induction p generalizing τ s with
  | ret a => exact hQ _ _ _ h
  | raise e => exact hQ _ _ _ h
  | op o k ih =>
      intro r s' hw
      obtain ⟨hj, hk⟩ := h r s' hw
      exact ⟨hJ _ _ hj, ih r hk⟩

/-- What holds under every answer holds in surroundings that give some of them. -/
theorem sat_of_anyAnswer {A : (o : S.Op) → Except ε (S.Ret o) → Prop}
    {J : List (Event S ε) → Prop} {Q : Except ε α → List (Event S ε) → Prop} {p : Proc S ε α}
    (hA : ∀ s o r s', W s o r s' → A o r)
    (h : p.sat (anyAnswer A) (fun τ _ => J τ) (fun r τ _ => Q r τ) τ ()) :
    p.sat W (fun τ _ => J τ) (fun r τ _ => Q r τ) τ s := by
  induction p generalizing τ s with
  | ret a => exact h
  | raise e => exact h
  | op o k ih =>
      intro r s' hw
      obtain ⟨hj, hk⟩ := h r () (hA _ _ _ _ hw)
      exact ⟨hj, ih r hk⟩

/-- Surroundings that answer less keep a specification. -/
theorem sat_of_env {V : Env S ε σ} {p : Proc S ε α} (hV : ∀ s o r s', V s o r s' → W s o r s')
    (h : p.sat W J Q τ s) : p.sat V J Q τ s := by
  induction p generalizing τ s with
  | ret a => exact h
  | raise e => exact h
  | op o k ih =>
      intro r s' hw
      obtain ⟨hj, hk⟩ := h r s' (hV _ _ _ _ hw)
      exact ⟨hj, ih r hk⟩

/-- Two specifications of one procedure hold together. -/
theorem sat_and {J' : List (Event S ε) → σ → Prop} {p : Proc S ε α}
    (h : p.sat W J Q τ s) (h' : p.sat W J' Q' τ s) :
    p.sat W (fun τ s => J τ s ∧ J' τ s) (fun r τ s => Q r τ s ∧ Q' r τ s) τ s := by
  induction p generalizing τ s with
  | ret a => exact ⟨h, h'⟩
  | raise e => exact ⟨h, h'⟩
  | op o k ih =>
      intro r s' hw
      obtain ⟨hj, hk⟩ := h r s' hw
      obtain ⟨hj', hk'⟩ := h' r s' hw
      exact ⟨⟨hj, hj'⟩, ih r hk hk'⟩

end Proc

open Proc

/-! ### Executions -/

/-- `Exec W p s τ out s'`: started in `s`, `p` performs the events `τ`, ends with
`out` and leaves `s'`. A procedure may be stopped before any operation. -/
inductive Exec (W : Env S ε σ) :
    Proc S ε α → σ → List (Event S ε) → Outcome ε α → σ → Prop
  | ret {a s} : Exec W (.ret a) s [] (.done (.ok a)) s
  | raise {e s} : Exec W (.raise e) s [] (.done (.error e)) s
  | stop {p s} : Exec W p s [] .stopped s
  | op {o k r s s' τ out s''} : W s o r s' → Exec W (k r) s' τ out s'' →
      Exec W (.op o k) s (⟨o, r⟩ :: τ) out s''

/-- Without an event nothing has changed. -/
theorem Exec.state_eq_of_nil {W : Env S ε σ} {p : Proc S ε α} {s s' : σ}
    {τ : List (Event S ε)} {out : Outcome ε α} (h : Exec W p s τ out s') (hτ : τ = []) :
    s' = s := by
  cases h with
  | op => cases hτ
  | _ => rfl

/-- What `sat` promises holds of every execution: `J` after each operation, and
`Q` at a result. -/
theorem Exec.sound {W : Env S ε σ} {J : List (Event S ε) → σ → Prop}
    {Q : Except ε α → List (Event S ε) → σ → Prop} {p : Proc S ε α} {s s' : σ}
    {τ : List (Event S ε)} {out : Outcome ε α} (h : Exec W p s τ out s') :
    ∀ {τ₀}, p.sat W J Q τ₀ s →
      (τ ≠ [] → J (τ₀ ++ τ) s') ∧ (∀ r, out = .done r → Q r (τ₀ ++ τ) s') := by
  induction h with
  | ret =>
      intro τ₀ hp
      refine ⟨fun h => absurd rfl h, ?_⟩
      rintro _ ⟨⟩
      rwa [List.append_nil]
  | raise =>
      intro τ₀ hp
      refine ⟨fun h => absurd rfl h, ?_⟩
      rintro _ ⟨⟩
      rwa [List.append_nil]
  | stop => intro τ₀ _; exact ⟨by simp, by rintro _ ⟨⟩⟩
  | @op o k r s s₁ τ out s₂ hw hx ih =>
      intro τ₀ hp
      obtain ⟨hj, hk⟩ := hp r s₁ hw
      obtain ⟨hj', hq⟩ := ih hk
      refine ⟨fun _ => ?_, fun r' hr' => by simpa using hq r' hr'⟩
      by_cases hτ : τ = []
      · subst hτ
        obtain rfl := hx.state_eq_of_nil rfl
        exact hj
      · simpa using hj' hτ

/-- Postconditions of completed executions, started with no events. -/
theorem Exec.post {W : Env S ε σ} {J : List (Event S ε) → σ → Prop}
    {Q : Except ε α → List (Event S ε) → σ → Prop} {p : Proc S ε α} {s s' : σ}
    {τ : List (Event S ε)} {r : Except ε α} (h : Exec W p s τ (.done r) s')
    (hp : p.sat W J Q [] s) : Q r τ s' := by
  simpa using (h.sound hp).2 r rfl

/-- An execution, seen without its state. -/
theorem Exec.forget {W : Env S ε σ} {A : (o : S.Op) → Except ε (S.Ret o) → Prop}
    {p : Proc S ε α} {s s' : σ} {τ : List (Event S ε)} {out : Outcome ε α}
    (h : Exec W p s τ out s') (hA : ∀ s o r s', W s o r s' → A o r) :
    Exec (anyAnswer A) p () τ out () := by
  induction h with
  | ret => exact .ret
  | raise => exact .raise
  | stop => exact .stop
  | op hw _ ih => exact .op (hA _ _ _ _ hw) ih

/-- The states an execution goes through, event by event. -/
inductive Steps (W : Env S ε σ) : σ → List (Event S ε) → σ → Prop
  | nil {s} : Steps W s [] s
  | cons {e s s' τ s''} : W s e.op e.ans s' → Steps W s' τ s'' → Steps W s (e :: τ) s''

theorem Exec.steps {W : Env S ε σ} {p : Proc S ε α} {s s' : σ} {τ : List (Event S ε)}
    {out : Outcome ε α} (h : Exec W p s τ out s') : Steps W s τ s' := by
  induction h with
  | ret | raise | stop => exact .nil
  | @op o k r _ _ _ _ _ hw _ ih => exact .cons (e := ⟨o, r⟩) hw ih

/-- Every event was answered in some state on the way. -/
theorem Steps.answered {W : Env S ε σ} {s s' : σ} {τ : List (Event S ε)} {ev : Event S ε}
    (h : Steps W s τ s') (hev : ev ∈ τ) : ∃ s₁ s₂, W s₁ ev.op ev.ans s₂ := by
  induction h with
  | nil => exact absurd hev List.not_mem_nil
  | @cons e s₁ s₂ _ _ hstep _ ih =>
      rcases List.mem_cons.mp hev with rfl | hev
      · exact ⟨s₁, s₂, hstep⟩
      · exact ih hev

@[simp] theorem steps_nil {W : Env S ε σ} {s s' : σ} : Steps W s [] s' ↔ s' = s := by
  constructor
  · intro h
    cases h
    rfl
  · intro heq
    subst heq
    exact .nil

@[simp] theorem steps_cons {W : Env S ε σ} {s s' : σ} {e : Event S ε} {τ : List (Event S ε)} :
    Steps W s (e :: τ) s' ↔ ∃ s₁, W s e.op e.ans s₁ ∧ Steps W s₁ τ s' := by
  constructor
  · intro h
    cases h with
    | cons hw h => exact ⟨_, hw, h⟩
  · intro hspec
    obtain ⟨s₁, hw, h⟩ := hspec
    exact .cons hw h

@[simp] theorem steps_append {W : Env S ε σ} {s s' : σ} {τ τ' : List (Event S ε)} :
    Steps W s (τ ++ τ') s' ↔ ∃ s₁, Steps W s τ s₁ ∧ Steps W s₁ τ' s' := by
  induction τ generalizing s with
  | nil => simp
  | cons e τ ih =>
      simp only [List.cons_append, steps_cons, ih]
      constructor
      · intro hspec
        obtain ⟨s₁, hw, s₂, h, h'⟩ := hspec
        exact ⟨s₂, ⟨s₁, hw, h⟩, h'⟩
      · intro hspec
        obtain ⟨s₂, ⟨s₁, hw, h⟩, h'⟩ := hspec
        exact ⟨s₁, hw, s₂, h, h'⟩

/-! ### Guarded operations

`Guarded G τ`: every operation of `τ` was performed after events that satisfy its guard.
A specification with this as its invariant says what a procedure has done before it gets
to an operation. -/

def Guarded (G : S.Op → List (Event S ε) → Prop) (τ : List (Event S ε)) : Prop :=
  ∀ τ₁ e, τ₁ ++ [e] <+: τ → G e.op τ₁

theorem Guarded.nil {G : S.Op → List (Event S ε) → Prop} : Guarded G [] := by
  intro τ₁ e h
  have := h.length_le
  simp at this

theorem Guarded.concat {G : S.Op → List (Event S ε) → Prop} {τ : List (Event S ε)}
    (h : Guarded G τ) {e : Event S ε} (he : G e.op τ) : Guarded G (τ ++ [e]) := by
  intro τ₁ e₁ hpre
  rcases List.prefix_concat_iff.mp hpre with heq | hpre
  · obtain ⟨rfl, he₁⟩ := List.append_inj' heq rfl
    rwa [List.singleton_inj.mp he₁]
  · exact h τ₁ e₁ hpre

/-- Appending operations whose guards hold wherever they stand. -/
theorem Guarded.append {G : S.Op → List (Event S ε) → Prop} {τ τ' : List (Event S ε)}
    (h : Guarded G τ) (hτ' : ∀ e ∈ τ', ∀ τ₁, G e.op (τ ++ τ₁)) : Guarded G (τ ++ τ') := by
  induction τ' using List.reverseRecOn with
  | nil => rwa [List.append_nil]
  | append_singleton τ' e ih =>
      rw [← List.append_assoc]
      refine (ih fun e' he' => hτ' e' (List.mem_append_left _ he')).concat ?_
      exact hτ' e (List.mem_append_right _ List.mem_cons_self) τ'

/-- Conversely `sat` is nothing more than a statement about executions. -/
theorem sat_of_exec {W : Env S ε σ} {Q : Except ε α → List (Event S ε) → σ → Prop} :
    ∀ {p : Proc S ε α} {s : σ} {τ₀ : List (Event S ε)},
      (∀ τ r s', Exec W p s τ (.done r) s' → Q r (τ₀ ++ τ) s') →
      p.sat W (fun _ _ => True) Q τ₀ s
  | .ret a, s, τ₀, h => by simpa [sat] using h [] _ _ .ret
  | .raise e, s, τ₀, h => by simpa [sat] using h [] _ _ .raise
  | .op o k, s, τ₀, h => fun r s' hw =>
      ⟨trivial, sat_of_exec fun τ r' s'' hx => by simpa using h _ _ _ (.op hw hx)⟩

/-- Executing a sequence: the first part returns a value and the second runs
from it. -/
theorem Exec.bind {W : Env S ε σ} {p : Proc S ε α} {f : α → Proc S ε β} {a : α}
    {s s' s'' : σ} {τ τ' : List (Event S ε)} {out : Outcome ε β}
    (h : Exec W p s τ (.done (.ok a)) s') (hf : Exec W (f a) s' τ' out s'') :
    Exec W (p >>= f) s (τ ++ τ') out s'' := by
  change Exec W (p.bind f) s (τ ++ τ') out s''
  generalize hr : Outcome.done (.ok a) = r at h
  induction h with
  | ret => cases hr; exact hf
  | raise => cases hr
  | stop => cases hr
  | op hw _ ih => exact .op hw (ih hf hr)

theorem Exec.perform_bind {W : Env S ε σ} {o : S.Op} {a : S.Ret o} {f : S.Ret o → Proc S ε β}
    {s s' s'' : σ} {τ : List (Event S ε)} {out : Outcome ε β} (hw : W s o (.ok a) s')
    (h : Exec W (f a) s' τ out s'') :
    Exec W (perform o >>= f) s (⟨o, .ok a⟩ :: τ) out s'' :=
  .op hw h

theorem Exec.try_perform_bind {W : Env S ε σ} {o : S.Op} {a : S.Ret o}
    {handler : ε → Proc S ε (S.Ret o)} {f : S.Ret o → Proc S ε β} {s s' s'' : σ}
    {τ : List (Event S ε)} {out : Outcome ε β} (hw : W s o (.ok a) s')
    (h : Exec W (f a) s' τ out s'') :
    Exec W (tryCatch (perform o) handler >>= f) s (⟨o, .ok a⟩ :: τ) out s'' :=
  .op hw h

theorem Exec.embed_bind {W : Env S ε σ} {x : Except ε α} {a : α} {f : α → Proc S ε β} {s s' : σ}
    {τ : List (Event S ε)} {out : Outcome ε β} (hx : x = .ok a) (h : Exec W (f a) s τ out s') :
    Exec W (embed x >>= f) s τ out s' := by
  subst hx
  exact h

theorem Exec.try_embed_bind {W : Env S ε σ} {x : Except ε α} {a : α}
    {handler : ε → Proc S ε α} {f : α → Proc S ε β} {s s' : σ} {τ : List (Event S ε)}
    {out : Outcome ε β} (hx : x = .ok a) (h : Exec W (f a) s τ out s') :
    Exec W (tryCatch (embed x) handler >>= f) s τ out s' := by
  subst hx
  exact h

/-- An execution is what it is without its state, in surroundings that take its steps. -/
theorem Exec.of_steps {W : Env S ε σ} {A : (o : S.Op) → Except ε (S.Ret o) → Prop}
    {p : Proc S ε α} {s s' : σ} {τ : List (Event S ε)} {out : Outcome ε α} {u u' : Unit}
    (h : Exec (anyAnswer A) p u τ out u') (hs : Steps W s τ s') : Exec W p s τ out s' := by
  induction h generalizing s with
  | ret => cases hs; exact .ret
  | raise => cases hs; exact .raise
  | stop => cases hs; exact .stop
  | op _ _ ih =>
      cases hs with
      | cons hw hs => exact .op hw (ih hs)

/-! ### Running a procedure

A handler answers every operation, so a procedure can be run. The fuel is the
number of operations before the procedure is stopped; the handler sees what is
left of it, which lets a script fail one particular operation. -/

/-- Run `p` for at most `n` operations with the answers of `h`. -/
def Proc.run (h : Nat → σ → (o : S.Op) → Except ε (S.Ret o) × σ) :
    Nat → Proc S ε α → σ → List (Event S ε) × Outcome ε α × σ
  | _, .ret a, s => ([], .done (.ok a), s)
  | _, .raise e, s => ([], .done (.error e), s)
  | 0, .op _ _, s => ([], .stopped, s)
  | n + 1, .op o k, s =>
      let out := (k (h n s o).1).run h n (h n s o).2
      (⟨o, (h n s o).1⟩ :: out.1, out.2)

/-- A run is an execution, in any surroundings that allow the handler's answers. -/
theorem Proc.run_exec {W : Env S ε σ} {h : Nat → σ → (o : S.Op) → Except ε (S.Ret o) × σ}
    (hW : ∀ n s o, W s o (h n s o).1 (h n s o).2) :
    ∀ (n : Nat) (p : Proc S ε α) (s : σ),
      Exec W p s (p.run h n s).1 (p.run h n s).2.1 (p.run h n s).2.2
  | _, .ret _, _ => by unfold run; exact .ret
  | _, .raise _, _ => by unfold run; exact .raise
  | 0, .op _ _, _ => .stop
  | n + 1, .op o k, s => .op (hW n s o) (run_exec hW n (k _) _)

/-! ### Several parties side by side

A family of signatures is one signature, and a procedure of one party is a
procedure of all of them. Its verification stays local: the other parties'
states are framed out. -/

section Parties

variable {ι : Type} [DecidableEq ι] {S : ι → Signature} {σ : ι → Type}

/-- The operations of every party. -/
abbrev Signature.all (S : ι → Signature) : Signature where
  Op := Σ i, (S i).Op
  Ret o := (S o.1).Ret o.2

/-- Surroundings side by side: an operation of one party changes that party's
state only. -/
def Env.all (W : ∀ i, Env (S i) ε (σ i)) : Env (Signature.all S) ε (∀ i, σ i) :=
  fun s o r s' => ∃ t, W o.1 (s o.1) o.2 r t ∧ s' = Function.update s o.1 t

/-- A procedure of party `i`, among the operations of all. -/
def Proc.at (i : ι) : Proc (S i) ε α → Proc (Signature.all S) ε α
  | .ret a => .ret a
  | .raise e => .raise e
  | .op o k => .op ⟨i, o⟩ fun r => (k r).at i

/-- An event of party `i`, among the events of all. -/
def Event.at (i : ι) (e : Event (S i) ε) : Event (Signature.all S) ε := ⟨⟨i, e.op⟩, e.ans⟩

/-- A party's procedure is verified in its own surroundings. -/
theorem sat_at (i : ι) {W : ∀ i, Env (S i) ε (σ i)}
    {J : List (Event (Signature.all S) ε) → (∀ i, σ i) → Prop}
    {Q : Except ε α → List (Event (Signature.all S) ε) → (∀ i, σ i) → Prop}
    {p : Proc (S i) ε α} {τ : List (Event (Signature.all S) ε)} {s : ∀ i, σ i}
    {τ₁ : List (Event (S i) ε)} {t : σ i}
    (h : p.sat (W i) (fun τ' t' => J (τ ++ τ'.map (Event.at i)) (Function.update s i t'))
      (fun r τ' t' => Q r (τ ++ τ'.map (Event.at i)) (Function.update s i t')) τ₁ t) :
    (p.at i).sat (Env.all W) J Q (τ ++ τ₁.map (Event.at i)) (Function.update s i t) := by
  induction p generalizing τ₁ t with
  | ret a => exact h
  | raise e => exact h
  | op o k ih =>
      rintro r s' ⟨t', hw, rfl⟩
      rw [Function.update_self] at hw
      obtain ⟨hj, hk⟩ := h r t' hw
      have hk' := ih r hk
      rw [List.map_append, ← List.append_assoc] at hj hk'
      rw [Function.update_idem]
      exact ⟨hj, hk'⟩

/-- The same, from the state the party has. -/
theorem sat_party (i : ι) {W : ∀ i, Env (S i) ε (σ i)}
    {J : List (Event (Signature.all S) ε) → (∀ i, σ i) → Prop}
    {Q : Except ε α → List (Event (Signature.all S) ε) → (∀ i, σ i) → Prop}
    {p : Proc (S i) ε α} {τ : List (Event (Signature.all S) ε)} {s : ∀ i, σ i}
    (h : p.sat (W i) (fun τ' t' => J (τ ++ τ'.map (Event.at i)) (Function.update s i t'))
      (fun r τ' t' => Q r (τ ++ τ'.map (Event.at i)) (Function.update s i t')) [] (s i)) :
    (p.at i).sat (Env.all W) J Q τ s := by
  have hat := sat_at i h
  rwa [List.map_nil, List.append_nil, Function.update_eq_self] at hat

/-- An execution of a party's procedure is one among all. -/
theorem Exec.at (i : ι) {W : ∀ i, Env (S i) ε (σ i)} {p : Proc (S i) ε α} {s : ∀ i, σ i}
    {t : σ i} {τ : List (Event (S i) ε)} {out : Outcome ε α}
    (h : Exec (W i) p (s i) τ out t) :
    Exec (Env.all W) (p.at i) s (τ.map (Event.at i)) out (Function.update s i t) := by
  generalize hstart : s i = start at h
  induction h generalizing s with
  | ret | raise | stop =>
      rw [← hstart, Function.update_eq_self]
      constructor
  | op hw _ ih =>
      subst hstart
      have hrest := ih (s := Function.update s i _) (Function.update_self i _ s)
      rw [Function.update_idem] at hrest
      exact .op ⟨_, hw, rfl⟩ hrest

end Parties

end GmailGateway.Effect
