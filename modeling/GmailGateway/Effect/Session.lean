import GmailGateway.Effect.Proc

/-!
# GmailGateway.Effect.Session

**Calls one after the other.** A session makes one call after another on the same
state. Each call is an execution: it may be answered by anything its surroundings
allow, and it may be stopped before any of its operations (a crash), after which the
next call starts on what is left.

`Performs` says which operations a procedure can perform at all; what those
operations leave alone, the whole call leaves alone (`Exec.frame`).
-/

namespace GmailGateway.Effect

variable {S : Signature} {ε α β σ κ : Type}

/-! ### What a procedure can perform -/

/-- Every operation `p` can get to satisfies `P`. -/
def Proc.Performs (P : S.Op → Prop) : Proc S ε α → Prop
  | .ret _ => True
  | .raise _ => True
  | .op o k => P o ∧ ∀ r, (k r).Performs P

namespace Proc
variable {P : S.Op → Prop}

@[simp] theorem performs_pure (a : α) : (pure a : Proc S ε α).Performs P := trivial

@[simp] theorem performs_ret (a : α) : (ret a : Proc S ε α).Performs P := trivial

@[simp] theorem performs_raise (e : ε) : (raise e : Proc S ε α).Performs P := trivial

@[simp] theorem performs_throw (e : ε) : (throw e : Proc S ε α).Performs P := trivial

@[simp] theorem performs_embed (x : Except ε α) : (embed x : Proc S ε α).Performs P := by
  cases x <;> trivial

theorem performs_perform {o : S.Op} (h : P o) : (perform o : Proc S ε _).Performs P :=
  ⟨h, fun _ => performs_embed _⟩

@[simp] theorem performs_raiseIf (c : Prop) [Decidable c] (e : ε) :
    (raiseIf c e : Proc S ε Unit).Performs P := by
  unfold raiseIf
  split <;> trivial

theorem performs_bind {p : Proc S ε α} {f : α → Proc S ε β} (hp : p.Performs P)
    (hf : ∀ a, (f a).Performs P) : (p >>= f).Performs P := by
  change (p.bind f).Performs P
  induction p with
  | ret a => exact hf a
  | raise e => trivial
  | op o k ih => exact ⟨hp.1, fun r => ih r (hp.2 r)⟩

/-- A computation that touches nothing only counts where it succeeds. -/
theorem performs_embed_bind {x : Except ε α} {f : α → Proc S ε β}
    (hf : ∀ a, x = .ok a → (f a).Performs P) : (embed x >>= f).Performs P := by
  cases x with
  | error e => trivial
  | ok a => exact hf a rfl

theorem performs_handle {p : Proc S ε α} {h : ε → Proc S ε α} (hp : p.Performs P)
    (hh : ∀ e, (h e).Performs P) : (tryCatch p h).Performs P := by
  change (p.handle h).Performs P
  induction p with
  | ret a => trivial
  | raise e => exact hh e
  | op o k ih => exact ⟨hp.1, fun r => ih r (hp.2 r)⟩

theorem performs_attempt {p : Proc S ε α} (hp : p.Performs P) : p.attempt.Performs P := by
  unfold attempt
  induction p with
  | ret a => trivial
  | raise e => trivial
  | op o k ih => exact ⟨hp.1, fun r => ih r (hp.2 r)⟩

/-- Nothing is known of an arbitrary procedure. -/
theorem performs_true (p : Proc S ε α) : p.Performs fun _ => True := by
  induction p with
  | ret a => trivial
  | raise e => trivial
  | op o k ih => exact ⟨trivial, ih⟩

theorem Performs.mono {P' : S.Op → Prop} {p : Proc S ε α} (hp : p.Performs P)
    (h : ∀ o, P o → P' o) : p.Performs P' := by
  induction p with
  | ret a => trivial
  | raise e => trivial
  | op o k ih => exact ⟨h o hp.1, fun r => ih r (hp.2 r)⟩

/-- A procedure of one party performs that party's operations. -/
theorem performs_at {ι : Type} {S : ι → Signature} (i : ι) (p : Proc (S i) ε α) :
    (p.at i).Performs fun o : (Signature.all S).Op => o.1 = i := by
  induction p with
  | ret a => trivial
  | raise e => trivial
  | op o k ih => exact ⟨rfl, ih⟩

end Proc

/-- The events of an execution are operations the procedure performs. -/
theorem Exec.performs {W : Env S ε σ} {P : S.Op → Prop} {p : Proc S ε α} {s s' : σ}
    {τ : List (Event S ε)} {out : Outcome ε α} (h : Exec W p s τ out s') (hp : p.Performs P) :
    ∀ e ∈ τ, P e.op := by
  induction h with
  | ret | raise | stop => exact fun e he => absurd he List.not_mem_nil
  | op _ _ ih =>
      intro e he
      rcases List.mem_cons.mp he with rfl | he
      · exact hp.1
      · exact ih (hp.2 _) e he

/-- **Frame.** What each of its operations keeps, an execution keeps. -/
theorem Exec.frame {W : Env S ε σ} {P : S.Op → Prop} {R : σ → σ → Prop} {p : Proc S ε α}
    {s s' : σ} {τ : List (Event S ε)} {out : Outcome ε α} (h : Exec W p s τ out s')
    (hp : p.Performs P) (hrefl : ∀ s, R s s) (htrans : ∀ s₁ s₂ s₃, R s₁ s₂ → R s₂ s₃ → R s₁ s₃)
    (hstep : ∀ s o r s', P o → W s o r s' → R s s') : R s s' := by
  induction h with
  | ret | raise | stop => exact hrefl _
  | op hw _ ih => exact htrans _ _ _ (hstep _ _ _ _ hp.1 hw) (ih (hp.2 _))

/-- Frame, from the middle of a call. -/
private theorem sat_frame_from {W : Env S ε σ} {P : S.Op → Prop} {R : σ → σ → Prop} {p : Proc S ε α}
    (hp : p.Performs P) (htrans : ∀ s₁ s₂ s₃, R s₁ s₂ → R s₂ s₃ → R s₁ s₃)
    (hstep : ∀ s o r s', P o → W s o r s' → R s s') {τ₁ : List (Event S ε)} {s₀ s : σ}
    (h₀ : R s₀ s) (hτ : ∀ e ∈ τ₁, P e.op) :
    p.sat W (fun τ s' => R s₀ s' ∧ ∀ e ∈ τ, P e.op) (fun _ τ s' => R s₀ s' ∧ ∀ e ∈ τ, P e.op)
      τ₁ s := by
  induction p generalizing τ₁ s with
  | ret a => exact ⟨h₀, hτ⟩
  | raise e => exact ⟨h₀, hτ⟩
  | op o k ih =>
      intro r s' hw
      have hR := htrans _ _ _ h₀ (hstep _ _ _ _ hp.1 hw)
      have hevents : ∀ e ∈ τ₁ ++ [⟨o, r⟩], P e.op := by
        intro e he
        rcases List.mem_append.mp he with he | he
        · exact hτ e he
        · rw [List.mem_singleton.mp he]
          exact hp.1
      exact ⟨⟨hR, hevents⟩, ih r (hp.2 r) hR hevents⟩

/-- **Frame, as a specification.** The events of `p` are operations it performs, and what each
of them keeps is kept at every point. -/
theorem sat_frame {W : Env S ε σ} {P : S.Op → Prop} {R : σ → σ → Prop} {p : Proc S ε α}
    (hp : p.Performs P) (htrans : ∀ s₁ s₂ s₃, R s₁ s₂ → R s₂ s₃ → R s₁ s₃)
    (hstep : ∀ s o r s', P o → W s o r s' → R s s') {s : σ} (hrefl : R s s) :
    p.sat W (fun τ s' => R s s' ∧ ∀ e ∈ τ, P e.op) (fun _ τ s' => R s s' ∧ ∀ e ∈ τ, P e.op)
      [] s :=
  sat_frame_from hp htrans hstep hrefl (by simp)

/-- What each of its operations keeps, a procedure keeps, whatever was performed before it. -/
theorem sat_keeps {W : Env S ε σ} {P : S.Op → Prop} {R : σ → σ → Prop} {p : Proc S ε α}
    (hp : p.Performs P) (htrans : ∀ s₁ s₂ s₃, R s₁ s₂ → R s₂ s₃ → R s₁ s₃)
    (hstep : ∀ s o r s', P o → W s o r s' → R s s') {τ : List (Event S ε)} {s₀ s : σ}
    (h₀ : R s₀ s) : p.sat W (fun _ s' => R s₀ s') (fun _ _ s' => R s₀ s') τ s := by
  induction p generalizing τ s with
  | ret a => exact h₀
  | raise e => exact h₀
  | op o k ih =>
      intro r s' hw
      have hR := htrans _ _ _ h₀ (hstep _ _ _ _ hp.1 hw)
      exact ⟨hR, ih r (hp.2 r) hR⟩

/-- What was performed before a procedure stays performed. -/
theorem sat_extends {W : Env S ε σ} {p : Proc S ε α} {τ τ₁ : List (Event S ε)} {s : σ}
    (h : τ <+: τ₁) : p.sat W (fun τ' _ => τ <+: τ') (fun _ τ' _ => τ <+: τ') τ₁ s := by
  induction p generalizing τ₁ s with
  | ret a => exact h
  | raise e => exact h
  | op o k ih =>
      intro r s' _
      have h' : τ <+: τ₁ ++ [⟨o, r⟩] := h.trans (List.prefix_append _ _)
      exact ⟨h', ih r h'⟩

/-- What a procedure adds to the events is operations it performs. -/
theorem sat_performs {W : Env S ε σ} {P : S.Op → Prop} {p : Proc S ε α} (hp : p.Performs P)
    {τ τ₁ : List (Event S ε)} {s : σ} (h : ∀ e ∈ τ₁, P e.op) :
    p.sat W (fun τ' _ => ∃ τ₂, τ' = τ ++ τ₂ ∧ ∀ e ∈ τ₂, P e.op)
      (fun _ τ' _ => ∃ τ₂, τ' = τ ++ τ₂ ∧ ∀ e ∈ τ₂, P e.op) (τ ++ τ₁) s := by
  induction p generalizing τ₁ s with
  | ret a => exact ⟨τ₁, rfl, h⟩
  | raise e => exact ⟨τ₁, rfl, h⟩
  | op o k ih =>
      intro r s' _
      have hevents : ∀ e ∈ τ₁ ++ [⟨o, r⟩], P e.op := by
        intro e he
        rcases List.mem_append.mp he with he | he
        · exact h e he
        · rw [List.mem_singleton.mp he]
          exact hp.1
      rw [List.append_assoc]
      exact ⟨⟨_, rfl, hevents⟩, ih r (hp.2 r) hevents⟩

/-- What holds under every allowed answer holds in surroundings that give allowed answers as long
as an invariant holds, for a procedure that keeps it. -/
theorem sat_of_invariant {W : Env S ε σ} {A : (o : S.Op) → Except ε (S.Ret o) → Prop}
    {P : S.Op → Prop} {I : σ → Prop} {J : List (Event S ε) → Prop}
    {Q : Except ε α → List (Event S ε) → Prop} {p : Proc S ε α} (hp : p.Performs P)
    (hI : ∀ s o r s', I s → P o → W s o r s' → A o r ∧ I s') {τ : List (Event S ε)} {s : σ}
    (h : p.sat (anyAnswer A) (fun τ _ => J τ) (fun r τ _ => Q r τ) τ ()) (hs : I s) :
    p.sat W (fun τ _ => J τ) (fun r τ _ => Q r τ) τ s := by
  induction p generalizing τ s with
  | ret a => exact h
  | raise e => exact h
  | op o k ih =>
      intro r s' hw
      obtain ⟨hans, hs'⟩ := hI s o r s' hs hp.1 hw
      obtain ⟨hj, hk⟩ := h r () hans
      exact ⟨hj, ih r (hp.2 r) hk hs'⟩

/-! ### Surroundings with fewer answers -/

/-- The same surroundings, as long as every event is `good`. -/
def Env.only (W : Env S ε σ) (good : Event S ε → Prop) : Env S ε σ := fun s o r s' =>
  W s o r s' ∧ good ⟨o, r⟩

theorem Exec.only {W : Env S ε σ} {good : Event S ε → Prop} {p : Proc S ε α} {s s' : σ}
    {τ : List (Event S ε)} {out : Outcome ε α} (h : Exec W p s τ out s') (hgood : ∀ e ∈ τ, good e) :
    Exec (W.only good) p s τ out s' := by
  induction h with
  | ret => exact .ret
  | raise => exact .raise
  | stop => exact .stop
  | op hw _ ih =>
      exact .op ⟨hw, hgood _ List.mem_cons_self⟩ (ih fun e he => hgood e (List.mem_cons_of_mem _ he))

/-- There every event is good. -/
theorem sat_only {W : Env S ε σ} {good : Event S ε → Prop} {p : Proc S ε α} {τ : List (Event S ε)}
    {s : σ} (h : ∀ e ∈ τ, good e) :
    p.sat (W.only good) (fun τ' _ => ∀ e ∈ τ', good e) (fun _ τ' _ => ∀ e ∈ τ', good e) τ s := by
  induction p generalizing τ s with
  | ret a => exact h
  | raise e => exact h
  | op o k ih =>
      intro r s' hw
      have hgood : ∀ e ∈ τ ++ [⟨o, r⟩], good e := by
        intro e he
        rcases List.mem_append.mp he with he | he
        · exact h e he
        · rw [List.mem_singleton.mp he]
          exact hw.2
      exact ⟨hgood, ih r hgood⟩

/-- If there is always a good answer, every procedure can run to its end on good answers. -/
theorem exists_exec {W : Env S ε σ} {good : Event S ε → Prop}
    (hW : ∀ s o, ∃ r s', W s o r s' ∧ good ⟨o, r⟩) (p : Proc S ε α) (s : σ) :
    ∃ τ r s', Exec W p s τ (.done r) s' ∧ ∀ e ∈ τ, good e := by
  induction p generalizing s with
  | ret a => exact ⟨[], .ok a, s, .ret, fun e he => absurd he List.not_mem_nil⟩
  | raise e => exact ⟨[], .error e, s, .raise, fun e he => absurd he List.not_mem_nil⟩
  | op o k ih =>
      obtain ⟨r, s₁, hw, hgood⟩ := hW s o
      obtain ⟨τ, r', s', hexec, hτ⟩ := ih r s₁
      exact ⟨_, r', s', .op hw hexec, List.forall_mem_cons.mpr ⟨hgood, hτ⟩⟩

/-! ### Sessions -/

/-- One call of a session: what was called, what it performed and how it ended. -/
structure Call (S : Signature) (ε α κ : Type) where
  key : κ
  events : List (Event S ε)
  outcome : Outcome ε α

/-- A session from `s₀`: the calls so far, oldest first, and the state they leave.
Every call meets the condition `C`. -/
inductive Session (W : Env S ε σ) (run : κ → Proc S ε α) (C : Call S ε α κ → Prop) (s₀ : σ) :
    List (Call S ε α κ) → σ → Prop
  | start : Session W run C s₀ [] s₀
  | call {calls s k τ out s'} : Session W run C s₀ calls s → Exec W (run k) s τ out s' →
      C ⟨k, τ, out⟩ → Session W run C s₀ (calls ++ [⟨k, τ, out⟩]) s'

/-- No condition on the calls. -/
abbrev anyCall : Call S ε α κ → Prop := fun _ => True

section
variable {W : Env S ε σ} {run : κ → Proc S ε α} {C : Call S ε α κ → Prop} {s₀ s : σ}
  {calls : List (Call S ε α κ)}

/-- **Invariants of sessions.** What holds at the start and is kept by every call that
meets the condition holds after any number of calls. -/
theorem Session.invariant {I : σ → Prop} (h : Session W run C s₀ calls s) (h₀ : I s₀)
    (hstep : ∀ s k τ out s', I s → Exec W (run k) s τ out s' → C ⟨k, τ, out⟩ → I s') : I s := by
  induction h with
  | start => exact h₀
  | call _ hexec hC ih => exact hstep _ _ _ _ _ ih hexec hC

/-- A session whose calls also meet another condition. -/
theorem Session.of_forall {D : Call S ε α κ → Prop} (h : Session W run C s₀ calls s)
    (hD : ∀ k ∈ calls, D k) : Session W run D s₀ calls s := by
  induction h with
  | start => exact .start
  | call _ hexec _ ih =>
      exact (ih fun k hk => hD k (List.mem_append_left _ hk)).call hexec
        (hD _ (List.mem_append_right _ List.mem_cons_self))

/-- A session under a weaker condition. -/
theorem Session.mono {D : Call S ε α κ → Prop} (h : Session W run C s₀ calls s)
    (hD : ∀ k, C k → D k) : Session W run D s₀ calls s := by
  induction h with
  | start => exact .start
  | call _ hexec hC ih => exact ih.call hexec (hD _ hC)

/-- Every call of a session is made in the state the calls before it left. -/
theorem Session.split (h : Session W run C s₀ calls s) {k : Call S ε α κ} (hk : k ∈ calls) :
    ∃ before s₁ s₂, Session W run C s₀ before s₁ ∧
      Exec W (run k.key) s₁ k.events k.outcome s₂ ∧ before ++ [k] <+: calls := by
  induction h with
  | start => cases hk
  | @call calls s key τ out s' hsession hexec _ ih =>
      rcases List.mem_append.mp hk with hk | hk
      · obtain ⟨before, s₁, s₂, h₁, h₂, hpre⟩ := ih hk
        exact ⟨before, s₁, s₂, h₁, h₂, hpre.trans (List.prefix_append _ _)⟩
      · cases List.mem_singleton.mp hk
        exact ⟨calls, s, s', hsession, hexec, List.prefix_rfl⟩

/-- The calls up to one of them are a session, and it is made in the state they leave. -/
theorem Session.of_prefix (h : Session W run C s₀ calls s) {before : List (Call S ε α κ)}
    {k : Call S ε α κ} (hpre : before ++ [k] <+: calls) :
    ∃ s₁ s₂, Session W run C s₀ before s₁ ∧ Exec W (run k.key) s₁ k.events k.outcome s₂ ∧ C k := by
  induction h with
  | start => exact absurd hpre.length_le (by simp)
  | @call calls s key τ out s' hsession hexec hC ih =>
      rcases List.prefix_concat_iff.mp hpre with heq | hpre
      · obtain ⟨rfl, hk⟩ := List.append_inj' heq rfl
        cases List.singleton_inj.mp hk
        exact ⟨s, s', hsession, hexec, hC⟩
      · exact ih hpre

/-- The last call of a session leaves its final state. -/
theorem Session.last (h : Session W run C s₀ calls s) {before : List (Call S ε α κ)}
    {k : Call S ε α κ} (hcalls : calls = before ++ [k]) :
    ∃ s₁, Session W run C s₀ before s₁ ∧ Exec W (run k.key) s₁ k.events k.outcome s := by
  cases h with
  | start => simp at hcalls
  | call hsession hexec _ =>
      obtain ⟨rfl, hk⟩ := List.append_inj' hcalls rfl
      cases List.singleton_inj.mp hk
      exact ⟨_, hsession, hexec⟩

end

/-! ### Sessions over restarts -/

/-- Where the next call starts: a call that was stopped took its process with it. -/
def Outcome.resume (reopen : σ → σ) : Outcome ε α → σ → σ
  | .done _, s => s
  | .stopped, s => reopen s

/-- Calls from `s₀` over any number of restarts. A stopped call, and a restart between two
calls, leave `reopen s`. -/
inductive Lifetimes (W : Env S ε σ) (run : κ → Proc S ε α) (reopen : σ → σ) (s₀ : σ) :
    List (Call S ε α κ) → σ → Prop
  | start : Lifetimes W run reopen s₀ [] s₀
  | call {calls s k τ out s'} : Lifetimes W run reopen s₀ calls s → Exec W (run k) s τ out s' →
      Lifetimes W run reopen s₀ (calls ++ [⟨k, τ, out⟩]) (out.resume reopen s')
  | restart {calls s} : Lifetimes W run reopen s₀ calls s →
      Lifetimes W run reopen s₀ calls (reopen s)

theorem Lifetimes.trans {W : Env S ε σ} {run : κ → Proc S ε α} {reopen : σ → σ} {s₀ s s' : σ}
    {calls later : List (Call S ε α κ)} (h : Lifetimes W run reopen s₀ calls s)
    (h' : Lifetimes W run reopen s later s') :
    Lifetimes W run reopen s₀ (calls ++ later) s' := by
  induction h' with
  | start =>
      rw [List.append_nil]
      exact h
  | call _ hexec ih =>
      rw [← List.append_assoc]
      exact ih.call hexec
  | restart _ ih => exact ih.restart

/-- The calls before one of them led to the state it was made in. -/
theorem Lifetimes.split {W : Env S ε σ} {run : κ → Proc S ε α} {reopen : σ → σ} {s₀ s : σ}
    {calls before later : List (Call S ε α κ)} {k : Call S ε α κ}
    (h : Lifetimes W run reopen s₀ calls s) (hcalls : calls = before ++ k :: later) :
    ∃ s₁ s₂, Lifetimes W run reopen s₀ before s₁ ∧ Exec W (run k.key) s₁ k.events k.outcome s₂ ∧
      Lifetimes W run reopen (k.outcome.resume reopen s₂) later s := by
  induction h generalizing later with
  | start => simp at hcalls
  | restart _ ih =>
      obtain ⟨s₁, s₂, h₁, h₂, h₃⟩ := ih hcalls
      exact ⟨s₁, s₂, h₁, h₂, h₃.restart⟩
  | @call calls s j τ out s' hbefore hexec ih =>
      cases later using List.reverseRecOn with
      | nil =>
          obtain ⟨rfl, hk⟩ := List.append_inj' hcalls rfl
          cases List.singleton_inj.mp hk
          exact ⟨s, s', hbefore, hexec, .start⟩
      | append_singleton later j' _ =>
          have hcalls' : calls ++ [⟨j, τ, out⟩] = (before ++ k :: later) ++ [j'] := by
            rw [hcalls, List.append_assoc, List.cons_append]
          obtain ⟨rfl, hj⟩ := List.append_inj' hcalls' rfl
          cases List.singleton_inj.mp hj
          obtain ⟨s₁, s₂, h₁, h₂, h₃⟩ := ih rfl
          exact ⟨s₁, s₂, h₁, h₂, h₃.call hexec⟩

/-- A session whose calls all ended has not been restarted. -/
theorem Session.lifetimes {W : Env S ε σ} {run : κ → Proc S ε α} {s₀ s : σ}
    {calls : List (Call S ε α κ)} (reopen : σ → σ)
    (h : Session W run (fun k => ∃ r, k.outcome = .done r) s₀ calls s) :
    Lifetimes W run reopen s₀ calls s := by
  induction h with
  | start => exact .start
  | call _ hexec hended ih =>
      obtain ⟨r, rfl⟩ := hended
      exact ih.call hexec

/-! ### Running a session -/

/-- Make the calls one after the other, each for at most `n` operations and with its own
answers. -/
def scripted (run : κ → Proc S ε α) (n : Nat) :
    List (κ × (σ → (o : S.Op) → Except ε (S.Ret o) × σ)) → σ → List (Call S ε α κ) × σ
  | [], s => ([], s)
  | (k, h) :: ks, s =>
      let out := (run k).run (fun _ => h) n s
      let rest := scripted run n ks out.2.2
      (⟨k, out.1, out.2.1⟩ :: rest.1, rest.2)

/-- That is a session, in surroundings that allow the answers. -/
theorem scripted_session {W : Env S ε σ} {run : κ → Proc S ε α} {n : Nat} {s₀ : σ} :
    ∀ {ks : List (κ × (σ → (o : S.Op) → Except ε (S.Ret o) × σ))} {calls : List (Call S ε α κ)}
      {s : σ}, (∀ x ∈ ks, ∀ s o, W s o (x.2 s o).1 (x.2 s o).2) →
      Session W run anyCall s₀ calls s →
      Session W run anyCall s₀ (calls ++ (scripted run n ks s).1) (scripted run n ks s).2
  | [], calls, s, _, h => by
      rw [scripted, List.append_nil]
      exact h
  | (k, answer) :: ks, calls, s, hW, h => by
      have hexec := Proc.run_exec (fun _ => hW (k, answer) List.mem_cons_self) n (run k) s
      rw [scripted, List.append_cons]
      exact scripted_session (fun x hx => hW x (List.mem_cons_of_mem _ hx)) (h.call hexec trivial)

/-- The same over restarts: every call has its own bound, and is stopped there. -/
def scriptedLives (run : κ → Proc S ε α) (reopen : σ → σ) :
    List (κ × Nat × (σ → (o : S.Op) → Except ε (S.Ret o) × σ)) → σ → List (Call S ε α κ) × σ
  | [], s => ([], s)
  | (k, n, h) :: ks, s =>
      let out := (run k).run (fun _ => h) n s
      let rest := scriptedLives run reopen ks (out.2.1.resume reopen out.2.2)
      (⟨k, out.1, out.2.1⟩ :: rest.1, rest.2)

theorem scriptedLives_lifetimes {W : Env S ε σ} {run : κ → Proc S ε α} {reopen : σ → σ} {s₀ : σ} :
    ∀ {ks : List (κ × Nat × (σ → (o : S.Op) → Except ε (S.Ret o) × σ))}
      {calls : List (Call S ε α κ)} {s : σ},
      (∀ x ∈ ks, ∀ s o, W s o (x.2.2 s o).1 (x.2.2 s o).2) →
      Lifetimes W run reopen s₀ calls s →
      Lifetimes W run reopen s₀ (calls ++ (scriptedLives run reopen ks s).1)
        (scriptedLives run reopen ks s).2
  | [], calls, s, _, h => by
      rw [scriptedLives, List.append_nil]
      exact h
  | (k, n, answer) :: ks, calls, s, hW, h => by
      have hexec := Proc.run_exec (fun _ => hW (k, n, answer) List.mem_cons_self) n (run k) s
      rw [scriptedLives, List.append_cons]
      exact scriptedLives_lifetimes (fun x hx => hW x (List.mem_cons_of_mem _ hx)) (h.call hexec)

/-! ### Which exceptions a procedure raises -/

/-- `p` raises nothing in `bad` as long as nothing in `bad` is answered to it. -/
def Proc.Avoids (bad : ε → Prop) : Proc S ε α → Prop
  | .ret _ => True
  | .raise e => ¬ bad e
  | .op _ k => ∀ r, (∀ e, r = .error e → ¬ bad e) → (k r).Avoids bad

namespace Proc
variable {bad : ε → Prop}

theorem avoids_embed {x : Except ε α} (h : ∀ e, x = .error e → ¬ bad e) :
    (embed x : Proc S ε α).Avoids bad := by
  cases x with
  | ok a => trivial
  | error e => exact h e rfl

theorem avoids_perform (o : S.Op) : (perform o : Proc S ε _).Avoids bad := fun _ hr =>
  avoids_embed hr

theorem avoids_raiseIf (c : Prop) [Decidable c] {e : ε} (h : ¬ bad e) :
    (raiseIf c e : Proc S ε Unit).Avoids bad := by
  unfold raiseIf
  split
  · exact h
  · trivial

theorem avoids_bind {p : Proc S ε α} {f : α → Proc S ε β} (hp : p.Avoids bad)
    (hf : ∀ a, (f a).Avoids bad) : (p >>= f).Avoids bad := by
  change (p.bind f).Avoids bad
  induction p with
  | ret a => exact hf a
  | raise e => exact hp
  | op o k ih => exact fun r hr => ih r (hp r hr)

theorem avoids_handle {p : Proc S ε α} {h : ε → Proc S ε α} (hp : p.Avoids bad)
    (hh : ∀ e, ¬ bad e → (h e).Avoids bad) : (tryCatch p h).Avoids bad := by
  change (p.handle h).Avoids bad
  induction p with
  | ret a => trivial
  | raise e => exact hh e hp
  | op o k ih => exact fun r hr => ih r (hp r hr)

theorem avoids_at {ι : Type} {S : ι → Signature} {i : ι} {p : Proc (S i) ε α} (hp : p.Avoids bad) :
    (p.at i).Avoids bad := by
  induction p with
  | ret a => trivial
  | raise e => exact hp
  | op o k ih => exact fun r hr => ih r (hp r hr)

end Proc

/-- Such a procedure does not end with an exception in `bad`. -/
theorem Exec.avoids {W : Env S ε σ} {bad : ε → Prop} {p : Proc S ε α} {s s' : σ}
    {τ : List (Event S ε)} {e : ε} (h : Exec W p s τ (.done (.error e)) s') (hp : p.Avoids bad)
    (hW : ∀ s o e s', W s o (.error e) s' → ¬ bad e) : ¬ bad e := by
  generalize hout : Outcome.done (.error e) = out at h
  induction h with
  | ret => cases hout
  | raise => cases hout; exact hp
  | stop => cases hout
  | op hw _ ih =>
      refine ih (hp _ fun e' he' => ?_) hout
      rw [he'] at hw
      exact hW _ _ _ _ hw

/-- The same, as a specification. -/
theorem sat_avoids {W : Env S ε σ} {bad : ε → Prop} {p : Proc S ε α} {τ : List (Event S ε)} {s : σ}
    (hp : p.Avoids bad) (hW : ∀ s o e s', W s o (.error e) s' → ¬ bad e) :
    p.sat W (fun _ _ => True) (fun r _ _ => ∀ e, r = .error e → ¬ bad e) τ s := by
  refine sat_of_exec fun τ' r s' hexec e hr => ?_
  subst hr
  exact hexec.avoids hp hW

end GmailGateway.Effect
