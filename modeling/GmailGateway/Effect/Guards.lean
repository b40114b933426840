import GmailGateway.Effect.Session
import GmailGateway.Effect.Implement

/-!
# GmailGateway.Effect.Guards

**Procedures that respect a guard.** `Guarded G τ` says of a list of events that each
operation was performed when its guard held of the events before it. `p.Respects G` says that
the procedure `p` keeps this up under any answers, whatever guarded events came before. It is
proved statement by statement, and it survives implementing an interface.

A guard of particular use is an order: operations of positive rank are performed in the order
of their ranks, each rank at most once (`InOrder`).
-/

namespace GmailGateway.Effect

variable {S T : Signature} {ε α β : Type}

namespace Proc

/-- Every operation of `p` is performed under its guard. -/
def Respects (G : S.Op → List (Event S ε) → Prop) (p : Proc S ε α) : Prop :=
  ∀ τ, Guarded G τ → p.sat (anyAnswer fun _ _ => True) (fun τ _ => Guarded G τ)
    (fun _ τ _ => Guarded G τ) τ ()

variable {G : S.Op → List (Event S ε) → Prop}

@[simp] theorem respects_pure (a : α) : (pure a : Proc S ε α).Respects G := fun _ h => h

@[simp] theorem respects_throw (e : ε) : (throw e : Proc S ε α).Respects G := fun _ h => h

@[simp] theorem respects_embed (x : Except ε α) : (embed x : Proc S ε α).Respects G := by
  cases x <;> exact fun _ h => h

@[simp] theorem respects_raiseIf (c : Prop) [Decidable c] (e : ε) :
    (raiseIf c e : Proc S ε Unit).Respects G := by
  unfold raiseIf
  split <;> exact fun _ h => h

/-- An operation whose guard always holds. -/
theorem respects_perform {o : S.Op} (h : ∀ τ, G o τ) : (perform o : Proc S ε _).Respects G := by
  intro τ hτ
  rw [sat_perform]
  intro r _ _
  have hτ' : Guarded G (τ ++ [⟨o, r⟩]) := hτ.concat (h τ)
  exact ⟨hτ', hτ'⟩

theorem respects_bind {p : Proc S ε α} {f : α → Proc S ε β} (hp : p.Respects G)
    (hf : ∀ a, (f a).Respects G) : (p >>= f).Respects G := by
  intro τ hτ
  rw [sat_bind]
  refine sat_mono (hp τ hτ) fun r τ' _ hτ' => ?_
  cases r with
  | error e => exact hτ'
  | ok a => exact hf a τ' hτ'

theorem respects_attempt {p : Proc S ε α} (hp : p.Respects G) : p.attempt.Respects G := by
  intro τ hτ
  rw [sat_attempt]
  exact hp τ hτ

/-- An operation, and what follows it once it has been performed. -/
theorem respects_perform_bind {o : S.Op} {f : S.Ret o → Proc S ε β} (h : ∀ τ, G o τ)
    (hf : ∀ a τ, Guarded G (τ ++ [⟨o, .ok a⟩]) → (f a).sat (anyAnswer fun _ _ => True)
      (fun τ _ => Guarded G τ) (fun _ τ _ => Guarded G τ) (τ ++ [⟨o, .ok a⟩]) ()) :
    (perform o >>= f).Respects G := by
  intro τ hτ
  rw [sat_bind, sat_perform]
  intro r _ _
  have hτ' : Guarded G (τ ++ [⟨o, r⟩]) := hτ.concat (h τ)
  cases r with
  | error e => exact ⟨hτ', hτ'⟩
  | ok a => exact ⟨hτ', hf a τ hτ'⟩

/-- An implementation performs what the implementations of its operations do. -/
theorem performs_implement {P : S.Op → Prop} {P' : T.Op → Prop}
    {f : (o : S.Op) → Proc T ε (S.Ret o)} {p : Proc S ε α} (hp : p.Performs P)
    (hf : ∀ o, P o → (f o).Performs P') : (p.implement f).Performs P' := by
  induction p with
  | ret a => trivial
  | raise e => trivial
  | op o k ih => exact performs_bind (performs_attempt (hf o hp.1)) fun r => ih r (hp.2 r)

end Proc

section
variable {G : S.Op → List (Event S ε) → Prop} {τ : List (Event S ε)} {e e' : Event S ε}

/-- Each event of a guarded list came after events that satisfy its guard. -/
theorem Guarded.of_mem (h : Guarded G τ) (he : e ∈ τ) : ∃ τ₁, τ₁ ++ [e] <+: τ ∧ G e.op τ₁ := by
  obtain ⟨τ₁, τ₂, rfl⟩ := List.append_of_mem he
  have hpre : τ₁ ++ [e] <+: τ₁ ++ e :: τ₂ := ⟨τ₂, by simp⟩
  exact ⟨τ₁, hpre, h τ₁ e hpre⟩

/-- Of two events one is the other, or came before it. -/
theorem Guarded.of_mem_of_mem (h : Guarded G τ) (he : e ∈ τ) (he' : e' ∈ τ) :
    e = e' ∨ (∃ τ₁, τ₁ ++ [e'] <+: τ ∧ e ∈ τ₁ ∧ G e'.op τ₁) ∨
      ∃ τ₁, τ₁ ++ [e] <+: τ ∧ e' ∈ τ₁ ∧ G e.op τ₁ := by
  obtain ⟨τ₁, τ₂, rfl⟩ := List.append_of_mem he
  have hpre : τ₁ ++ [e] <+: τ₁ ++ e :: τ₂ := ⟨τ₂, by simp⟩
  rcases List.mem_append.mp he' with he' | he'
  · exact .inr (.inr ⟨τ₁, hpre, he', h τ₁ e hpre⟩)
  · rcases List.mem_cons.mp he' with rfl | he'
    · exact .inl rfl
    · obtain ⟨τ₃, τ₄, rfl⟩ := List.append_of_mem he'
      have hpre' : (τ₁ ++ e :: τ₃) ++ [e'] <+: τ₁ ++ e :: (τ₃ ++ e' :: τ₄) := ⟨τ₄, by simp⟩
      exact .inr (.inl ⟨τ₁ ++ e :: τ₃, hpre', by simp, h _ e' hpre'⟩)

theorem Guarded.mono {G' : S.Op → List (Event S ε) → Prop} (h : Guarded G τ)
    (hG : ∀ o τ, G o τ → G' o τ) : Guarded G' τ := fun τ₁ e hpre => hG _ _ (h τ₁ e hpre)

end

/-! ### Operations in order -/

section Order
variable {rank : S.Op → Nat} {τ : List (Event S ε)} {e e' : Event S ε}

/-- An operation of positive rank comes after operations of lower rank only. -/
def InOrder (rank : S.Op → Nat) (o : S.Op) (τ : List (Event S ε)) : Prop :=
  rank o = 0 ∨ ∀ e ∈ τ, rank e.op < rank o

/-- Two operations of the same positive rank are one. -/
theorem Guarded.eq_of_rank (h : Guarded (InOrder rank) τ) (he : e ∈ τ) (he' : e' ∈ τ)
    (hrank : rank e.op = rank e'.op) (hpos : rank e.op ≠ 0) : e = e' := by
  rcases h.of_mem_of_mem he he' with heq | ⟨τ₁, -, hmem, hlow⟩ | ⟨τ₁, -, hmem, hlow⟩
  · exact heq
  · rcases hlow with hzero | hlow
    · exact absurd (hrank.trans hzero) hpos
    · exact absurd (hlow e hmem) (by omega)
  · rcases hlow with hzero | hlow
    · exact absurd hzero hpos
    · exact absurd (hlow e' hmem) (by omega)

/-- What holds of the events before an operation holds of one of lower rank as well: it was
performed before. -/
theorem Guarded.before_of_rank {G : S.Op → List (Event S ε) → Prop}
    (h : Guarded (fun o τ => G o τ ∧ InOrder rank o τ) τ) (he : e ∈ τ) (he' : e' ∈ τ)
    (hrank : rank e.op < rank e'.op) (hpos : rank e.op ≠ 0) :
    ∃ τ₁, τ₁ ++ [e'] <+: τ ∧ e ∈ τ₁ ∧ G e'.op τ₁ := by
  rcases h.of_mem_of_mem he he' with rfl | ⟨τ₁, hpre, hmem, hG, -⟩ | ⟨τ₁, -, hmem, -, hlow⟩
  · exact absurd hrank (Nat.lt_irrefl _)
  · exact ⟨τ₁, hpre, hmem, hG⟩
  · rcases hlow with hzero | hlow
    · exact absurd hzero hpos
    · exact absurd (hlow e' hmem) (by omega)

end Order

end GmailGateway.Effect
