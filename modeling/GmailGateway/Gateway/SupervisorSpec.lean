import GmailGateway.Gateway.Supervisor

/-!
# GmailGateway.Gateway.SupervisorSpec

**What the calls of the supervision channel do.** Children only go on: none comes back, and none is
forgotten (`Onward`). An operation that neither assigns an attribute nor spawns is `Quiet`. What a
`start` and a `stop` can do on top of that are two closed lists, `Started` and `Stopped`.

A `kill` that raises leaves its child behind. So does a ready line that makes the parser raise what
`start` does not catch, and so does a reader thread that cannot be started or waited for: on an
`orderly` run of `start` there is none of these.
-/

namespace GmailGateway

open Effect Proc Python

/-! ### Children go on -/

/-- A child keeps what it was spawned with, and does not come back. -/
structure Child.Onward (c c' : Child) : Prop where
  same : c' = { c with status := c'.status }
  running : c'.status = .running → c.status = .running
  exited : c.status = .exited → c'.status = .exited

theorem Child.Onward.refl (c : Child) : c.Onward c := ⟨rfl, id, id⟩

theorem Child.Onward.trans {c₁ c₂ c₃ : Child} (h : c₁.Onward c₂) (h' : c₂.Onward c₃) :
    c₁.Onward c₃ := by
  refine ⟨?_, fun hrun => h.running (h'.running hrun), fun hexit => h'.exited (h.exited hexit)⟩
  rw [h'.same, h.same]

theorem Child.Later.onward {c c' : Child} (h : c.Later c') : c.Onward c' := by
  rcases h with rfl | rfl
  · exact .refl _
  · exact ⟨rfl, by simp, by simp⟩

theorem Child.onward_killed (c : Child) : c.Onward c.killed := by
  refine ⟨rfl, fun hrun => ?_, fun hexit => by simp [killed, hexit]⟩
  unfold killed at hrun
  split at hrun <;> cases hrun

namespace SupervisorState

/-- Every child of `s` is one of `s'`, some time later. -/
def Onward (s s' : SupervisorState) : Prop :=
  ∀ (i : Nat) (c : Child), s.children[i]? = some c → ∃ c', s'.children[i]? = some c' ∧ c.Onward c'

/-- The child `i` was neither killed nor has it exited. -/
def Running (s : SupervisorState) (i : Nat) : Prop :=
  ∃ c, s.children[i]? = some c ∧ c.status = .running

/-- `poll` takes the child `i` for alive. -/
def Alive (s : SupervisorState) (i : Nat) : Prop :=
  ∃ c, s.children[i]? = some c ∧ c.status ≠ .exited

/-- The child `i` has exited. -/
def Gone (s : SupervisorState) (i : Nat) : Prop :=
  ∃ c, s.children[i]? = some c ∧ c.status = .exited

variable {s s₁ s₂ s₃ s' : SupervisorState} {i : Nat}

theorem Onward.refl (s : SupervisorState) : s.Onward s := fun _ c hc => ⟨c, hc, .refl c⟩

theorem Onward.trans (h : s₁.Onward s₂) (h' : s₂.Onward s₃) : s₁.Onward s₃ := by
  intro i c hc
  obtain ⟨c', hc', hon⟩ := h i c hc
  obtain ⟨c'', hc'', hon'⟩ := h' i c' hc'
  exact ⟨c'', hc'', hon.trans hon'⟩

theorem Running.alive (h : s.Running i) : s.Alive i := by
  obtain ⟨c, hc, hrun⟩ := h
  exact ⟨c, hc, by simp [hrun]⟩

theorem Gone.not_alive (h : s.Gone i) : ¬ s.Alive i := by
  obtain ⟨c, hc, hexit⟩ := h
  rintro ⟨c', hc', hne⟩
  cases hc.symm.trans hc'
  exact hne hexit

theorem Gone.onward (h : s.Gone i) (hon : s.Onward s') : s'.Gone i := by
  obtain ⟨c, hc, hexit⟩ := h
  obtain ⟨c', hc', hon'⟩ := hon i c hc
  exact ⟨c', hc', hon'.exited hexit⟩

end SupervisorState

open SupervisorState

/-- No attribute was assigned, and no child spawned. -/
structure Quiet (s s' : SupervisorState) : Prop where
  attrs : s'.attrs = s.attrs
  length : s'.children.length = s.children.length
  onward : s.Onward s'

namespace Quiet
variable {s s₁ s₂ s₃ s' : SupervisorState} {i : Nat} {c' : Child}

theorem refl (s : SupervisorState) : Quiet s s := ⟨rfl, rfl, .refl s⟩

theorem trans (h : Quiet s₁ s₂) (h' : Quiet s₂ s₃) : Quiet s₁ s₃ :=
  ⟨h'.attrs.trans h.attrs, h'.length.trans h.length, h.onward.trans h'.onward⟩

/-- Where a child came from. -/
theorem origin (h : Quiet s s') (hc' : s'.children[i]? = some c') :
    ∃ c, s.children[i]? = some c ∧ c.Onward c' := by
  have hlt : i < s.children.length := h.length ▸ (List.getElem?_eq_some_iff.mp hc').1
  obtain ⟨c'', hc'', hon⟩ := h.onward i _ (List.getElem?_eq_getElem hlt)
  rw [hc'] at hc''
  cases hc''
  exact ⟨_, List.getElem?_eq_getElem hlt, hon⟩

theorem running (h : Quiet s s') (hrun : s'.Running i) : s.Running i := by
  obtain ⟨c', hc', hrun⟩ := hrun
  obtain ⟨c, hc, hon⟩ := h.origin hc'
  exact ⟨c, hc, hon.running hrun⟩

theorem alive (h : Quiet s s') (halive : s'.Alive i) : s.Alive i := by
  obtain ⟨c', hc', halive⟩ := halive
  obtain ⟨c, hc, hon⟩ := h.origin hc'
  exact ⟨c, hc, fun hexit => halive (hon.exited hexit)⟩

end Quiet

/-! ### What the operations do to the children -/

theorem onward_of_later {l l' : List Child} (h : List.Forall₂ Child.Later l l') :
    l'.length = l.length ∧
      ∀ (i : Nat) c, l[i]? = some c → ∃ c', l'[i]? = some c' ∧ c.Onward c' := by
  refine ⟨h.length_eq.symm, ?_⟩
  induction h with
  | nil => simp
  | cons hc _ ih =>
      intro i c hi
      cases i with
      | zero =>
          cases hi
          exact ⟨_, rfl, hc.onward⟩
      | succ i => exact ih i c hi

/-- The operations that neither assign an attribute nor spawn. -/
def SupervisorOp.IsQuiet : SupervisorOp → Prop
  | .setAttrs _ | .popen _ _ _ => False
  | _ => True

section Effects
variable {s s' : SupervisorState} {proc : Popen}

theorem quiet_advance {children : List Child} (h : List.Forall₂ Child.Later s.children children) :
    Quiet s { s with children } :=
  ⟨rfl, (onward_of_later h).1, (onward_of_later h).2⟩

theorem quiet_kill (s : SupervisorState) (i : Nat) :
    Quiet s { s with children := s.children.modify i Child.killed } := by
  refine ⟨rfl, List.length_modify .., fun j c hc => ?_⟩
  rw [List.getElem?_modify, hc]
  by_cases hij : i = j
  · exact ⟨c.killed, by simp [hij], c.onward_killed⟩
  · exact ⟨c, by simp [hij], .refl c⟩

theorem quiet_childStep {o : SupervisorOp} {r : Except SupervisorExc o.Ret}
    (h : childStep s o r s') (ho : o.IsQuiet ∨ ∃ e, r = .error e) : Quiet s s' := by
  have hrefl : s' = s → Quiet s s' := fun heq => heq ▸ .refl s
  rcases r with e | a
  · cases o with
    | attrs | setAttrs | poll => exact h.elim
    | _ => exact hrefl h
  · have hquiet : o.IsQuiet := by simpa using ho
    cases o with
    | setAttrs | popen => exact hquiet.elim
    | kill proc =>
        subst h
        exact quiet_kill s _
    | getLine proc timeout =>
        rcases a with _ | line
        · exact hrefl h
        · exact hrefl h.1
    | attrs => exact hrefl h.2
    | poll | wait => exact hrefl h.1
    | _ => exact hrefl h

theorem quiet_step {o : SupervisorOp} {r : Except SupervisorExc o.Ret}
    (h : supervisorEnv s o r s') (ho : o.IsQuiet ∨ ∃ e, r = .error e) : Quiet s s' := by
  obtain ⟨children, hlater, hstep⟩ := h
  exact (quiet_advance hlater).trans (quiet_childStep hstep ho)

theorem attrs_effect {r : Except SupervisorExc SupervisorAttrs} (h : supervisorEnv s .attrs r s') :
    r = .ok s.attrs := by
  obtain ⟨children, _, hstep⟩ := h
  rcases r with e | attrs
  · exact hstep.elim
  · rw [hstep.1]

theorem setAttrs_effect {attrs : SupervisorAttrs} {r : Except SupervisorExc Unit}
    (h : supervisorEnv s (.setAttrs attrs) r s') : r = .ok () ∧ Quiet { s with attrs } s' := by
  obtain ⟨children, hlater, hstep⟩ := h
  rcases r with e | u
  · exact hstep.elim
  · subst hstep
    exact ⟨rfl, quiet_advance (s := { s with attrs }) hlater⟩

theorem poll_effect {r : Except SupervisorExc (Option Int)}
    (h : supervisorEnv s (.poll proc) r s') :
    ∃ code, r = .ok code ∧ (code = none → s'.Alive proc.handle) ∧
      (code ≠ none → s'.Gone proc.handle) := by
  obtain ⟨children, _, hstep⟩ := h
  rcases r with e | code
  · exact hstep.elim
  · obtain ⟨rfl, c, hc, hcode⟩ := hstep
    refine ⟨code, rfl, fun hnone => ⟨c, hc, hcode.mp hnone⟩, fun hne => ⟨c, hc, ?_⟩⟩
    by_contra hexit
    exact hne (hcode.mpr hexit)

theorem kill_effect {u : Unit} (h : supervisorEnv s (.kill proc) (.ok u) s') :
    ¬ s'.Running proc.handle := by
  obtain ⟨children, _, rfl⟩ := h
  rintro ⟨c, hc, hrun⟩
  rw [List.getElem?_modify] at hc
  cases hget : children[proc.handle]? with
  | none => simp [hget] at hc
  | some c₀ =>
      simp only [hget, if_true, Option.map_eq_map, Option.map_some, Option.some.injEq] at hc
      subst hc
      unfold Child.killed at hrun
      split at hrun <;> cases hrun

theorem wait_effect {u : Unit} (h : supervisorEnv s (.wait proc) (.ok u) s') :
    s'.Gone proc.handle := by
  obtain ⟨children, _, rfl, c, hc, hexit⟩ := h
  exact ⟨c, hc, hexit⟩

theorem getLine_effect {timeout : PyVal} {line : PyStr}
    (h : supervisorEnv s (.getLine proc timeout) (.ok (some line)) s') (hline : line ≠ []) :
    ∃ c, s'.children[proc.handle]? = some c ∧ c.line = line := by
  obtain ⟨children, _, rfl, c, hc, hread⟩ := h
  exact ⟨c, hc, (hread.resolve_right hline).symm⟩

end Effects

/-! ### The helpers of `start` -/

/-- No `kill` failed, the reader thread was started and waited for, and no ready line made the
parser raise what `start` does not catch. -/
def orderly (sup : GatewaySupervisor) : SupervisorEvent → Bool
  | ⟨.kill _, .error _⟩ | ⟨.startReader _, .error _⟩ | ⟨.getLine _ _, .error _⟩ => false
  | ⟨.getLine _ _, .ok (some line)⟩ =>
      match sup.library.port (strip line) with
      | .ok _ => true
      | .error e => malformed e
  | _ => true

namespace GatewaySupervisor

variable {sup : GatewaySupervisor} {s : SupervisorState} {τ : List SupervisorEvent} {proc : Popen}

theorem alive_spec (held : Option Popen) :
    (alive held).sat supervisorEnv (fun _ _ => True)
      (fun r _ s' => Quiet s s' ∧ ∃ b, r = .ok b ∧
        (b = true → ∃ p, held = some p ∧ s'.Alive p.handle) ∧
        (b = false → ∀ p, held = some p → s'.Gone p.handle)) τ s := by
  cases held with
  | none => exact ⟨.refl s, false, rfl, by simp, by simp⟩
  | some p =>
      refine (sat_perform_bind _ _).mpr fun r s' hw => ⟨trivial, ?_⟩
      obtain ⟨code, rfl, halive, hgone⟩ := poll_effect hw
      refine ⟨quiet_step hw (.inl trivial), code.isNone, rfl, ?_, ?_⟩
      · intro hnone
        exact ⟨p, rfl, halive (Option.isNone_iff_eq_none.mp hnone)⟩
      · intro hsome p' hp'
        cases hp'
        exact hgone fun hnone => by simp [hnone] at hsome

/-- A child that is not alive any more does not run. -/
theorem killQuietly_spec :
    (killQuietly proc).sat supervisorEnv (fun _ _ => True)
      (fun r τ' s' => r = .ok () ∧ Quiet s s' ∧
        ((∀ e ∈ τ', orderly sup e = true) → ¬ s'.Running proc.handle)) τ s := by
  simp only [killQuietly, sat_handle, sat_bind]
  refine sat_mono (alive_spec (some proc)) ?_
  rintro r τ₁ s₁ ⟨hquiet, b, rfl, _, hgone⟩
  cases b with
  | false =>
      refine ⟨trivial, hquiet, fun _ hrun => ?_⟩
      exact (hgone rfl proc rfl).not_alive hrun.alive
  | true =>
      simp only [andThen_ok, if_true]
      refine (sat_perform_bind _ _).mpr fun r₂ s₂ hw₂ => ⟨trivial, ?_⟩
      have hquiet₂ := hquiet.trans (quiet_step hw₂ (.inl trivial))
      rcases r₂ with e | u
      · refine ⟨rfl, hquiet₂, fun horderly => ?_⟩
        exact absurd (horderly ⟨.kill proc, .error e⟩ (by simp)) Bool.false_ne_true
      · simp only [andThen_ok, perform, sat_op, sat_embed]
        intro r₃ s₃ hw₃
        refine ⟨trivial, ?_⟩
        have hquiet₃ := quiet_step hw₃ (.inl trivial)
        have hstopped : ¬ s₃.Running proc.handle := fun hrun =>
          kill_effect hw₂ (hquiet₃.running hrun)
        cases r₃ <;> exact ⟨by simp, hquiet₂.trans hquiet₃, fun _ => hstopped⟩

/-- The port is the one the child announced; without a port the child is killed. -/
theorem awaitReady_spec :
    (awaitReady sup proc).sat supervisorEnv (fun _ _ => True)
      (fun r τ' s' => Quiet s s' ∧
        (∀ port, r = .ok port →
          ∃ c, s'.children[proc.handle]? = some c ∧ sup.library.port (strip c.line) = .ok port) ∧
        ((∃ e, r = .error e) → (∀ e ∈ τ', orderly sup e = true) →
          ¬ s'.Running proc.handle)) τ s := by
  have hkill : ∀ (e : SupervisorExc) (τ₁ : List SupervisorEvent) (s₁ : SupervisorState),
      Quiet s s₁ → (do killQuietly proc; throw e : SupervisorProc Int).sat supervisorEnv
        (fun _ _ => True)
        (fun r τ' s' => Quiet s s' ∧
          (∀ port, r = .ok port →
            ∃ c, s'.children[proc.handle]? = some c ∧ sup.library.port (strip c.line) = .ok port) ∧
          ((∃ e, r = .error e) → (∀ e ∈ τ', orderly sup e = true) →
            ¬ s'.Running proc.handle)) τ₁ s₁ := by
    intro e τ₁ s₁ hquiet
    simp only [sat_bind]
    refine sat_mono (Q := fun r τ' s' => r = .ok () ∧ Quiet s₁ s' ∧
      ((∀ e ∈ τ', orderly sup e = true) → ¬ s'.Running proc.handle)) killQuietly_spec ?_
    rintro r τ₂ s₂ ⟨rfl, hquiet', hstopped⟩
    exact ⟨hquiet.trans hquiet', by simp, fun _ => hstopped⟩
  -- What escapes before there is a line leaves the child as it is.
  have hescaped : ∀ (e : SupervisorExc) (τ₁ : List SupervisorEvent) (s₁ : SupervisorState),
      Quiet s s₁ → (∃ event ∈ τ₁, orderly sup event = false) → Quiet s s₁ ∧
        (∀ port, (.error e : Except SupervisorExc Int) = .ok port →
          ∃ c, s₁.children[proc.handle]? = some c ∧ sup.library.port (strip c.line) = .ok port) ∧
        ((∃ e', (.error e : Except SupervisorExc Int) = .error e') →
          (∀ event ∈ τ₁, orderly sup event = true) → ¬ s₁.Running proc.handle) := by
    intro e τ₁ s₁ hquiet hevent
    obtain ⟨event, hmem, hnot⟩ := hevent
    refine ⟨hquiet, by simp, fun _ horderly => ?_⟩
    rw [horderly event hmem] at hnot
    cases hnot
  rw [awaitReady, sat_bind, readReadyLine]
  refine (sat_perform_bind _ _).mpr fun r₀ s₀ hw₀ => ⟨trivial, ?_⟩
  have hquiet₀ := quiet_step hw₀ (.inl trivial)
  rcases r₀ with e | u
  · exact hescaped e _ _ hquiet₀ ⟨⟨.startReader proc, .error e⟩, by simp, rfl⟩
  rw [andThen_ok]
  refine (sat_perform_bind _ _).mpr fun r s₁ hw => ⟨trivial, ?_⟩
  have hquiet := hquiet₀.trans (quiet_step hw (.inl trivial))
  rcases r with e | _ | _ | ⟨c, cs⟩
  · exact hescaped e _ _ hquiet ⟨⟨.getLine proc sup.readyTimeout, .error e⟩, by simp, rfl⟩
  · exact hkill _ _ _ hquiet
  · exact hkill _ _ _ hquiet
  · obtain ⟨child, hchild, hline⟩ := getLine_effect hw (by simp)
    simp only [andThen_ok, sat_pure]
    cases hport : sup.library.port (strip (c :: cs)) with
    | ok port =>
        simp only [sat_pure]
        refine ⟨hquiet, fun port' hport' => ?_, by rintro ⟨e, he⟩; cases he⟩
        cases hport'
        exact ⟨child, hchild, by rw [hline, hport]⟩
    | error e =>
        by_cases hcaught : malformed e = true
        · simp only [hcaught, if_true]
          exact hkill _ _ _ hquiet
        · simp only [hcaught, Bool.false_eq_true, if_false, sat_throw]
          refine ⟨hquiet, by simp, fun _ horderly => ?_⟩
          have hgood := horderly ⟨.getLine proc sup.readyTimeout, .ok (some (c :: cs))⟩ (by simp)
          simp only [orderly, hport] at hgood
          exact absurd hgood hcaught

theorem descriptor_spec :
    descriptor.sat supervisorEnv (fun _ _ => True)
      (fun r _ s' => Quiet s s' ∧
        ∀ p, s.attrs.proc = some p → r = .ok ⟨p.pid, s.attrs.port, s.attrs.bearer⟩) τ s := by
  refine (sat_perform_bind _ _).mpr fun r s' hw => ⟨trivial, ?_⟩
  have hquiet := quiet_step hw (.inl trivial)
  obtain rfl := attrs_effect hw
  simp only [andThen_ok]
  split
  · rename_i hproc
    exact ⟨hquiet, by simp [hproc]⟩
  · rename_i p hproc
    exact ⟨hquiet, by simp [hproc]⟩

end GatewaySupervisor

/-! ### What the calls do -/

/-- The child that was held in `s` has exited. -/
def Idle (s s' : SupervisorState) : Prop := ∀ p, s.attrs.proc = some p → s'.Gone p.handle

/-- `s'` has one child more than `s`, namely `c`. -/
structure Spawned (s s' : SupervisorState) (c : Child) : Prop where
  length : s'.children.length = s.children.length + 1
  onward : s.Onward s'
  child : s'.children[s.children.length]? = some c

/-- The child is what the supervisor says it is. -/
structure Announced (sup : GatewaySupervisor) (c : Child) (d : Descriptor) : Prop where
  pid : c.pid = d.pid
  argv : c.argv = sup.argv
  bearer : c.environ GatewaySupervisor.envBearer = d.bearer
  port : ∃ port, d.port = some port ∧ sup.library.port (strip c.line) = .ok port

/-- Everything a `start` can do. -/
inductive Started (sup : GatewaySupervisor) (s : SupervisorState) :
    Except SupervisorExc Descriptor → List SupervisorEvent → SupervisorState → Prop
  | reused {p τ s'} : s.attrs.proc = some p → s.Alive p.handle → Quiet s s' →
      Started sup s (.ok ⟨p.pid, s.attrs.port, s.attrs.bearer⟩) τ s'
  /-- Nothing was spawned. -/
  | refused {e τ s'} : Idle s s' → Quiet s s' → Started sup s (.error e) τ s'
  /-- The child did not report ready. -/
  | failed {e τ s' c} : Idle s s' → s'.attrs = s.attrs → Spawned s s' c →
      ((∀ e ∈ τ, orderly sup e = true) → c.status ≠ .running) → Started sup s (.error e) τ s'
  | summoned {p c port bearer τ s'} : Idle s s' →
      s'.attrs = ⟨some p, some port, some bearer⟩ → p.handle = s.children.length →
      Spawned s s' c → Announced sup c ⟨p.pid, some port, some bearer⟩ →
      Started sup s (.ok ⟨p.pid, some port, some bearer⟩) τ s'

namespace Spawned
variable {s₀ s s' s'' : SupervisorState} {c c' : Child} {i : Nat}

/-- What was before, and what comes after. -/
theorem around (h : Spawned s s' c) (hbefore : Quiet s₀ s) (hafter : Quiet s' s'') :
    ∃ c', c.Onward c' ∧ Spawned s₀ s'' c' := by
  obtain ⟨c', hc', hon⟩ := hafter.onward _ _ h.child
  refine ⟨c', hon, ?_, (hbefore.onward.trans h.onward).trans hafter.onward, ?_⟩
  · rw [hafter.length, h.length, hbefore.length]
  · rw [← hbefore.length, hc']

/-- The other children are older. -/
theorem origin (h : Spawned s s' c) (hi : i ≠ s.children.length)
    (hc' : s'.children[i]? = some c') : ∃ c, s.children[i]? = some c ∧ c.Onward c' := by
  have hlt : i < s.children.length := by
    have := (List.getElem?_eq_some_iff.mp hc').1
    have := h.length
    omega
  obtain ⟨c'', hc'', hon⟩ := h.onward i _ (List.getElem?_eq_getElem hlt)
  rw [hc'] at hc''
  cases hc''
  exact ⟨_, List.getElem?_eq_getElem hlt, hon⟩

end Spawned

theorem Announced.onward {sup : GatewaySupervisor} {c c' : Child} {d : Descriptor}
    (h : Announced sup c d) (hon : c.Onward c') : Announced sup c' d := by
  rw [hon.same]
  exact ⟨h.pid, h.argv, h.bearer, h.port⟩

theorem popen_effect {s s' : SupervisorState} {argv : List PyStr} {cwd : PyStr} {env : Environ}
    {p : Popen} (h : supervisorEnv s (.popen argv cwd env) (.ok p) s') :
    s'.attrs = s.attrs ∧ p.handle = s.children.length ∧
      ∃ line, Spawned s s' { pid := p.pid, argv, cwd, environ := env, line } := by
  obtain ⟨children, hlater, hhandle, line, rfl⟩ := h
  obtain ⟨hlength, honward⟩ := onward_of_later hlater
  have hhandle' : p.handle = s.children.length := hhandle.trans hlength
  refine ⟨rfl, hhandle', line, ?_, fun i c hc => ?_, ?_⟩
  · simp [hlength]
  · obtain ⟨c', hc', hon⟩ := honward i c hc
    have hlt := (List.getElem?_eq_some_iff.mp hc').1
    exact ⟨c', by rw [List.getElem?_append_left hlt, hc'], hon⟩
  · simp [← hlength]

namespace GatewaySupervisor

variable {sup : GatewaySupervisor} {s : SupervisorState}

/-- A `start` that has to spawn. -/
theorem summon_spec {s₀ : SupervisorState} {τ : List SupervisorEvent} (hquiet : Quiet s₀ s)
    (hidle : Idle s₀ s) :
    (do
      let bearer ← perform (S := SupervisorSig) .bearerFactory
      let environ ← perform (S := SupervisorSig) .environ
      let proc ← perform (S := SupervisorSig)
        (.popen (argv sup) sup.cwd (Function.update environ envBearer (some bearer)))
      let port ← awaitReady sup proc
      setAttrs { proc := some proc, port := some port, bearer := some bearer }
      descriptor).sat supervisorEnv (fun _ _ => True) (fun r τ' s' => Started sup s₀ r τ' s')
      τ s := by
  refine (sat_perform_bind _ _).mpr fun r₁ s₁ hw₁ => ⟨trivial, ?_⟩
  have hquiet₁ := hquiet.trans (quiet_step hw₁ (.inl trivial))
  have hidle₁ : Idle s₀ s₁ := fun p hp => (hidle p hp).onward (quiet_step hw₁ (.inl trivial)).onward
  rcases r₁ with e | bearer
  · exact .refused hidle₁ hquiet₁
  simp only [andThen_ok]
  refine (sat_perform_bind _ _).mpr fun r₂ s₂ hw₂ => ⟨trivial, ?_⟩
  have hquiet₂ := hquiet₁.trans (quiet_step hw₂ (.inl trivial))
  have hidle₂ : Idle s₀ s₂ := fun p hp => (hidle₁ p hp).onward (quiet_step hw₂ (.inl trivial)).onward
  rcases r₂ with e | environ
  · exact .refused hidle₂ hquiet₂
  simp only [andThen_ok]
  refine (sat_perform_bind _ _).mpr fun r₃ s₃ hw₃ => ⟨trivial, ?_⟩
  rcases r₃ with e | p
  · have hquiet₃ := quiet_step hw₃ (.inr ⟨e, rfl⟩)
    exact .refused (fun p hp => (hidle₂ p hp).onward hquiet₃.onward) (hquiet₂.trans hquiet₃)
  obtain ⟨hattrs₃, hhandle, line, hspawned⟩ := popen_effect hw₃
  simp only [andThen_ok]
  refine (sat_bind _ _).mpr (sat_mono awaitReady_spec ?_)
  rintro r₄ τ₄ s₄ ⟨hquiet₄, hport, hstopped⟩
  have hidle₄ : Idle s₀ s₄ := fun q hq =>
    ((hidle₂ q hq).onward hspawned.onward).onward hquiet₄.onward
  have hhandle₀ : p.handle = s₀.children.length := hhandle.trans hquiet₂.length
  obtain ⟨c, hon, hc⟩ := hspawned.around hquiet₂ hquiet₄
  rcases r₄ with e | port
  · refine .failed hidle₄ (by rw [hquiet₄.attrs, hattrs₃, hquiet₂.attrs]) hc fun horderly hrun => ?_
    exact hstopped ⟨e, rfl⟩ horderly ⟨c, hhandle₀ ▸ hc.child, hrun⟩
  · obtain ⟨c', hc', hline⟩ := hport port rfl
    rw [hhandle₀, hc.child] at hc'
    cases hc'
    have hannounced : Announced sup c ⟨p.pid, some port, some bearer⟩ := by
      rw [hon.same] at hline ⊢
      exact ⟨rfl, rfl, by simp, port, rfl, hline⟩
    simp only [andThen_ok]
    refine (sat_perform_bind _ _).mpr fun r₅ s₅ hw₅ => ⟨trivial, ?_⟩
    obtain ⟨rfl, hquiet₅⟩ := setAttrs_effect hw₅
    refine sat_mono descriptor_spec ?_
    rintro r₆ τ₆ s₆ ⟨hquiet₆, hdescriptor⟩
    have hattrs₅ : s₅.attrs = ⟨some p, some port, some bearer⟩ := hquiet₅.attrs
    obtain rfl := hdescriptor p (by rw [hattrs₅])
    rw [hattrs₅]
    -- The attributes aside, the children only went on.
    have hchildren := hquiet₅.trans hquiet₆
    have hafter : Quiet s₄ { s₆ with attrs := s₄.attrs } :=
      ⟨rfl, hchildren.length, hchildren.onward⟩
    obtain ⟨c'', hon'', hc''⟩ := hc.around (.refl s₀) hafter
    exact .summoned (fun q hq => (hidle₄ q hq).onward hafter.onward)
      (by rw [hquiet₆.attrs, hattrs₅]) hhandle₀ ⟨hc''.length, hc''.onward, hc''.child⟩
      (hannounced.onward hon'')

theorem start_started :
    sup.start.sat supervisorEnv (fun _ _ => True) (fun r τ' s' => Started sup s r τ' s') [] s := by
  refine (sat_perform_bind _ _).mpr fun r₁ s₁ hw₁ => ⟨trivial, ?_⟩
  have hquiet₁ := quiet_step hw₁ (.inl trivial)
  obtain rfl := attrs_effect hw₁
  refine (sat_bind _ _).mpr (sat_mono (alive_spec s.attrs.proc) ?_)
  rintro r₂ τ₂ s₂ ⟨hquiet₂, b, rfl, halive, hgone⟩
  have hquiet := hquiet₁.trans hquiet₂
  cases b with
  | true =>
      obtain ⟨p, hp, hpalive⟩ := halive rfl
      refine sat_mono descriptor_spec ?_
      rintro r₃ τ₃ s₃ ⟨hquiet₃, hdescriptor⟩
      obtain rfl := hdescriptor p (by rw [hquiet.attrs, hp])
      rw [hquiet.attrs]
      exact .reused hp (hquiet.alive hpalive) (hquiet.trans hquiet₃)
  | false => exact summon_spec hquiet (hgone rfl)

end GatewaySupervisor

/-- Everything a `stop` can do. -/
inductive Stopped (s : SupervisorState) : Except SupervisorExc Unit → SupervisorState → Prop
  /-- The child has exited and is let go. -/
  | released {s'} : Idle s s' → Quiet { s with attrs := {} } s' → Stopped s (.ok ()) s'
  | failed {e s'} : Quiet s s' → Stopped s (.error e) s'

namespace GatewaySupervisor

variable {sup : GatewaySupervisor} {s s₀ : SupervisorState} {τ : List SupervisorEvent}

/-- The last statement of `stop`. -/
theorem release_spec (hquiet : Quiet s₀ s) (hidle : Idle s₀ s) :
    (setAttrs {}).sat supervisorEnv (fun _ _ => True) (fun r _ s' => Stopped s₀ r s') τ s := by
  simp only [setAttrs, perform, sat_op, sat_embed]
  intro r s' hw
  refine ⟨trivial, ?_⟩
  obtain ⟨rfl, hset⟩ := setAttrs_effect hw
  have honward : s.Onward s' := hset.onward
  exact .released (fun p hp => (hidle p hp).onward honward)
    ⟨hset.attrs, hset.length.trans hquiet.length, hquiet.onward.trans honward⟩

theorem stop_stopped :
    stop.sat supervisorEnv (fun _ _ => True) (fun r _ s' => Stopped s r s') τ s := by
  refine (sat_perform_bind _ _).mpr fun r₁ s₁ hw₁ => ⟨trivial, ?_⟩
  have hquiet₁ := quiet_step hw₁ (.inl trivial)
  obtain rfl := attrs_effect hw₁
  simp only [andThen_ok]
  split
  · rename_i hnone
    exact release_spec hquiet₁ (by simp [Idle, hnone])
  · rename_i p hp
    refine (sat_bind _ _).mpr (sat_mono (alive_spec (some p)) ?_)
    rintro r₂ τ₂ s₂ ⟨hquiet₂, b, rfl, _, hgone⟩
    have hquiet := hquiet₁.trans hquiet₂
    have hidle : ∀ s', s'.Gone p.handle → Idle s s' := by
      intro s' hgone q hq
      cases hp.symm.trans hq
      exact hgone
    cases b with
    | false => exact release_spec hquiet (hidle _ (hgone rfl p rfl))
    | true =>
        simp only [andThen_ok, if_true]
        refine (sat_perform_bind _ _).mpr fun r₃ s₃ hw₃ => ⟨trivial, ?_⟩
        have hquiet₃ := hquiet.trans (quiet_step hw₃ (.inl trivial))
        rcases r₃ with e | u
        · exact .failed hquiet₃
        simp only [andThen_ok, sat_bind, sat_handle, perform, sat_op, sat_embed]
        intro r₄ s₄ hw₄
        refine ⟨trivial, ?_⟩
        have hquiet₄ := hquiet₃.trans (quiet_step hw₄ (.inl trivial))
        rcases r₄ with e | u
        · cases e with
          | timeoutExpired =>
              simp only [andThen_error]
              refine (sat_perform_bind _ _).mpr fun r₅ s₅ hw₅ => ⟨trivial, ?_⟩
              have hquiet₅ := hquiet₄.trans (quiet_step hw₅ (.inl trivial))
              rcases r₅ with e | u
              · exact .failed hquiet₅
              simp only [andThen_ok, sat_op, sat_embed]
              intro r₆ s₆ hw₆
              refine ⟨trivial, ?_⟩
              have hquiet₆ := hquiet₅.trans (quiet_step hw₆ (.inl trivial))
              rcases r₆ with e | u
              · exact .failed hquiet₆
              · exact release_spec hquiet₆ (hidle _ (wait_effect hw₆))
          | _ => exact .failed hquiet₄
        · exact release_spec hquiet₄ (hidle _ (wait_effect hw₄))

/-- `health` changes nothing. -/
theorem performs_health : sup.health.Performs SupervisorOp.IsQuiet := by
  have halive : ∀ held, (alive held).Performs SupervisorOp.IsQuiet := by
    intro held
    cases held with
    | none => trivial
    | some p =>
        refine performs_bind (performs_perform ?_) fun code => ?_
        · trivial
        · exact performs_pure _
  refine performs_bind (performs_perform trivial) fun self => ?_
  refine performs_bind (halive _) fun running => ?_
  cases running with
  | false => trivial
  | true =>
      cases self.port with
      | none => trivial
      | some port =>
          refine performs_bind (performs_handle ?_ fun e => ?_) fun _ => performs_pure _
          · exact performs_bind (performs_perform trivial) fun _ => performs_pure _
          · cases e with
            | raised e => cases e <;> trivial
            | _ => trivial

end GatewaySupervisor

end GmailGateway
