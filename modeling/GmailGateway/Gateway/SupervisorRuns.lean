import GmailGateway.Gateway.SupervisorSpec

/-!
# GmailGateway.Gateway.SupervisorRuns

**A supervisor runs one gateway at a time.** Over any sequence of `start`, `health` and `stop`, with
children that exit whenever they like, every child that still runs is the one the supervisor holds;
what `start` returned of it is true, and is returned again as long as the child lives.
-/

namespace GmailGateway

open Effect Proc Python SupervisorState

/-! ### Sessions -/

section Sessions
variable {sup : GatewaySupervisor} {s s' : SupervisorState}

/-- A call of a session that came to an end. -/
def Ended (call : Call SupervisorSig SupervisorExc SupervisorResult SupervisorCall) : Prop :=
  ∃ r, call.outcome = .done r

theorem exec_start {τ : List SupervisorEvent} {r : Except SupervisorExc SupervisorResult}
    (h : Exec supervisorEnv (SupervisorCall.start.run sup) s τ (.done r) s') :
    ∃ r', r = r'.map .started ∧ Started sup s r' τ s' := by
  have hspec : (SupervisorCall.start.run sup).sat supervisorEnv (fun _ _ => True)
      (fun r τ' s' => ∃ r', r = r'.map .started ∧ Started sup s r' τ' s') [] s := by
    simp only [SupervisorCall.run, map_eq_pure_bind, sat_bind]
    refine sat_mono GatewaySupervisor.start_started fun r' τ' s' hstarted => ?_
    cases r' <;> exact ⟨_, rfl, hstarted⟩
  exact h.post hspec

theorem exec_health {τ : List SupervisorEvent} {out : Outcome SupervisorExc SupervisorResult}
    (h : Exec supervisorEnv (SupervisorCall.health.run sup) s τ out s') : Quiet s s' := by
  have hperforms : (SupervisorCall.health.run sup).Performs SupervisorOp.IsQuiet :=
    performs_bind GatewaySupervisor.performs_health fun _ => performs_pure _
  exact h.frame hperforms .refl (fun _ _ _ => .trans) fun _ _ _ _ ho hw => quiet_step hw (.inl ho)

theorem health_not_started {τ : List SupervisorEvent} {r : Except SupervisorExc SupervisorResult}
    (h : Exec supervisorEnv (SupervisorCall.health.run sup) s τ (.done r) s') (d : Descriptor) :
    r ≠ .ok (.started d) := by
  have hspec : (SupervisorCall.health.run sup).sat supervisorEnv (fun _ _ => True)
      (fun r _ _ => r ≠ .ok (.started d)) [] s := by
    simp only [SupervisorCall.run, map_eq_pure_bind, sat_bind]
    refine sat_mono (sat_of_exec (Q := fun _ _ _ => True) fun _ _ _ _ => trivial) fun r _ _ _ => ?_
    cases r <;> simp
  exact h.post hspec

theorem exec_stop {τ : List SupervisorEvent} {r : Except SupervisorExc SupervisorResult}
    (h : Exec supervisorEnv (SupervisorCall.stop.run sup) s τ (.done r) s') :
    ∃ r', r = r'.map (fun _ => .stopped) ∧ Stopped s r' s' := by
  have hspec : (SupervisorCall.stop.run sup).sat supervisorEnv (fun _ _ => True)
      (fun r _ s' => ∃ r', r = r'.map (fun _ => .stopped) ∧ Stopped s r' s') [] s := by
    simp only [SupervisorCall.run, map_eq_pure_bind, sat_bind]
    refine sat_mono GatewaySupervisor.stop_stopped fun r' τ' s' hstopped => ?_
    cases r' <;> exact ⟨_, rfl, hstopped⟩
  exact h.post hspec

end Sessions

/-! ### A session -/

section Sample

/-- A supervisor whose gateway announces a port on a fixed line. -/
def sampleSupervisor : GatewaySupervisor where
  library :=
    { loads := fun line => if line = str "ready" then .ok (.dict [(str "port", .int 8025)])
        else .error .valueError
      int := fun _ => none }
  dataRoot := str "data"
  host := str "127.0.0.1"
  python := str "python"
  cwd := str "repo"

/-- The first child of a session. -/
def sampleProc : Popen := ⟨0, 7⟩

/-- The environment it gets. -/
def sampleEnviron : Environ :=
  Function.update (fun _ => none) GatewaySupervisor.envBearer (some (str "b"))

/-- It, in the given status. -/
def sampleChild (status : ChildStatus) : Child where
  pid := 7
  argv := sampleSupervisor.argv
  cwd := str "repo"
  environ := sampleEnviron
  line := str "ready\n"
  status := status

/-- What the supervisor holds while it runs. -/
def sampleAttrs : SupervisorAttrs := ⟨some sampleProc, some 8025, some (str "b")⟩

/-- What `start` returns for it. -/
def sampleStarted : Except SupervisorExc SupervisorResult :=
  .ok (.started ⟨7, some 8025, some (str "b")⟩)

/-- A `start` that spawns it. -/
def summonEvents : List SupervisorEvent :=
  [⟨.attrs, .ok {}⟩, ⟨.bearerFactory, .ok (str "b")⟩, ⟨.environ, .ok fun _ => none⟩,
    ⟨.popen sampleSupervisor.argv (str "repo") sampleEnviron, .ok sampleProc⟩,
    ⟨.startReader sampleProc, .ok ()⟩,
    ⟨.getLine sampleProc sampleSupervisor.readyTimeout, .ok (some (str "ready\n"))⟩,
    ⟨.setAttrs sampleAttrs, .ok ()⟩, ⟨.attrs, .ok sampleAttrs⟩]

/-- A `start` that finds it alive. -/
def reuseEvents : List SupervisorEvent :=
  [⟨.attrs, .ok sampleAttrs⟩, ⟨.poll sampleProc, .ok none⟩, ⟨.attrs, .ok sampleAttrs⟩]

/-- A `stop` that terminates it. -/
def stopEvents : List SupervisorEvent :=
  [⟨.attrs, .ok sampleAttrs⟩, ⟨.poll sampleProc, .ok none⟩, ⟨.terminate sampleProc, .ok ()⟩,
    ⟨.wait sampleProc, .ok ()⟩, ⟨.setAttrs {}, .ok ()⟩]

theorem env_of_childStep {s s' : SupervisorState} {o : SupervisorOp}
    {r : Except SupervisorExc o.Ret} (h : childStep s o r s') : supervisorEnv s o r s' :=
  ⟨s.children, List.forall₂_same.mpr fun _ _ => .inl rfl, h⟩

theorem exec_summon : Exec supervisorEnv (SupervisorCall.start.run sampleSupervisor) {}
    summonEvents (.done sampleStarted) ⟨sampleAttrs, [sampleChild .running]⟩ := by
  have hspawn : supervisorEnv {} (.popen sampleSupervisor.argv (str "repo") sampleEnviron)
      (.ok sampleProc) ⟨{}, [sampleChild .running]⟩ :=
    env_of_childStep ⟨rfl, str "ready\n", rfl⟩
  have hset : supervisorEnv ⟨{}, [sampleChild .running]⟩ (.setAttrs sampleAttrs) (.ok ())
      ⟨sampleAttrs, [sampleChild .running]⟩ := env_of_childStep rfl
  refine .op (env_of_childStep (s := {}) ⟨rfl, rfl⟩) ?_
  refine .op (env_of_childStep (s := {}) rfl) ?_
  refine .op (env_of_childStep (s := {}) rfl) ?_
  refine .op hspawn (.op (env_of_childStep (s := ⟨{}, [sampleChild .running]⟩) rfl) ?_)
  refine .op (env_of_childStep ⟨rfl, sampleChild .running, rfl, .inl rfl⟩) ?_
  exact .op hset (.op (env_of_childStep ⟨rfl, rfl⟩) .ret)

theorem exec_reuse : Exec supervisorEnv (SupervisorCall.start.run sampleSupervisor)
    ⟨sampleAttrs, [sampleChild .running]⟩ reuseEvents (.done sampleStarted)
    ⟨sampleAttrs, [sampleChild .running]⟩ := by
  refine .op (env_of_childStep ⟨rfl, rfl⟩) ?_
  refine .op (env_of_childStep ⟨rfl, sampleChild .running, rfl, by simp [sampleChild]⟩) ?_
  exact .op (env_of_childStep ⟨rfl, rfl⟩) .ret

theorem exec_terminate : Exec supervisorEnv (SupervisorCall.stop.run sampleSupervisor)
    ⟨sampleAttrs, [sampleChild .running]⟩ stopEvents (.done (.ok .stopped))
    ⟨{}, [sampleChild .exited]⟩ := by
  have hexit : List.Forall₂ Child.Later [sampleChild .running] [sampleChild .exited] :=
    .cons (.inr rfl) .nil
  have hclear : supervisorEnv ⟨sampleAttrs, [sampleChild .exited]⟩ (.setAttrs {}) (.ok ())
      ⟨{}, [sampleChild .exited]⟩ := env_of_childStep rfl
  refine .op (env_of_childStep ⟨rfl, rfl⟩) ?_
  refine .op (env_of_childStep ⟨rfl, sampleChild .running, rfl, by simp [sampleChild]⟩) ?_
  refine .op (env_of_childStep rfl) ?_
  refine .op ⟨_, hexit, rfl, sampleChild .exited, rfl, rfl⟩ ?_
  exact .op hclear .ret

end Sample

section Sessions
variable {sup : GatewaySupervisor} {s s' : SupervisorState}

/-! ### One child at a time -/

/-- Only the child that is held runs. -/
def Sole (s : SupervisorState) : Prop :=
  ∀ i, s.Running i → ∃ p, s.attrs.proc = some p ∧ p.handle = i

theorem Sole.quiet (h : Sole s) (hquiet : Quiet s s') : Sole s' := by
  intro i hrun
  rw [hquiet.attrs]
  exact h i (hquiet.running hrun)

/-- Where the held child is gone, none runs. -/
theorem Sole.none_running (h : Sole s) (hidle : Idle s s') {i : Nat} (hrun : s.Running i)
    (hrun' : s'.Running i) : False := by
  obtain ⟨p, hp, rfl⟩ := h i hrun
  exact (hidle p hp).not_alive hrun'.alive

theorem Sole.spawned {c : Child} {i : Nat} (h : Sole s) (hidle : Idle s s') (hc : Spawned s s' c)
    (hrun : s'.Running i) : i = s.children.length ∧ c.status = .running := by
  obtain ⟨c', hc', hrunning⟩ := hrun
  by_cases hi : i = s.children.length
  · subst hi
    rw [hc.child] at hc'
    cases hc'
    exact ⟨rfl, hrunning⟩
  · obtain ⟨c₀, hc₀, hon⟩ := hc.origin hi hc'
    exact (h.none_running hidle ⟨c₀, hc₀, hon.running hrunning⟩ ⟨c', hc', hrunning⟩).elim

theorem Sole.started {r : Except SupervisorExc Descriptor} {τ : List SupervisorEvent}
    (h : Sole s) (hstarted : Started sup s r τ s') (horderly : ∀ e ∈ τ, orderly sup e = true) :
    Sole s' := by
  cases hstarted with
  | reused _ _ hquiet => exact h.quiet hquiet
  | refused _ hquiet => exact h.quiet hquiet
  | failed hidle _ hc hdead =>
      exact fun i hrun => absurd (h.spawned hidle hc hrun).2 (hdead horderly)
  | @summoned p _ _ _ _ _ hidle hattrs hhandle hc _ =>
      intro i hrun
      exact ⟨p, by rw [hattrs], hhandle.trans (h.spawned hidle hc hrun).1.symm⟩

theorem Sole.stopped {r : Except SupervisorExc Unit} (h : Sole s) (hstopped : Stopped s r s') :
    Sole s' := by
  cases hstopped with
  | failed hquiet => exact h.quiet hquiet
  | released hidle hquiet =>
      intro i hrun
      have hrun₀ : ({ s with attrs := {} } : SupervisorState).Running i := hquiet.running hrun
      exact (h.none_running hidle hrun₀ hrun).elim

theorem session_sole {calls : List (Call SupervisorSig SupervisorExc SupervisorResult
      SupervisorCall)}
    (h : Session supervisorEnv (SupervisorCall.run sup)
      (fun call => Ended call ∧ ∀ e ∈ call.events, orderly sup e = true) {} calls s) : Sole s := by
  refine h.invariant (I := Sole) (fun i hrun => ?_) fun s call τ out s' hs hexec hcall => ?_
  · obtain ⟨c, hc, _⟩ := hrun
    simp at hc
  · obtain ⟨⟨r, rfl⟩, horderly⟩ := hcall
    cases call with
    | start =>
        obtain ⟨r', _, hstarted⟩ := exec_start hexec
        exact hs.started hstarted horderly
    | health => exact hs.quiet (exec_health hexec)
    | stop =>
        obtain ⟨r', _, hstopped⟩ := exec_stop hexec
        exact hs.stopped hstopped

/-! ### What `start` returns -/

/-- The attributes are cleared, or those of a child that is as described. -/
structure Held (sup : GatewaySupervisor) (s : SupervisorState) : Prop where
  cleared : s.attrs.proc = none → s.attrs = {}
  announced : ∀ p, s.attrs.proc = some p → ∃ c, s.children[p.handle]? = some c ∧
    Announced sup c ⟨p.pid, s.attrs.port, s.attrs.bearer⟩

theorem Held.quiet (h : Held sup s) (hquiet : Quiet s s') : Held sup s' := by
  refine ⟨fun hnone => ?_, fun p hp => ?_⟩
  · rw [hquiet.attrs] at hnone ⊢
    exact h.cleared hnone
  · rw [hquiet.attrs] at hp ⊢
    obtain ⟨c, hc, hannounced⟩ := h.announced p hp
    obtain ⟨c', hc', hon⟩ := hquiet.onward _ c hc
    exact ⟨c', hc', hannounced.onward hon⟩

theorem Held.started {r : Except SupervisorExc Descriptor} {τ : List SupervisorEvent}
    (h : Held sup s) (hstarted : Started sup s r τ s') : Held sup s' := by
  cases hstarted with
  | reused _ _ hquiet => exact h.quiet hquiet
  | refused _ hquiet => exact h.quiet hquiet
  | failed _ hattrs hc _ =>
      refine ⟨fun hnone => ?_, fun p hp => ?_⟩
      · rw [hattrs] at hnone ⊢
        exact h.cleared hnone
      · rw [hattrs] at hp ⊢
        obtain ⟨c, hget, hannounced⟩ := h.announced p hp
        obtain ⟨c', hget', hon⟩ := hc.onward _ c hget
        exact ⟨c', hget', hannounced.onward hon⟩
  | summoned _ hattrs hhandle hc hannounced =>
      refine ⟨fun hnone => by simp [hattrs] at hnone, fun q hq => ?_⟩
      rw [hattrs] at hq ⊢
      cases hq
      exact ⟨_, hhandle ▸ hc.child, hannounced⟩

theorem Held.stopped {r : Except SupervisorExc Unit} (h : Held sup s) (hstopped : Stopped s r s') :
    Held sup s' := by
  cases hstopped with
  | failed hquiet => exact h.quiet hquiet
  | released _ hquiet => exact ⟨fun _ => hquiet.attrs, fun p hp => by simp [hquiet.attrs] at hp⟩

theorem Held.exec {call : SupervisorCall} {τ : List SupervisorEvent}
    {r : Except SupervisorExc SupervisorResult} (h : Held sup s)
    (hexec : Exec supervisorEnv (call.run sup) s τ (.done r) s') : Held sup s' := by
  cases call with
  | start =>
      obtain ⟨r', _, hstarted⟩ := exec_start hexec
      exact h.started hstarted
  | health => exact h.quiet (exec_health hexec)
  | stop =>
      obtain ⟨r', _, hstopped⟩ := exec_stop hexec
      exact h.stopped hstopped

/-- Children are never forgotten. -/
theorem exec_onward {call : SupervisorCall} {τ : List SupervisorEvent}
    {r : Except SupervisorExc SupervisorResult}
    (hexec : Exec supervisorEnv (call.run sup) s τ (.done r) s') : s.Onward s' := by
  cases call with
  | start =>
      obtain ⟨r', _, hstarted⟩ := exec_start hexec
      cases hstarted with
      | reused _ _ hquiet => exact hquiet.onward
      | refused _ hquiet => exact hquiet.onward
      | failed _ _ hc _ => exact hc.onward
      | summoned _ _ _ hc _ => exact hc.onward
  | health => exact (exec_health hexec).onward
  | stop =>
      obtain ⟨r', _, hstopped⟩ := exec_stop hexec
      cases hstopped with
      | failed hquiet => exact hquiet.onward
      | released _ hquiet => exact hquiet.onward

theorem session_held {calls : List (Call SupervisorSig SupervisorExc SupervisorResult
      SupervisorCall)}
    (h : Session supervisorEnv (SupervisorCall.run sup) Ended {} calls s) : Held sup s := by
  refine h.invariant (I := Held sup) ⟨fun _ => rfl, by simp⟩ ?_
  intro s call τ out s' hs hexec hended
  obtain ⟨r, rfl⟩ := hended
  exact hs.exec hexec

/-- **At most one gateway.** After any calls of the supervision channel, every child that runs is
the one the supervisor holds, with the port and the bearer it holds for it, unless a `kill` failed,
a ready line was not caught, or a reader thread could not be started or waited for. -/
theorem running_is_held {calls : List (Call SupervisorSig SupervisorExc SupervisorResult
      SupervisorCall)}
    (h : Session supervisorEnv (SupervisorCall.run sup)
      (fun call => Ended call ∧ ∀ e ∈ call.events, orderly sup e = true) {} calls s) :
    ∀ i, s.Running i → ∃ p c, s.attrs.proc = some p ∧ p.handle = i ∧ s.children[i]? = some c ∧
      Announced sup c ⟨p.pid, s.attrs.port, s.attrs.bearer⟩ := by
  intro i hrun
  obtain ⟨p, hp, rfl⟩ := session_sole h i hrun
  obtain ⟨c, hc, hannounced⟩ := (session_held (h.mono fun _ => And.left)).announced p hp
  exact ⟨p, c, hp, rfl, hc, hannounced⟩

/-- For example after a `start`. -/
theorem running_is_held_after_start : ∃ p c, sampleAttrs.proc = some p ∧ p.handle = 0 ∧
    [sampleChild .running][0]? = some c ∧
      Announced sampleSupervisor c ⟨p.pid, sampleAttrs.port, sampleAttrs.bearer⟩ :=
  running_is_held (Session.call .start exec_summon ⟨⟨_, rfl⟩, by decide⟩) 0
    ⟨sampleChild .running, rfl, rfl⟩

/-- The descriptor of a `start` is that of a child. -/
theorem started_announced {τ : List SupervisorEvent} {d : Descriptor} (h : Held sup s)
    (hexec : Exec supervisorEnv (SupervisorCall.start.run sup) s τ (.done (.ok (.started d))) s') :
    ∃ (i : Nat) (c : Child), s'.children[i]? = some c ∧ Announced sup c d := by
  obtain ⟨r', hr', hstarted⟩ := exec_start hexec
  cases hstarted with
  | reused hp _ hquiet =>
      cases hr'
      obtain ⟨c, hc, hannounced⟩ := h.announced _ hp
      obtain ⟨c', hc', hon⟩ := hquiet.onward _ c hc
      exact ⟨_, c', hc', hannounced.onward hon⟩
  | refused _ _ => cases hr'
  | failed _ _ _ _ => cases hr'
  | summoned _ _ _ hc hannounced =>
      cases hr'
      exact ⟨_, _, hc.child, hannounced⟩

/-- **Descriptors are true.** Whatever `start` returned in a session: a child was spawned with that
bearer in its environment, and announced that port. -/
theorem descriptor_announced {calls : List (Call SupervisorSig SupervisorExc SupervisorResult
      SupervisorCall)}
    (h : Session supervisorEnv (SupervisorCall.run sup) Ended {} calls s) :
    ∀ call ∈ calls, ∀ d, call.outcome = .done (.ok (.started d)) →
      ∃ (i : Nat) (c : Child), s.children[i]? = some c ∧ Announced sup c d := by
  have hheld : Held sup s ∧ ∀ call ∈ calls, ∀ d, call.outcome = .done (.ok (.started d)) →
      ∃ (i : Nat) (c : Child), s.children[i]? = some c ∧ Announced sup c d := by
    induction h with
    | start => exact ⟨⟨fun _ => rfl, by simp⟩, by simp⟩
    | @call calls s key τ out s' _ hexec hended ih =>
        obtain ⟨hheld, hcalls⟩ := ih
        obtain ⟨r, rfl⟩ := hended
        refine ⟨hheld.exec hexec, fun call hcall d hd => ?_⟩
        rcases List.mem_append.mp hcall with hcall | hcall
        · obtain ⟨i, c, hc, hannounced⟩ := hcalls call hcall d hd
          obtain ⟨c', hc', hon⟩ := exec_onward hexec i c hc
          exact ⟨i, c', hc', hannounced.onward hon⟩
        · rw [List.mem_singleton.mp hcall] at hd
          cases hd
          cases key with
          | start => exact started_announced hheld hexec
          | health => exact absurd rfl (health_not_started hexec d)
          | stop =>
              obtain ⟨r', hr', _⟩ := exec_stop hexec
              cases r' <;> cases hr'
  exact hheld.2

/-- For example the first one. -/
theorem descriptor_announced_first : ∃ (i : Nat) (c : Child),
    [sampleChild .running][i]? = some c ∧
      Announced sampleSupervisor c ⟨7, some 8025, some (str "b")⟩ :=
  descriptor_announced (Session.call .start exec_summon ⟨_, rfl⟩) _
    (List.mem_singleton.mpr rfl) _ rfl

/-- **A gateway that lives is used again.** As long as the child is alive and nobody stops it, every
`start` returns what the first one did, and no child is spawned. -/
theorem start_reuses {before later : List (Call SupervisorSig SupervisorExc SupervisorResult
      SupervisorCall)} {s₀ : SupervisorState} {p : Popen}
    (hbefore : Session supervisorEnv (SupervisorCall.run sup) Ended {} before s₀)
    (hlater : Session supervisorEnv (SupervisorCall.run sup) Ended s₀ later s)
    (hheld : s₀.attrs.proc = some p) (halive : s.Alive p.handle)
    (hstop : ∀ call ∈ later, call.key ≠ .stop) :
    s.attrs = s₀.attrs ∧ s.children.length = s₀.children.length ∧
      ∀ call ∈ later, call.key = .start →
        call.outcome = .done (.ok (.started ⟨p.pid, s₀.attrs.port, s₀.attrs.bearer⟩)) := by
  obtain ⟨c₀, hc₀, _⟩ := (session_held hbefore).announced p hheld
  have hrun : s₀.Onward s ∧ (s.Alive p.handle →
      s.attrs = s₀.attrs ∧ s.children.length = s₀.children.length ∧
        ∀ call ∈ later, call.key = .start →
          call.outcome = .done (.ok (.started ⟨p.pid, s₀.attrs.port, s₀.attrs.bearer⟩))) := by
    clear halive
    induction hlater with
    | start => exact ⟨.refl s₀, fun _ => ⟨rfl, rfl, by simp⟩⟩
    | @call calls s key τ out s' _ hexec hended ih =>
        obtain ⟨hon, hkeep⟩ := ih fun call hcall => hstop call (List.mem_append_left _ hcall)
        obtain ⟨r, rfl⟩ := hended
        refine ⟨hon.trans (exec_onward hexec), fun halive => ?_⟩
        obtain ⟨c, hc, _⟩ := hon _ c₀ hc₀
        have hbefore : s.Alive p.handle :=
          ⟨c, hc, fun hexit => (Gone.onward ⟨c, hc, hexit⟩ (exec_onward hexec)).not_alive halive⟩
        obtain ⟨hattrs, hlength, hcalls⟩ := hkeep hbefore
        -- A quiet call keeps all of it, if a start answers with what is held.
        have hquiet : Quiet s s' →
            (key = .start → r = .ok (.started ⟨p.pid, s.attrs.port, s.attrs.bearer⟩)) →
            s'.attrs = s₀.attrs ∧ s'.children.length = s₀.children.length ∧
              ∀ call ∈ calls ++ [⟨key, τ, .done r⟩], call.key = .start →
                call.outcome =
                  .done (.ok (.started ⟨p.pid, s₀.attrs.port, s₀.attrs.bearer⟩)) := by
          intro hquiet hreturned
          refine ⟨hquiet.attrs.trans hattrs, hquiet.length.trans hlength, ?_⟩
          intro call hcall hkey
          rcases List.mem_append.mp hcall with hcall | hcall
          · exact hcalls call hcall hkey
          · rw [List.mem_singleton.mp hcall] at hkey ⊢
            rw [hreturned hkey, hattrs]
        have hp : s.attrs.proc = some p := hattrs ▸ hheld
        cases key with
        | stop => exact absurd rfl (hstop _ (List.mem_append_right _ List.mem_cons_self))
        | health => exact hquiet (exec_health hexec) (by simp)
        | start =>
            obtain ⟨r', rfl, hstarted⟩ := exec_start hexec
            -- Whatever else a start does, it found the child gone.
            cases hstarted with
            | reused hp' _ hq =>
                cases hp.symm.trans hp'
                exact hquiet hq fun _ => rfl
            | refused hidle | failed hidle | summoned hidle =>
                exact ((hidle p hp).not_alive halive).elim
  exact hrun.2 halive

/-- For example the second one. -/
theorem start_reuses_second :
    (Outcome.done sampleStarted : Outcome SupervisorExc SupervisorResult) =
      .done (.ok (.started ⟨sampleProc.pid, sampleAttrs.port, sampleAttrs.bearer⟩)) :=
  (start_reuses (Session.call .start exec_summon ⟨_, rfl⟩) (Session.call .start exec_reuse ⟨_, rfl⟩)
    rfl ⟨sampleChild .running, rfl, by simp [sampleChild]⟩ (by simp)).2.2 _
    (List.mem_singleton.mpr rfl) rfl

/-- **`stop` terminates.** Once `stop` has returned after orderly calls, nothing is held and no
child runs. -/
theorem none_runs_after_stop {calls : List (Call SupervisorSig SupervisorExc SupervisorResult
      SupervisorCall)} {call : Call SupervisorSig SupervisorExc SupervisorResult SupervisorCall}
    {result : SupervisorResult}
    (h : Session supervisorEnv (SupervisorCall.run sup)
      (fun call => Ended call ∧ ∀ e ∈ call.events, orderly sup e = true) {} (calls ++ [call]) s)
    (hstop : call.key = .stop) (hout : call.outcome = .done (.ok result)) :
    s.attrs = {} ∧ ∀ i, ¬ s.Running i := by
  have hcleared : s.attrs = {} := by
    obtain ⟨s₁, _, hexec⟩ := h.last rfl
    rw [hstop, hout] at hexec
    obtain ⟨r', hr', hstopped⟩ := exec_stop hexec
    cases hstopped with
    | failed _ => cases hr'
    | released _ hquiet => exact hquiet.attrs
  refine ⟨hcleared, fun i hrun => ?_⟩
  obtain ⟨p, hp, _⟩ := session_sole h i hrun
  simp [hcleared] at hp

/-- For example after one `start`. -/
theorem none_runs_after_first_stop : ({} : SupervisorAttrs) = {} ∧
    ∀ i, ¬ SupervisorState.Running ⟨{}, [sampleChild .exited]⟩ i :=
  @none_runs_after_stop _ _ [_] _ _
    ((Session.call .start exec_summon ⟨⟨_, rfl⟩, by decide⟩).call exec_terminate
      ⟨⟨_, rfl⟩, by decide⟩) rfl rfl

end Sessions

end GmailGateway
