import GmailGateway.Authz.GateState

/-!
# GmailGateway.Authz.SingleUse

**Single use under interleavings.** Any number of calls run on one gate, their operations
in any order. The decision service is asked only by the call that consumed the request,
and a call returns only if it consumed the decision; a consumer lets one caller through
for each key. The request key is a composite string, and no two requests share one.
-/

namespace GmailGateway

open Effect Proc Python

namespace AuthorizationGate

/-! ### The request key -/

/-- The separator is no character of a grant id: those are hex digits and, at most, a final
newline. -/
theorem zero_not_mem_grantId {s : PyStr} (h : isGrantIdHex s = true) : (0 : CodePoint) ∉ s := by
  have hhex (t : PyStr) (ht : (t.length = 32 && t.all fun c => isDigit c ||
      (0x61 ≤ c.val && c.val ≤ 0x66)) = true) : (0 : CodePoint) ∉ t := by
    intro hmem
    simp only [Bool.and_eq_true, List.all_eq_true] at ht
    have := ht.2 0 hmem
    simp [isDigit] at this
  simp only [isGrantIdHex, matchesLine, Bool.or_eq_true] at h
  rcases h with h | h
  · exact hhex s h
  · rw [Bool.and_eq_true] at h
    obtain ⟨hlast, hdrop⟩ := h
    have hnewline : s.getLast? = some (CodePoint.ofChar '\n') := by simpa using hlast
    obtain ⟨t, rfl⟩ := List.getLast?_eq_some_iff.mp hnewline
    rw [List.dropLast_concat] at hdrop
    intro hmem
    rcases List.mem_append.mp hmem with hmem | hmem
    · exact hhex t hdrop hmem
    · exact absurd (List.mem_singleton.mp hmem) (by decide)

/-- What stands before the first separator is determined, and so is what follows it. -/
theorem append_separator_inj {α : Type} {z : α} {xs us ys vs : List α} (hxs : z ∉ xs)
    (hus : z ∉ us) (h : xs ++ z :: ys = us ++ z :: vs) : xs = us ∧ ys = vs := by
  induction xs generalizing us with
  | nil =>
      cases us with
      | nil => exact ⟨rfl, (List.cons.inj h).2⟩
      | cons u us => exact absurd ((List.cons.inj h).1 ▸ List.mem_cons_self) hus
  | cons x xs ih =>
      cases us with
      | nil => exact absurd ((List.cons.inj h).1 ▸ List.mem_cons_self) hxs
      | cons u us =>
          obtain ⟨rfl, htail⟩ := List.cons.inj h
          have hmem := ih (fun hm => hxs (List.mem_cons_of_mem _ hm))
            (fun hm => hus (List.mem_cons_of_mem _ hm)) htail
          exact ⟨congrArg _ hmem.1, hmem.2⟩

/-- A parsed grant has a grant id of the pattern. -/
theorem isGrantIdHex_of_parse {P : Platform} {body : Dict} {grant : Grant}
    (h : parseGrantBody P body = .ok grant) : isGrantIdHex grant.grantId = true := by
  obtain ⟨-, -, h⟩ := bind_eq_ok.mp h
  obtain ⟨grantId, hid, h⟩ := bind_eq_ok.mp h
  have hgrant : grant.grantId = grantId := by
    iterate 12 obtain ⟨_, -, h⟩ := bind_eq_ok.mp h
    cases h
    rfl
  obtain ⟨s, -, h⟩ := bind_eq_ok.mp hid
  obtain ⟨_, hmatch, h⟩ := bind_eq_ok.mp h
  cases h
  rw [hgrant]
  simpa using rejectIf_eq_ok.mp hmatch

theorem requestKey_inj {grantId grantId' requestId requestId' : PyStr}
    (h : isGrantIdHex grantId = true) (h' : isGrantIdHex grantId' = true)
    (hkey : requestKey grantId requestId = requestKey grantId' requestId') :
    grantId = grantId' ∧ requestId = requestId' := by
  simp only [requestKey, List.append_assoc, List.singleton_append] at hkey
  exact append_separator_inj (zero_not_mem_grantId h) (zero_not_mem_grantId h') hkey

/-! ### Interleavings -/

section Pool
variable {P : Platform} {cfg : GateConfig P} {requests : Nat → AuthorizationRequest}
  {expected : Nat → PyStr} {mayRaise : GateOp → Exc → Prop} {s₀ : GateState}
  {c : Config (GateSig P) Exc Authorization GateState}

/-- Calls on one gate, about to start. -/
def calls (cfg : GateConfig P) (requests : Nat → AuthorizationRequest) (expected : Nat → PyStr)
    (s₀ : GateState) : Config (GateSig P) Exc Authorization GateState :=
  .start s₀ fun t => authorize P cfg (requests t) (expected t)

/-- What each call guarantees alone holds of its events in every run. -/
theorem calls_local {C} (h : Run (gateEnv mayRaise) C (calls cfg requests expected s₀) c)
    (t : Nat) : Guarded (Guard cfg (requests t) (expected t)) (eventsOf t c.history) ∧
      (c.threads t).sat anything (fun τ _ => Guarded (Guard cfg (requests t) (expected t)) τ)
        (fun r τ _ => Ended cfg (requests t) (expected t) r τ) (eventsOf t c.history) () :=
  h.localEvents (fun _ _ _ _ _ => trivial) (fun _ => Guarded.nil) rfl
    (fun t => authorize_spec cfg (requests t) (expected t)) t

/-- The thread asked the decision service. -/
abbrev Asked (c : Config (GateSig P) Exc Authorization GateState) (t : Nat) : Prop :=
  ∃ e ∈ eventsOf t c.history, e.op.isDecide = true

/-- The event consumed a request key, or a decision id. -/
def WonRequest (e : GateEvent P) (key : PyStr) : Prop :=
  ∃ d, e = ⟨.consumeRequest key d, .ok true⟩

def WonDecision (e : GateEvent P) (key : PyVal.HashKey) : Prop :=
  ∃ v d, v.hashKey = some key ∧ e = ⟨.consumeDecision v d, .ok true⟩

theorem wonRequest_thread {C} (h : Run (gateEnv mayRaise) C (calls cfg requests expected s₀) c)
    {t u : Nat} {e e' : GateEvent P} {key : PyStr} (ht : e ∈ eventsOf t c.history)
    (hu : e' ∈ eventsOf u c.history) (he : WonRequest e key) (he' : WonRequest e' key) : t = u := by
  refine h.winner_thread (fun s key => s.requests.holds key = true) ?_ ?_ rfl ht hu he he'
  · intro s o r s' key hw hheld
    exact requests_holds hw hheld
  · rintro s o r s' key hw ⟨d, hd⟩
    cases hd
    obtain ⟨hfree, hheld⟩ := consumeRequest_first hw
    exact ⟨by simp [hfree], hheld⟩

theorem wonDecision_thread {C} (h : Run (gateEnv mayRaise) C (calls cfg requests expected s₀) c)
    {t u : Nat} {e e' : GateEvent P} {key : PyVal.HashKey} (ht : e ∈ eventsOf t c.history)
    (hu : e' ∈ eventsOf u c.history) (he : WonDecision e key) (he' : WonDecision e' key) :
    t = u := by
  refine h.winner_thread (fun s key => s.decisions.holds key = true) ?_ ?_ rfl ht hu he he'
  · intro s o r s' key hw hheld
    exact decisions_holds hw hheld
  · rintro s o r s' key hw ⟨v, d, hkey, hd⟩
    cases hd
    obtain ⟨key', hkey', hfree, hheld⟩ := consumeDecision_first hw
    cases hkey.symm.trans hkey'
    exact ⟨by simp [hfree], hheld⟩

/-- A thread that asked had consumed its request. -/
theorem wonRequest_of_asked {C} (h : Run (gateEnv mayRaise) C (calls cfg requests expected s₀) c)
    {t : Nat} (ht : Asked c t) : ∃ vgrant, verifyGrant P cfg (requests t) = .ok vgrant ∧
      ∃ e ∈ eventsOf t c.history, WonRequest e (requestKey vgrant.grantId (requests t).requestId) := by
  obtain ⟨⟨o, r⟩, hmem, hdecide⟩ := ht
  obtain ⟨request, now, rfl⟩ : ∃ request now, o = .decide request now := by
    cases o <;> simp_all [GateOp.isDecide]
  obtain ⟨τ₁, τ₂, hτ⟩ := List.append_of_mem hmem
  have hguard := (calls_local h t).1 τ₁ ⟨.decide request now, r⟩
    ⟨τ₂, by rw [hτ, List.append_assoc, List.singleton_append]⟩
  obtain ⟨-, vgrant, hv, hcons⟩ := hguard
  refine ⟨vgrant, hv, _, ?_, ⟨expected t, rfl⟩⟩
  rw [hτ]
  exact List.mem_append_left _ hcons

/-- A consumed decision id could be hashed. -/
theorem hashKey_of_consumed {C} (h : Run (gateEnv mayRaise) C (calls cfg requests expected s₀) c)
    {t : Nat} {v : PyVal} {d : PyStr}
    (ht : (⟨.consumeDecision v d, .ok true⟩ : GateEvent P) ∈ eventsOf t c.history) :
    ∃ key, v.hashKey = some key := by
  rw [mem_eventsOf] at ht
  induction h with
  | start => cases ht
  | @step c u e c' _ _ hs ih =>
      rw [hs.history_eq] at ht
      rcases List.mem_append.mp ht with ht | ht
      · exact ih ht
      · cases List.mem_singleton.mp ht
        obtain ⟨key, hkey, -⟩ := consumeDecision_first hs.answer
        exact ⟨key, hkey⟩

/-- A thread that returned had consumed its decision. -/
theorem wonDecision_of_returned {C}
    (h : Run (gateEnv mayRaise) C (calls cfg requests expected s₀) c) {t : Nat}
    {a : Authorization} (ht : c.threads t = .ret a) :
    ∃ key d, (⟨.consumeDecision a.decision.decisionId d, .ok true⟩ : GateEvent P) ∈
      eventsOf t c.history ∧ a.decision.decisionId.hashKey = some key := by
  have hended := (calls_local h t).2
  rw [ht] at hended
  obtain ⟨clr, -, rfl, hτ, -⟩ := hended
  have hmem : (⟨.consumeDecision clr.decision.decisionId (expected t), .ok true⟩ : GateEvent P) ∈
      eventsOf t c.history := by
    rw [hτ]
    simp [Clearance.events]
  obtain ⟨key, hkey⟩ := hashKey_of_consumed h hmem
  exact ⟨key, expected t, hmem, hkey⟩

/-- **Single use.** In every run, one call for each request asks the decision service and
one call for each decision returns; and one consumer key belongs to one request. -/
theorem calls_singleUse (h : Run (gateEnv mayRaise) anyStep (calls cfg requests expected s₀) c) :
    (∀ t u grant grant', Asked c t → Asked c u → verifyGrant P cfg (requests t) = .ok grant →
      verifyGrant P cfg (requests u) = .ok grant' → grant.grantId = grant'.grantId →
      (requests t).requestId = (requests u).requestId → t = u) ∧
    (∀ t u a b, c.threads t = .ret a → c.threads u = .ret b →
      a.decision.decisionId.hashKey = b.decision.decisionId.hashKey → t = u) ∧
    (∀ body body' grant grant' requestId requestId', parseGrantBody P body = .ok grant →
      parseGrantBody P body' = .ok grant' →
      requestKey grant.grantId requestId = requestKey grant'.grantId requestId' →
      grant.grantId = grant'.grantId ∧ requestId = requestId') := by
  refine ⟨?_, ?_, ?_⟩
  · intro t u grant grant' ht hu hv hv' hid hrid
    obtain ⟨g, hg, e, he, hwon⟩ := wonRequest_of_asked h ht
    obtain ⟨g', hg', e', he', hwon'⟩ := wonRequest_of_asked h hu
    cases hv.symm.trans hg
    cases hv'.symm.trans hg'
    rw [hid, hrid] at hwon
    exact wonRequest_thread h he he' hwon hwon'
  · intro t u a b ha hb hkey
    obtain ⟨k, d, ht, hk⟩ := wonDecision_of_returned h ha
    obtain ⟨k', d', hu, hk'⟩ := wonDecision_of_returned h hb
    rw [← hkey, hk] at hk'
    cases hk'
    exact wonDecision_thread h ht hu ⟨_, _, hk, rfl⟩ ⟨_, _, hkey ▸ hk, rfl⟩
  · intro body body' grant grant' requestId requestId' hbody hbody' hkey
    exact requestKey_inj (isGrantIdHex_of_parse hbody) (isGrantIdHex_of_parse hbody') hkey

end Pool

/-- Calls that all make the same request. -/
abbrev sameCalls : Config (GateSig samplePlatform) Exc Authorization GateState :=
  calls sampleConfig (fun _ => sampleRequest .auto sampleOsSubject) (fun _ => str "d1")
    GateState.initial

/-- Two calls with one request, the second one started before the first consumed it. -/
def doubleSubmit : Config (GateSig samplePlatform) Exc Authorization GateState :=
  sameCalls.schedule
    (fun _ => GateState.perform
      (sampleScript (sampleHead "1") .auto .osAccount (str "d1") (str "x1")))
    (1 :: 1 :: 1 :: List.replicate 14 0 ++ List.replicate 10 1)

/-- The first call asks; the second one does not. -/
theorem calls_singleUse_doubleSubmit : Asked doubleSubmit 0 ∧ ¬ Asked doubleSubmit 1 := by
  have hrun : Run (gateEnv reliable) anyStep sameCalls doubleSubmit :=
    Config.schedule_anyStep (fun _ s o => s.perform_env reliable _ o) _ _
  have hfirst : Asked doubleSubmit 0 := by decide +kernel
  refine ⟨hfirst, fun hsecond => ?_⟩
  obtain ⟨g, hg, -⟩ := wonRequest_of_asked hrun hfirst
  have heq := (calls_singleUse hrun).1 0 1 g g hfirst hsecond hg hg rfl rfl
  cases heq

end AuthorizationGate

end GmailGateway
