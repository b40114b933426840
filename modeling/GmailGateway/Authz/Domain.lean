import GmailGateway.Authz.Gate

/-!
# GmailGateway.Authz.Domain

**What the verification of untrusted values may raise.** The gate turns a
`CertificateError` into a denial. The same values also flow through `canonicalize`, `int`,
set membership and ordering, which raise other exceptions: a *stray* one is caught by
nothing. For every value the gate verifies, this module says exactly when that happens, in
terms of the value (`SyncStray`, `GrantStray`, `ProofStray`, `DecisionStray`).
-/

namespace GmailGateway

open Effect Proc Python

/-! ### Refusing and straying -/

/-- An exception the gate's `except` clauses do not name. -/
def IsStray (e : Exc) : Prop := Jcs.IsEncodingError e ∨ e = .valueError ∨ e = .typeError

def IsCertificateError (e : Exc) : Prop := ∃ m args detail, e = .certificateError m args detail

/-- The statement raises `CertificateError` and nothing else. -/
def Refuses {α : Type} (x : Except Exc α) : Prop := ∀ e, x = .error e → IsCertificateError e

/-- It raises `CertificateError` or a stray exception, and nothing else. -/
def Sorted {α : Type} (x : Except Exc α) : Prop :=
  ∀ e, x = .error e → IsCertificateError e ∨ IsStray e

/-- It raises a stray exception. -/
def Strays {α : Type} (x : Except Exc α) : Prop := ∃ e, x = .error e ∧ IsStray e

theorem IsCertificateError.not_isStray {e : Exc} (h : IsCertificateError e) : ¬ IsStray e := by
  obtain ⟨m, args, detail, rfl⟩ := h
  rintro ((h | h | ⟨m, h⟩) | h | h) <;> cases h

section Rules
variable {α β : Type}

theorem refuses_ok (a : α) : Refuses (.ok a : Except Exc α) := by
  intro e h
  cases h

theorem refuses_pure (a : α) : Refuses (pure a : Except Exc α) := refuses_ok a

theorem refuses_error (m : String) (args : List PyVal) (detail : Option String) :
    Refuses (.error (.certificateError m args detail) : Except Exc α) := by
  intro e h
  cases h
  exact ⟨m, args, detail, rfl⟩

theorem refuses_rejectIf (c : Prop) [Decidable c] (m : String) (args : List PyVal)
    (detail : Option String) : Refuses (rejectIf c (.certificateError m args detail)) := by
  intro e h
  obtain ⟨-, rfl⟩ := rejectIf_eq_error.mp h
  exact ⟨m, args, detail, rfl⟩

theorem refuses_expectDict (m : String) (args : List PyVal) (v : PyVal) :
    Refuses (expectDict (certificateError m args) v) := by
  cases v <;> first | exact refuses_ok _ | exact refuses_error m args none

theorem refuses_expectList (m : String) (args : List PyVal) (v : PyVal) :
    Refuses (expectList (certificateError m args) v) := by
  cases v <;> first | exact refuses_ok _ | exact refuses_error m args none

theorem refuses_expectStr (m : String) (args : List PyVal) (v : PyVal) :
    Refuses (expectStr (certificateError m args) v) := by
  cases v <;> first | exact refuses_ok _ | exact refuses_error m args none

theorem refuses_bind {x : Except Exc α} {f : α → Except Exc β} (hx : Refuses x)
    (hf : ∀ a, Refuses (f a)) : Refuses (x >>= f) := by
  intro e h
  rcases bind_eq_error.mp h with h | ⟨a, -, h⟩
  · exact hx e h
  · exact hf a e h

theorem refuses_mapM {f : α → Except Exc β} (hf : ∀ a, Refuses (f a)) (xs : List α) :
    Refuses (xs.mapM f) := by
  intro e h
  obtain ⟨x, -, h⟩ := Jcs.mapM_eq_error h
  exact hf x e h

theorem Refuses.sorted {x : Except Exc α} (h : Refuses x) : Sorted x :=
  fun e he => .inl (h e he)

theorem Refuses.not_strays {x : Except Exc α} (h : Refuses x) : ¬ Strays x := by
  intro hspec
  obtain ⟨e, he, hstray⟩ := hspec
  exact (h e he).not_isStray hstray

theorem sorted_bind {x : Except Exc α} {f : α → Except Exc β} (hx : Sorted x)
    (hf : ∀ a, Sorted (f a)) : Sorted (x >>= f) := by
  intro e h
  rcases bind_eq_error.mp h with h | ⟨a, -, h⟩
  · exact hx e h
  · exact hf a e h

/-- A sequence strays where one of its statements does. -/
theorem strays_bind {x : Except Exc α} {f : α → Except Exc β} :
    Strays (x >>= f) ↔ Strays x ∨ ∃ a, x = .ok a ∧ Strays (f a) := by
  cases x with
  | error e => simp [Strays, bind, Except.bind]
  | ok a => simp [Strays, bind, Except.bind]

/-- After a statement that only refuses, a sequence strays in its rest. -/
theorem Refuses.strays_bind {x : Except Exc α} {f : α → Except Exc β} (h : Refuses x) :
    Strays (x >>= f) ↔ ∃ a, x = .ok a ∧ Strays (f a) :=
  GmailGateway.strays_bind.trans (or_iff_right h.not_strays)

end Rules

/-! ### Artifacts -/

theorem refuses_parseEnvelope (env : PyVal) : Refuses (parseEnvelope env) := by
  refine refuses_bind (refuses_expectDict _ _ _) fun env => ?_
  refine refuses_bind (refuses_rejectIf _ _ _ _) fun _ => ?_
  refine refuses_bind (refuses_rejectIf _ _ _ _) fun _ => ?_
  refine refuses_bind (refuses_expectStr _ _ _) fun artifactType => ?_
  refine refuses_bind (refuses_rejectIf _ _ _ _) fun _ => ?_
  refine refuses_bind (refuses_expectDict _ _ _) fun body => ?_
  refine refuses_bind (refuses_expectStr _ _ _) fun sigHex => ?_
  split
  · exact refuses_error _ _ _
  · exact refuses_pure _

theorem refuses_parseSyncEnvelope (env : PyVal) : Refuses (parseSyncEnvelope env) := by
  refine refuses_bind (refuses_expectDict _ _ _) fun env => ?_
  refine refuses_bind (refuses_rejectIf _ _ _ _) fun _ => ?_
  refine refuses_bind (refuses_expectDict _ _ _) fun headEnv => ?_
  exact refuses_bind (refuses_expectList _ _ _) fun _ => refuses_pure _

/-- Signing input exists for the bodies in the domain of `canonicalize`. -/
theorem strays_signingInput {artifactType : String} {body : Dict} :
    Strays (signingInput artifactType body) ↔ Jcs.inDomain (.dict body) = false := by
  rw [← Bool.not_eq_true, Jcs.canonicalize_isOk, signingInput]
  cases h : Jcs.canonicalize (.dict body) with
  | ok bytes => simp [Strays, bind, Except.bind, pure, Except.pure]
  | error e => simpa [Strays, bind, Except.bind] using .inl (Jcs.canonicalize_error h).2

theorem signingInput_error {artifactType : String} {body : Dict} {e : Exc}
    (h : signingInput artifactType body = .error e) : IsStray e := by
  rcases bind_eq_error.mp h with h | ⟨bytes, -, h⟩
  · exact .inl (Jcs.canonicalize_error h).2
  · cases h

theorem sorted_signingInput (artifactType : String) (body : Dict) :
    Sorted (signingInput artifactType body) :=
  fun _ h => .inr (signingInput_error h)

/-- Two signing inputs of one body differ in the domain tag only. -/
theorem signingInput_eq_ok {artifactType : String} {body : Dict} {message : Bytes} :
    signingInput artifactType body = .ok message ↔
      ∃ bytes, Jcs.canonicalize (.dict body) = .ok bytes ∧
        message = domainTag artifactType ++ bytes := by
  rw [signingInput, bind_eq_ok]
  exact exists_congr fun bytes => and_congr_right fun _ =>
    ⟨fun h => (Except.ok.inj h).symm, fun h => congrArg Except.ok h.symm⟩

/-! ### Versions -/

/-- A canonical decimal longer than `int` reads. -/
def Oversized (s : PyStr) : Prop := intMaxStrDigits < (decimalDigits s).length

theorem strays_pyInt {s : PyStr} : Strays (pyInt s) ↔ Oversized s := by
  constructor
  · intro h
    obtain ⟨e, h, -⟩ := h
    exact (pyInt_eq_error.mp h).1
  · exact fun h => ⟨.valueError, pyInt_eq_error.mpr ⟨h, rfl⟩, .inr (.inl rfl)⟩

theorem sorted_pyInt (s : PyStr) : Sorted (pyInt s) :=
  fun _ h => .inr (.inr (.inl (pyInt_eq_error.mp h).2))

theorem refuses_requireStr (d : Dict) (key : String) : Refuses (requireStr d key) :=
  refuses_bind (refuses_expectStr _ _ _) fun _ =>
    refuses_bind (refuses_rejectIf _ _ _ _) fun _ => refuses_pure _

theorem refuses_requireMatch (d : Dict) (key : String) (matcher : PyStr → Bool)
    (message : String) : Refuses (requireMatch d key matcher message) :=
  refuses_bind (refuses_expectStr _ _ _) fun _ =>
    refuses_bind (refuses_rejectIf _ _ _ _) fun _ => refuses_pure _

theorem sorted_requireDecimalStr (d : Dict) (key : String) : Sorted (requireDecimalStr d key) :=
  sorted_bind (refuses_requireStr d key).sorted fun s =>
    sorted_bind (refuses_rejectIf _ _ _ _).sorted fun _ =>
      sorted_bind (sorted_pyInt s) fun _ => (refuses_pure _).sorted

/-- The version field `key` is a canonical decimal longer than `int` reads. -/
def OversizedField (d : Dict) (key : String) : Prop :=
  ∃ s, requireStr d key = .ok s ∧ isCanonicalDecimal s = true ∧ Oversized s

theorem strays_requireDecimalStr {d : Dict} {key : String} :
    Strays (requireDecimalStr d key) ↔ OversizedField d key := by
  unfold requireDecimalStr OversizedField
  rw [(refuses_requireStr d key).strays_bind]
  refine exists_congr fun s => and_congr_right fun _ => ?_
  rw [(refuses_rejectIf _ _ _ _).strays_bind, strays_bind, strays_pyInt]
  simp [Refuses.not_strays (refuses_pure _)]

/-! ### Heads and revocations -/

theorem refuses_parseActiveEntry (entry : PyVal) : Refuses (parseActiveEntry entry) := by
  refine refuses_bind (refuses_expectDict _ _ _) fun entry => ?_
  refine refuses_bind (refuses_rejectIf _ _ _ _) fun _ => ?_
  refine refuses_bind (refuses_requireMatch _ _ _ _) fun gid => ?_
  exact refuses_bind (refuses_requireMatch _ _ _ _) fun gver => refuses_pure _

theorem refuses_parseRevocationBody (body : Dict) : Refuses (parseRevocationBody body) := by
  refine refuses_bind (refuses_rejectIf _ _ _ _) fun _ => ?_
  refine refuses_bind (refuses_requireMatch _ _ _ _) fun gid => ?_
  exact refuses_bind (refuses_requireMatch _ _ _ _) fun _ => refuses_pure _

/-- A head body that is well-formed but for the length of its version. -/
def HeadBodyStray (body : Dict) : Prop :=
  body.unknownKeys headBodyKeys = [] ∧ ∃ stateVersion active pairs,
    body.get (str "state_version") = .str stateVersion ∧
    isCanonicalDecimal stateVersion = true ∧ body.get (str "active_grants") = .list active ∧
    active.mapM parseActiveEntry = .ok pairs ∧ Oversized stateVersion

theorem requireMatch_eq_ok {d : Dict} {key : String} {matcher : PyStr → Bool} {message : String}
    {s : PyStr} : requireMatch d key matcher message = .ok s ↔
      d.get (str key) = .str s ∧ matcher s = true := by
  simp only [requireMatch, bind_eq_ok, expectStr_eq_ok, rejectIf_eq_ok, Bool.not_eq_false]
  constructor
  · intro h
    obtain ⟨t, ht, -, hm, h⟩ := h
    cases h
    exact ⟨ht, hm⟩
  · intro hspec
    obtain ⟨hs, hm⟩ := hspec
    exact ⟨s, hs, (), hm, rfl⟩

theorem strays_parseHeadBody {body : Dict} :
    Strays (parseHeadBody body) ↔ HeadBodyStray body := by
  unfold parseHeadBody HeadBodyStray
  simp only [(refuses_rejectIf _ _ _ _).strays_bind, (refuses_requireMatch _ _ _ _).strays_bind,
    (refuses_expectList _ _ _).strays_bind,
    (refuses_mapM refuses_parseActiveEntry _).strays_bind, strays_bind, strays_pyInt,
    Refuses.not_strays (refuses_pure _), requireMatch_eq_ok, expectList_eq_ok, rejectIf_eq_ok,
    and_false, exists_false, or_false, not_not]
  constructor
  · intro h
    obtain ⟨-, hkeys, sv, ⟨hsv, hm⟩, active, hactive, pairs, hpairs, hsize⟩ := h
    exact ⟨hkeys, sv, active, pairs, hsv, hm, hactive, hpairs, hsize⟩
  · intro h
    obtain ⟨hkeys, sv, active, pairs, hsv, hm, hactive, hpairs, hsize⟩ := h
    exact ⟨(), hkeys, sv, ⟨hsv, hm⟩, active, hactive, pairs, hpairs, hsize⟩

theorem sorted_parseHeadBody (body : Dict) : Sorted (parseHeadBody body) := by
  refine sorted_bind (refuses_rejectIf _ _ _ _).sorted fun _ => ?_
  refine sorted_bind (refuses_requireMatch _ _ _ _).sorted fun sv => ?_
  refine sorted_bind (refuses_expectList _ _ _).sorted fun active => ?_
  refine sorted_bind (refuses_mapM refuses_parseActiveEntry _).sorted fun pairs => ?_
  exact sorted_bind (sorted_pyInt sv) fun _ => (refuses_pure _).sorted

namespace AuthorizationGate
variable {P : Platform} (cfg : GateConfig P)

/-- A delivered revocation, all before it verified, whose body has no canonical form. -/
def RevocationsStray : List PyVal → Prop
  | [] => False
  | env :: envs => ∃ body sig, parseEnvelope env = .ok (str revocationArtifactType, body, sig) ∧
      (Jcs.inDomain (.dict body) = false ∨
        ∃ message gid, signingInput revocationArtifactType body = .ok message ∧
          P.verify cfg.userRootPublicKey message sig = true ∧
          parseRevocationBody body = .ok gid ∧ RevocationsStray envs)

theorem strays_verifyRevocations (envs : List PyVal) :
    Strays (verifyRevocations P cfg envs) ↔ RevocationsStray cfg envs := by
  induction envs with
  | nil => exact iff_of_false (refuses_ok _).not_strays id
  | cons env envs ih =>
      rw [verifyRevocations, RevocationsStray, (refuses_parseEnvelope env).strays_bind]
      simp only [Prod.exists, (refuses_rejectIf _ _ _ _).strays_bind, strays_bind,
        strays_signingInput, false_or, Refuses.not_strays (refuses_parseRevocationBody _), ih,
        Refuses.not_strays (refuses_pure _), and_false, exists_false, or_false, rejectIf_eq_ok,
        Bool.not_eq_false, not_not]
      constructor
      · intro h
        obtain ⟨artifactType, body, sig, henv, -, rfl, h⟩ := h
        refine ⟨body, sig, henv, h.imp id ?_⟩
        intro hspec
        obtain ⟨message, hm, -, hv, gid, hgid, h⟩ := hspec
        exact ⟨message, gid, hm, hv, hgid, h⟩
      · intro hspec
        obtain ⟨body, sig, henv, h⟩ := hspec
        refine ⟨_, body, sig, henv, (), rfl, h.imp id ?_⟩
        intro hspec
        obtain ⟨message, gid, hm, hv, hgid, h⟩ := hspec
        exact ⟨message, hm, (), hv, gid, hgid, h⟩

theorem sorted_verifyRevocations (envs : List PyVal) :
    Sorted (verifyRevocations P cfg envs) := by
  induction envs with
  | nil => exact (refuses_ok _).sorted
  | cons env envs ih =>
      refine sorted_bind (refuses_parseEnvelope env).sorted fun parsed => ?_
      obtain ⟨artifactType, body, sig⟩ := parsed
      refine sorted_bind (refuses_rejectIf _ _ _ _).sorted fun _ => ?_
      refine sorted_bind (sorted_signingInput _ _) fun message => ?_
      refine sorted_bind (refuses_rejectIf _ _ _ _).sorted fun _ => ?_
      refine sorted_bind (refuses_parseRevocationBody _).sorted fun gid => ?_
      exact sorted_bind ih fun _ => (refuses_pure _).sorted

/-- **Synced values that stray**: a head or revocation body without a canonical form, or a
verified head whose version is too long for `int`. -/
def SyncStray (env : PyVal) : Prop :=
  ∃ headEnv revocationEnvs body sig, parseSyncEnvelope env = .ok (headEnv, revocationEnvs) ∧
    parseEnvelope headEnv = .ok (str headArtifactType, body, sig) ∧
    (Jcs.inDomain (.dict body) = false ∨
      ∃ message, signingInput headArtifactType body = .ok message ∧
        P.verify cfg.userRootPublicKey message sig = true ∧
        (HeadBodyStray body ∨
          (∃ head, parseHeadBody body = .ok head) ∧ RevocationsStray cfg revocationEnvs))

theorem strays_verifySync (env : PyVal) : Strays (verifySync P cfg env) ↔ SyncStray cfg env := by
  rw [verifySync, (refuses_parseSyncEnvelope env).strays_bind]
  simp only [Prod.exists, (refuses_parseEnvelope _).strays_bind,
    (refuses_rejectIf _ _ _ _).strays_bind, strays_bind, strays_signingInput,
    strays_parseHeadBody, strays_verifyRevocations, Refuses.not_strays (refuses_pure _), and_false, exists_false,
    or_false, rejectIf_eq_ok, Bool.not_eq_false, not_not]
  constructor
  · intro h
    obtain ⟨headEnv, revs, henv, artifactType, body, sig, hhead, -, rfl, h⟩ := h
    refine ⟨headEnv, revs, body, sig, henv, hhead, h.imp id ?_⟩
    intro hspec
    obtain ⟨message, hm, -, hv, h⟩ := hspec
    refine ⟨message, hm, hv, h.imp id ?_⟩
    intro hspec
    obtain ⟨sv, i, pairs, hbody, h⟩ := hspec
    exact ⟨⟨_, hbody⟩, h⟩
  · intro hspec
    obtain ⟨headEnv, revs, body, sig, henv, hhead, h⟩ := hspec
    refine ⟨headEnv, revs, henv, _, body, sig, hhead, (), rfl, h.imp id ?_⟩
    intro hspec
    obtain ⟨message, hm, hv, h⟩ := hspec
    refine ⟨message, hm, (), hv, h.imp id ?_⟩
    intro hspec
    obtain ⟨⟨⟨sv, i, pairs⟩, hbody⟩, h⟩ := hspec
    exact ⟨sv, i, pairs, hbody, h⟩

theorem sorted_verifySync (env : PyVal) : Sorted (verifySync P cfg env) := by
  refine sorted_bind (refuses_parseSyncEnvelope env).sorted fun wrapper => ?_
  refine sorted_bind (refuses_parseEnvelope _).sorted fun parsed => ?_
  refine sorted_bind (refuses_rejectIf _ _ _ _).sorted fun _ => ?_
  refine sorted_bind (sorted_signingInput _ _) fun message => ?_
  refine sorted_bind (refuses_rejectIf _ _ _ _).sorted fun _ => ?_
  refine sorted_bind (sorted_parseHeadBody _) fun head => ?_
  exact sorted_bind (sorted_verifyRevocations cfg _) fun _ => (refuses_pure _).sorted

end AuthorizationGate

/-! ### Grants -/

theorem refuses_requireGrantId (d : Dict) : Refuses (requireGrantId d) :=
  refuses_bind (refuses_requireStr _ _) fun _ =>
    refuses_bind (refuses_rejectIf _ _ _ _) fun _ => refuses_pure _

theorem refuses_parseScope (scope : PyVal) : Refuses (parseScope scope) := by
  refine refuses_bind (refuses_expectDict _ _ _) fun scope => ?_
  refine refuses_bind (refuses_expectStr _ _ _) fun fromAccount => ?_
  refine refuses_bind (refuses_rejectIf _ _ _ _) fun _ => ?_
  exact refuses_bind (refuses_rejectIf _ _ _ _) fun _ => refuses_pure _

theorem refuses_parseSubject (s : PyVal) : Refuses (parseSubject s) := by
  refine refuses_bind (refuses_expectDict _ _ _) fun s => ?_
  split
  · exact refuses_error _ _ _
  · rename_i kind _
    refine refuses_bind (refuses_rejectIf _ _ _ _) fun _ => ?_
    cases kind with
    | osAccount | agentKey =>
        exact refuses_bind (refuses_requireStr _ _) fun _ =>
          refuses_bind (refuses_requireStr _ _) fun _ => refuses_pure _

theorem refuses_parseApprovalMode (body : Dict) : Refuses (parseApprovalMode body) := by
  refine refuses_bind (refuses_rejectIf _ _ _ _) fun _ => ?_
  split
  · exact refuses_pure _
  · exact refuses_error _ _ _

theorem refuses_parseRfc3339 (P : Platform) (body : Dict) (key : String) :
    Refuses (parseRfc3339 P body key) := by
  refine refuses_bind (refuses_requireStr _ _) fun s => ?_
  split
  · exact refuses_error _ _ _
  · exact refuses_bind (refuses_rejectIf _ _ _ _) fun _ => refuses_pure _

/-- A grant body with a version too long for `int`, reached by the parser. -/
def GrantBodyStray (body : Dict) : Prop :=
  body.unknownKeys grantBodyKeys = [] ∧ (∃ grantId, requireGrantId body = .ok grantId) ∧
    (OversizedField body "grant_version" ∨
      (∃ v, requireDecimalStr body "grant_version" = .ok v) ∧
      (∃ s, requireStr body "issuer_fp" = .ok s) ∧ OversizedField body "state_version")

/-- The fields of a grant body after its versions, none of which strays. -/
theorem strays_parseGrantBody {P : Platform} {body : Dict} :
    Strays (parseGrantBody P body) ↔ GrantBodyStray body := by
  unfold parseGrantBody GrantBodyStray
  simp only [(refuses_rejectIf _ _ _ _).strays_bind, (refuses_requireGrantId _).strays_bind,
    (refuses_requireStr _ _).strays_bind, (refuses_parseScope _).strays_bind,
    (refuses_parseSubject _).strays_bind, (refuses_parseApprovalMode _).strays_bind,
    (refuses_parseRfc3339 _ _ _).strays_bind, strays_bind, strays_requireDecimalStr, Prod.exists,
    Refuses.not_strays (refuses_pure _), and_false, exists_false, or_false, rejectIf_eq_ok,
    not_not]
  constructor
  · intro h
    obtain ⟨-, hkeys, gid, hgid, h⟩ := h
    refine ⟨hkeys, ⟨gid, hgid⟩, h.imp id ?_⟩
    intro hspec
    obtain ⟨s, i, hv, issuer, hissuer, h⟩ := hspec
    exact ⟨⟨s, i, hv⟩, ⟨issuer, hissuer⟩, h⟩
  · intro hspec
    obtain ⟨hkeys, ⟨gid, hgid⟩, h⟩ := hspec
    refine ⟨(), hkeys, gid, hgid, h.imp id ?_⟩
    intro hspec
    obtain ⟨⟨s, i, hv⟩, ⟨issuer, hissuer⟩, h⟩ := hspec
    exact ⟨s, i, hv, issuer, hissuer, h⟩

theorem sorted_parseGrantBody (P : Platform) (body : Dict) : Sorted (parseGrantBody P body) := by
  refine sorted_bind (refuses_rejectIf _ _ _ _).sorted fun _ => ?_
  refine sorted_bind (refuses_requireGrantId _).sorted fun grantId => ?_
  refine sorted_bind (sorted_requireDecimalStr _ _) fun grantVersion => ?_
  refine sorted_bind (refuses_requireStr _ _).sorted fun issuerFp => ?_
  refine sorted_bind (sorted_requireDecimalStr _ _) fun stateVersion => ?_
  refine (refuses_bind (refuses_requireStr _ _) fun tool => ?_).sorted
  refine refuses_bind (refuses_requireStr _ _) fun action => ?_
  refine refuses_bind (refuses_rejectIf _ _ _ _) fun _ => ?_
  refine refuses_bind (refuses_parseScope _) fun fromAccount => ?_
  refine refuses_bind (refuses_parseSubject _) fun subject => ?_
  refine refuses_bind (refuses_parseApprovalMode _) fun approvalMode => ?_
  refine refuses_bind (refuses_parseRfc3339 _ _ _) fun validFrom => ?_
  refine refuses_bind (refuses_parseRfc3339 _ _ _) fun validUntil => ?_
  exact refuses_bind (refuses_rejectIf _ _ _ _) fun _ => refuses_pure _

namespace AuthorizationGate
variable {P : Platform} (cfg : GateConfig P)

/-- **Grant envelopes that stray**: a grant body without a canonical form, or a verified
one with a version too long for `int`. -/
def GrantStray (env : PyVal) : Prop :=
  ∃ body sig, parseEnvelope env = .ok (str "grant", body, sig) ∧
    (Jcs.inDomain (.dict body) = false ∨
      ∃ message, signingInput "grant" body = .ok message ∧
        P.verify cfg.userRootPublicKey message sig = true ∧ GrantBodyStray body)

/-- A denial of the source's `_verify_grant`. -/
def IsDenialSignal (e : Exc) : Prop := ∃ reason detail, e = .denialSignal reason detail

theorem IsDenialSignal.not_isStray {e : Exc} (h : IsDenialSignal e) : ¬ IsStray e := by
  obtain ⟨reason, detail, rfl⟩ := h
  rintro ((h | h | ⟨m, h⟩) | h | h) <;> cases h

theorem asDenial_eq_ok {α : Type} {x : Except Exc α} {a : α} : asDenial x = .ok a ↔ x = .ok a := by
  unfold asDenial
  split <;> simp

theorem asDenial_error {α : Type} {x : Except Exc α} (hx : Sorted x) {e : Exc}
    (h : asDenial x = .error e) : IsDenialSignal e ∨ IsStray e := by
  unfold asDenial at h
  split at h
  · cases h
    exact .inl ⟨_, _, rfl⟩
  · rename_i hne
    rcases hx e h with ⟨m, args, detail, rfl⟩ | hstray
    · exact absurd h (hne m args detail)
    · exact .inr hstray

theorem strays_asDenial {α : Type} {x : Except Exc α} : Strays (asDenial x) ↔ Strays x := by
  unfold asDenial
  split
  · refine iff_of_false ?_ (refuses_error _ _ _).not_strays
    intro h
    obtain ⟨e, h, hstray⟩ := h
    cases h
    exact IsDenialSignal.not_isStray ⟨_, _, rfl⟩ hstray
  · rfl

theorem not_strays_rejectIf_denial {c : Prop} [Decidable c] {reason : DenialReason}
    {detail : Option String} : ¬ Strays (rejectIf c (.denialSignal reason detail)) := by
  intro h
  obtain ⟨e, h, hstray⟩ := h
  obtain ⟨-, rfl⟩ := rejectIf_eq_error.mp h
  exact IsDenialSignal.not_isStray ⟨_, _, rfl⟩ hstray

theorem strays_verifyGrant {request : AuthorizationRequest} :
    Strays (verifyGrant P cfg request) ↔ GrantStray cfg request.grantEnvelope := by
  unfold verifyGrant GrantStray
  simp only [strays_bind, strays_asDenial, not_strays_rejectIf_denial, asDenial_eq_ok,
    Refuses.not_strays (refuses_parseEnvelope _), strays_signingInput, strays_parseGrantBody,
    Refuses.not_strays (refuses_pure _), Prod.exists, false_or, and_false, exists_false,
    or_false, rejectIf_eq_ok, Bool.not_eq_false, not_not]
  constructor
  · intro h
    obtain ⟨artifactType, body, sig, henv, -, rfl, h⟩ := h
    refine ⟨body, sig, henv, h.imp id ?_⟩
    intro hspec
    obtain ⟨message, hm, -, hv, h⟩ := hspec
    exact ⟨message, hm, hv, h⟩
  · intro hspec
    obtain ⟨body, sig, henv, h⟩ := hspec
    refine ⟨_, body, sig, henv, (), rfl, h.imp id ?_⟩
    intro hspec
    obtain ⟨message, hm, hv, h⟩ := hspec
    exact ⟨message, hm, (), hv, h⟩

theorem verifyGrant_error {request : AuthorizationRequest} {e : Exc}
    (h : verifyGrant P cfg request = .error e) : IsDenialSignal e ∨ IsStray e := by
  rcases bind_eq_error.mp h with h | ⟨⟨artifactType, body, sig⟩, -, h⟩
  · exact asDenial_error (refuses_parseEnvelope _).sorted h
  rcases bind_eq_error.mp h with h | ⟨-, -, h⟩
  · exact .inl ⟨_, _, (rejectIf_eq_error.mp h).2.symm⟩
  rcases bind_eq_error.mp h with h | ⟨message, -, h⟩
  · exact .inr (signingInput_error h)
  rcases bind_eq_error.mp h with h | ⟨-, -, h⟩
  · exact .inl ⟨_, _, (rejectIf_eq_error.mp h).2.symm⟩
  rcases bind_eq_error.mp h with h | ⟨grant, -, h⟩
  · exact asDenial_error (sorted_parseGrantBody P _) h
  rcases bind_eq_error.mp h with h | ⟨-, -, h⟩
  · exact .inl ⟨_, _, (rejectIf_eq_error.mp h).2.symm⟩
  · cases h

/-! ### Subject proofs -/

/-- **Requests whose agent proof strays**: the request binding the agent signature is checked
against has no canonical form. -/
def ProofStray (request : AuthorizationRequest) (vgrant : Grant) : Prop :=
  ∃ agentPubkeyHex agentSlug, vgrant.subject = .agentKey agentPubkeyHex agentSlug ∧
    request.agentSig ≠ none ∧ (fromHex agentPubkeyHex).bind P.fromPublicBytes ≠ none ∧
    Jcs.inDomain (.dict (requestBindingBody vgrant.grantId request.requestId
      request.actionDigest request.issuedAt request.channelBinding)) = false

theorem checkAgentKey_error {request : AuthorizationRequest} {now : Int}
    {grantId agentPubkeyHex : PyStr} {e : Exc}
    (h : checkAgentKey P cfg request now grantId agentPubkeyHex = .error e) :
    IsStray e ∧ request.agentSig ≠ none ∧ (fromHex agentPubkeyHex).bind P.fromPublicBytes ≠ none ∧
      Jcs.inDomain (.dict (requestBindingBody grantId request.requestId request.actionDigest
        request.issuedAt request.channelBinding)) = false := by
  unfold checkAgentKey at h
  split at h
  · cases h
  · rename_i agentSig hsig
    split at h
    · cases h
    · rename_i agentPub hpub
      rcases bind_eq_error.mp h with h | ⟨binding, -, h⟩
      · obtain ⟨hdom, henc⟩ := Jcs.canonicalize_error h
        exact ⟨.inl henc, by simp [hsig], by simp [hpub], hdom⟩
      · split at h
        · cases h
        · split at h
          · cases h
          · split at h <;> cases h

/-- Where the proof strays, the check raises. -/
theorem checkAgentKey_not_ok {request : AuthorizationRequest} {now : Int}
    {grantId agentPubkeyHex : PyStr} {refusal : Refusal}
    (h : checkAgentKey P cfg request now grantId agentPubkeyHex = .ok refusal) :
    request.agentSig = none ∨ (fromHex agentPubkeyHex).bind P.fromPublicBytes = none ∨
      Jcs.inDomain (.dict (requestBindingBody grantId request.requestId request.actionDigest
        request.issuedAt request.channelBinding)) = true := by
  unfold checkAgentKey at h
  split at h
  · exact .inl ‹_›
  · split at h
    · exact .inr (.inl ‹_›)
    · obtain ⟨binding, hbinding, -⟩ := bind_eq_ok.mp h
      exact .inr (.inr (Jcs.canonicalize_isOk.mpr ⟨binding, hbinding⟩))

/-! ### Decisions -/

/-- An enumeration field that cannot be hashed, reached by the policy. -/
def EnumStray (d : Decision) (e : ExpectedBinding) : Prop :=
  d.requestId = .str e.requestId ∧ d.actionDigest = .str e.actionDigest ∧
  d.authzStateDigest = .str e.authzStateDigest ∧ d.grantId = .str e.grantId ∧
  d.grantVersion = .str e.grantVersion ∧ d.stateVersion = .str e.stateVersion ∧
  (d.approvalMode.hashKey = none ∨ d.approvalMode = .str e.approvalMode ∧
    (d.subjectKind.hashKey = none ∨ d.subjectKind = .str e.subjectKind ∧
      d.disposition.hashKey = none))

/-- **Decisions that stray**: a body without a canonical form, or an authentic one with an
unhashable enumeration field, or with every field bound and a `decided_at` that is no
number. -/
def DecisionStray (key : P.PublicKey) (d : Decision) (e : ExpectedBinding) : Prop :=
  Jcs.inDomain (.dict (decisionBody d)) = false ∨
    verifyDecisionSig P key d = .ok true ∧
      (EnumStray d e ∨ checkBinding d e = .ok none ∧ d.decidedAt.number? = none)

theorem strays_verifyDecisionSig {key : P.PublicKey} {d : Decision} :
    Strays (verifyDecisionSig P key d) ↔ Jcs.inDomain (.dict (decisionBody d)) = false := by
  rw [← Bool.not_eq_true, Jcs.canonicalize_isOk, verifyDecisionSig, decisionSigningInput]
  cases h : Jcs.canonicalize (.dict (decisionBody d)) with
  | ok bytes => simp [Strays, bind, Except.bind, pure, Except.pure]
  | error e => simpa [Strays, bind, Except.bind] using .inl (Jcs.canonicalize_error h).2

theorem verifyDecisionSig_error {key : P.PublicKey} {d : Decision} {e : Exc}
    (h : verifyDecisionSig P key d = .error e) : IsStray e := by
  rcases bind_eq_error.mp h with h | ⟨message, -, h⟩
  · rcases bind_eq_error.mp h with h | ⟨bytes, -, h⟩
    · exact .inl (Jcs.canonicalize_error h).2
    · cases h
  · cases h

theorem strays_checkEnum {value : PyVal} {allowed : List PyStr} {expected : PyStr}
    {detail : String} : Strays (checkEnum value allowed expected detail) ↔ value.hashKey = none := by
  unfold checkEnum
  split
  · rename_i h
    exact iff_of_true ⟨_, rfl, .inr (.inr rfl)⟩ h
  · rename_i key h
    exact iff_of_false (refuses_ok _).not_strays (by simp [h])

theorem checkEnum_eq_none_iff {value : PyVal} {allowed : List PyStr} {expected : PyStr}
    {detail : String} (he : expected ∈ allowed) :
    checkEnum value allowed expected detail = .ok none ↔ value = .str expected := by
  refine ⟨checkEnum_eq_none, ?_⟩
  intro h
  subst h
  have hany : allowed.any (PyVal.str expected).eqStr = true :=
    List.any_eq_true.mpr ⟨expected, he, PyVal.eqStr_iff.mpr rfl⟩
  have heq : (PyVal.str expected).eqStr expected = true := PyVal.eqStr_iff.mpr rfl
  simp [checkEnum, hany, heq]

theorem strays_firstDetail_cons {check : Except Exc (Option String)}
    {checks : List (Except Exc (Option String))} :
    Strays (firstDetail (check :: checks)) ↔
      Strays check ∨ check = .ok none ∧ Strays (firstDetail checks) := by
  rw [firstDetail, strays_bind]
  refine or_congr_right ?_
  constructor
  · intro h
    obtain ⟨o, ho, h⟩ := h
    cases o with
    | none => exact ⟨ho, h⟩
    | some detail => exact absurd h (refuses_pure _).not_strays
  · intro hspec
    obtain ⟨ho, h⟩ := hspec
    exact ⟨none, ho, h⟩

theorem strays_checkBinding {d : Decision} {e : ExpectedBinding}
    (hmode : e.approvalMode ∈ [ApprovalMode.auto.value, ApprovalMode.perCall.value])
    (hkind : e.subjectKind ∈ [SubjectKind.osAccount.value, SubjectKind.agentKey.value]) :
    Strays (checkBinding d e) ↔ EnumStray d e := by
  have hcmp (value : PyVal) (expected : PyStr) (detail : String) :
      ¬ Strays (cmp value expected detail) := (refuses_ok _).not_strays
  have hnil : ¬ Strays (firstDetail []) := (refuses_ok _).not_strays
  simp only [checkBinding, bindingChecks, strays_firstDetail_cons, hcmp, false_or, cmp_eq_none,
    checkApprovalMode, checkSubjectKind, checkDisposition, strays_checkEnum,
    checkEnum_eq_none_iff hmode, checkEnum_eq_none_iff hkind, hnil, and_false, or_false,
    EnumStray]

theorem checkBinding_error {d : Decision} {e : ExpectedBinding} {x : Exc}
    (h : checkBinding d e = .error x) : IsStray x := by
  have hchecks (check : Except Exc (Option String)) (hc : check ∈ bindingChecks d e)
      (hx : check = .error x) : IsStray x := by
    have henum (value : PyVal) (allowed : List PyStr) (expected : PyStr) (detail : String)
        (h : checkEnum value allowed expected detail = .error x) : IsStray x := by
      unfold checkEnum at h
      split at h
      · cases h
        exact .inr (.inr rfl)
      · cases h
    simp only [bindingChecks, List.mem_cons, List.not_mem_nil, or_false] at hc
    rcases hc with rfl | rfl | rfl | rfl | rfl | rfl | rfl | rfl | rfl
    · cases hx
    · cases hx
    · cases hx
    · cases hx
    · cases hx
    · cases hx
    · exact henum _ _ _ _ hx
    · exact henum _ _ _ _ hx
    · exact henum _ _ _ _ hx
  have hfirst (checks : List (Except Exc (Option String))) (hx : firstDetail checks = .error x) :
      ∃ check ∈ checks, check = .error x := by
    induction checks with
    | nil => cases hx
    | cons check checks ih =>
        rcases bind_eq_error.mp hx with hx | ⟨o, -, hx⟩
        · exact ⟨check, List.mem_cons_self, hx⟩
        · cases o with
          | none =>
              obtain ⟨check', hmem, hx⟩ := ih hx
              exact ⟨check', List.mem_cons_of_mem _ hmem, hx⟩
          | some detail => cases hx
  obtain ⟨check, hc, hx⟩ := hfirst _ h
  exact hchecks check hc hx

/-- A chained comparison raises exactly on what is no number. -/
theorem decidedAtInHygieneWindow_error {decidedAt : PyVal} {requestNow wallVerified : Int}
    {e : Exc} : decidedAtInHygieneWindow decidedAt requestNow wallVerified = .error e ↔
      decidedAt.number? = none ∧ e = .typeError := by
  unfold decidedAtInHygieneWindow PyVal.geInt PyVal.leInt
  cases hn : decidedAt.number? with
  | none => simp [eq_comm]
  | some f =>
      simp only [Option.map_some, reduceCtorEq, false_and, iff_false]
      split <;> simp_all

end AuthorizationGate

end GmailGateway
