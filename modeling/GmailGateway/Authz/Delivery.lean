import GmailGateway.Authz.ControlPlane

/-!
# GmailGateway.Authz.Delivery

**What the gate reads from the current head.** `HeadState` signs its head and a revocation
for every grant id of the ledger; a relay delivers the current head with revocations of its
choice, also ones that were signed long ago. `acceptedHead_current` says when the gate
accepts such a sync and what it then holds, for any control plane.

A delivered revocation wins over the head: an old one, replayed after its grant was added
again, still makes the gate refuse (`readded_membership`).
-/

namespace GmailGateway

open Python AuthorizationGate

/-! ### Signed artifacts -/

section Signed
variable {P : Platform} {key : P.PublicKey}

/-- `sync_envelope`. -/
def syncEnvelope (headEnv : PyVal) (revocationEnvs : List PyVal) : PyVal :=
  .dict [(str "head", headEnv), (str "revocations", .list revocationEnvs)]

/-- `HeadState.signed_head`. -/
def HeadState.signedHead (h : HeadState) (root : Signer P key) : Except Exc PyVal :=
  root.artifact headArtifactType h.currentBody

/-- `HeadState.signed_revocation`. -/
def signedRevocation (root : Signer P key) (grantId : PyStr) (versionInt : Int) :
    Except Exc PyVal :=
  root.artifact revocationArtifactType (revocationBody grantId (decimal versionInt))

/-- A signed revocation says whose it is. -/
theorem signedRevocation_inj {root : Signer P key} {g g' : PyStr} {n n' : Int} {env : PyVal}
    (h : signedRevocation root g n = .ok env) (h' : signedRevocation root g' n' = .ok env) :
    g = g' := by
  obtain ⟨message, -, rfl⟩ := artifact_eq_ok.mp h
  obtain ⟨message', -, heq⟩ := artifact_eq_ok.mp h'
  have hbody := congrArg (fun env => (parseEnvelope env).map (·.2.1)) heq
  simp only [parseEnvelope_envelope (show str revocationArtifactType ≠ [] by decide),
    Except.map, Except.ok.injEq] at hbody
  have hfields : revocationBody g (decimal n) = revocationBody g' (decimal n') := hbody
  simpa [revocationBody] using And.left (by simpa [revocationBody] using hfields)

end Signed

/-! ### The parsers -/

theorem parseActiveEntry_eq_ok {entry : PyVal} {p : PyStr × PyStr} :
    parseActiveEntry entry = .ok p ↔
      ∃ d : Dict, entry = .dict d ∧ d.hasExactly activeEntryKeys = true ∧
        (d.get (str "grant_id") = .str p.1 ∧ isGrantIdHex p.1 = true) ∧
        d.get (str "grant_version") = .str p.2 ∧ isCanonicalDecimal p.2 = true := by
  simp only [parseActiveEntry, bind_eq_ok, expectDict_eq_ok, rejectIf_eq_ok, requireMatch_eq_ok,
    Bool.not_eq_false]
  constructor
  · intro h
    obtain ⟨d, hd, -, hkeys, gid, hgid, gver, hgver, h⟩ := h
    cases h
    exact ⟨d, hd, hkeys, hgid, hgver⟩
  · intro hspec
    obtain ⟨d, hd, hkeys, hgid, hgver⟩ := hspec
    exact ⟨d, hd, (), hkeys, p.1, hgid, p.2, hgver, rfl⟩

theorem parseHeadBody_eq_ok {body : Dict} {sv : PyStr} {i : Int} {pairs : List (PyStr × PyStr)} :
    parseHeadBody body = .ok (sv, i, pairs) ↔
      body.unknownKeys headBodyKeys = [] ∧
        (body.get (str "state_version") = .str sv ∧ isCanonicalDecimal sv = true) ∧
        (∃ active, body.get (str "active_grants") = .list active ∧
          active.mapM parseActiveEntry = .ok pairs) ∧
        pyInt sv = .ok i := by
  simp only [parseHeadBody, bind_eq_ok, rejectIf_eq_ok, not_not, requireMatch_eq_ok,
    expectList_eq_ok]
  constructor
  · intro h
    obtain ⟨-, hkeys, sv', hsv, active, hactive, pairs', hpairs, i', hi, h⟩ := h
    cases h
    exact ⟨hkeys, hsv, ⟨active, hactive, hpairs⟩, hi⟩
  · intro hspec
    obtain ⟨hkeys, hsv, ⟨active, hactive, hpairs⟩, hi⟩ := hspec
    exact ⟨(), hkeys, sv, hsv, active, hactive, pairs, hpairs, i, hi, rfl⟩

theorem parseRevocationBody_eq_ok {body : Dict} {g : PyStr} :
    parseRevocationBody body = .ok g ↔
      body.hasExactly revocationBodyKeys = true ∧
        (body.get (str "grant_id") = .str g ∧ isGrantIdHex g = true) ∧
        ∃ sv, body.get (str "state_version") = .str sv ∧ isCanonicalDecimal sv = true := by
  simp only [parseRevocationBody, bind_eq_ok, rejectIf_eq_ok, Bool.not_eq_false,
    requireMatch_eq_ok]
  constructor
  · intro h
    obtain ⟨-, hkeys, gid, hgid, sv, hsv, h⟩ := h
    cases h
    exact ⟨hkeys, hgid, sv, hsv⟩
  · intro hspec
    obtain ⟨hkeys, hgid, sv, hsv⟩ := hspec
    exact ⟨(), hkeys, g, hgid, sv, hsv, rfl⟩

theorem parseSyncEnvelope_syncEnvelope (headEnv : Dict) (revocationEnvs : List PyVal) :
    parseSyncEnvelope (syncEnvelope (.dict headEnv) revocationEnvs) =
      .ok (.dict headEnv, revocationEnvs) := rfl

/-! ### The parsers on what the control plane writes -/

/-- An entry of the active set that the head parser takes. -/
def WellFormedEntry (p : PyStr × PyStr) : Prop :=
  isGrantIdHex p.1 = true ∧ isCanonicalDecimal p.2 = true

/-- A ledger entry whose revocation the parser takes. -/
def WellFormedRevocation (p : PyStr × Int) : Prop := isGrantIdHex p.1 = true ∧ 0 ≤ p.2

/-- The entry of a pair in a head body. -/
def activeEntry (p : PyStr × PyStr) : PyVal :=
  .dict [(str "grant_id", .str p.1), (str "grant_version", .str p.2)]

theorem parseActiveEntry_activeEntry {p q : PyStr × PyStr} :
    parseActiveEntry (activeEntry p) = .ok q ↔ WellFormedEntry p ∧ q = p := by
  rw [parseActiveEntry_eq_ok]
  constructor
  · intro h
    obtain ⟨d, hd, -, ⟨hgid, hhex⟩, hgver, hdec⟩ := h
    cases hd
    have h₁ : p.1 = q.1 := PyVal.str.inj hgid
    have h₂ : p.2 = q.2 := PyVal.str.inj hgver
    have hqp : q = p := Prod.ext h₁.symm h₂.symm
    subst hqp
    exact ⟨⟨hhex, hdec⟩, rfl⟩
  · intro h
    obtain ⟨⟨hhex, hdec⟩, rfl⟩ := h
    exact ⟨_, rfl, rfl, ⟨rfl, hhex⟩, rfl, hdec⟩

theorem mapM_parseActiveEntry {pairs parsed : List (PyStr × PyStr)} :
    (pairs.map activeEntry).mapM parseActiveEntry = .ok parsed ↔
      (∀ p ∈ pairs, WellFormedEntry p) ∧ parsed = pairs := by
  rw [Jcs.mapM_eq_ok, List.forall₂_map_left_iff]
  simp only [parseActiveEntry_activeEntry]
  induction pairs generalizing parsed with
  | nil => simp
  | cons p pairs ih =>
      rw [List.forall₂_cons_left_iff, List.forall_mem_cons]
      simp only [ih]
      constructor
      · intro h
        obtain ⟨q, parsed', ⟨hp, rfl⟩, ⟨hall, rfl⟩, rfl⟩ := h
        exact ⟨⟨hp, hall⟩, rfl⟩
      · intro h
        obtain ⟨⟨hp, hall⟩, rfl⟩ := h
        exact ⟨p, pairs, ⟨hp, rfl⟩, ⟨hall, rfl⟩, rfl⟩

/-- `int(str(i))` of a version the parser takes. -/
theorem pyInt_decimal {i j : Int} (hi : 0 ≤ i) :
    pyInt (decimal i) = .ok j ↔ (decimal i).length ≤ intMaxStrDigits ∧ j = i := by
  obtain ⟨n, rfl⟩ := Int.eq_ofNat_of_zero_le hi
  have hdec : decimal (n : Int) = natDecimal n := rfl
  rw [hdec, pyInt_natDecimal]
  split
  · simp [*]
  · have hle : (natDecimal n).length ≤ intMaxStrDigits := by omega
    simp [hle, eq_comm]

namespace HeadState

/-- The parser takes the head: its version is a number `int` reads, and every entry is
well-formed. -/
structure Parses (h : HeadState) : Prop where
  nonneg : 0 ≤ h.versionInt
  length_le : h.stateVersion.length ≤ intMaxStrDigits
  entries : ∀ p ∈ h.active, WellFormedEntry p

theorem parseHeadBody_currentBody {h : HeadState} {sv : PyStr} {i : Int}
    {pairs : List (PyStr × PyStr)} :
    parseHeadBody h.currentBody = .ok (sv, i, pairs) ↔
      h.Parses ∧ sv = h.stateVersion ∧ i = h.versionInt ∧ pairs = headBody.sortPairs h.active := by
  have hkeys : h.currentBody.unknownKeys headBodyKeys = [] := rfl
  have hsv : h.currentBody.get (str "state_version") = .str h.stateVersion := rfl
  have hactive : h.currentBody.get (str "active_grants") =
      .list ((headBody.sortPairs h.active).map activeEntry) := rfl
  rw [parseHeadBody_eq_ok, hsv, hactive]
  constructor
  · intro hspec
    obtain ⟨-, ⟨hsv, hdec⟩, ⟨active, hactive, hpairs⟩, hi⟩ := hspec
    cases hsv
    cases hactive
    obtain ⟨hentries, rfl⟩ := mapM_parseActiveEntry.mp hpairs
    have hnonneg : 0 ≤ h.versionInt := isCanonicalDecimal_decimal.mp hdec
    obtain ⟨hlength, rfl⟩ := (pyInt_decimal hnonneg).mp hi
    exact ⟨⟨hnonneg, hlength, fun p hp => hentries p (mem_sortPairs.mpr hp)⟩, rfl, rfl, rfl⟩
  · intro hspec
    obtain ⟨hparses, rfl, rfl, rfl⟩ := hspec
    exact ⟨hkeys, ⟨rfl, isCanonicalDecimal_decimal.mpr hparses.nonneg⟩,
      ⟨_, rfl, mapM_parseActiveEntry.mpr
        ⟨fun p hp => hparses.entries p (mem_sortPairs.mp hp), rfl⟩⟩,
      (pyInt_decimal hparses.nonneg).mpr ⟨hparses.length_le, rfl⟩⟩

end HeadState

theorem parseRevocationBody_revocationBody {g g' : PyStr} {n : Int} :
    parseRevocationBody (revocationBody g (decimal n)) = .ok g' ↔
      WellFormedRevocation (g, n) ∧ g' = g := by
  have hkeys : (revocationBody g (decimal n)).hasExactly revocationBodyKeys = true := rfl
  have hgid : (revocationBody g (decimal n)).get (str "grant_id") = .str g := rfl
  have hsv : (revocationBody g (decimal n)).get (str "state_version") = .str (decimal n) := rfl
  rw [parseRevocationBody_eq_ok, hgid, hsv]
  constructor
  · intro h
    obtain ⟨-, ⟨hg, hhex⟩, sv, hsv, hdec⟩ := h
    cases hg
    cases hsv
    exact ⟨⟨hhex, isCanonicalDecimal_decimal.mp hdec⟩, rfl⟩
  · intro h
    obtain ⟨⟨hhex, hn⟩, rfl⟩ := h
    exact ⟨hkeys, ⟨rfl, hhex⟩, _, rfl, isCanonicalDecimal_decimal.mpr hn⟩

/-! ### The current head at the gate -/

section Gate
variable {P : Platform} {cfg : GateConfig P} {root : Signer P cfg.userRootPublicKey}

/-- The envelope of an artifact is the one of a signed artifact. -/
theorem signedArtifact_artifact {artifactType : String} (htype : str artifactType ≠ [])
    {body body' : Dict} {env : PyVal} (h : root.artifact artifactType body = .ok env) :
    SignedArtifact cfg artifactType env body' ↔ body' = body := by
  obtain ⟨message, hmessage, rfl⟩ := artifact_eq_ok.mp h
  unfold SignedArtifact
  rw [parseEnvelope_envelope htype]
  constructor
  · intro hspec
    obtain ⟨sig, message', henv, -⟩ := hspec
    cases henv
    rfl
  · intro heq
    subst heq
    exact ⟨_, message, rfl, hmessage, root.verify_sign message⟩

theorem signedRevocation_iff {g g' : PyStr} {n : Int} {env : PyVal}
    (h : signedRevocation root g n = .ok env) :
    SignedRevocation cfg env g' ↔ WellFormedRevocation (g, n) ∧ g' = g := by
  unfold SignedRevocation
  simp only [signedArtifact_artifact (by decide) h, exists_eq_left,
    parseRevocationBody_revocationBody]

/-- The artifacts are the signed revocations of these entries, in this order. -/
abbrev Revokes (root : Signer P cfg.userRootPublicKey) : List PyVal → List (PyStr × Int) → Prop :=
  List.Forall₂ fun env p => signedRevocation root p.1 p.2 = .ok env

theorem verifyRevocations_revokes {envs : List PyVal} {entries : List (PyStr × Int)}
    (h : Revokes root envs entries) {gids : List PyStr} :
    verifyRevocations P cfg envs = .ok gids ↔
      (∀ p ∈ entries, WellFormedRevocation p) ∧ gids = entries.map (·.1) := by
  rw [verifyRevocations_eq_ok]
  induction h generalizing gids with
  | nil => simp
  | @cons env p envs entries henv _ ih =>
      rw [List.forall₂_cons_left_iff, List.forall_mem_cons, List.map_cons]
      simp only [signedRevocation_iff henv, ih]
      constructor
      · intro hspec
        obtain ⟨g, gids', ⟨hp, rfl⟩, ⟨hall, rfl⟩, rfl⟩ := hspec
        exact ⟨⟨hp, hall⟩, rfl⟩
      · intro hspec
        obtain ⟨⟨hp, hall⟩, rfl⟩ := hspec
        exact ⟨_, _, ⟨hp, rfl⟩, ⟨hall, rfl⟩, rfl⟩

/-- **The gate on the current head.** It accepts a sync of the current head with signed
revocations exactly when the parsers take all of them, and then it holds the control plane's
active set, with the delivered ids as revoked. -/
theorem acceptedHead_current {h : HeadState} {headEnv : PyVal}
    (hhead : h.signedHead root = .ok headEnv) {envs : List PyVal} {entries : List (PyStr × Int)}
    (henvs : Revokes root envs entries) {head : VerifiedHead} :
    acceptedHead cfg (syncEnvelope headEnv envs) = .ok head ↔
      (h.Parses ∧ ∀ p ∈ entries, WellFormedRevocation p) ∧
        ∃ d, digest P (.dict h.currentBody) = .ok d ∧ head = h.delivered d (entries.map (·.1)) := by
  obtain ⟨message, hmessage, rfl⟩ := artifact_eq_ok.mp hhead
  have henv := parseEnvelope_envelope (show str headArtifactType ≠ [] by decide) h.currentBody
    (root.sign message)
  have hwrapper := parseSyncEnvelope_syncEnvelope
    (envelope headArtifactType h.currentBody (root.sign message)) envs
  unfold acceptedHead
  simp only [bind_eq_ok, verifySync_eq_ok]
  constructor
  · intro hspec
    obtain ⟨synced, ⟨headEnv, revs, sig, message', hwrap, hhead, -, -, hbody, hrevs⟩, d, hd, h⟩ := hspec
    cases hwrapper.symm.trans hwrap
    have heq := Except.ok.inj (henv.symm.trans hhead)
    obtain ⟨hcurrent, -⟩ := Prod.mk.inj (Prod.mk.inj heq).2
    rw [← hcurrent] at hbody hd
    obtain ⟨hparses, hsv, hi, hpairs⟩ := HeadState.parseHeadBody_currentBody.mp hbody
    obtain ⟨hentries, hgids⟩ := (verifyRevocations_revokes henvs).mp hrevs
    cases h
    refine ⟨⟨hparses, hentries⟩, d, hd, ?_⟩
    rw [HeadState.delivered, hsv, hi, hpairs, hgids]
  · intro hspec
    obtain ⟨⟨hparses, hentries⟩, d, hd, rfl⟩ := hspec
    let synced : SyncedState := ⟨h.stateVersion, h.versionInt, headBody.sortPairs h.active,
      h.currentBody, entries.map (·.1)⟩
    have hbody := HeadState.parseHeadBody_currentBody.mpr ⟨hparses, rfl, rfl, rfl⟩
    have hrevs := (verifyRevocations_revokes henvs).mpr ⟨hentries, rfl⟩
    exact ⟨synced, ⟨_, envs, _, message, hwrapper, henv, hmessage, root.verify_sign message,
      hbody, hrevs⟩, d, hd, rfl⟩

end Gate

/-! ### Well-formed histories -/

/-- The operation is about a grant id and a version that the parsers take. -/
def HeadOp.WellFormed : HeadOp → Prop
  | .revoke grantId => isGrantIdHex grantId = true
  | .supersede grantId newVersion => isGrantIdHex grantId = true ∧ 0 ≤ newVersion
  | .add grantId grantVersion => WellFormedEntry (grantId, grantVersion)

namespace HeadState

/-- What the control plane keeps true of the state of the head. -/
structure WellFormed (h : HeadState) : Prop where
  nonneg : 0 ≤ h.versionInt
  entries : ∀ p ∈ h.active, WellFormedEntry p
  ledger : ∀ p ∈ h.revocations, WellFormedRevocation p

theorem WellFormed.apply {h : HeadState} (hh : h.WellFormed) {op : HeadOp} (hop : op.WellFormed) :
    (h.apply op).WellFormed := by
  have hnext : 0 ≤ h.versionInt + 1 := by
    have := hh.nonneg
    omega
  cases op with
  | revoke grantId =>
      refine ⟨hnext, fun p hp => hh.entries p (mem_drop.mp hp).1, fun p hp => ?_⟩
      rcases mem_assign.mp hp with rfl | ⟨hp, -⟩
      · exact ⟨hop, hnext⟩
      · exact hh.ledger p hp
  | supersede grantId newVersion =>
      refine ⟨hnext, fun p hp => ?_, hh.ledger⟩
      rcases mem_assign.mp hp with rfl | ⟨hp, -⟩
      · exact ⟨hop.1, isCanonicalDecimal_decimal.mpr hop.2⟩
      · exact hh.entries p hp
  | add grantId grantVersion =>
      refine ⟨hnext, fun p hp => ?_, fun p hp => hh.ledger p (mem_drop.mp hp).1⟩
      rcases mem_assign.mp hp with rfl | ⟨hp, -⟩
      · exact hop
      · exact hh.entries p hp

theorem WellFormed.run {h : HeadState} (hh : h.WellFormed) {ops : List HeadOp}
    (hops : ∀ op ∈ ops, op.WellFormed) : (h.run ops).WellFormed :=
  run_induction (motive := WellFormed) (fun _ _ hop hh => hh.apply hop) hh ops hops

end HeadState

/-! ### A grant that was added again -/

/-- The operation leaves `grantId` active at `grantVersion`. -/
def HeadOp.Keeps (grantId grantVersion : PyStr) : HeadOp → Prop
  | .revoke g => g ≠ grantId
  | .supersede g newVersion => g = grantId → decimal newVersion = grantVersion
  | .add g v => g = grantId → v = grantVersion

theorem HeadState.active_apply {h : HeadState} {g v : PyStr} (hactive : (g, v) ∈ h.active)
    {op : HeadOp} (hop : op.Keeps g v) : (g, v) ∈ (h.apply op).active := by
  have hassign : ∀ (g' v' : PyStr), (g' = g → v' = v) → (g, v) ∈ assign h.active g' v' := by
    intro g' v' hsame
    by_cases hg : g' = g
    · exact mem_assign.mpr (.inl (by rw [hg, hsame hg]))
    · exact mem_assign.mpr (.inr ⟨hactive, fun heq => hg heq.symm⟩)
  cases op with
  | revoke g' => exact mem_drop.mpr ⟨hactive, fun heq => hop heq.symm⟩
  | supersede g' newVersion => exact hassign g' _ hop
  | add g' v' => exact hassign g' v' hop

/-- After it was added, a grant is active as long as no operation takes its version away. -/
theorem HeadState.active_readded (h : HeadState) (pre post : List HeadOp) {g v : PyStr}
    (hpost : ∀ op ∈ post, op.Keeps g v) : (g, v) ∈ (h.run (pre ++ .add g v :: post)).active := by
  rw [run_append, run_cons]
  exact run_induction (motive := fun h => (g, v) ∈ h.active)
    (fun _ _ hop hactive => active_apply hactive hop) (mem_assign.mpr (.inl rfl)) post hpost

section Readded
variable {P : Platform} {cfg : GateConfig P} {root : Signer P cfg.userRootPublicKey}

/-- The user root signed this revocation at some point of the history. -/
def EverSigned (root : Signer P cfg.userRootPublicKey) (h : HeadState) (ops : List HeadOp)
    (env : PyVal) : Prop :=
  ∃ pre, pre <+: ops ∧ ∃ p ∈ (h.run pre).revocations, signedRevocation root p.1 p.2 = .ok env

/-- The artifact is a revocation of `g`. -/
def Names (root : Signer P cfg.userRootPublicKey) (g : PyStr) (env : PyVal) : Prop :=
  ∃ n, signedRevocation root g n = .ok env

/-- The ledger entries some delivered artifacts were signed from. -/
theorem exists_revokes {h : HeadState} {ops : List HeadOp} {envs : List PyVal}
    (henvs : ∀ env ∈ envs, EverSigned root h ops env) :
    ∃ entries, Revokes root envs entries ∧
      ∀ p ∈ entries, ∃ pre, pre <+: ops ∧ p ∈ (h.run pre).revocations := by
  induction envs with
  | nil => exact ⟨[], .nil, fun _ hp => absurd hp List.not_mem_nil⟩
  | cons env envs ih =>
      obtain ⟨henv, henvs⟩ := List.forall_mem_cons.mp henvs
      obtain ⟨pre, hpre, p, hp, hsigned⟩ := henv
      obtain ⟨entries, hentries, horigin⟩ := ih henvs
      exact ⟨p :: entries, .cons hsigned hentries,
        List.forall_mem_cons.mpr ⟨⟨pre, hpre, hp⟩, horigin⟩⟩

theorem names_iff {envs : List PyVal} {entries : List (PyStr × Int)}
    (h : Revokes root envs entries) {g : PyStr} :
    (∃ env ∈ envs, Names root g env) ↔ g ∈ entries.map (·.1) := by
  rw [List.mem_map]
  constructor
  · intro hspec
    obtain ⟨env, henv, n, hn⟩ := hspec
    obtain ⟨p, hp, hsigned⟩ := Jcs.exists_of_forall₂ h henv
    exact ⟨p, hp, signedRevocation_inj hsigned hn⟩
  · intro hspec
    obtain ⟨p, hp, rfl⟩ := hspec
    obtain ⟨env, henv, hsigned⟩ := Jcs.exists_of_forall₂' h hp
    exact ⟨env, henv, p.2, hsigned⟩

/-- The gate accepts the current head of a well-formed history, with any revocations from its
past. -/
theorem accepts_current {h : HeadState} {ops : List HeadOp} {headEnv : PyVal}
    (hhead : (h.run ops).signedHead root = .ok headEnv) {envs : List PyVal}
    (henvs : ∀ env ∈ envs, EverSigned root h ops env) (hwf : h.WellFormed)
    (hops : ∀ op ∈ ops, op.WellFormed)
    (hlength : (h.run ops).stateVersion.length ≤ intMaxStrDigits) :
    ∃ head, acceptedHead cfg (syncEnvelope headEnv envs) = .ok head := by
  obtain ⟨entries, hentries, horigin⟩ := exists_revokes henvs
  have hrun := hwf.run hops
  have hparses : (h.run ops).Parses := ⟨hrun.nonneg, hlength, hrun.entries⟩
  have hledger : ∀ p ∈ entries, WellFormedRevocation p := by
    intro p hp
    obtain ⟨pre, hpre, hp⟩ := horigin p hp
    -- The ledger of an earlier state is as well-formed as the operations up to it.
    exact (hwf.run fun op hop => hops op (hpre.subset hop)).ledger p hp
  -- A body that was signed has a canonical form, so it has a digest.
  obtain ⟨message, hmessage, -⟩ := artifact_eq_ok.mp hhead
  obtain ⟨bytes, hbytes, -⟩ := signingInput_eq_ok.mp hmessage
  have hdigest : digest P (.dict (h.run ops).currentBody) = .ok (P.sha256Hex bytes) := by
    rw [digest, hbytes]
    rfl
  exact ⟨_, (acceptedHead_current hhead hentries).mpr ⟨⟨hparses, hledger⟩, _, hdigest, rfl⟩⟩

/-- Where the gate accepts, a grant that a delivered revocation names is revoked. -/
theorem revoked_of_names {h : HeadState} {ops : List HeadOp} {headEnv : PyVal}
    (hhead : (h.run ops).signedHead root = .ok headEnv) {envs : List PyVal}
    (henvs : ∀ env ∈ envs, EverSigned root h ops env) {head : VerifiedHead}
    (haccepted : acceptedHead cfg (syncEnvelope headEnv envs) = .ok head) {g : PyStr}
    (hnames : ∃ env ∈ envs, Names root g env) (v : PyStr) : head.membership g v = .revoked := by
  obtain ⟨entries, hentries, -⟩ := exists_revokes henvs
  obtain ⟨-, d, -, rfl⟩ := (acceptedHead_current hhead hentries).mp haccepted
  exact HeadState.delivered_revoked.mpr ((names_iff hentries).mp hnames)

/-- Where it accepts, an active grant that no delivered revocation names is active. -/
theorem active_of_not_names {h : HeadState} {ops : List HeadOp} {headEnv : PyVal}
    (hhead : (h.run ops).signedHead root = .ok headEnv) {envs : List PyVal}
    (henvs : ∀ env ∈ envs, EverSigned root h ops env) {head : VerifiedHead}
    (haccepted : acceptedHead cfg (syncEnvelope headEnv envs) = .ok head) {g v : PyStr}
    (hnames : ∀ env ∈ envs, ¬ Names root g env) (hactive : (g, v) ∈ (h.run ops).active) :
    head.membership g v = .active := by
  obtain ⟨entries, hentries, -⟩ := exists_revokes henvs
  obtain ⟨-, d, -, rfl⟩ := (acceptedHead_current hhead hentries).mp haccepted
  refine HeadState.delivered_active.mpr ⟨fun hseen => ?_, hactive⟩
  obtain ⟨env, henv, hn⟩ := (names_iff hentries).mpr hseen
  exact hnames env henv hn

/-- **A grant added again**, and not taken away since. A relay delivers the current head with
revocations from any time. Where the gate accepts the sync, the grant is active if no
delivered revocation names it and revoked if one does; and it accepts whenever the history
is well-formed. -/
theorem readded_membership (root : Signer P cfg.userRootPublicKey) (h : HeadState)
    (pre post : List HeadOp) (g v : PyStr) (hpost : ∀ op ∈ post, op.Keeps g v)
    (headEnv : PyVal) (hhead : (h.run (pre ++ .add g v :: post)).signedHead root = .ok headEnv)
    (envs : List PyVal) (henvs : ∀ env ∈ envs, EverSigned root h (pre ++ .add g v :: post) env) :
    (∀ head, acceptedHead cfg (syncEnvelope headEnv envs) = .ok head →
      ((∀ env ∈ envs, ¬ Names root g env) → head.membership g v = .active) ∧
      ((∃ env ∈ envs, Names root g env) → head.membership g v = .revoked)) ∧
    (h.WellFormed → (∀ op ∈ pre ++ .add g v :: post, op.WellFormed) →
      (h.run (pre ++ .add g v :: post)).stateVersion.length ≤ intMaxStrDigits →
      ∃ head, acceptedHead cfg (syncEnvelope headEnv envs) = .ok head) := by
  constructor
  · intro head haccepted
    constructor
    · intro hnames
      exact active_of_not_names hhead henvs haccepted hnames (h.active_readded pre post hpost)
    · intro hnames
      exact revoked_of_names hhead henvs haccepted hnames v
  · intro hwf hops hlength
    exact accepts_current hhead henvs hwf hops hlength

end Readded

/-! ### Two histories -/

/-- The user root of the sample platform. -/
def sampleRoot : Signer samplePlatform sampleConfig.userRootPublicKey where
  sign message := [7, message.sum]
  verify_sign _ := decide_eq_true rfl

/-- A second grant. -/
def otherGrantId : PyStr := List.replicate 32 (CodePoint.ofChar 'b')

/-- Two grants are revoked, and one of them is added again. -/
def regranting : List HeadOp := [.revoke otherGrantId, .revoke sampleGrantId]

/-- A state with two grants. -/
def regrantable : HeadState := .initial [(sampleGrantId, str "1"), (otherGrantId, str "1")] 1

theorem regrantable_wellFormed : regrantable.WellFormed where
  nonneg := by decide
  entries := by
    simp only [regrantable, HeadState.initial, List.forall_mem_cons, WellFormedEntry]
    decide
  ledger := fun _ hp => absurd hp List.not_mem_nil

theorem regranting_wellFormed :
    ∀ op ∈ regranting ++ [.add sampleGrantId (str "1")], op.WellFormed := by
  simp [regranting, HeadOp.WellFormed, WellFormedEntry]
  decide

theorem exists_ok {α : Type} {x : Except Exc α} (h : x.toOption.isSome = true) :
    ∃ a, x = .ok a := by
  cases x with
  | ok a => exact ⟨a, rfl⟩
  | error e => cases h

theorem regrantable_signedHead : ∃ headEnv,
    (regrantable.run (regranting ++ [.add sampleGrantId (str "1")])).signedHead sampleRoot =
      .ok headEnv :=
  exists_ok (by decide +kernel)

theorem regrantable_signedRevocation (pre : List HeadOp) (p : PyStr × Int)
    (hpre : pre <+: regranting ++ [.add sampleGrantId (str "1")])
    (hp : p ∈ (regrantable.run pre).revocations)
    (hok : (signedRevocation sampleRoot p.1 p.2).toOption.isSome = true) :
    ∃ env, signedRevocation sampleRoot p.1 p.2 = .ok env ∧
      EverSigned sampleRoot regrantable (regranting ++ [.add sampleGrantId (str "1")]) env := by
  obtain ⟨env, henv⟩ := exists_ok hok
  exact ⟨env, henv, pre, hpre, p, hp, henv⟩

/-- The relay replays the revocation of the other grant: the grant is active. -/
theorem readded_membership_active : ∃ headEnv env head,
    acceptedHead sampleConfig (syncEnvelope headEnv [env]) = .ok head ∧
      head.membership sampleGrantId (str "1") = .active := by
  obtain ⟨headEnv, hhead⟩ := regrantable_signedHead
  obtain ⟨env, hsigned, hever⟩ := regrantable_signedRevocation [.revoke otherGrantId]
    (otherGrantId, 2) ⟨_, rfl⟩ (by decide) (by decide +kernel)
  have hspec := readded_membership sampleRoot regrantable regranting [] sampleGrantId (str "1")
    (by simp) headEnv hhead [env] (by simpa using hever)
  obtain ⟨head, haccepted⟩ := hspec.2 regrantable_wellFormed regranting_wellFormed (by decide)
  have hother : ¬ Names sampleRoot sampleGrantId env := by
    intro hnames
    obtain ⟨n, hn⟩ := hnames
    exact absurd (signedRevocation_inj hsigned hn) (by decide)
  exact ⟨headEnv, env, head, haccepted, (hspec.1 head haccepted).1 (by simpa using hother)⟩

/-- The relay replays the revocation from before the grant was added again: the grant is
revoked. -/
theorem readded_revoked :
    ¬ ∀ (h : HeadState) (pre post : List HeadOp) (g v : PyStr) (headEnv : PyVal)
      (envs : List PyVal) (head : VerifiedHead),
      .revoke g ∈ pre → .revoke g ∉ post →
      (h.run (pre ++ .add g v :: post)).signedHead sampleRoot = .ok headEnv →
      (∀ env ∈ envs, EverSigned sampleRoot h (pre ++ .add g v :: post) env) →
      acceptedHead sampleConfig (syncEnvelope headEnv envs) = .ok head →
      head.membership g v = .active := by
  intro hclaim
  obtain ⟨headEnv, hhead⟩ := regrantable_signedHead
  obtain ⟨env, hsigned, hever⟩ := regrantable_signedRevocation regranting
    (sampleGrantId, 3) ⟨_, rfl⟩ (by decide) (by decide +kernel)
  have hever' : ∀ e ∈ [env], EverSigned sampleRoot regrantable
      (regranting ++ [.add sampleGrantId (str "1")]) e := by simpa using hever
  obtain ⟨head, haccepted⟩ := accepts_current hhead hever' regrantable_wellFormed
    regranting_wellFormed (by decide)
  have hrevoked := revoked_of_names hhead hever' haccepted
    ⟨env, List.mem_singleton_self env, 3, hsigned⟩ (str "1")
  have hactive := hclaim regrantable regranting [] sampleGrantId (str "1") headEnv [env] head
    (by simp [regranting]) List.not_mem_nil hhead hever' haccepted
  rw [hrevoked] at hactive
  cases hactive

end GmailGateway
