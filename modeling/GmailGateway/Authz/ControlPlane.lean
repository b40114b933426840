import GmailGateway.Authz.Artifact

/-!
# GmailGateway.Authz.ControlPlane

**Histories of the control plane** (`HeadState` of `authz/state.py`): any sequence of
revoke, supersede and add, the head and the revocations the user root signs on the way,
and what the gate makes of the current head when a relay delivers it with some of them.

The two tables of `HeadState` are meant to be disjoint: `revoke` moves a grant id from the
active set to the ledger and `add` takes it out of the ledger again. `supersede` does not
look at the ledger, and a history keeps the tables apart exactly when it never supersedes a
grant that is revoked (`run_separate_iff`).
-/

namespace GmailGateway

open Python AuthorizationGate

/-- One operation of the control plane. -/
inductive HeadOp
  | revoke (grantId : PyStr)
  | supersede (grantId : PyStr) (newVersion : Int)
  | add (grantId grantVersion : PyStr)

namespace HeadState

/-! ### Tables -/

section Tables
variable {β : Type} {d : List (PyStr × β)} {key : PyStr} {value : β} {m : PyStr × β}

@[simp] theorem mem_drop : m ∈ drop d key ↔ m ∈ d ∧ m.1 ≠ key := by
  simp [drop]

@[simp] theorem mem_assign : m ∈ assign d key value ↔ m = (key, value) ∨ m ∈ d ∧ m.1 ≠ key := by
  unfold assign
  by_cases hkey : d.any (·.1 = key) = true
  · obtain ⟨old, hold, heq⟩ : ∃ old ∈ d, old.1 = key := by simpa using hkey
    rw [if_pos hkey, List.mem_map]
    constructor
    · intro hspec
      obtain ⟨n, hn, rfl⟩ := hspec
      by_cases hnk : n.1 = key
      · simp [hnk]
      · simp [hnk, hn]
    · intro h
      rcases h with rfl | ⟨hm, hne⟩
      · exact ⟨old, hold, if_pos heq⟩
      · exact ⟨m, hm, if_neg hne⟩
  · have habsent : ∀ n ∈ d, n.1 ≠ key := fun n hn heq =>
      hkey (List.any_eq_true.mpr ⟨n, hn, decide_eq_true heq⟩)
    rw [if_neg hkey, List.mem_append, List.mem_singleton]
    constructor
    · intro h
      exact h.symm.imp_right fun hm => ⟨hm, habsent m hm⟩
    · intro h
      exact h.symm.imp_left And.left

end Tables

/-- The grant ids of the active set. -/
def activeIds (h : HeadState) : List PyStr := h.active.map (·.1)

/-- The grant ids of the ledger: those with a currently signed revocation. -/
def revokedIds (h : HeadState) : List PyStr := h.revocations.map (·.1)

theorem mem_activeIds {h : HeadState} {g : PyStr} : g ∈ h.activeIds ↔ ∃ v, (g, v) ∈ h.active := by
  simp [activeIds]

theorem mem_revokedIds {h : HeadState} {g : PyStr} :
    g ∈ h.revokedIds ↔ ∃ n, (g, n) ∈ h.revocations := by
  simp [revokedIds]

/-! ### Histories -/

/-- `HeadState(user_priv, active_grants, state_version_int=…)`. -/
def initial (active : List (PyStr × PyStr)) (versionInt : Int) : HeadState :=
  ⟨active, versionInt, []⟩

def apply (h : HeadState) : HeadOp → HeadState
  | .revoke grantId => h.revoke grantId
  | .supersede grantId newVersion => h.supersede grantId newVersion
  | .add grantId grantVersion => h.add grantId grantVersion

def run (h : HeadState) (ops : List HeadOp) : HeadState := ops.foldl apply h

@[simp] theorem run_nil (h : HeadState) : h.run [] = h := rfl

@[simp] theorem run_cons (h : HeadState) (op : HeadOp) (ops : List HeadOp) :
    h.run (op :: ops) = (h.apply op).run ops := rfl

theorem run_append (h : HeadState) (ops ops' : List HeadOp) :
    h.run (ops ++ ops') = (h.run ops).run ops' := List.foldl_append

/-- What every operation keeps, a history keeps. -/
theorem run_induction {motive : HeadState → Prop} {allowed : HeadOp → Prop}
    (step : ∀ h op, allowed op → motive h → motive (h.apply op)) {h : HeadState} (hh : motive h) :
    ∀ ops : List HeadOp, (∀ op ∈ ops, allowed op) → motive (h.run ops) := by
  intro ops hops
  induction ops generalizing h with
  | nil => exact hh
  | cons op ops ih =>
      have hop := hops op List.mem_cons_self
      exact ih (step h op hop hh) fun op' hop' => hops op' (List.mem_cons_of_mem op hop')

/-- Every operation advances the version by one. -/
theorem run_versionInt (h : HeadState) (ops : List HeadOp) :
    (h.run ops).versionInt = h.versionInt + ops.length := by
  induction ops generalizing h with
  | nil => simp
  | cons op ops ih =>
      have hop : (h.apply op).versionInt = h.versionInt + 1 := by cases op <;> rfl
      rw [run_cons, ih, hop, List.length_cons]
      omega

/-- A version belongs to one state of a history. -/
theorem prefix_of_versionInt_le {h : HeadState} {ops pre pre' : List HeadOp} (hpre : pre <+: ops)
    (hpre' : pre' <+: ops) (hle : (h.run pre).versionInt ≤ (h.run pre').versionInt) :
    pre <+: pre' := by
  rw [run_versionInt, run_versionInt] at hle
  exact List.prefix_of_prefix_length_le hpre hpre' (by omega)

end HeadState

/-- The operation makes the grant active. -/
def HeadOp.Activates (grantId grantVersion : PyStr) : HeadOp → Prop
  | .revoke _ => False
  | .supersede g newVersion => g = grantId ∧ decimal newVersion = grantVersion
  | .add g v => g = grantId ∧ v = grantVersion

namespace HeadState

theorem activates_of_apply {h : HeadState} {g v : PyStr} {op : HeadOp}
    (hinactive : (g, v) ∉ h.active) (hactive : (g, v) ∈ (h.apply op).active) :
    op.Activates g v := by
  cases op with
  | revoke grantId => exact absurd (mem_drop.mp hactive).1 hinactive
  | supersede grantId newVersion =>
      rcases mem_assign.mp hactive with heq | ⟨hold, -⟩
      · exact ⟨(congrArg Prod.fst heq).symm, (congrArg Prod.snd heq).symm⟩
      · exact absurd hold hinactive
  | add grantId grantVersion =>
      rcases mem_assign.mp hactive with heq | ⟨hold, -⟩
      · exact ⟨(congrArg Prod.fst heq).symm, (congrArg Prod.snd heq).symm⟩
      · exact absurd hold hinactive

/-- A grant that gets active in a history does so by one of its operations. -/
theorem exists_activates {h : HeadState} {g v : PyStr} {ops : List HeadOp}
    (hinactive : (g, v) ∉ h.active) (hactive : (g, v) ∈ (h.run ops).active) :
    ∃ mid op, mid ++ [op] <+: ops ∧ op.Activates g v := by
  induction ops generalizing h with
  | nil => exact absurd hactive hinactive
  | cons op ops ih =>
      by_cases hstep : (g, v) ∈ (h.apply op).active
      · exact ⟨[], op, ⟨ops, rfl⟩, activates_of_apply hinactive hstep⟩
      · obtain ⟨mid, op', hmid, hactivates⟩ := ih hstep hactive
        exact ⟨op :: mid, op', (List.prefix_cons_inj op).mpr hmid, hactivates⟩

/-! ### Separate tables -/

/-- No grant id is both active and revoked. -/
def Separate (h : HeadState) : Prop := ∀ g ∈ h.activeIds, g ∉ h.revokedIds

/-- The current head as the gate holds it, after it came with revocations of `seen`. -/
def delivered (h : HeadState) (headDigest : PyStr) (seen : List PyStr) : VerifiedHead where
  stateVersion := h.stateVersion
  stateVersionInt := h.versionInt
  activeGrants := headBody.sortPairs h.active
  digest := headDigest
  seenRevocations := seen

theorem mem_sortPairs {pairs : List (PyStr × PyStr)} {p : PyStr × PyStr} :
    p ∈ headBody.sortPairs pairs ↔ p ∈ pairs := by
  rw [headBody.sortPairs, (List.perm_insertionSort _ _).mem_iff, List.mem_dedup]

theorem delivered_active {h : HeadState} {headDigest : PyStr} {seen : List PyStr} {g v : PyStr} :
    (h.delivered headDigest seen).membership g v = .active ↔ g ∉ seen ∧ (g, v) ∈ h.active := by
  rw [VerifiedHead.membership_eq_active]
  exact and_congr_right fun _ => mem_sortPairs

theorem delivered_revoked {h : HeadState} {headDigest : PyStr} {seen : List PyStr} {g v : PyStr} :
    (h.delivered headDigest seen).membership g v = .revoked ↔ g ∈ seen := by
  have hseen : (h.delivered headDigest seen).seenRevocations = seen := rfl
  rw [VerifiedHead.membership, hseen]
  split
  · simp [*]
  · split
    · simp [*]
    · split <;> simp [*]

/-- Whatever revocations are withheld with the current head, no grant gets active that is not
active when all are delivered. -/
def WithholdingSafe (h : HeadState) : Prop :=
  ∀ (headDigest g v : PyStr) (seen : List PyStr), seen ⊆ h.revokedIds →
    (h.delivered headDigest h.revokedIds).membership g v ≠ .active →
    (h.delivered headDigest seen).membership g v ≠ .active

theorem withholdingSafe_iff {h : HeadState} : h.WithholdingSafe ↔ h.Separate := by
  constructor
  · intro hsafe g hg hrevoked
    obtain ⟨v, hv⟩ := mem_activeIds.mp hg
    have hall : (h.delivered [] h.revokedIds).membership g v ≠ .active := by
      rw [Ne, delivered_active]
      exact fun hactive => hactive.1 hrevoked
    -- Nothing is delivered: the head alone still lists the grant.
    refine hsafe [] g v [] (List.nil_subset _) hall ?_
    exact delivered_active.mpr ⟨List.not_mem_nil, hv⟩
  · intro hsep headDigest g v seen hseen hall hactive
    obtain ⟨-, hv⟩ := delivered_active.mp hactive
    have hg : g ∈ h.activeIds := mem_activeIds.mpr ⟨v, hv⟩
    exact hall (delivered_active.mpr ⟨hsep g hg, hv⟩)

/-- The operation does not supersede a grant id that is in the ledger. -/
def Spares (h : HeadState) : HeadOp → Prop
  | .supersede grantId _ => grantId ∉ h.revokedIds
  | _ => True

/-- Every operation of the history spares the ledger of its time. -/
def SparesLedger : HeadState → List HeadOp → Prop
  | _, [] => True
  | h, op :: ops => h.Spares op ∧ SparesLedger (h.apply op) ops

theorem separate_revoke {h : HeadState} (hsep : h.Separate) (grantId : PyStr) :
    (h.revoke grantId).Separate := by
  intro g hg hrevoked
  obtain ⟨v, hv⟩ := mem_activeIds.mp hg
  obtain ⟨n, hn⟩ := mem_revokedIds.mp hrevoked
  obtain ⟨hv, hne⟩ := mem_drop.mp hv
  rcases mem_assign.mp hn with heq | ⟨hn, -⟩
  · exact hne (congrArg Prod.fst heq)
  · exact hsep g (mem_activeIds.mpr ⟨v, hv⟩) (mem_revokedIds.mpr ⟨n, hn⟩)

theorem separate_add {h : HeadState} (hsep : h.Separate) (grantId grantVersion : PyStr) :
    (h.add grantId grantVersion).Separate := by
  intro g hg hrevoked
  obtain ⟨v, hv⟩ := mem_activeIds.mp hg
  obtain ⟨n, hn⟩ := mem_revokedIds.mp hrevoked
  obtain ⟨hn, hne⟩ := mem_drop.mp hn
  rcases mem_assign.mp hv with heq | ⟨hv, -⟩
  · exact hne (congrArg Prod.fst heq)
  · exact hsep g (mem_activeIds.mpr ⟨v, hv⟩) (mem_revokedIds.mpr ⟨n, hn⟩)

/-- Superseding activates the grant id and leaves the ledger alone. -/
theorem separate_supersede_iff {h : HeadState} (hsep : h.Separate) (grantId : PyStr)
    (newVersion : Int) : (h.supersede grantId newVersion).Separate ↔ grantId ∉ h.revokedIds := by
  have hactive : grantId ∈ (h.supersede grantId newVersion).activeIds :=
    mem_activeIds.mpr ⟨_, mem_assign.mpr (.inl rfl)⟩
  constructor
  · intro hsep'
    exact hsep' grantId hactive
  · intro hspared g hg hrevoked
    obtain ⟨v, hv⟩ := mem_activeIds.mp hg
    rcases mem_assign.mp hv with heq | ⟨hv, -⟩
    · have hgid : g = grantId := congrArg Prod.fst heq
      exact hspared (hgid ▸ hrevoked)
    · exact hsep g (mem_activeIds.mpr ⟨v, hv⟩) hrevoked

theorem separate_apply_iff {h : HeadState} (hsep : h.Separate) (op : HeadOp) :
    (h.apply op).Separate ↔ h.Spares op := by
  cases op with
  | revoke grantId => exact iff_of_true (separate_revoke hsep grantId) trivial
  | supersede grantId newVersion => exact separate_supersede_iff hsep grantId newVersion
  | add grantId grantVersion => exact iff_of_true (separate_add hsep grantId grantVersion) trivial

/-- The tables are apart in every state of a history exactly when every operation spares the
ledger. -/
theorem run_separate_iff {h : HeadState} (hsep : h.Separate) (ops : List HeadOp) :
    (∀ pre, pre <+: ops → (h.run pre).Separate) ↔ h.SparesLedger ops := by
  induction ops generalizing h with
  | nil =>
      refine iff_of_true (fun pre hpre => ?_) trivial
      rw [List.prefix_nil.mp hpre]
      exact hsep
  | cons op ops ih =>
      constructor
      · intro hall
        have hstep : (h.apply op).Separate := hall [op] ⟨ops, rfl⟩
        have htail : ∀ pre, pre <+: ops → ((h.apply op).run pre).Separate := fun pre hpre =>
          hall (op :: pre) ((List.prefix_cons_inj op).mpr hpre)
        exact ⟨(separate_apply_iff hsep op).mp hstep, (ih hstep).mp htail⟩
      · intro hspares pre hpre
        have hstep := (separate_apply_iff hsep op).mpr hspares.1
        cases pre with
        | nil => exact hsep
        | cons op' pre =>
            obtain ⟨rfl, htail⟩ := List.cons_prefix_cons.mp hpre
            exact (ih hstep).mpr hspares.2 pre htail

theorem separate_initial (active : List (PyStr × PyStr)) (versionInt : Int) :
    (initial active versionInt).Separate := fun _ _ => List.not_mem_nil

/-- **Withholding revocations.** In every state of a history it turns no denial into an allow,
and no grant id is both active and revoked, exactly when no operation supersedes a grant id
that is in the ledger. -/
theorem run_withholdingSafe (active : List (PyStr × PyStr)) (versionInt : Int)
    (ops : List HeadOp) :
    (∀ pre, pre <+: ops → ((initial active versionInt).run pre).WithholdingSafe ∧
        ((initial active versionInt).run pre).Separate) ↔
      (initial active versionInt).SparesLedger ops := by
  rw [← run_separate_iff (separate_initial active versionInt)]
  constructor
  · intro hall pre hpre
    exact (hall pre hpre).2
  · intro hall pre hpre
    exact ⟨withholdingSafe_iff.mpr (hall pre hpre), hall pre hpre⟩

/-- A grant is revoked and then superseded: with its revocation it is refused, without it
version 2 is active. -/
theorem run_withholds : ¬ ∀ (active : List (PyStr × PyStr)) (versionInt : Int)
    (ops : List HeadOp), ((initial active versionInt).run ops).WithholdingSafe := by
  intro hall
  have hsafe := hall [(sampleGrantId, str "1")] 1
    [.revoke sampleGrantId, .supersede sampleGrantId 2]
  exact hsafe [] sampleGrantId (str "2") [] (by decide) (by decide) (by decide)

end HeadState

end GmailGateway
