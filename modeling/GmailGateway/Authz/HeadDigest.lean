import GmailGateway.Authz.CanonicalIds
import GmailGateway.Authz.Revocation

/-!
# GmailGateway.Authz.HeadDigest

**The head digest binds the version and the active set.** `head_body` sorts and deduplicates the
pairs it is given, so it is a function of their set; the parser reads the version and that set
back, and two bodies with one digest have the same of both, as far as SHA-256 has no collision
there. The control plane and the gate digest the same body.
-/

namespace GmailGateway

open Python AuthorizationGate

/-! ### Sorting and deduplicating -/

/-- The order of `sorted` on pairs of strings. -/
abbrev PairLe (a b : PyStr × PyStr) : Prop := a.1 < b.1 ∨ a.1 = b.1 ∧ a.2 ≤ b.2

instance : Std.Total PairLe where
  total a b := by
    rcases lt_trichotomy a.1 b.1 with h | h | h
    · exact .inl (.inl h)
    · exact (le_total a.2 b.2).imp (fun hle => .inr ⟨h, hle⟩) fun hle => .inr ⟨h.symm, hle⟩
    · exact .inr (.inl h)

instance : IsTrans (PyStr × PyStr) PairLe where
  trans a b c hab hbc := by
    rcases hab with hab | ⟨hab, hab'⟩
    · rcases hbc with hbc | ⟨hbc, -⟩
      · exact .inl (hab.trans hbc)
      · exact .inl (hbc ▸ hab)
    · rcases hbc with hbc | ⟨hbc, hbc'⟩
      · exact .inl (hab ▸ hbc)
      · exact .inr ⟨hab.trans hbc, hab'.trans hbc'⟩

theorem pairLe_antisymm {a b : PyStr × PyStr} (hab : PairLe a b) (hba : PairLe b a) : a = b := by
  rcases hab with hlt | ⟨heq, hle⟩
  · rcases hba with hgt | ⟨heq', -⟩
    · exact absurd hgt hlt.asymm
    · exact absurd heq'.symm hlt.ne
  · rcases hba with hgt | ⟨-, hge⟩
    · exact absurd heq.symm hgt.ne
    · exact Prod.ext heq (hle.antisymm hge)

/-- `sorted(set(pairs))` is a function of the set. -/
theorem sortPairs_eq_iff {L M : List (PyStr × PyStr)} :
    headBody.sortPairs L = headBody.sortPairs M ↔ ∀ p, p ∈ L ↔ p ∈ M := by
  constructor
  · intro h p
    rw [← HeadState.mem_sortPairs, h, HeadState.mem_sortPairs]
  · intro h
    have hperm : L.dedup.Perm M.dedup :=
      (List.perm_ext_iff_of_nodup L.nodup_dedup M.nodup_dedup).mpr fun p => by simp [h p]
    have hsorted := ((List.perm_insertionSort PairLe L.dedup).trans hperm).trans
      (List.perm_insertionSort PairLe M.dedup).symm
    exact hsorted.eq_of_pairwise (fun a b _ _ => pairLe_antisymm)
      (List.pairwise_insertionSort PairLe _) (List.pairwise_insertionSort PairLe _)

/-! ### Parsing a head body -/

/-- `int` of a version, up to the number of digits it reads. -/
theorem pyInt_versionInt {v : PyStr} (hlength : (decimalDigits v).length ≤ intMaxStrDigits) :
    pyInt v = .ok (versionInt v) := if_neg (by omega)

theorem parseHeadBody_headBody {v : PyStr} {L : List (PyStr × PyStr)}
    (hv : isCanonicalDecimal v = true) (hlength : (decimalDigits v).length ≤ intMaxStrDigits)
    (hL : ∀ p ∈ L, WellFormedEntry p) :
    parseHeadBody (headBody v L) = .ok (v, versionInt v, headBody.sortPairs L) :=
  parseHeadBody_eq_ok.mpr ⟨rfl, ⟨rfl, hv⟩, ⟨_, rfl, mapM_parseActiveEntry.mpr
    ⟨fun p hp => hL p (HeadState.mem_sortPairs.mp hp), rfl⟩⟩, pyInt_versionInt hlength⟩

/-! ### Digesting a head body -/

/-- Members and entries of head bodies that are equal up to order are equal. -/
theorem headBody_of_ordered {v w : PyStr} {L M : List (PyStr × PyStr)}
    (h : Jcs.ordered (.dict (headBody v L)) = Jcs.ordered (.dict (headBody w M))) :
    v = w ∧ headBody.sortPairs L = headBody.sortPairs M := by
  have hversion := Jcs.ordered_get h (str "state_version")
  have hentries : Jcs.ordered (.list ((headBody.sortPairs L).map activeEntry)) =
      Jcs.ordered (.list ((headBody.sortPairs M).map activeEntry)) :=
    Jcs.ordered_get h (str "active_grants")
  refine ⟨PyVal.str.inj hversion, ?_⟩
  rw [Jcs.ordered_list, Jcs.ordered_list, List.map_map, List.map_map] at hentries
  refine List.map_injective_iff.mpr (fun p q hpq => ?_) (PyVal.list.inj hentries)
  have hid := Jcs.ordered_get hpq (str "grant_id")
  have hgrantVersion := Jcs.ordered_get hpq (str "grant_version")
  exact Prod.ext (PyVal.str.inj hid) (PyVal.str.inj hgrantVersion)

/-- What the patterns take is ASCII. -/
theorem encodable_newline : Jcs.Encodable [newline] := by decide

theorem encodable_of_isCanonicalDecimal {v : PyStr} (h : isCanonicalDecimal v = true) :
    Jcs.Encodable v := by
  obtain ⟨n, rfl | rfl⟩ := isCanonicalDecimal_iff.mp h
  · exact Jcs.encodable_natDecimal n
  · exact Jcs.encodable_append.mpr ⟨Jcs.encodable_natDecimal n, encodable_newline⟩

theorem encodable_of_isGrantId {s : PyStr} (h : IsGrantId s) : Jcs.Encodable s := by
  refine List.any_eq_false.mpr fun c hc hsurrogate => ?_
  have hhigh : 0xD800 ≤ c.val := of_decide_eq_true (Bool.and_eq_true_iff.mp hsurrogate).1
  rcases h.2 c hc with hdigit | hletter
  · have hlow : c.val ≤ 0x39 := of_decide_eq_true (Bool.and_eq_true_iff.mp hdigit).2
    omega
  · omega

theorem encodable_of_isGrantIdHex {s : PyStr} (h : isGrantIdHex s = true) : Jcs.Encodable s := by
  rcases isGrantIdHex_iff.mp h with hid | ⟨t, hid, rfl⟩
  · exact encodable_of_isGrantId hid
  · exact Jcs.encodable_append.mpr ⟨encodable_of_isGrantId hid, encodable_newline⟩

theorem inDomain_str {s : PyStr} (h : Jcs.Encodable s) : Jcs.inDomain (.str s) = true := by
  rw [Jcs.inDomain, h]
  rfl

theorem headBody_inDomain {v : PyStr} {L : List (PyStr × PyStr)}
    (hv : isCanonicalDecimal v = true) (hL : ∀ p ∈ L, WellFormedEntry p) :
    Jcs.inDomain (.dict (headBody v L)) = true := by
  rw [Jcs.inDomain, Jcs.membersInDomain_iff, headBody]
  simp only [List.forall_mem_cons]
  refine ⟨⟨by decide, inDomain_str (encodable_of_isCanonicalDecimal hv)⟩, ⟨by decide, ?_⟩,
    List.forall_mem_nil _⟩
  rw [Jcs.inDomain, Jcs.itemsInDomain_iff, List.forall_mem_map]
  intro p hp
  obtain ⟨hid, hversion⟩ := hL p (HeadState.mem_sortPairs.mp hp)
  rw [Jcs.inDomain, Jcs.membersInDomain_iff]
  simp only [List.forall_mem_cons]
  exact ⟨⟨by decide, inDomain_str (encodable_of_isGrantIdHex hid)⟩,
    ⟨by decide, inDomain_str (encodable_of_isCanonicalDecimal hversion)⟩, List.forall_mem_nil _⟩

theorem digest_headBody (P : Platform) {v : PyStr} {L : List (PyStr × PyStr)}
    (hv : isCanonicalDecimal v = true) (hL : ∀ p ∈ L, WellFormedEntry p) :
    ∃ bytes, Jcs.canonicalize (.dict (headBody v L)) = .ok bytes ∧
      digest P (.dict (headBody v L)) = .ok (P.sha256Hex bytes) := by
  obtain ⟨bytes, hbytes⟩ := Jcs.canonicalize_isOk.mp (headBody_inDomain hv hL)
  refine ⟨bytes, hbytes, ?_⟩
  rw [digest, hbytes]
  rfl

/-- SHA-256 has no collision on the bytes of these two bodies. -/
def CollisionFree (P : Platform) (body body' : Dict) : Prop :=
  ∀ b c, Jcs.canonicalize (.dict body) = .ok b → Jcs.canonicalize (.dict body') = .ok c →
    P.sha256Hex b = P.sha256Hex c → b = c

theorem digest_headBody_iff (P : Platform) {v w : PyStr} {L M : List (PyStr × PyStr)}
    (hv : isCanonicalDecimal v = true) (hL : ∀ p ∈ L, WellFormedEntry p)
    (hw : isCanonicalDecimal w = true) (hM : ∀ p ∈ M, WellFormedEntry p)
    (hsha : CollisionFree P (headBody v L) (headBody w M)) :
    digest P (.dict (headBody v L)) = digest P (.dict (headBody w M)) ↔
      v = w ∧ ∀ p, p ∈ L ↔ p ∈ M := by
  rw [← sortPairs_eq_iff]
  constructor
  · intro h
    obtain ⟨b, hb, hdigest⟩ := digest_headBody P hv hL
    obtain ⟨c, hc, hdigest'⟩ := digest_headBody P hw hM
    rw [hdigest, hdigest'] at h
    obtain rfl := hsha b c hb hc (Except.ok.inj h)
    exact headBody_of_ordered (Jcs.canonicalize_inj hb hc)
  · intro h
    obtain ⟨rfl, hpairs⟩ := h
    rw [headBody, headBody, hpairs]

/-! ### The control plane and the gate -/

/-- `head_digest`. -/
def HeadState.headDigest (P : Platform) (h : HeadState) : Except Exc PyStr :=
  digest P (.dict (headBody (decimal h.versionInt) h.active))

/-- Whatever revocations come with the current head, the gate that accepts it holds the control
plane's digest. -/
theorem headDigest_current {P : Platform} {cfg : GateConfig P}
    {root : Signer P cfg.userRootPublicKey} {h : HeadState} {headEnv : PyVal}
    (hhead : h.signedHead root = .ok headEnv) {envs : List PyVal} {head : VerifiedHead}
    (haccepted : acceptedHead cfg (syncEnvelope headEnv envs) = .ok head) :
    h.headDigest P = .ok head.digest := by
  obtain ⟨message, -, rfl⟩ := artifact_eq_ok.mp hhead
  obtain ⟨synced, hsync, haccepted⟩ := bind_eq_ok.mp haccepted
  obtain ⟨d, hd, haccepted⟩ := bind_eq_ok.mp haccepted
  cases haccepted
  obtain ⟨headEnv, revs, sig, message', hwrapper, henv, -⟩ := verifySync_eq_ok.mp hsync
  rw [parseSyncEnvelope_syncEnvelope] at hwrapper
  cases hwrapper
  have hbody := Except.ok.inj
    ((parseEnvelope_envelope (by decide) h.currentBody (root.sign message)).symm.trans henv)
  obtain ⟨hcurrent, -⟩ := Prod.mk.inj (Prod.mk.inj hbody).2
  rw [← hcurrent] at hd
  exact hd

/-- **The head digest binds exactly the version and the active set.** Encoding and parsing is the
identity on a version of as many digits as `int` reads and on the set of pairs; digests agree
exactly where version and set do; and the gate computes from a signed head what the control
plane does. -/
theorem headDigest_binds (P : Platform) :
    (∀ v L, isCanonicalDecimal v = true → (∀ p ∈ L, WellFormedEntry p) →
      (decimalDigits v).length ≤ intMaxStrDigits →
      ∃ pairs, parseHeadBody (headBody v L) = .ok (v, versionInt v, pairs) ∧
        ∀ p, p ∈ pairs ↔ p ∈ L) ∧
    (∀ v w L M, isCanonicalDecimal v = true → (∀ p ∈ L, WellFormedEntry p) →
      isCanonicalDecimal w = true → (∀ p ∈ M, WellFormedEntry p) →
      CollisionFree P (headBody v L) (headBody w M) →
      (digest P (.dict (headBody v L)) = digest P (.dict (headBody w M)) ↔
        v = w ∧ ∀ p, p ∈ L ↔ p ∈ M)) ∧
    ∀ (cfg : GateConfig P) (root : Signer P cfg.userRootPublicKey)
      (active : List (PyStr × PyStr)) (version : Int) (ops : List HeadOp) (headEnv : PyVal),
      ((HeadState.initial active version).run ops).signedHead root = .ok headEnv →
      ∀ envs head, acceptedHead cfg (syncEnvelope headEnv envs) = .ok head →
        ((HeadState.initial active version).run ops).headDigest P = .ok head.digest := by
  refine ⟨?_, ?_, ?_⟩
  · intro v L hv hL hlength
    exact ⟨_, parseHeadBody_headBody hv hlength hL, fun p => HeadState.mem_sortPairs⟩
  · intro v w L M hv hL hw hM hsha
    exact digest_headBody_iff P hv hL hw hM hsha
  · intro cfg root active version ops headEnv hhead envs head haccepted
    exact headDigest_current hhead haccepted

/-- Two pairs in either order, and one of them twice. -/
theorem headDigest_binds_sample :
    digest samplePlatform (.dict (headBody (str "2")
        [(sampleGrantId, str "1"), (otherGrantId, str "3")])) =
      digest samplePlatform (.dict (headBody (str "2")
        [(otherGrantId, str "3"), (sampleGrantId, str "1"), (otherGrantId, str "3")])) := by
  have hsame : headBody (str "2") [(sampleGrantId, str "1"), (otherGrantId, str "3")] =
      headBody (str "2")
        [(otherGrantId, str "3"), (sampleGrantId, str "1"), (otherGrantId, str "3")] := rfl
  refine ((headDigest_binds samplePlatform).2.1 _ _ _ _ ?_ ?_ ?_ ?_ ?_).mpr ⟨rfl, fun p => ?_⟩
  · decide
  · simp only [List.forall_mem_cons, WellFormedEntry]
    decide
  · decide
  · simp only [List.forall_mem_cons, WellFormedEntry]
    decide
  · intro b c hb hc _
    rw [hsame, hc] at hb
    exact (Except.ok.inj hb).symm
  · simp only [List.mem_cons, List.not_mem_nil, or_false]
    tauto

/-- `int` refuses a version of 4301 digits. -/
theorem headDigest_longVersion : ¬ ∀ v L, isCanonicalDecimal v = true →
    (∀ p ∈ L, WellFormedEntry p) →
    ∃ pairs, parseHeadBody (headBody v L) = .ok (v, versionInt v, pairs) ∧
      ∀ p, p ∈ pairs ↔ p ∈ L := by
  intro hall
  let v : PyStr := CodePoint.ofChar '1' :: List.replicate 4300 (CodePoint.ofChar '1')
  have hdigits : ∀ c ∈ v, isDigit c = true := by
    intro c hc
    rcases List.mem_cons.mp hc with rfl | hc
    · decide
    · rw [List.eq_of_mem_replicate hc]
      decide
  have hv : isCanonicalDecimal v = true := by
    have hhead : (v.head?.any fun c => c ≠ CodePoint.ofChar '0') = true := by decide
    exact isCanonicalDecimal_iff.mpr
      ⟨_, .inl (natDecimal_ofDigits (List.all_eq_true.mpr hdigits) hhead).symm⟩
  have hlong : intMaxStrDigits < (decimalDigits v).length := by
    rw [decimalDigits, List.filter_eq_self.mpr hdigits, List.length_cons, List.length_replicate]
    decide
  obtain ⟨pairs, hparsed, -⟩ := hall v [] hv (List.forall_mem_nil _)
  obtain ⟨-, -, -, hint⟩ := parseHeadBody_eq_ok.mp hparsed
  rw [pyInt_eq_error.mpr ⟨hlong, rfl⟩] at hint
  cases hint

end GmailGateway
