import GmailGateway.Authz.Delivery
import GmailGateway.Authz.PayloadBinding
import GmailGateway.Canonicalizer.PayloadDigest

/-!
# GmailGateway.Authz.CanonicalIds

**One spelling.** Grant ids and versions are compared as strings in one place and as numbers in
another, so the parsers of grants, heads and revocations are to take one spelling of each only:
32 characters of `0-9a-f`, and the decimal rendering of the number.

The patterns of the source end in `$`, which also matches before a final newline. So there is a
second spelling of every id and version, the one that ends in a newline, and no third.
-/

namespace GmailGateway

open Python PyVal

/-! ### The patterns -/

/-- What `$` takes before the end. -/
def newline : CodePoint := CodePoint.ofChar '\n'

/-- The string ends in a newline. -/
def EndsLine (s : PyStr) : Prop := s.getLast? = some newline

instance (s : PyStr) : Decidable (EndsLine s) := inferInstanceAs (Decidable (_ = _))

/-- A 128-bit id. -/
def IsGrantId (s : PyStr) : Prop :=
  s.length = 32 ∧ ∀ c ∈ s, isDigit c = true ∨ 0x61 ≤ c.val ∧ c.val ≤ 0x66

/-- The integer of a version string, however many digits it has. -/
def versionInt (s : PyStr) : Nat :=
  (decimalDigits s).foldl (fun n c => 10 * n + (c.val - 0x30)) 0

theorem matchesLine_iff {p : PyStr → Bool} {s : PyStr} :
    matchesLine p s = true ↔ p s = true ∨ ∃ t, p t = true ∧ s = t ++ [newline] := by
  rw [matchesLine, Bool.or_eq_true, Bool.and_eq_true, decide_eq_true_iff]
  refine or_congr_right ⟨fun h => ?_, fun h => ?_⟩
  · obtain ⟨hlast, hdrop⟩ := h
    obtain ⟨t, rfl⟩ := List.getLast?_eq_some_iff.mp hlast
    rw [List.dropLast_concat] at hdrop
    exact ⟨t, hdrop, rfl⟩
  · obtain ⟨t, ht, rfl⟩ := h
    rw [List.dropLast_concat, List.getLast?_concat]
    exact ⟨rfl, ht⟩

theorem endsLine_concat (s : PyStr) : EndsLine (s ++ [newline]) := List.getLast?_concat

theorem not_endsLine_of_not_mem {s : PyStr} (h : newline ∉ s) : ¬ EndsLine s :=
  fun hlast => h (List.mem_of_getLast? hlast)

theorem newline_not_mem_grantId {s : PyStr} (h : IsGrantId s) : newline ∉ s := by
  intro hmem
  have hnewline : isDigit newline = false ∧ ¬ 0x61 ≤ newline.val := by decide
  rcases h.2 newline hmem with hdigit | hletter
  · rw [hnewline.1] at hdigit
    cases hdigit
  · exact hnewline.2 hletter.1

theorem newline_not_mem_natDecimal (n : Nat) : newline ∉ natDecimal n := by
  intro hmem
  have hdigit := isDigit_of_mem_natDecimal newline hmem
  cases hdigit

/-- An id that the pattern takes is an id, or one with a newline after it. -/
theorem isGrantIdHex_iff {s : PyStr} :
    isGrantIdHex s = true ↔ IsGrantId s ∨ ∃ t, IsGrantId t ∧ s = t ++ [newline] := by
  rw [isGrantIdHex, matchesLine_iff]
  simp only [IsGrantId, Bool.and_eq_true, decide_eq_true_iff, List.all_eq_true, Bool.or_eq_true]

/-- Digits without a leading zero are the rendering of their number. -/
theorem natDecimal_ofDigits {s : PyStr} (hdigits : s.all isDigit = true)
    (hhead : (s.head?.any fun c => c ≠ CodePoint.ofChar '0') = true) :
    natDecimal (Nat.ofDigits 10 (s.reverse.map fun c => c.val - 0x30)) = s := by
  have hdigit : ∀ c ∈ s, 0x30 ≤ c.val ∧ c.val ≤ 0x39 := by
    intro c hc
    have h := List.all_eq_true.mp hdigits c hc
    simpa [isDigit] using h
  cases s with
  | nil => cases hhead
  | cons c s =>
      have hzero : c.val ≠ 0x30 := by
        intro hval
        have hc : c = CodePoint.ofChar '0' := Fin.ext hval
        rw [hc] at hhead
        cases hhead
      have hlow := (hdigit c List.mem_cons_self).1
      let ds := (c :: s).reverse.map fun c => c.val - 0x30
      have hlt : ∀ d ∈ ds, d < 10 := by
        intro d hd
        obtain ⟨b, hb, rfl⟩ := List.mem_map.mp hd
        have := hdigit b (List.mem_reverse.mp hb)
        omega
      have hlast : ∀ h : ds ≠ [], ds.getLast h ≠ 0 := by
        intro h
        simp only [ds, List.reverse_cons, List.map_append, List.map_cons, List.map_nil,
          List.getLast_append_singleton]
        omega
      have hds : Nat.digits 10 (Nat.ofDigits 10 ds) = ds := Nat.digits_ofDigits 10 (by omega) ds hlt hlast
      have hne : Nat.ofDigits 10 ds ≠ 0 := by
        intro h0
        rw [h0, Nat.digits_zero] at hds
        simp [ds] at hds
      rw [natDecimal_eq hne, hds, ← List.map_reverse, List.reverse_reverse, List.map_map]
      refine (List.map_congr_left fun b hb => ?_).trans (List.map_id (c :: s))
      have hb := hdigit b hb
      refine Fin.ext ?_
      rw [Function.comp_apply, digitChar_val (by omega), id]
      omega

/-- A version that the pattern takes is the rendering of a number, or one with a newline after
it. -/
theorem isCanonicalDecimal_iff {s : PyStr} :
    isCanonicalDecimal s = true ↔ ∃ n, s = natDecimal n ∨ s = natDecimal n ++ [newline] := by
  let p : PyStr → Bool := fun s =>
    s = str "0" || (s.all isDigit && s.head?.any fun c => c ≠ CodePoint.ofChar '0')
  have hmatches : ∀ s, isCanonicalDecimal s = true ↔
      p s = true ∨ ∃ t, p t = true ∧ s = t ++ [newline] := fun s => matchesLine_iff
  have hp : ∀ t, p t = true ↔ ∃ n, t = natDecimal n := by
    intro t
    constructor
    · intro h
      rcases Bool.or_eq_true_iff.mp h with hzero | hdigits
      · exact ⟨0, of_decide_eq_true hzero⟩
      · obtain ⟨hall, hhead⟩ := Bool.and_eq_true_iff.mp hdigits
        exact ⟨_, (natDecimal_ofDigits hall hhead).symm⟩
    · intro h
      obtain ⟨n, rfl⟩ := h
      rcases (hmatches _).mp (isCanonicalDecimal_natDecimal n) with h | ⟨t, -, ht⟩
      · exact h
      · -- A rendering does not end in a newline.
        exact absurd (ht ▸ endsLine_concat t) (not_endsLine_of_not_mem (newline_not_mem_natDecimal n))
  rw [hmatches]
  simp only [hp]
  constructor
  · intro h
    rcases h with ⟨n, hn⟩ | ⟨t, ⟨n, rfl⟩, hs⟩
    · exact ⟨n, .inl hn⟩
    · exact ⟨n, .inr hs⟩
  · intro h
    obtain ⟨n, hn | hs⟩ := h
    · exact .inl ⟨n, hn⟩
    · exact .inr ⟨_, ⟨n, rfl⟩, hs⟩

theorem versionInt_natDecimal (n : Nat) : versionInt (natDecimal n) = n := by
  rw [versionInt, decimalDigits_natDecimal, foldl_digits, ofDigits_natDecimal]

/-- An id that the pattern takes is the id exactly if it does not end in a newline. -/
theorem isGrantId_iff {s : PyStr} (h : isGrantIdHex s = true) : IsGrantId s ↔ ¬ EndsLine s := by
  rcases isGrantIdHex_iff.mp h with hid | ⟨t, -, rfl⟩
  · exact iff_of_true hid (not_endsLine_of_not_mem (newline_not_mem_grantId hid))
  · refine iff_of_false (fun hid => newline_not_mem_grantId hid ?_) (not_not.mpr (endsLine_concat t))
    exact List.mem_append_right t List.mem_cons_self

/-- A version that the pattern takes is rendered like its number exactly if it does not end in a
newline. -/
theorem natDecimal_versionInt_iff {s : PyStr} (h : isCanonicalDecimal s = true) :
    natDecimal (versionInt s) = s ↔ ¬ EndsLine s := by
  obtain ⟨n, rfl | rfl⟩ := isCanonicalDecimal_iff.mp h
  · refine iff_of_true ?_ (not_endsLine_of_not_mem (newline_not_mem_natDecimal n))
    rw [versionInt_natDecimal]
  · refine iff_of_false (fun heq => ?_) (not_not.mpr (endsLine_concat _))
    have hmem : newline ∈ natDecimal n ++ [newline] := List.mem_append_right _ List.mem_cons_self
    exact newline_not_mem_natDecimal _ (heq ▸ hmem)

/-! ### Closed key sets -/

/-- The object has these keys and no others. -/
def HasKeys (d : Dict) (keys : List PyStr) : Prop := ∀ key, key ∈ d.map Prod.fst ↔ key ∈ keys

theorem mem_keys_of_contains {d : Dict} {key : PyStr} (h : d.contains key = true) :
    key ∈ d.map Prod.fst := by
  obtain ⟨m, hm, hkey⟩ := List.any_eq_true.mp h
  exact List.mem_map.mpr ⟨m, hm, of_decide_eq_true hkey⟩

theorem mem_keys_of_get {d : Dict} {key : PyStr} (h : d.get key ≠ .none) :
    key ∈ d.map Prod.fst := by
  by_contra habsent
  refine h ?_
  rw [Dict.get, Dict.get?, List.lookup_eq_none_iff.mpr fun m hm => ?_]
  · rfl
  · exact bne_iff_ne.mpr fun heq => habsent (List.mem_map.mpr ⟨m, hm, heq.symm⟩)

theorem hasKeys_of_unknownKeys {d : Dict} {keys : List PyStr} (hunknown : d.unknownKeys keys = [])
    (hkeys : ∀ key ∈ keys, key ∈ d.map Prod.fst) : HasKeys d keys := by
  refine fun key => ⟨fun hkey => ?_, hkeys key⟩
  by_contra hout
  have hmem : key ∈ d.unknownKeys keys := List.mem_filter.mpr ⟨hkey, decide_eq_true hout⟩
  rw [hunknown] at hmem
  cases hmem

theorem hasKeys_of_hasExactly {d : Dict} {keys : List PyStr} (h : d.hasExactly keys = true) :
    HasKeys d keys := by
  obtain ⟨hunknown, hcontains⟩ := Bool.and_eq_true_iff.mp h
  refine hasKeys_of_unknownKeys (List.isEmpty_iff.mp hunknown) fun key hkey => ?_
  exact mem_keys_of_contains (List.all_eq_true.mp hcontains key hkey)

theorem mem_keys_of_str {d : Dict} {key s : PyStr} (h : d.get key = .str s) :
    key ∈ d.map Prod.fst := mem_keys_of_get (by rw [h]; exact fun h => by cases h)

theorem requireGrantId_eq_ok {d : Dict} {s : PyStr} (h : requireGrantId d = .ok s) :
    d.get (str "grant_id") = .str s ∧ isGrantIdHex s = true := by
  obtain ⟨t, ht, h⟩ := bind_eq_ok.mp h
  obtain ⟨_, hpattern, h⟩ := bind_eq_ok.mp h
  cases h
  exact ⟨requireStr_eq_ok ht, by simpa using rejectIf_eq_ok.mp hpattern⟩

theorem requireDecimalStr_eq_ok {d : Dict} {key : String} {s : PyStr} {i : Int}
    (h : requireDecimalStr d key = .ok (s, i)) :
    d.get (str key) = .str s ∧ isCanonicalDecimal s = true := by
  obtain ⟨t, ht, h⟩ := bind_eq_ok.mp h
  obtain ⟨_, hpattern, h⟩ := bind_eq_ok.mp h
  obtain ⟨j, -, h⟩ := bind_eq_ok.mp h
  cases h
  exact ⟨requireStr_eq_ok ht, by simpa using rejectIf_eq_ok.mp hpattern⟩

theorem parseScope_eq_ok {scope : PyVal} {fromAccount : PyStr}
    (h : parseScope scope = .ok fromAccount) :
    ∃ members : Dict, scope = .dict members ∧ HasKeys members [str "from_account"] := by
  obtain ⟨members, hmembers, h⟩ := bind_eq_ok.mp h
  obtain ⟨s, hs, h⟩ := bind_eq_ok.mp h
  obtain ⟨_, -, h⟩ := bind_eq_ok.mp h
  obtain ⟨_, hunknown, -⟩ := bind_eq_ok.mp h
  refine ⟨members, expectDict_eq_ok.mp hmembers,
    hasKeys_of_unknownKeys (not_not.mp (rejectIf_eq_ok.mp hunknown)) fun key hkey => ?_⟩
  rw [List.mem_singleton.mp hkey]
  exact mem_keys_of_str (expectStr_eq_ok.mp hs)

theorem subjectKind_ofValue? {v : PyVal} {kind : SubjectKind}
    (h : SubjectKind.ofValue? v = some kind) : v = .str kind.value := by
  unfold SubjectKind.ofValue? at h
  split at h
  · rename_i heq
    cases h
    exact eqStr_iff.mp heq
  · split at h
    · rename_i heq
      cases h
      exact eqStr_iff.mp heq
    · cases h

theorem parseSubject_eq_ok {v : PyVal} {subject : Subject} (h : parseSubject v = .ok subject) :
    ∃ members : Dict, v = .dict members ∧
      members.get (str "kind") = .str subject.kind.value ∧
      HasKeys members subject.kind.keys := by
  obtain ⟨members, hmembers, h⟩ := bind_eq_ok.mp h
  refine ⟨members, expectDict_eq_ok.mp hmembers, ?_⟩
  cases hkind : SubjectKind.ofValue? (members.get (str "kind")) with
  | none =>
      rw [hkind] at h
      cases h
  | some kind =>
      have hvalue := subjectKind_ofValue? hkind
      rw [hkind] at h
      obtain ⟨_, hunknown, h⟩ := bind_eq_ok.mp h
      have hunknown := not_not.mp (rejectIf_eq_ok.mp hunknown)
      cases kind with
      | osAccount =>
          obtain ⟨machineId, hmachineId, h⟩ := bind_eq_ok.mp h
          obtain ⟨account, haccount, h⟩ := bind_eq_ok.mp h
          cases h
          refine ⟨hvalue, hasKeys_of_unknownKeys hunknown ?_⟩
          simp only [Subject.kind, SubjectKind.keys, List.forall_mem_cons]
          exact ⟨mem_keys_of_str hvalue, mem_keys_of_str (requireStr_eq_ok hmachineId),
            mem_keys_of_str (requireStr_eq_ok haccount), List.forall_mem_nil _⟩
      | agentKey =>
          obtain ⟨agentPubkeyHex, hagentPubkey, h⟩ := bind_eq_ok.mp h
          obtain ⟨agentSlug, hagentSlug, h⟩ := bind_eq_ok.mp h
          cases h
          refine ⟨hvalue, hasKeys_of_unknownKeys hunknown ?_⟩
          simp only [Subject.kind, SubjectKind.keys, List.forall_mem_cons]
          exact ⟨mem_keys_of_str hvalue, mem_keys_of_str (requireStr_eq_ok hagentPubkey),
            mem_keys_of_str (requireStr_eq_ok hagentSlug), List.forall_mem_nil _⟩

theorem parseApprovalMode_eq_ok {body : Dict} {mode : ApprovalMode}
    (h : parseApprovalMode body = .ok mode) :
    str "approval_mode" ∈ body.map Prod.fst := by
  obtain ⟨_, hcontains, -⟩ := bind_eq_ok.mp h
  exact mem_keys_of_contains (by simpa using rejectIf_eq_ok.mp hcontains)

theorem parseRfc3339_eq_ok {P : Platform} {body : Dict} {key : String} {timestamp : Int}
    (h : parseRfc3339 P body key = .ok timestamp) : str key ∈ body.map Prod.fst := by
  obtain ⟨s, hs, -⟩ := bind_eq_ok.mp h
  exact mem_keys_of_str (requireStr_eq_ok hs)

/-! ### Bodies -/

/-- A body that one of the parsers is given. -/
inductive ArtifactBody
  | grant (body : Dict)
  | head (body : Dict)
  | revocation (body : Dict)

namespace ArtifactBody

/-- The parser of the artifact type accepts the body. -/
def Accepted (P : Platform) : ArtifactBody → Prop
  | grant body => ∃ parsed, parseGrantBody P body = .ok parsed
  | head body => ∃ parsed, parseHeadBody body = .ok parsed
  | revocation body => ∃ parsed, parseRevocationBody body = .ok parsed

/-- The entries of a head's `active_grants`. -/
def entries (body : Dict) : List PyVal := items (field (.dict body) "active_grants")

/-- The grant ids of a body. -/
def grantIds : ArtifactBody → List PyStr
  | grant body | revocation body => [text (field (.dict body) "grant_id")]
  | head body => (entries body).map fun entry => text (field entry "grant_id")

/-- The versions of a body. -/
def versions : ArtifactBody → List PyStr
  | grant body =>
      [text (field (.dict body) "grant_version"), text (field (.dict body) "state_version")]
  | head body =>
      text (field (.dict body) "state_version") ::
        (entries body).map fun entry => text (field entry "grant_version")
  | revocation body => [text (field (.dict body) "state_version")]

/-- The key sets, at every level. -/
def Closed : ArtifactBody → Prop
  | grant body => HasKeys body grantBodyKeys ∧
      (∃ scope : Dict, field (.dict body) "scope" = .dict scope ∧
        HasKeys scope [str "from_account"]) ∧
      ∃ (subject : Dict) (kind : SubjectKind), field (.dict body) "subject" = .dict subject ∧
        subject.get (str "kind") = .str kind.value ∧ HasKeys subject kind.keys
  | head body => HasKeys body headBodyKeys ∧
      ∀ entry ∈ entries body, ∃ members : Dict, entry = .dict members ∧
        HasKeys members activeEntryKeys
  | revocation body => HasKeys body revocationBodyKeys

/-- Every id and every version is spelled in the one way. -/
structure Canonical (b : ArtifactBody) : Prop where
  grantIds : ∀ id ∈ b.grantIds, IsGrantId id
  versions : ∀ s ∈ b.versions, natDecimal (versionInt s) = s
  closed : b.Closed

/-- What the parsers check of an accepted body. -/
structure Matched (b : ArtifactBody) : Prop where
  grantIds : ∀ id ∈ b.grantIds, isGrantIdHex id = true
  versions : ∀ s ∈ b.versions, isCanonicalDecimal s = true
  closed : b.Closed

theorem matched_grant {P : Platform} {body : Dict} {grant : Grant}
    (h : parseGrantBody P body = .ok grant) : Matched (.grant body) := by
  obtain ⟨_, hunknown, h⟩ := bind_eq_ok.mp h
  obtain ⟨grantId, hgrantId, h⟩ := bind_eq_ok.mp h
  obtain ⟨⟨grantVersion, i⟩, hgrantVersion, h⟩ := bind_eq_ok.mp h
  obtain ⟨issuerFp, hissuerFp, h⟩ := bind_eq_ok.mp h
  obtain ⟨⟨stateVersion, j⟩, hstateVersion, h⟩ := bind_eq_ok.mp h
  obtain ⟨tool, htool, h⟩ := bind_eq_ok.mp h
  obtain ⟨action, haction, h⟩ := bind_eq_ok.mp h
  obtain ⟨_, -, h⟩ := bind_eq_ok.mp h
  obtain ⟨fromAccount, hscope, h⟩ := bind_eq_ok.mp h
  obtain ⟨subject, hsubject, h⟩ := bind_eq_ok.mp h
  obtain ⟨mode, hmode, h⟩ := bind_eq_ok.mp h
  obtain ⟨validFrom, hvalidFrom, h⟩ := bind_eq_ok.mp h
  obtain ⟨validUntil, hvalidUntil, -⟩ := bind_eq_ok.mp h
  obtain ⟨hid, hidPattern⟩ := requireGrantId_eq_ok hgrantId
  obtain ⟨hversion, hversionPattern⟩ := requireDecimalStr_eq_ok hgrantVersion
  obtain ⟨hstate, hstatePattern⟩ := requireDecimalStr_eq_ok hstateVersion
  obtain ⟨scope, hscope, hscopeKeys⟩ := parseScope_eq_ok hscope
  obtain ⟨members, hsubject, hkind, hsubjectKeys⟩ := parseSubject_eq_ok hsubject
  refine ⟨?_, ?_, ?_, ⟨scope, hscope, hscopeKeys⟩, members, subject.kind, hsubject, hkind,
    hsubjectKeys⟩
  · simp only [ArtifactBody.grantIds, field, hid, text, List.forall_mem_singleton]
    exact hidPattern
  · simp only [ArtifactBody.versions, field, hversion, hstate, text, List.forall_mem_cons]
    exact ⟨hversionPattern, hstatePattern, List.forall_mem_nil _⟩
  · refine hasKeys_of_unknownKeys (not_not.mp (rejectIf_eq_ok.mp hunknown)) ?_
    simp only [grantBodyKeys, List.forall_mem_cons]
    refine ⟨mem_keys_of_str hid, mem_keys_of_str hversion, mem_keys_of_str hstate,
      mem_keys_of_str (requireStr_eq_ok hissuerFp), mem_keys_of_get ?_,
      mem_keys_of_str (requireStr_eq_ok htool), mem_keys_of_str (requireStr_eq_ok haction),
      mem_keys_of_get ?_, parseApprovalMode_eq_ok hmode, parseRfc3339_eq_ok hvalidFrom,
      parseRfc3339_eq_ok hvalidUntil, List.forall_mem_nil _⟩
    · rw [hsubject]
      exact fun h => by cases h
    · rw [hscope]
      exact fun h => by cases h

theorem matched_entries {entries : List PyVal} {pairs : List (PyStr × PyStr)}
    (h : entries.mapM parseActiveEntry = .ok pairs) : ∀ entry ∈ entries,
    isGrantIdHex (text (field entry "grant_id")) = true ∧
      isCanonicalDecimal (text (field entry "grant_version")) = true ∧
      ∃ members : Dict, entry = .dict members ∧ HasKeys members activeEntryKeys := by
  intro entry hentry
  obtain ⟨p, -, hp⟩ := Jcs.exists_of_forall₂ (Jcs.mapM_eq_ok.mp h) hentry
  obtain ⟨members, rfl, hkeys, ⟨hid, hidPattern⟩, hversion, hversionPattern⟩ :=
    parseActiveEntry_eq_ok.mp hp
  simp only [field, hid, hversion, text]
  exact ⟨hidPattern, hversionPattern, members, rfl, hasKeys_of_hasExactly hkeys⟩

theorem matched_head {body : Dict} {parsed : PyStr × Int × List (PyStr × PyStr)}
    (h : parseHeadBody body = .ok parsed) : Matched (.head body) := by
  obtain ⟨hunknown, ⟨hversion, hpattern⟩, ⟨active, hactive, hpairs⟩, -⟩ :=
    parseHeadBody_eq_ok.mp h
  have hentries := matched_entries hpairs
  have hitems : entries body = active := by
    rw [entries, field, hactive, items]
  refine ⟨?_, ?_, hasKeys_of_unknownKeys hunknown ?_, ?_⟩
  · simp only [ArtifactBody.grantIds, hitems, List.forall_mem_map]
    exact fun entry hentry => (hentries entry hentry).1
  · simp only [ArtifactBody.versions, hitems, field, hversion, text, List.forall_mem_cons,
      List.forall_mem_map]
    exact ⟨hpattern, fun entry hentry => (hentries entry hentry).2.1⟩
  · simp only [headBodyKeys, List.forall_mem_cons]
    refine ⟨mem_keys_of_str hversion, mem_keys_of_get ?_, List.forall_mem_nil _⟩
    rw [hactive]
    exact fun h => by cases h
  · rw [hitems]
    exact fun entry hentry => (hentries entry hentry).2.2

theorem matched_revocation {body : Dict} {grantId : PyStr}
    (h : parseRevocationBody body = .ok grantId) : Matched (.revocation body) := by
  obtain ⟨hkeys, ⟨hid, hidPattern⟩, sv, hversion, hversionPattern⟩ := parseRevocationBody_eq_ok.mp h
  refine ⟨?_, ?_, hasKeys_of_hasExactly hkeys⟩
  · simp only [ArtifactBody.grantIds, field, hid, text, List.forall_mem_singleton]
    exact hidPattern
  · simp only [ArtifactBody.versions, field, hversion, text, List.forall_mem_singleton]
    exact hversionPattern

theorem Accepted.matched {P : Platform} {b : ArtifactBody} (h : b.Accepted P) : b.Matched := by
  cases b with
  | grant body =>
      obtain ⟨grant, h⟩ := h
      exact matched_grant h
  | head body =>
      obtain ⟨parsed, h⟩ := h
      exact matched_head h
  | revocation body =>
      obtain ⟨grantId, h⟩ := h
      exact matched_revocation h

/-- **Canonical spelling.** An accepted body has the closed key sets, and its ids and versions are
spelled in the one way exactly if none of them ends in a newline. Versions of two such bodies are
then equal as strings where they are equal as integers. -/
theorem accepted_canonical_iff {P : Platform} {b : ArtifactBody} (h : b.Accepted P) :
    (b.Canonical ∧ ∀ b' : ArtifactBody, b'.Accepted P → b'.Canonical →
        ∀ s ∈ b.versions, ∀ t ∈ b'.versions, versionInt s = versionInt t → s = t) ↔
      ∀ s ∈ b.grantIds ++ b.versions, ¬ EndsLine s := by
  have hmatched := h.matched
  constructor
  · intro hspec s hs
    obtain ⟨hcanonical, -⟩ := hspec
    rcases List.mem_append.mp hs with hs | hs
    · exact (isGrantId_iff (hmatched.grantIds s hs)).mp (hcanonical.grantIds s hs)
    · exact (natDecimal_versionInt_iff (hmatched.versions s hs)).mp (hcanonical.versions s hs)
  · intro hlines
    have hversions : ∀ s ∈ b.versions, natDecimal (versionInt s) = s := fun s hs =>
      (natDecimal_versionInt_iff (hmatched.versions s hs)).mpr
        (hlines s (List.mem_append_right _ hs))
    refine ⟨⟨fun id hid => ?_, hversions, hmatched.closed⟩, ?_⟩
    · exact (isGrantId_iff (hmatched.grantIds id hid)).mpr (hlines id (List.mem_append_left _ hid))
    · intro b' _ hcanonical s hs t ht heq
      rw [← hversions s hs, ← hcanonical.versions t ht, heq]

/-- A revocation body with one spelling of everything. -/
theorem accepted_canonical_iff_sample :
    (ArtifactBody.revocation (revocationBody sampleGrantId (str "7"))).Canonical := by
  have haccepted : (ArtifactBody.revocation (revocationBody sampleGrantId (str "7"))).Accepted
      samplePlatform := ⟨_, rfl⟩
  exact ((accepted_canonical_iff haccepted).mpr (by decide)).1

/-- The pattern takes an id of 33 characters and a version that is not rendered like its number. -/
theorem accepted_endsLine : ¬ ∀ (P : Platform) (b : ArtifactBody), b.Accepted P → b.Canonical := by
  intro hall
  have h := hall samplePlatform
    (.revocation (revocationBody (sampleGrantId ++ [newline]) (str "7" ++ [newline]))) ⟨_, rfl⟩
  have hlength := (h.grantIds _ List.mem_cons_self).1
  revert hlength
  decide

end ArtifactBody

end GmailGateway
