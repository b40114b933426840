import GmailGateway.Effect.Determined
import GmailGateway.Keystore.Aead
import GmailGateway.Python.Decimal
import GmailGateway.Python.Utf8

/-!
# GmailGateway.Keystore.Sealing

**What opens was sealed.** The associated data of a record is an unescaped format string of its
version and its type: the digits of the version end at the first slash after the fixed part,
whatever the type contains, so that it determines both. Under an ideal cipher a sealed record
opens as what was sealed, and under no other type or version.
-/

namespace GmailGateway

open Effect Proc Python

/-! ### The associated data -/

/-- The digits of a version end at the slash that follows. -/
theorem takeWhile_version (n : Nat) (s : PyStr) :
    (natDecimal n ++ CodePoint.ofChar '/' :: s).takeWhile (· ≠ CodePoint.ofChar '/') =
      natDecimal n := by
  have hdigits : ∀ c ∈ natDecimal n, decide (c ≠ CodePoint.ofChar '/') = true := by
    intro c hc
    rw [decide_eq_true_iff]
    intro heq
    subst heq
    have hval : (CodePoint.ofChar '/').val = 0x2F := by decide
    have hdigit := val_of_mem_natDecimal hc
    omega
  rw [List.takeWhile_append_of_pos hdigits, List.takeWhile_cons]
  simp

/-- What the associated data is made of. -/
theorem aad_eq_ok {recordType version : PyVal} {tag : Bytes} (h : aad recordType version = .ok tag) :
    ∃ s n, recordType = .str s ∧ version = .int (n : Nat) ∧
      encodeUtf8 (str "gmail-gateway/keystore/v" ++ (natDecimal n ++ CodePoint.ofChar '/' :: s)) =
        some tag := by
  unfold aad at h
  split at h
  · rename_i c cs i
    split at h
    · cases h
    · rename_i hpos
      obtain ⟨n, rfl⟩ : ∃ n : Nat, i = n := ⟨i.toNat, by omega⟩
      split at h
      · cases h
      · split at h
        · rename_i tag' htag
          cases h
          refine ⟨c :: cs, n, rfl, rfl, ?_⟩
          rw [← htag]
          simp only [List.append_assoc]
          rfl
        · cases h
  · cases h
  · cases h

/-- Associated data determines type and version. -/
theorem aad_inj {recordType recordType' version version' : PyVal} {tag : Bytes}
    (h : aad recordType version = .ok tag) (h' : aad recordType' version' = .ok tag) :
    recordType = recordType' ∧ version = version' := by
  obtain ⟨s, n, rfl, rfl, htag⟩ := aad_eq_ok h
  obtain ⟨s', n', rfl, rfl, htag'⟩ := aad_eq_ok h'
  have htext := List.append_cancel_left (encodeUtf8_inj htag htag')
  have hdigits := congrArg (List.takeWhile (· ≠ CodePoint.ofChar '/')) htext
  rw [takeWhile_version, takeWhile_version] at hdigits
  obtain rfl := natDecimal_inj hdigits
  rw [(List.cons.inj (List.append_cancel_left htext)).2]
  exact ⟨rfl, rfl⟩

/-! ### An ideal cipher -/

/-- A record that was sealed, with the key and the plaintext. -/
structure Sealing where
  dek : Bytes
  dek_length : dek.length = dekLen
  record : SealedRecord
  plaintext : Bytes

/-- Decryption succeeds exactly on a nonce, ciphertext and associated data that came from
sealing under the same key, and returns what was sealed. -/
def AesGcm.Ideal (gcm : AesGcm) (sealings : List Sealing) : Prop :=
  ∀ dek nonce ciphertext tag plaintext,
    gcm.decrypt dek nonce ciphertext tag = some plaintext ↔
      ∃ x ∈ sealings, x.dek = dek ∧ x.record.nonce = nonce ∧ x.record.ciphertext = ciphertext ∧
        aad x.record.recordType x.record.version = .ok tag ∧ x.plaintext = plaintext

/-! ### Opening -/

/-- The record in a slot opened under some key as `plaintext`. -/
def OpenedAs (gcm : AesGcm) (slot : PyVal) (plaintext : Bytes) : Prop :=
  ∃ r dek tag, SealedRecord.fromDict slot = .ok r ∧ aad r.recordType r.version = .ok tag ∧
    dek.length = dekLen ∧ gcm.decrypt dek r.nonce r.ciphertext tag = some plaintext

/-- The authenticated plaintext of a record under a key. -/
def SealedRecord.decrypted? (gcm : AesGcm) (r : SealedRecord) (dek : Bytes) : Option Bytes :=
  if dek.length ≠ dekLen then none
  else (aad r.recordType r.version).toOption.bind (gcm.decrypt dek r.nonce r.ciphertext)

theorem fromDict_aad {slot : PyVal} {r : SealedRecord} (h : SealedRecord.fromDict slot = .ok r) :
    ∃ tag, aad r.recordType r.version = .ok tag := by
  unfold SealedRecord.fromDict at h
  cases hfields : SealedRecord.fields? slot with
  | none =>
      rw [hfields] at h
      cases h
  | some r' =>
      rw [hfields] at h
      dsimp only at h
      split at h
      · cases h
      · cases htag : aad r'.recordType r'.version with
        | error e =>
            rw [htag] at h
            cases h
        | ok tag =>
            rw [htag] at h
            cases h
            exact ⟨tag, htag⟩

/-- What opens was sealed, as the whole record it is stored in. -/
theorem AesGcm.Ideal.sealed {gcm : AesGcm} {sealings : List Sealing} (hideal : gcm.Ideal sealings)
    {slot : PyVal} {plaintext : Bytes} (h : OpenedAs gcm slot plaintext) :
    ∃ x ∈ sealings, SealedRecord.fromDict slot = .ok x.record ∧ x.plaintext = plaintext := by
  obtain ⟨r, dek, tag, hrecord, htag, -, hdecrypt⟩ := h
  obtain ⟨x, hx, -, hnonce, hciphertext, hxtag, hplaintext⟩ :=
    (hideal dek r.nonce r.ciphertext tag plaintext).mp hdecrypt
  obtain ⟨htype, hversion⟩ := aad_inj hxtag htag
  have heq : x.record = r := by
    obtain ⟨dek', hdek', ⟨version, recordType, nonce, ciphertext⟩, plaintext'⟩ := x
    obtain ⟨version', recordType', nonce', ciphertext'⟩ := r
    dsimp only at hnonce hciphertext htype hversion
    rw [hnonce, hciphertext, htype, hversion]
  exact ⟨x, hx, heq ▸ hrecord, hplaintext⟩

/-- What `open` returns, under any answers of the key provider. -/
theorem openRecord_opened {gcm : AesGcm} {slot : PyVal} {r : SealedRecord}
    (hrecord : SealedRecord.fromDict slot = .ok r) {W : Env KeystoreSig Exc Unit} {u : Unit} :
    (AEADCipher.openRecord gcm r).sat W (fun _ _ => True)
      (fun x _ _ => ∀ plaintext, x = .ok plaintext → OpenedAs gcm slot plaintext) [] u := by
  obtain ⟨tag, htag⟩ := fromDict_aad hrecord
  rw [AEADCipher.openRecord, htag, sat_bind, sat_embed, andThen_ok, sat_bind, requireDek, sat_bind,
    sat_perform]
  intro x _ _
  refine ⟨trivial, ?_⟩
  cases x with
  | error e => exact fun _ h => by cases h
  | ok dek =>
      rw [andThen_ok, sat_bind, sat_raiseIf]
      refine ⟨fun _ _ h => (by cases h), fun hlen => ?_⟩
      rw [andThen_ok, sat_pure, andThen_ok]
      cases hdecrypt : gcm.decrypt dek r.nonce r.ciphertext tag with
      | none => exact fun _ h => by cases h
      | some p =>
          intro plaintext heq
          cases heq
          exact ⟨r, dek, tag, hrecord, htag, not_not.mp hlen, hdecrypt⟩

theorem openRecord_exec {gcm : AesGcm} {r : SealedRecord} {dek tag plaintext : Bytes}
    (htag : aad r.recordType r.version = .ok tag) (hdek : dek.length = dekLen)
    (hdecrypt : gcm.decrypt dek r.nonce r.ciphertext tag = some plaintext)
    {W : Env KeystoreSig Exc Unit} {u : Unit} (hW : W u .getDek (.ok dek) u) :
    Exec W (AEADCipher.openRecord gcm r) u [⟨.getDek, .ok dek⟩] (.done (.ok plaintext)) u := by
  rw [AEADCipher.openRecord, htag]
  refine Exec.embed_bind rfl ?_
  rw [requireDek, bind_assoc]
  refine Exec.perform_bind hW ?_
  rw [raiseIf, if_neg (not_not.mpr hdek)]
  change Exec W (pure dek >>= _) u [] _ u
  rw [pure_bind, hdecrypt]
  exact .ret

/-! ### Sealing and opening -/

/-- The cipher as an ideal one: it encrypts everything under a key and a nonce of the right length,
decryption inverts it, and what it answers opens under its own key and associated data only. -/
structure AesGcm.IdealAead (gcm : AesGcm) : Prop where
  encrypts : ∀ {dek nonce : Bytes} (data tag : Bytes), dek.length = dekLen →
    nonce.length = nonceLen → ∃ ciphertext, gcm.encrypt dek nonce data tag = .ok ciphertext
  roundTrips : gcm.RoundTrips
  binds : ∀ {dek nonce data tag ciphertext dek' tag' plaintext : Bytes},
    gcm.encrypt dek nonce data tag = .ok ciphertext →
      gcm.decrypt dek' nonce ciphertext tag' = some plaintext → dek' = dek ∧ tag' = tag

/-- A key provider and a nonce factory that answer. -/
def keystoreAnswer (dek nonce : Bytes) : (o : KeystoreOp) → Except Exc o.Ret
  | .getDek => .ok dek
  | .nonce => .ok nonce

abbrev keystoreGives (dek nonce : Bytes) : Env KeystoreSig Exc Unit :=
  Env.handled (S := KeystoreSig) fun u o => (keystoreAnswer dek nonce o, u)

/-- `AEADCipher.open` of what `SealedRecord.from_dict` reads. -/
def AEADCipher.openStored (gcm : AesGcm) (stored : PyVal) : KeystoreProc Bytes := do
  let r ← embed (SealedRecord.fromDict stored)
  openRecord gcm r

/-- A type that UTF-8 can carry and a version that `%d` renders have associated data. -/
theorem aad_exists {recordType : PyStr} {version : Int} (hne : recordType ≠ [])
    (hversion : 1 ≤ version) (hencodable : (encodeUtf8 recordType).isSome)
    (hdigits : (decimal version).length ≤ intMaxStrDigits) :
    ∃ tag, aad (.str recordType) (.int version) = .ok tag := by
  cases recordType with
  | nil => exact absurd rfl hne
  | cons c cs =>
      obtain ⟨n, rfl⟩ : ∃ n : Nat, version = n := ⟨version.toNat, by omega⟩
      have hsurrogate : (c :: cs).any CodePoint.isSurrogate = false := by
        by_contra hany
        rw [Bool.not_eq_false] at hany
        rw [encodeUtf8, if_pos hany] at hencodable
        cases hencodable
      have hnumber : (decimal (n : Int)).any CodePoint.isSurrogate = false := by
        change (natDecimal n).any CodePoint.isSurrogate = false
        rw [List.any_eq_false]
        intro d hd
        have hdigit := val_of_mem_natDecimal hd
        simp only [CodePoint.isSurrogate, Bool.and_eq_true, decide_eq_true_eq]
        omega
      have hhead : (str "gmail-gateway/keystore/v").any CodePoint.isSurrogate = false := by decide
      have hslash : (str "/").any CodePoint.isSurrogate = false := by decide
      have hall : (str "gmail-gateway/keystore/v" ++ decimal (n : Int) ++ str "/" ++
          (c :: cs)).any CodePoint.isSurrogate = false := by
        rw [List.any_append, List.any_append, List.any_append, hhead, hnumber, hslash, hsurrogate]
        rfl
      refine ⟨(str "gmail-gateway/keystore/v" ++ decimal (n : Int) ++ str "/" ++
        (c :: cs)).flatMap CodePoint.utf8, ?_⟩
      rw [aad, if_neg (by omega), if_neg (by omega), encodeUtf8, hall]
      rfl

theorem fromDict_toDict {r : SealedRecord} {tag : Bytes} (hnonce : r.nonce.length = nonceLen)
    (htag : aad r.recordType r.version = .ok tag) : SealedRecord.fromDict r.toDict = .ok r := by
  rw [SealedRecord.fromDict, SealedRecord.fields?_toDict]
  simp only [hnonce, ne_eq, not_true_eq_false, if_false, htag]
  rfl

theorem fromDict_toDict_eq {r r' : SealedRecord} (h : SealedRecord.fromDict r.toDict = .ok r') :
    r' = r := by
  rw [SealedRecord.fromDict, SealedRecord.fields?_toDict] at h
  dsimp only at h
  split at h
  · cases h
  · obtain ⟨_, -, hr⟩ := bind_eq_ok.mp h
    exact (Except.ok.inj hr).symm

section Seal
variable {gcm : AesGcm} {dek nonce tag plaintext ciphertext : Bytes} {recordType version : PyVal}

theorem sealRecord_yields (htag : aad recordType version = .ok tag) (hdek : dek.length = dekLen)
    (hnonce : nonce.length = nonceLen)
    (hencrypt : gcm.encrypt dek nonce plaintext tag = .ok ciphertext) :
    Proc.Yields (keystoreGives dek nonce)
      (AEADCipher.sealRecord gcm plaintext recordType version) ()
      (.ok ⟨version, recordType, nonce, ciphertext⟩) := by
  have hrun : ((AEADCipher.sealRecord gcm plaintext recordType version).result
      (fun u o => (keystoreAnswer dek nonce o, u)) ()).1 =
        .ok ⟨version, recordType, nonce, ciphertext⟩ := by
    rw [AEADCipher.sealRecord, htag]
    change ((raiseIf (nonce.length ≠ nonceLen) _ >>= _).result _ ()).1 = _
    rw [raiseIf, if_neg (not_not.mpr hnonce)]
    change (((raiseIf (dek.length ≠ dekLen) _ >>= fun _ => pure dek) >>= _).result _ ()).1 = _
    rw [raiseIf, if_neg (not_not.mpr hdek)]
    change ((embed (gcm.encrypt dek nonce plaintext tag) >>= _).result _ ()).1 = _
    rw [hencrypt]
    rfl
  rw [← hrun]
  exact result_yields _ _

theorem openStored_yields {r : SealedRecord} (htag : aad r.recordType r.version = .ok tag)
    (hdek : dek.length = dekLen) (hnonce : r.nonce.length = nonceLen)
    (hdecrypt : gcm.decrypt dek r.nonce r.ciphertext tag = some plaintext) :
    Proc.Yields (keystoreGives dek nonce) (AEADCipher.openStored gcm r.toDict) ()
      (.ok plaintext) := by
  have hrecord := fromDict_toDict hnonce htag
  exact Exec.yields (Env.handled_functional _)
    (Exec.embed_bind hrecord (openRecord_exec htag hdek hdecrypt rfl))

/-- What `open` returns of a stored record was decrypted with the associated data of its fields. -/
theorem openStored_returns {stored : PyVal} {W : Env KeystoreSig Exc Unit} {u : Unit} :
    (AEADCipher.openStored gcm stored).sat W (fun _ _ => True)
      (fun x _ _ => ∀ plaintext, x = .ok plaintext → OpenedAs gcm stored plaintext) [] u := by
  rw [AEADCipher.openStored, sat_bind, sat_embed]
  cases hrecord : SealedRecord.fromDict stored with
  | error e => exact fun _ h => by cases h
  | ok r =>
      rw [andThen_ok]
      exact openRecord_opened hrecord

end Seal

/-- **Seal and open.** Under an ideal cipher, what is sealed with a type that UTF-8 can carry and a
version that `%d` renders opens from its storage form as the plaintext, and stored with any other
type or version it opens under no key; associated data is injective. -/
theorem sealRecord_openStored {gcm : AesGcm} (hideal : gcm.IdealAead) {dek nonce : Bytes}
    (hdek : dek.length = dekLen) (hnonce : nonce.length = nonceLen) (plaintext : Bytes)
    {recordType : PyStr} {version : Int} (hne : recordType ≠ []) (hversion : 1 ≤ version)
    (hencodable : (encodeUtf8 recordType).isSome)
    (hdigits : (decimal version).length ≤ intMaxStrDigits) :
    (∃ r, Proc.Yields (keystoreGives dek nonce)
        (AEADCipher.sealRecord gcm plaintext (.str recordType) (.int version)) () (.ok r) ∧
      SealedRecord.fromDict r.toDict = .ok r ∧
      (∀ nonce', Proc.Yields (keystoreGives dek nonce') (AEADCipher.openStored gcm r.toDict) ()
        (.ok plaintext)) ∧
      ∀ recordType' version' : PyVal,
        ¬ (recordType' = .str recordType ∧ version' = .int version) →
          ∀ (W : Env KeystoreSig Exc Unit) (u : Unit), (AEADCipher.openStored gcm
            ({ r with recordType := recordType', version := version' } : SealedRecord).toDict).sat W
              (fun _ _ => True) (fun x _ _ => ∃ e, x = .error e) [] u) ∧
    ∀ (type₁ version₁ type₂ version₂ : PyVal) (tag : Bytes), aad type₁ version₁ = .ok tag →
      aad type₂ version₂ = .ok tag → type₁ = type₂ ∧ version₁ = version₂ := by
  obtain ⟨tag, htag⟩ := aad_exists hne hversion hencodable hdigits
  obtain ⟨ciphertext, hencrypt⟩ := hideal.encrypts plaintext tag hdek hnonce
  have hdecrypt := hideal.roundTrips _ _ _ _ _ hencrypt
  refine ⟨⟨⟨.int version, .str recordType, nonce, ciphertext⟩,
    sealRecord_yields htag hdek hnonce hencrypt, fromDict_toDict hnonce htag,
    fun nonce' => openStored_yields htag hdek hnonce hdecrypt, ?_⟩,
    fun _ _ _ _ _ h h' => aad_inj h h'⟩
  intro recordType' version' hother W u
  refine sat_mono openStored_returns fun x τ s hx => ?_
  cases x with
  | error e => exact ⟨e, rfl⟩
  | ok plaintext' =>
      obtain ⟨r, dek', tag', hrecord, htag', -, hdecrypt'⟩ := hx plaintext' rfl
      obtain rfl := fromDict_toDict_eq hrecord
      obtain ⟨-, rfl⟩ := hideal.binds hencrypt hdecrypt'
      exact absurd (aad_inj htag' htag) hother

/-! ### Types that UTF-8 cannot carry -/

/-- A byte string that tells where it ends. -/
def framed : Bytes → Bytes
  | [] => [0]
  | b :: data => 1 :: b :: framed data

theorem framed_append_inj {a b s t : Bytes} (h : framed a ++ s = framed b ++ t) : a = b ∧ s = t := by
  induction a generalizing b with
  | nil =>
      cases b with
      | nil => exact ⟨rfl, (List.cons.inj h).2⟩
      | cons x b => exact absurd (List.cons.inj h).1 (by decide)
  | cons x a ih =>
      cases b with
      | nil => exact absurd (List.cons.inj h).1 (by decide)
      | cons y b =>
          obtain ⟨hxy, htail⟩ := List.cons.inj (List.cons.inj h).2
          obtain ⟨hab, hst⟩ := ih htail
          rw [hxy, hab]
          exact ⟨rfl, hst⟩

/-- A cipher that shows everything, in frames. -/
def framedGcm : AesGcm where
  encrypt dek nonce data tag := .ok (framed dek ++ (framed nonce ++ (framed tag ++ data)))
  decrypt dek nonce data tag :=
    let header := framed dek ++ (framed nonce ++ framed tag)
    if header.isPrefixOf data then some (data.drop header.length) else none

theorem framedGcm_ideal : framedGcm.IdealAead where
  encrypts _ _ _ _ := ⟨_, rfl⟩
  roundTrips dek nonce data tag ciphertext h := by
    cases h
    simp [framedGcm]
  binds {dek nonce data tag ciphertext dek' tag' plaintext} h h' := by
    cases h
    dsimp only [framedGcm] at h'
    split at h'
    · rename_i hpre
      obtain ⟨t, ht⟩ := List.isPrefixOf_iff_prefix.mp hpre
      simp only [List.append_assoc] at ht
      obtain ⟨hdek, ht⟩ := framed_append_inj ht
      obtain ⟨-, ht⟩ := framed_append_inj ht
      exact ⟨hdek, (framed_append_inj ht).1⟩
    · cases h'

/-- A type may contain the delimiter and digits. -/
theorem sealRecord_openStored_sample : ∃ r,
    Proc.Yields (keystoreGives (List.replicate 32 7) (List.replicate 12 9))
      (AEADCipher.sealRecord framedGcm [1, 2, 3] (.str (str "1/v2/t")) (.int 12)) () (.ok r) ∧
    ∀ W u, (AEADCipher.openStored framedGcm ({ r with
      recordType := .str (str "v2/t"), version := .int 1 } : SealedRecord).toDict).sat W
        (fun _ _ => True) (fun x _ _ => ∃ e, x = .error e) [] (u : Unit) := by
  have hdek : (List.replicate 32 7 : Bytes).length = dekLen := rfl
  have hnonce : (List.replicate 12 9 : Bytes).length = nonceLen := rfl
  have hne : str "1/v2/t" ≠ [] := by decide
  have hversion : (1 : Int) ≤ 12 := by decide
  obtain ⟨⟨r, hseal, -, -, hother⟩, -⟩ := sealRecord_openStored framedGcm_ideal hdek hnonce [1, 2, 3]
    hne hversion (by decide) (by decide)
  exact ⟨r, hseal, hother _ _ fun h => absurd (PyVal.int.inj h.2) (by decide)⟩

/-- An unpaired surrogate makes a non-empty type that nothing is sealed with. -/
theorem sealRecord_surrogate :
    Proc.Yields (keystoreGives (List.replicate 32 7) (List.replicate 12 9))
      (AEADCipher.sealRecord framedGcm [] (.str [0xD800]) (.int 1)) () (.error .unicodeEncodeError) :=
  result_yields _ _

end GmailGateway
