import GmailGateway.Gateway.TokenStoreInvariants
import GmailGateway.Keystore.Sealing

/-!
# GmailGateway.Gateway.ReadFailures

**The buckets of a read.** `load_credentials` reports every failure as one of three: nothing to
read, a key that cannot be reached now, and a record that will not open. What is stored under
`sealed` is any JSON value, and the key provider answers or fails in one of three ways; both
decide the bucket.

Three exceptions have no bucket. The row is parsed before it is looked at, and a number of too many
digits under `sealed` makes that raise `ValueError`. The associated data of a stored record is built
before anything is authenticated, and raises `UnicodeEncodeError` or `ValueError` on a type or a
version that it cannot render. And parsing a plaintext may exhaust the stack.
-/

namespace GmailGateway

open Effect Proc Python

section Buckets
variable {Blob : Type} (P : TokenPlatform Blob)

/-- A record in good order, but for a type or a version that associated data cannot render. -/
def Unrenderable (slot : PyVal) : Prop :=
  ∃ r s n, SealedRecord.fields? slot = some r ∧ r.nonce.length = nonceLen ∧
    r.recordType = .str s ∧ s ≠ [] ∧ r.version = .int n ∧ 1 ≤ n ∧
      (intMaxStrDigits < (decimal n).length ∨ encodeUtf8 s = none)

end Buckets

/-! ### What building a record raises -/

/-- Associated data of a type and a version in good order raises what no bucket takes. -/
theorem aad_error_cases {recordType version : PyVal} {e : Exc}
    (h : aad recordType version = .error e) : (∃ message, e = .sealedRecord message) ∨
      ∃ s n, recordType = .str s ∧ s ≠ [] ∧ version = .int n ∧ 1 ≤ n ∧
        (intMaxStrDigits < (decimal n).length ∨ encodeUtf8 s = none) ∧
          (e = .valueError ∨ e = .unicodeEncodeError) := by
  unfold aad at h
  split at h
  · rename_i c cs n
    split at h
    · exact .inl ⟨_, (Except.error.inj h).symm⟩
    · rename_i hpos
      have hversion : 1 ≤ n := by omega
      refine .inr ⟨c :: cs, n, rfl, List.cons_ne_nil _ _, rfl, hversion, ?_⟩
      split at h
      · rename_i hlong
        exact ⟨.inl hlong, .inl (Except.error.inj h).symm⟩
      · rename_i hshort
        split at h
        · cases h
        · rename_i hnone
          refine ⟨.inr ?_, .inr (Except.error.inj h).symm⟩
          -- Were the type encodable, the whole tag would be.
          by_contra hsome
          obtain ⟨tag, htag⟩ := aad_exists (List.cons_ne_nil c cs) hversion
            (Option.isSome_iff_ne_none.mpr hsome) (Nat.not_lt.mp hshort)
          rw [aad, if_neg hpos, if_neg hshort, hnone] at htag
          cases htag
  · exact .inl ⟨_, (Except.error.inj h).symm⟩
  · exact .inl ⟨_, (Except.error.inj h).symm⟩

theorem aad_ne_sealedRecord {s : PyStr} {n : Int} {message : String} (hne : s ≠ []) (hn : 1 ≤ n) :
    aad (.str s) (.int n) ≠ .error (.sealedRecord message) := by
  intro h
  cases s with
  | nil => exact hne rfl
  | cons c cs =>
      rw [aad, if_neg (by omega)] at h
      split at h
      · cases h
      · split at h <;> cases h

theorem fromDict_error {slot : PyVal} {e : Exc} (h : SealedRecord.fromDict slot = .error e) :
    ((∃ message, e = .sealedRecord message) ∧ ¬ Unrenderable slot) ∨
      (e = .valueError ∨ e = .unicodeEncodeError) ∧ Unrenderable slot := by
  unfold SealedRecord.fromDict at h
  cases hfields : SealedRecord.fields? slot with
  | none =>
      rw [hfields] at h
      refine .inl ⟨⟨_, (Except.error.inj h).symm⟩, ?_⟩
      rintro ⟨r, s, n, hr, -⟩
      rw [hfields] at hr
      cases hr
  | some r =>
      rw [hfields] at h
      dsimp only at h
      split at h
      · rename_i hnonce
        refine .inl ⟨⟨_, (Except.error.inj h).symm⟩, ?_⟩
        rintro ⟨r', s, n, hr, hlength, -⟩
        rw [hfields] at hr
        cases hr
        exact hnonce hlength
      · rename_i hnonce
        rcases bind_eq_error.mp h with htag | ⟨_, -, hok⟩
        · rcases aad_error_cases htag with ⟨message, rfl⟩ | ⟨s, n, htype, hne, hversion, hn, hrender, he⟩
          · refine .inl ⟨⟨message, rfl⟩, ?_⟩
            rintro ⟨r', s, n, hr, -, htype, hne, hversion, hn, hrender⟩
            rw [hfields] at hr
            cases hr
            rw [htype, hversion] at htag
            exact aad_ne_sealedRecord hne hn htag
          · exact .inr ⟨he, r, s, n, hfields, not_not.mp hnonce, htype, hne, hversion, hn, hrender⟩
        · cases hok

section Run
variable {Blob : Type} {P : TokenPlatform Blob} {provider : Except Exc Bytes} {s : TokenState Blob}
  {slot : PyVal}

def keystoreRead (provider : Except Exc Bytes) (u : Unit) :
    (o : KeystoreOp) → Except Exc o.Ret × Unit
  | .getDek => (provider, u)
  | .nonce => (.error .other, u)

/-- SQLite does not fail, and the key provider answers `provider`. Reading asks for no nonce. -/
def TokenState.read (provider : Except Exc Bytes) (s : TokenState Blob) :
    (o : (TokenSig Blob).Op) → Except Exc ((TokenSig Blob).Ret o) × TokenState Blob
  | ⟨.kv, o⟩ =>
      (((s .kv).perform (fun _ => false) o).1,
        Function.update s .kv ((s .kv).perform (fun _ => false) o).2)
  | ⟨.keystore, o⟩ => ((keystoreRead provider () o).1, s)

end Run

end GmailGateway
