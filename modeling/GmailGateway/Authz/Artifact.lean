import GmailGateway.Authz.Mediation
import GmailGateway.Python.Decimal

/-!
# GmailGateway.Authz.Artifact

What the user root signs: envelopes `{v, type, body, sig}` with a signature that the
gate's anchor verifies. The parsers read back what was written into them: the hex of a
signature, the decimal of a version.
-/

namespace GmailGateway

open Python

/-! ### Hex -/

/-- `data.hex()`. -/
def toHex (data : Bytes) : PyStr :=
  data.flatMap fun b => [hexDigit (b.toNat / 16), hexDigit (b.toNat % 16)]

theorem isSpace_hexDigit : ∀ d < 16, fromHex.isSpace (hexDigit d) = false := by decide

/-- **Round trip.** -/
theorem fromHex_toHex (data : Bytes) : fromHex (toHex data) = some data := by
  induction data with
  | nil => rfl
  | cons b data ih =>
      have hb := b.toNat_lt
      have hbyte : UInt8.ofNat (16 * (b.toNat / 16) + b.toNat % 16) = b := by
        rw [Nat.div_add_mod, UInt8.ofNat_toNat]
      have hcons : toHex (b :: data) =
          hexDigit (b.toNat / 16) :: hexDigit (b.toNat % 16) :: toHex data := rfl
      rw [hcons, fromHex, isSpace_hexDigit _ (by omega), hexValue?_hexDigit _ (by omega),
        hexValue?_hexDigit _ (by omega), ih]
      exact congrArg (fun b => some (b :: data)) hbyte

/-! ### Decimals -/

theorem isDigit_of_mem_natDecimal {n : Nat} : ∀ c ∈ natDecimal n, isDigit c = true := by
  intro c hc
  obtain ⟨hlow, hhigh⟩ := val_of_mem_natDecimal hc
  rw [isDigit, decide_eq_true hlow, decide_eq_true hhigh]
  rfl

theorem decimalDigits_natDecimal (n : Nat) : decimalDigits (natDecimal n) = natDecimal n :=
  List.filter_eq_self.mpr isDigit_of_mem_natDecimal

/-- `int` reads from the left. -/
theorem foldl_digits (ds : PyStr) :
    ds.foldl (fun n c => 10 * n + (c.val - 0x30 : Nat)) 0 =
      Nat.ofDigits 10 (ds.reverse.map fun c => c.val - 0x30) := by
  induction ds using List.reverseRecOn with
  | nil => rfl
  | append_singleton ds c ih =>
      rw [List.foldl_append, ih, List.reverse_append, List.reverse_singleton,
        List.singleton_append, List.map_cons, Nat.ofDigits_cons]
      simp only [List.foldl_cons, List.foldl_nil]
      omega

/-- `int(str(n)) == n`, where `int` does not raise. -/
theorem pyInt_natDecimal (n : Nat) :
    pyInt (natDecimal n) =
      if intMaxStrDigits < (natDecimal n).length then .error .valueError else .ok (n : Int) := by
  rw [pyInt, decimalDigits_natDecimal, foldl_digits, ofDigits_natDecimal]

theorem isCanonicalDecimal_natDecimal (n : Nat) : isCanonicalDecimal (natDecimal n) = true := by
  have hall : (natDecimal n).all isDigit = true := List.all_eq_true.mpr isDigit_of_mem_natDecimal
  by_cases hn : n = 0
  · subst hn
    decide
  · obtain ⟨d, ds, hd0, hd, hcons⟩ := natDecimal_eq_cons hn
    have hd' : digitChar d ≠ CodePoint.ofChar '0' := by
      intro h
      have hval := congrArg Fin.val h
      rw [digitChar_val hd] at hval
      have h0 : (CodePoint.ofChar '0').val = 0x30 := by decide
      omega
    rw [hcons] at hall ⊢
    simp [isCanonicalDecimal, matchesLine, hall, hd']

/-- A canonical decimal is one of a non-negative number. -/
theorem isCanonicalDecimal_decimal {i : Int} : isCanonicalDecimal (decimal i) = true ↔ 0 ≤ i := by
  cases i with
  | ofNat n =>
      have hn : (0 : Int) ≤ Int.ofNat n := Int.natCast_nonneg n
      exact iff_of_true (isCanonicalDecimal_natDecimal n) hn
  | negSucc n =>
      have hn : ¬ (0 : Int) ≤ Int.negSucc n := by omega
      have hminus : isDigit (CodePoint.ofChar '-') = false := by decide
      have hzero : (CodePoint.ofChar '-' :: natDecimal (n + 1)) ≠ str "0" := by
        intro h
        exact absurd (List.cons.inj h).1 (by decide)
      have hdrop : (CodePoint.ofChar '-' :: natDecimal (n + 1)).dropLast =
          CodePoint.ofChar '-' :: (natDecimal (n + 1)).dropLast :=
        List.dropLast_cons_of_ne_nil (natDecimal_ne_nil _)
      have hzero' : (CodePoint.ofChar '-' :: (natDecimal (n + 1)).dropLast) ≠ str "0" := by
        intro h
        exact absurd (List.cons.inj h).1 (by decide)
      simp [decimal, hn, isCanonicalDecimal, matchesLine, hminus, hzero, hdrop, hzero']

/-! ### Signed envelopes -/

/-- `{"v": 1, "type": …, "body": …, "sig": sig.hex()}`. -/
def envelope (artifactType : String) (body : Dict) (sig : Bytes) : Dict :=
  [(str "v", .int 1), (str "type", .str (str artifactType)), (str "body", .dict body),
    (str "sig", .str (toHex sig))]

section
variable (artifactType : String) (body : Dict) (sig : Bytes)

@[simp] theorem envelope_unknownKeys :
    (envelope artifactType body sig).unknownKeys envelopeKeys = [] := rfl

@[simp] theorem envelope_v : (envelope artifactType body sig).get (str "v") = .int 1 := rfl

@[simp] theorem envelope_type :
    (envelope artifactType body sig).get (str "type") = .str (str artifactType) := rfl

@[simp] theorem envelope_body :
    (envelope artifactType body sig).get (str "body") = .dict body := rfl

@[simp] theorem envelope_sig :
    (envelope artifactType body sig).get (str "sig") = .str (toHex sig) := rfl

end

/-- The parser reads back what was written. -/
theorem parseEnvelope_envelope {artifactType : String} (htype : str artifactType ≠ [])
    (body : Dict) (sig : Bytes) :
    parseEnvelope (.dict (envelope artifactType body sig)) = .ok (str artifactType, body, sig) := by
  have hone : (PyVal.int 1).eqInt 1 = true := rfl
  simp [parseEnvelope, expectDict, expectStr, hone, rejectIf, htype, fromHex_toHex, bind,
    Except.bind, pure, Except.pure]

/-- Whoever holds the private key of `key`. -/
structure Signer (P : Platform) (key : P.PublicKey) where
  sign : Bytes → Bytes
  verify_sign : ∀ message, P.verify key message (sign message) = true

/-- The envelope of a signed artifact; it raises for a body without a canonical form. -/
def Signer.artifact {P : Platform} {key : P.PublicKey} (signer : Signer P key)
    (artifactType : String) (body : Dict) : Except Exc PyVal := do
  let message ← signingInput artifactType body
  pure (.dict (envelope artifactType body (signer.sign message)))

theorem artifact_eq_ok {P : Platform} {key : P.PublicKey} {signer : Signer P key}
    {artifactType : String} {body : Dict} {env : PyVal} :
    signer.artifact artifactType body = .ok env ↔
      ∃ message, signingInput artifactType body = .ok message ∧
        env = .dict (envelope artifactType body (signer.sign message)) := by
  rw [Signer.artifact, bind_eq_ok]
  exact exists_congr fun message => and_congr_right fun _ =>
    ⟨fun h => (Except.ok.inj h).symm, fun h => congrArg Except.ok h.symm⟩

end GmailGateway
