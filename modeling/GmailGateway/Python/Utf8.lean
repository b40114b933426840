import GmailGateway.Python.Text

/-!
# GmailGateway.Python.Utf8

`bytes.decode("utf-8")`, which refuses overlong forms, surrogates and what lies beyond
the last code point. Decoding inverts encoding, so the encoding is injective.
-/

namespace GmailGateway.Python

/-- A continuation byte. -/
def isTail (b : UInt8) : Bool := 0x80 ≤ b.toNat && b.toNat ≤ 0xBF

/-- The six bits of a continuation byte. -/
def tailBits (b : UInt8) : Nat := b.toNat - 0x80

/-- The text of some bytes, or `none` where Python raises `UnicodeDecodeError`. -/
def decodeUtf8 : Bytes → Option PyStr
  | [] => some []
  | a :: s =>
      if a.toNat < 0x80 then (decodeUtf8 s).map (Fin.ofNat 0x110000 a.toNat :: ·)
      else
        match s with
        | [] => none
        | b :: s =>
            if a.toNat < 0xE0 then
              let n := (a.toNat - 0xC0) * 0x40 + tailBits b
              if 0xC0 ≤ a.toNat ∧ isTail b ∧ 0x80 ≤ n then
                (decodeUtf8 s).map (Fin.ofNat 0x110000 n :: ·)
              else none
            else
              match s with
              | [] => none
              | c :: s =>
                  if a.toNat < 0xF0 then
                    let n := (a.toNat - 0xE0) * 0x1000 + tailBits b * 0x40 + tailBits c
                    if isTail b ∧ isTail c ∧ 0x800 ≤ n ∧ ¬ (0xD800 ≤ n ∧ n ≤ 0xDFFF) then
                      (decodeUtf8 s).map (Fin.ofNat 0x110000 n :: ·)
                    else none
                  else
                    match s with
                    | [] => none
                    | d :: s =>
                        let n := (a.toNat - 0xF0) * 0x40000 + tailBits b * 0x1000 +
                          tailBits c * 0x40 + tailBits d
                        if isTail b ∧ isTail c ∧ isTail d ∧ 0x10000 ≤ n ∧ n < 0x110000 then
                          (decodeUtf8 s).map (Fin.ofNat 0x110000 n :: ·)
                        else none

theorem toNat_ofNat {n : Nat} (h : n < 256) : (UInt8.ofNat n).toNat = n := by
  rw [UInt8.toNat_ofNat']
  exact Nat.mod_eq_of_lt h

theorem isTail_ofNat {n : Nat} (h : n < 0x40) : isTail (.ofNat (0x80 + n)) = true := by
  have hlow : 0x80 ≤ 0x80 + n := Nat.le_add_right _ _
  have hhigh : 0x80 + n ≤ 0xBF := by omega
  rw [isTail, toNat_ofNat (show 0x80 + n < 256 by omega), decide_eq_true hlow,
    decide_eq_true hhigh]
  rfl

theorem tailBits_ofNat {n : Nat} (h : n < 0x40) : tailBits (.ofNat (0x80 + n)) = n := by
  have hbyte : 0x80 + n < 256 := by omega
  unfold tailBits
  rw [toNat_ofNat hbyte]
  exact Nat.add_sub_cancel_left 0x80 n

/-- Decoding takes an encoded code point off the front. -/
theorem decodeUtf8_utf8 {c : CodePoint} (h : c.isSurrogate = false) (s : Bytes) :
    decodeUtf8 (c.utf8 ++ s) = (decodeUtf8 s).map (c :: ·) := by
  have hc := c.isLt
  have hback : ∀ n, n = c.val → Fin.ofNat 0x110000 n = c := by
    intro n hn
    exact Fin.ext ((Nat.mod_eq_of_lt (by omega)).trans hn)
  have hsur : ¬ (0xD800 ≤ c.val ∧ c.val ≤ 0xDFFF) := by
    simpa [CodePoint.isSurrogate] using h
  -- The low six bits, the six above them, and the six above those.
  have h₀ : c.val % 0x40 < 0x40 := Nat.mod_lt _ (by omega)
  have h₁ : c.val / 0x40 % 0x40 < 0x40 := Nat.mod_lt _ (by omega)
  have h₂ : c.val / 0x1000 % 0x40 < 0x40 := Nat.mod_lt _ (by omega)
  unfold CodePoint.utf8
  by_cases hone : c.val < 0x80
  · simp only [hone, if_true, List.cons_append, List.nil_append]
    rw [decodeUtf8.eq_def]
    simp only [toNat_ofNat (show c.val < 256 by omega), hone, if_true, hback _ rfl]
  by_cases htwo : c.val < 0x800
  · have ha : 0xC0 + c.val / 0x40 < 256 := by omega
    have hn : (0xC0 + c.val / 0x40 - 0xC0) * 0x40 + c.val % 0x40 = c.val := by omega
    simp only [hone, htwo, if_true, if_false, List.cons_append, List.nil_append]
    rw [decodeUtf8.eq_def]
    simp only [toNat_ofNat ha, isTail_ofNat h₀, tailBits_ofNat h₀, hn]
    rw [if_neg (by omega), if_pos (by omega), if_pos ⟨by omega, trivial, by omega⟩, hback _ rfl]
  by_cases hthree : c.val < 0x10000
  · have ha : 0xE0 + c.val / 0x1000 < 256 := by omega
    have hn : (0xE0 + c.val / 0x1000 - 0xE0) * 0x1000 + c.val / 0x40 % 0x40 * 0x40 +
        c.val % 0x40 = c.val := by omega
    simp only [hone, htwo, hthree, if_true, if_false, List.cons_append, List.nil_append]
    rw [decodeUtf8.eq_def]
    simp only [toNat_ofNat ha, isTail_ofNat h₀, tailBits_ofNat h₀, isTail_ofNat h₁,
      tailBits_ofNat h₁, hn]
    rw [if_neg (by omega), if_neg (by omega), if_pos (by omega),
      if_pos ⟨trivial, trivial, by omega, hsur⟩, hback _ rfl]
  · have ha : 0xF0 + c.val / 0x40000 < 256 := by omega
    have hn : (0xF0 + c.val / 0x40000 - 0xF0) * 0x40000 + c.val / 0x1000 % 0x40 * 0x1000 +
        c.val / 0x40 % 0x40 * 0x40 + c.val % 0x40 = c.val := by omega
    simp only [hone, htwo, hthree, if_false, List.cons_append, List.nil_append]
    rw [decodeUtf8.eq_def]
    simp only [toNat_ofNat ha, isTail_ofNat h₀, tailBits_ofNat h₀, isTail_ofNat h₁,
      tailBits_ofNat h₁, isTail_ofNat h₂, tailBits_ofNat h₂, hn]
    rw [if_neg (by omega), if_neg (by omega), if_neg (by omega),
      if_pos ⟨trivial, trivial, trivial, by omega, hc⟩, hback _ rfl]

/-- **Round trip.** -/
theorem decodeUtf8_encodeUtf8 {s : PyStr} {data : Bytes} (h : encodeUtf8 s = some data) :
    decodeUtf8 data = some s := by
  have hsur : s.any CodePoint.isSurrogate = false := by
    by_contra hs
    rw [Bool.not_eq_false] at hs
    rw [encodeUtf8, if_pos hs] at h
    cases h
  rw [encodeUtf8, hsur] at h
  cases h
  induction s with
  | nil => rfl
  | cons c s ih =>
      rw [List.any_cons, Bool.or_eq_false_iff] at hsur
      rw [List.flatMap_cons, decodeUtf8_utf8 hsur.1, ih hsur.2]
      rfl

theorem encodeUtf8_inj {s t : PyStr} {data : Bytes} (hs : encodeUtf8 s = some data)
    (ht : encodeUtf8 t = some data) : s = t :=
  Option.some.inj ((decodeUtf8_encodeUtf8 hs).symm.trans (decodeUtf8_encodeUtf8 ht))

/-! ### Literals -/

theorem CodePoint.ofChar_val (c : Char) : (CodePoint.ofChar c).val = c.toNat := by
  refine Nat.mod_eq_of_lt ?_
  rcases c.valid with h | h
  · show c.val.toNat < 0x110000
    omega
  · exact h.2

/-- A Lean character is no surrogate. -/
theorem CodePoint.isSurrogate_ofChar (c : Char) : (CodePoint.ofChar c).isSurrogate = false := by
  rw [CodePoint.isSurrogate, CodePoint.ofChar_val, Bool.and_eq_false_iff, decide_eq_false_iff_not,
    decide_eq_false_iff_not]
  rcases c.valid with h | h
  · left
    show ¬ 0xD800 ≤ c.val.toNat
    omega
  · right
    show ¬ c.val.toNat ≤ 0xDFFF
    omega

theorem encodeUtf8_str (s : String) :
    encodeUtf8 (str s) = some ((str s).flatMap CodePoint.utf8) := by
  have hsur : (str s).any CodePoint.isSurrogate = false := by
    simp [str, CodePoint.isSurrogate_ofChar]
  rw [encodeUtf8, hsur]
  rfl

theorem str_inj {s t : String} (h : str s = str t) : s = t := by
  have hchar : Function.Injective CodePoint.ofChar := by
    intro c d hcd
    have hval := congrArg Fin.val hcd
    rw [CodePoint.ofChar_val, CodePoint.ofChar_val] at hval
    exact Char.toNat_inj.mp hval
  exact String.ext (List.map_injective_iff.mpr hchar h)

end GmailGateway.Python
