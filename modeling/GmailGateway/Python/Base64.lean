import GmailGateway.Python.Text

/-!
# GmailGateway.Python.Base64

`base64.b64encode` and `base64.b64decode(…, validate=True)`: groups of three bytes as four
letters of the alphabet, the last group padded with `=`. Decoding inverts encoding.
-/

namespace GmailGateway.Python.Base64

/-- The letter of a sextet `v < 64`. -/
def letter (v : Nat) : CodePoint :=
  if v < 26 then Fin.ofNat 0x110000 (0x41 + v)
  else if v < 52 then Fin.ofNat 0x110000 (0x61 + (v - 26))
  else if v < 62 then Fin.ofNat 0x110000 (0x30 + (v - 52))
  else if v = 62 then CodePoint.ofChar '+'
  else CodePoint.ofChar '/'

/-- The sextet of a letter. -/
def sextet? (c : CodePoint) : Option Nat :=
  if 0x41 ≤ c.val ∧ c.val ≤ 0x5A then some (c.val - 0x41)
  else if 0x61 ≤ c.val ∧ c.val ≤ 0x7A then some (c.val - 0x61 + 26)
  else if 0x30 ≤ c.val ∧ c.val ≤ 0x39 then some (c.val - 0x30 + 52)
  else if c.val = 0x2B then some 62
  else if c.val = 0x2F then some 63
  else none

def pad : CodePoint := CodePoint.ofChar '='

theorem sextet?_letter : ∀ v < 64, sextet? (letter v) = some v := by decide

theorem letter_ne_pad : ∀ v < 64, letter v ≠ pad := by decide

def b64encode : Bytes → PyStr
  | [] => []
  | [a] => [letter (a.toNat / 4), letter (a.toNat % 4 * 16), pad, pad]
  | [a, b] =>
      [letter (a.toNat / 4), letter (a.toNat % 4 * 16 + b.toNat / 16),
        letter (b.toNat % 16 * 4), pad]
  | a :: b :: c :: rest =>
      letter (a.toNat / 4) :: letter (a.toNat % 4 * 16 + b.toNat / 16) ::
        letter (b.toNat % 16 * 4 + c.toNat / 64) :: letter (c.toNat % 64) :: b64encode rest

/-- `base64.urlsafe_b64encode`: the same letters with `-` and `_` for `+` and `/`. -/
def urlsafeB64encode (data : Bytes) : PyStr :=
  (b64encode data).map fun c =>
    if c = CodePoint.ofChar '+' then CodePoint.ofChar '-'
    else if c = CodePoint.ofChar '/' then CodePoint.ofChar '_'
    else c

/-- The bytes of a text, or `none` where `b64decode` raises `binascii.Error`. -/
def b64decode? : PyStr → Option Bytes
  | [] => some []
  | w :: x :: y :: z :: rest =>
      if z = pad ∧ rest = [] then
        if y = pad then do
          let w ← sextet? w
          let x ← sextet? x
          pure [UInt8.ofNat (w * 4 + x / 16)]
        else do
          let w ← sextet? w
          let x ← sextet? x
          let y ← sextet? y
          pure [UInt8.ofNat (w * 4 + x / 16), UInt8.ofNat (x % 16 * 16 + y / 4)]
      else do
        let w ← sextet? w
        let x ← sextet? x
        let y ← sextet? y
        let z ← sextet? z
        let bytes ← b64decode? rest
        pure (UInt8.ofNat (w * 4 + x / 16) :: UInt8.ofNat (x % 16 * 16 + y / 4) ::
          UInt8.ofNat (y % 4 * 64 + z) :: bytes)
  | _ => none

private theorem ofNat_eq {n : Nat} {a : UInt8} (h : n = a.toNat) : UInt8.ofNat n = a := by
  rw [h, UInt8.ofNat_toNat]

/-- **Round trip.** -/
theorem b64decode?_b64encode (data : Bytes) : b64decode? (b64encode data) = some data := by
  induction data using b64encode.induct with
  | case1 => rfl
  | case2 a =>
      have ha := a.toNat_lt
      have ha' : UInt8.ofNat (a.toNat / 4 * 4 + a.toNat % 4 * 16 / 16) = a := ofNat_eq (by omega)
      simp only [b64encode, b64decode?, sextet?_letter (a.toNat / 4) (by omega),
        sextet?_letter (a.toNat % 4 * 16) (by omega), and_self, if_true, Option.bind_eq_bind,
        Option.bind_some, ha']
      rfl
  | case3 a b =>
      have ha := a.toNat_lt
      have hb := b.toNat_lt
      have ha' : UInt8.ofNat (a.toNat / 4 * 4 + (a.toNat % 4 * 16 + b.toNat / 16) / 16) = a :=
        ofNat_eq (by omega)
      have hb' : UInt8.ofNat ((a.toNat % 4 * 16 + b.toNat / 16) % 16 * 16 + b.toNat % 16 * 4 / 4)
          = b := ofNat_eq (by omega)
      simp only [b64encode, b64decode?, sextet?_letter (a.toNat / 4) (by omega),
        sextet?_letter (a.toNat % 4 * 16 + b.toNat / 16) (by omega),
        sextet?_letter (b.toNat % 16 * 4) (by omega), letter_ne_pad (b.toNat % 16 * 4) (by omega),
        and_self, if_true, if_false, Option.bind_eq_bind, Option.bind_some, ha', hb']
      rfl
  | case4 a b c rest ih =>
      have ha := a.toNat_lt
      have hb := b.toNat_lt
      have hc := c.toNat_lt
      have ha' : UInt8.ofNat (a.toNat / 4 * 4 + (a.toNat % 4 * 16 + b.toNat / 16) / 16) = a :=
        ofNat_eq (by omega)
      have hb' : UInt8.ofNat ((a.toNat % 4 * 16 + b.toNat / 16) % 16 * 16 +
          (b.toNat % 16 * 4 + c.toNat / 64) / 4) = b := ofNat_eq (by omega)
      have hc' : UInt8.ofNat ((b.toNat % 16 * 4 + c.toNat / 64) % 4 * 64 + c.toNat % 64) = c :=
        ofNat_eq (by omega)
      simp only [b64encode, b64decode?, sextet?_letter (a.toNat / 4) (by omega),
        sextet?_letter (a.toNat % 4 * 16 + b.toNat / 16) (by omega),
        sextet?_letter (b.toNat % 16 * 4 + c.toNat / 64) (by omega),
        sextet?_letter (c.toNat % 64) (by omega), letter_ne_pad (c.toNat % 64) (by omega),
        false_and, if_false, Option.bind_eq_bind, Option.bind_some, ih, ha', hb', hc']
      rfl

example : b64encode [0x66, 0x6F] = str "Zm8=" := by decide

end GmailGateway.Python.Base64
