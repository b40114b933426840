import GmailGateway.Python.Text

/-!
# GmailGateway.Python.Urllib

Form encoding (`urllib.parse.urlencode`): the UTF-8 bytes of a string, each kept, written as a
plus or escaped. It raises on nothing but a string that UTF-8 cannot carry.
-/

namespace GmailGateway.Python

/-- The bytes that `quote` keeps: letters, digits and `_.-~`. -/
def isUnreserved (b : UInt8) : Bool :=
  let n := b.toNat
  (0x30 ≤ n && n ≤ 0x39) || (0x41 ≤ n && n ≤ 0x5A) || (0x61 ≤ n && n ≤ 0x7A) ||
    n ∈ [0x2D, 0x2E, 0x5F, 0x7E]

/-- The upper-case digit of `n < 16`. -/
def upperDigit (n : Nat) : CodePoint := Fin.ofNat 0x110000 (if n < 10 then 0x30 + n else 0x37 + n)

def quoteByte (b : UInt8) : PyStr :=
  if isUnreserved b then [Fin.ofNat 0x110000 b.toNat]
  else if b.toNat = 0x20 then str "+"
  else [CodePoint.ofChar '%', upperDigit (b.toNat / 16), upperDigit (b.toNat % 16)]

/-- `quote_plus(s)`, or `none` where Python raises `UnicodeEncodeError`. -/
def quotePlus (s : PyStr) : Option PyStr := (encodeUtf8 s).map fun data => data.flatMap quoteByte

/-- One field of a form. -/
def formField (field : PyStr × PyStr) : Option PyStr := do
  let k ← quotePlus field.1
  let v ← quotePlus field.2
  pure (k ++ str "=" ++ v)

/-- `urlencode(query)`, or `none` where Python raises `UnicodeEncodeError`. -/
def urlencode (query : List (PyStr × PyStr)) : Option PyStr := do
  let fields ← query.mapM formField
  pure (List.intercalate (str "&") fields)

example : urlencode [(str "token", str "1//a b"), (str "é", [])] =
    some (str "token=1%2F%2Fa+b&%C3%A9=") := by decide

theorem formField_eq_none {field : PyStr × PyStr} :
    formField field = none ↔ encodeUtf8 field.1 = none ∨ encodeUtf8 field.2 = none := by
  simp only [formField, quotePlus]
  cases encodeUtf8 field.1 <;> cases encodeUtf8 field.2 <;> simp

/-- It fails on the strings that have no encoding, and on no others. -/
theorem urlencode_eq_none {query : List (PyStr × PyStr)} :
    urlencode query = none ↔
      ∃ field ∈ query, encodeUtf8 field.1 = none ∨ encodeUtf8 field.2 = none := by
  have hfields : query.mapM formField = none ↔ ∃ field ∈ query, formField field = none := by
    induction query with
    | nil => simp
    | cons field query ih =>
        rw [List.mapM_cons]
        cases hfield : formField field with
        | none => simp [hfield]
        | some part => cases hrest : query.mapM formField <;> simp_all
  simp only [urlencode, Option.bind_eq_bind, Option.bind_eq_none_iff, Option.pure_def,
    reduceCtorEq, imp_false, ← formField_eq_none, ← hfields]
  cases query.mapM formField <;> simp

end GmailGateway.Python
