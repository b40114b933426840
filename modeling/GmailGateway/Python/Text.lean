import Mathlib.Algebra.Order.BigOperators.Group.List
import Mathlib.Data.List.Lex
import Mathlib.Data.List.Sort
import Mathlib.Data.Nat.Digits.Lemmas
import Mathlib.Data.Rat.Defs
import Mathlib.Data.UInt

/-!
# GmailGateway.Python.Text

**Python `str` and `bytes`.** A Python string is a sequence of code points, and
unlike a Lean `String` it may hold unpaired surrogates: `json.loads` produces them
from `"\\ud800"`, and every later `encode` then raises. The model keeps them.

`encodeUtf8` and `encodeUtf16be` are the two codecs the source uses; both have no
encoding for a surrogate. `decimal` is `str(int)`.
-/

namespace GmailGateway.Python

/-- A Unicode code point, surrogates included. -/
abbrev CodePoint := Fin 0x110000

/-- A Python `str`. -/
abbrev PyStr := List CodePoint

/-- A Python `bytes`. -/
abbrev Bytes := List UInt8

instance codePoints_neZero : NeZero 0x110000 := ⟨by decide⟩

instance : LawfulBEq CodePoint := inferInstance

instance : LawfulBEq PyStr := inferInstance

/-- The code point of a literal character. -/
def CodePoint.ofChar (c : Char) : CodePoint := Fin.ofNat 0x110000 c.toNat

/-- A string literal of the source. -/
def str (s : String) : PyStr := s.toList.map CodePoint.ofChar

/-! ### Codecs -/

/-- UTF-16 surrogates: the code points no Unicode encoding form can carry. -/
def CodePoint.isSurrogate (c : CodePoint) : Bool := 0xD800 ≤ c.val && c.val ≤ 0xDFFF

/-- The UTF-8 bytes of a code point that is not a surrogate. -/
def CodePoint.utf8 (c : CodePoint) : Bytes :=
  let n := c.val
  if n < 0x80 then [.ofNat n]
  else if n < 0x800 then [.ofNat (0xC0 + n / 0x40), .ofNat (0x80 + n % 0x40)]
  else if n < 0x10000 then
    [.ofNat (0xE0 + n / 0x1000), .ofNat (0x80 + n / 0x40 % 0x40), .ofNat (0x80 + n % 0x40)]
  else
    [.ofNat (0xF0 + n / 0x40000), .ofNat (0x80 + n / 0x1000 % 0x40),
      .ofNat (0x80 + n / 0x40 % 0x40), .ofNat (0x80 + n % 0x40)]

/-- The UTF-16 code units of a code point. -/
def CodePoint.utf16 (c : CodePoint) : List Nat :=
  if c.val < 0x10000 then [c.val]
  else [0xD800 + (c.val - 0x10000) / 0x400, 0xDC00 + (c.val - 0x10000) % 0x400]

/-- `s.encode("utf-8")`, or `none` where Python raises `UnicodeEncodeError`. -/
def encodeUtf8 (s : PyStr) : Option Bytes :=
  if s.any CodePoint.isSurrogate then none else some (s.flatMap CodePoint.utf8)

/-- `s.encode("utf-16-be")`, or `none` where Python raises `UnicodeEncodeError`. -/
def encodeUtf16be (s : PyStr) : Option Bytes :=
  if s.any CodePoint.isSurrogate then none
  else some ((s.flatMap CodePoint.utf16).flatMap fun u => [.ofNat (u / 0x100), .ofNat (u % 0x100)])

/-! ### Words -/

/-- `c.isspace()`. -/
def CodePoint.isSpace (c : CodePoint) : Bool :=
  let n := c.val
  (0x9 ≤ n && n ≤ 0xD) || (0x1C ≤ n && n ≤ 0x20) || (0x2000 ≤ n && n ≤ 0x200A) ||
    n ∈ [0x85, 0xA0, 0x1680, 0x2028, 0x2029, 0x202F, 0x205F, 0x3000]

/-- `s.split()`: the words between runs of white space. -/
def splitWords (s : PyStr) : List PyStr :=
  let close (read : PyStr × List PyStr) := if read.1 = [] then read.2 else read.1 :: read.2
  close (s.foldr (fun c read => if c.isSpace then ([], close read) else (c :: read.1, read.2))
    ([], []))

example : splitWords (str " gmail.send\tmail ") = [str "gmail.send", str "mail"] := by decide

/-! ### Decimal rendering -/

/-- The digit character of `d < 10`. -/
def digitChar (d : Nat) : CodePoint := Fin.ofNat 0x110000 (0x30 + d)

/-- `str(n)` of a non-negative integer. -/
def natDecimal (n : Nat) : PyStr :=
  if n = 0 then [digitChar 0] else (Nat.digits 10 n).reverse.map digitChar

/-- `str(i)`. -/
def decimal : Int → PyStr
  | .ofNat n => natDecimal n
  | .negSucc n => CodePoint.ofChar '-' :: natDecimal (n + 1)

/-! ### Digits -/

/-- `[0-9]`. -/
def isDigit (c : CodePoint) : Bool := 0x30 ≤ c.val && c.val ≤ 0x39

/-- The lower-case digit of `d < 16`. -/
def hexDigit (d : Nat) : CodePoint := Fin.ofNat 0x110000 (if d < 10 then 0x30 + d else 0x57 + d)

/-- The value of a hexadecimal digit, of either case. -/
def hexValue? (c : CodePoint) : Option Nat :=
  if 0x30 ≤ c.val ∧ c.val ≤ 0x39 then some (c.val - 0x30)
  else if 0x61 ≤ c.val ∧ c.val ≤ 0x66 then some (c.val - 0x57)
  else if 0x41 ≤ c.val ∧ c.val ≤ 0x46 then some (c.val - 0x37)
  else none

theorem hexValue?_hexDigit : ∀ d < 16, hexValue? (hexDigit d) = some d := by decide

/-! ### Digits of an integer -/

/-- `sys.set_int_max_str_digits`: `int` raises on a longer string, and so does `%d` on an integer
with more digits. -/
def intMaxStrDigits : Nat := 4300

example : decimal (-120) = str "-120" := by decide

end GmailGateway.Python
