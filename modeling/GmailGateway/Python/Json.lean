import GmailGateway.Python.Value

/-!
# GmailGateway.Python.Json

**The JSON grammar.** A parser for JSON text, as `json.loads` reads it: white space
between tokens, the escapes of strings with joined surrogate pairs, integers kept apart
from the numbers with a fraction or an exponent, and the three constants that Python takes
although the grammar does not have them. What Python makes of a fraction, `float(text)`, is
a parameter.

The members of an object are kept as they stand in the text. The parser recurses on a
fuel that every token uses up, so the length of the text is enough of it.
-/

namespace GmailGateway.Python.Json

/-! ### Tokens -/

/-- White space between tokens. -/
def isWs (c : CodePoint) : Bool := c.val = 0x20 || c.val = 0x09 || c.val = 0x0A || c.val = 0x0D

/-- The text from the next token on. -/
def skipWs : PyStr → PyStr
  | [] => []
  | c :: s => if isWs c then skipWs s else c :: s

/-- The text after the literal `lit`. -/
def afterLiteral : PyStr → PyStr → Option PyStr
  | [], s => some s
  | _ :: _, [] => none
  | l :: lit, c :: s => if l = c then afterLiteral lit s else none

/-! ### Strings -/

/-- The four digits of `\uXXXX`. -/
def hex4? (a b c d : CodePoint) : Option Nat := do
  let a ← hexValue? a
  let b ← hexValue? b
  let c ← hexValue? c
  let d ← hexValue? d
  pure (((a * 16 + b) * 16 + c) * 16 + d)

/-- What a one-letter escape stands for. -/
def shortEscape? (c : CodePoint) : Option CodePoint :=
  if c.val = 0x22 ∨ c.val = 0x5C ∨ c.val = 0x2F then some c
  else if c.val = 0x62 then some (Fin.ofNat 0x110000 0x08)
  else if c.val = 0x66 then some (Fin.ofNat 0x110000 0x0C)
  else if c.val = 0x6E then some (Fin.ofNat 0x110000 0x0A)
  else if c.val = 0x72 then some (Fin.ofNat 0x110000 0x0D)
  else if c.val = 0x74 then some (Fin.ofNat 0x110000 0x09)
  else none

/-- One escaped or literal character of a string, and what follows it. An escaped high
surrogate takes an escaped low one with it. -/
def parseChar : PyStr → Option (CodePoint × PyStr)
  | [] => none
  | c :: s =>
      if c.val = 0x5C then
        match s with
        | [] => none
        | e :: s =>
            if e.val = 0x75 then
              match s with
              | h₁ :: h₂ :: h₃ :: h₄ :: s => do
                  let hi ← hex4? h₁ h₂ h₃ h₄
                  match lowSurrogate? hi s with
                  | some (lo, s) =>
                      pure (Fin.ofNat 0x110000 (0x10000 + (hi - 0xD800) * 0x400 + (lo - 0xDC00)), s)
                  | none => pure (Fin.ofNat 0x110000 hi, s)
              | _ => none
            else (shortEscape? e).map fun c => (c, s)
      -- Control characters have to be escaped.
      else if c.val < 0x20 then none
      else some (c, s)
where
  lowSurrogate? (hi : Nat) : PyStr → Option (Nat × PyStr)
    | b :: u :: h₁ :: h₂ :: h₃ :: h₄ :: s => do
        let lo ← hex4? h₁ h₂ h₃ h₄
        if 0xD800 ≤ hi ∧ hi ≤ 0xDBFF ∧ b.val = 0x5C ∧ u.val = 0x75 ∧ 0xDC00 ≤ lo ∧ lo ≤ 0xDFFF then
          some (lo, s)
        else none
    | _ => none

/-- The characters of a string up to its closing quote, and what follows that. -/
def parseChars : Nat → PyStr → Option (PyStr × PyStr)
  | 0, _ => none
  | _ + 1, [] => none
  | n + 1, c :: s =>
      if c.val = 0x22 then some ([], s)
      else do
        let (c, s) ← parseChar (c :: s)
        let (cs, s) ← parseChars n s
        pure (c :: cs, s)

/-! ### Numbers -/

/-- What a digit counts. -/
def digitValue (c : CodePoint) : Nat := c.val - 0x30

/-- The number a row of digits denotes. -/
def digitsValue (ds : PyStr) : Nat := Nat.ofDigits 10 (ds.reverse.map digitValue)

/-- The digits of an integer: no leading zero. -/
def intDigits : PyStr → PyStr × PyStr
  | [] => ([], [])
  | c :: s =>
      if c.val = 0x30 then ([c], s) else ((c :: s).takeWhile isDigit, (c :: s).dropWhile isDigit)

/-- `(\.[0-9]+)?`, and what follows it. -/
def fraction : PyStr → PyStr × PyStr
  | [] => ([], [])
  | c :: s =>
      if c.val = 0x2E ∧ s.takeWhile isDigit ≠ [] then
        (c :: s.takeWhile isDigit, s.dropWhile isDigit)
      else ([], c :: s)

/-- `[+-]?`, and what follows it. -/
def sign : PyStr → PyStr × PyStr
  | [] => ([], [])
  | c :: s => if c.val = 0x2B ∨ c.val = 0x2D then ([c], s) else ([], c :: s)

/-- `([eE][+-]?[0-9]+)?`, and what follows it. -/
def exponent : PyStr → PyStr × PyStr
  | [] => ([], [])
  | c :: s =>
      if (c.val = 0x65 ∨ c.val = 0x45) ∧ (sign s).2.takeWhile isDigit ≠ [] then
        (c :: (sign s).1 ++ (sign s).2.takeWhile isDigit, (sign s).2.dropWhile isDigit)
      else ([], c :: s)

/-- `-?`, and what follows it. -/
def minus : PyStr → Bool × PyStr
  | [] => (false, [])
  | c :: s => if c.val = 0x2D then (true, s) else (false, c :: s)

/-- The integer with its sign. -/
def signed (negative : Bool) (n : Nat) : Int := if negative then -n else n

section
variable (toFloat : PyStr → PyFloat)

/-- A number: an `int`, unless it has a fraction or an exponent. -/
def parseNumber (s : PyStr) : Option (PyVal × PyStr) :=
  let (negative, s) := minus s
  let (digits, s) := intDigits s
  let (frac, s) := fraction s
  let (expo, s) := exponent s
  if digits = [] then none
  else if frac = [] ∧ expo = [] then some (.int (signed negative (digitsValue digits)), s)
  else
    let text := (if negative then [CodePoint.ofChar '-'] else []) ++ digits ++ frac ++ expo
    some (.float (toFloat text), s)

/-- `NaN`, `Infinity` and `-Infinity`, which no JSON text holds and `json.loads` takes for floats. -/
def parseConstant (s : PyStr) : Option (PyVal × PyStr) :=
  ((afterLiteral (str "NaN") s).map fun s => (.float .nan, s)).or
    (((afterLiteral (str "Infinity") s).map fun s => (.float (.inf false), s)).or
      ((afterLiteral (str "-Infinity") s).map fun s => (.float (.inf true), s)))

/-! ### Values -/

mutual

/-- A value at the start of the text, and what follows it. -/
def parseValue : Nat → PyStr → Option (PyVal × PyStr)
  | 0, _ => none
  | _ + 1, [] => none
  | n + 1, c :: s =>
      if c.val = 0x22 then (parseChars n s).map fun (text, s) => (.str text, s)
      else if c.val = 0x5B then
        match skipWs s with
        | [] => none
        | d :: s =>
            if d.val = 0x5D then some (.list [], s)
            else (parseItems n (d :: s)).map fun (xs, s) => (.list xs, s)
      else if c.val = 0x7B then
        match skipWs s with
        | [] => none
        | d :: s =>
            if d.val = 0x7D then some (.dict [], s)
            else (parseMembers n (d :: s)).map fun (members, s) => (.dict members, s)
      else if c.val = 0x6E then (afterLiteral (str "ull") s).map fun s => (.none, s)
      else if c.val = 0x74 then (afterLiteral (str "rue") s).map fun s => (.bool true, s)
      else if c.val = 0x66 then (afterLiteral (str "alse") s).map fun s => (.bool false, s)
      else (parseNumber toFloat (c :: s)).or (parseConstant (c :: s))

/-- The items of a list up to its closing bracket. -/
def parseItems : Nat → PyStr → Option (List PyVal × PyStr)
  | 0, _ => none
  | n + 1, s => do
      let (v, s) ← parseValue n s
      match skipWs s with
      | [] => none
      | d :: s =>
          if d.val = 0x2C then do
            let (vs, s) ← parseItems n (skipWs s)
            pure (v :: vs, s)
          else if d.val = 0x5D then some ([v], s)
          else none

/-- The members of an object up to its closing brace. -/
def parseMembers : Nat → PyStr → Option (List (PyStr × PyVal) × PyStr)
  | 0, _ => none
  | _ + 1, [] => none
  | n + 1, c :: s =>
      if c.val = 0x22 then do
        let (key, s) ← parseChars n s
        match skipWs s with
        | [] => none
        | d :: s =>
            if d.val = 0x3A then do
              let (v, s) ← parseValue n (skipWs s)
              match skipWs s with
              | [] => none
              | d :: s =>
                  if d.val = 0x2C then do
                    let (members, s) ← parseMembers n (skipWs s)
                    pure ((key, v) :: members, s)
                  else if d.val = 0x7D then some ([(key, v)], s)
                  else none
            else none
      else none

end

/-- A whole JSON text. -/
def parse (text : PyStr) : Option PyVal := do
  let (v, s) ← parseValue toFloat text.length (skipWs text)
  if skipWs s = [] then some v else none

end

example : parse (fun _ => .nan) (str "-Infinity") = some (.float (.inf true)) := by rfl

example : (parse (fun _ => .nan) (str " \x7b \"a\\u00e9\\/\" : [ -12, true ] \x7d ")).isSome = true := by
  decide +kernel

end GmailGateway.Python.Json
