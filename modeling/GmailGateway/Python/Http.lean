import GmailGateway.Python.Base64
import GmailGateway.Python.Urllib
import GmailGateway.Python.Utf8
import Mathlib.Data.List.SplitBy

/-!
# GmailGateway.Python.Http

What the HTTP handlers use of the standard library: `hmac.compare_digest`, which takes strings
of ASCII only, and `urllib.parse.parse_qsl`, which drops a pair without a value and decodes the
others. Decoding never fails: what is no UTF-8 becomes replacement characters, so that a value
is never empty.
-/

namespace GmailGateway.Python

def CodePoint.isAscii (c : CodePoint) : Bool := c.val < 0x80

/-- `s.isascii()`. -/
def isAscii (s : PyStr) : Bool := s.all CodePoint.isAscii

/-- `hmac.compare_digest(a, b)`, or `none` where Python raises `TypeError`. -/
def compareDigest (a b : PyStr) : Option Bool :=
  if isAscii a && isAscii b then some (a == b) else none

theorem compareDigest_of_isAscii {a b : PyStr} (ha : isAscii a = true) (hb : isAscii b = true) :
    compareDigest a b = some (a == b) := by
  rw [compareDigest, ha, hb]
  rfl

theorem compareDigest_eq_none {a b : PyStr} :
    compareDigest a b = none ↔ isAscii a = false ∨ isAscii b = false := by
  unfold compareDigest
  cases isAscii a <;> cases isAscii b <;> simp

theorem compareDigest_eq_true {a b : PyStr} :
    compareDigest a b = some true ↔ isAscii a = true ∧ a = b := by
  unfold compareDigest
  by_cases heq : a = b
  · subst heq
    cases isAscii a <;> simp
  · cases isAscii a <;> cases isAscii b <;> simp [heq]

namespace Base64

theorem isAscii_letter : ∀ v < 64, (letter v).isAscii = true := by decide

theorem isAscii_b64encode (data : Bytes) : isAscii (b64encode data) = true := by
  have hpad : pad.isAscii = true := by decide
  induction data using b64encode.induct with
  | case1 => rfl
  | case2 a =>
      have ha := a.toNat_lt
      simp [isAscii, b64encode, hpad, isAscii_letter (a.toNat / 4) (by omega),
        isAscii_letter (a.toNat % 4 * 16) (by omega)]
  | case3 a b =>
      have ha := a.toNat_lt
      have hb := b.toNat_lt
      simp [isAscii, b64encode, hpad, isAscii_letter (a.toNat / 4) (by omega),
        isAscii_letter (a.toNat % 4 * 16 + b.toNat / 16) (by omega),
        isAscii_letter (b.toNat % 16 * 4) (by omega)]
  | case4 a b c rest ih =>
      have ha := a.toNat_lt
      have hb := b.toNat_lt
      have hc := c.toNat_lt
      rw [isAscii] at ih
      simp [isAscii, b64encode, ih, isAscii_letter (a.toNat / 4) (by omega),
        isAscii_letter (a.toNat % 4 * 16 + b.toNat / 16) (by omega),
        isAscii_letter (b.toNat % 16 * 4 + c.toNat / 64) (by omega),
        isAscii_letter (c.toNat % 64) (by omega)]

/-- It begins with a letter. -/
theorem b64encode_head {data : Bytes} (h : data ≠ []) :
    ∃ v < 64, (b64encode data).head? = some (letter v) := by
  obtain ⟨a, rest, rfl⟩ := List.exists_cons_of_ne_nil h
  have ha := a.toNat_lt
  refine ⟨a.toNat / 4, by omega, ?_⟩
  rw [b64encode.eq_def]
  split <;> simp_all

end Base64

/-! ### Percent-decoding -/

/-- U+FFFD. -/
def replacementChar : CodePoint := Fin.ofNat 0x110000 0xFFFD

/-- `b` may follow the lead byte `a`: neither an overlong form nor a surrogate begins so, nor
anything beyond the last code point. -/
def maySecond (a b : UInt8) : Bool :=
  isTail b && (a.toNat ≠ 0xE0 || 0xA0 ≤ b.toNat) && (a.toNat ≠ 0xED || b.toNat ≤ 0x9F) &&
    (a.toNat ≠ 0xF0 || 0x90 ≤ b.toNat) && (a.toNat ≠ 0xF4 || b.toNat ≤ 0x8F)

/-- `data.decode("utf-8", "replace")`: one replacement for every longest beginning of a code
point that is not continued. -/
def decodeUtf8Replace : Bytes → PyStr
  | [] => []
  | a :: s =>
      if a.toNat < 0x80 then Fin.ofNat 0x110000 a.toNat :: decodeUtf8Replace s
      else if a.toNat < 0xC2 ∨ 0xF4 < a.toNat then replacementChar :: decodeUtf8Replace s
      else
        match s with
        | [] => [replacementChar]
        | b :: s =>
            if maySecond a b = false then replacementChar :: decodeUtf8Replace (b :: s)
            else if a.toNat < 0xE0 then
              Fin.ofNat 0x110000 ((a.toNat - 0xC0) * 0x40 + tailBits b) :: decodeUtf8Replace s
            else
              match s with
              | [] => [replacementChar]
              | c :: s =>
                  if isTail c = false then replacementChar :: decodeUtf8Replace (c :: s)
                  else if a.toNat < 0xF0 then
                    Fin.ofNat 0x110000 ((a.toNat - 0xE0) * 0x1000 + tailBits b * 0x40 +
                      tailBits c) :: decodeUtf8Replace s
                  else
                    match s with
                    | [] => [replacementChar]
                    | d :: s =>
                        if isTail d = false then replacementChar :: decodeUtf8Replace (d :: s)
                        else
                          Fin.ofNat 0x110000 ((a.toNat - 0xF0) * 0x40000 +
                            tailBits b * 0x1000 + tailBits c * 0x40 + tailBits d) ::
                              decodeUtf8Replace s

theorem decodeUtf8Replace_ne_nil {data : Bytes} (h : data ≠ []) : decodeUtf8Replace data ≠ [] := by
  rw [decodeUtf8Replace.eq_def]
  split
  · exact absurd rfl h
  · repeat' split
    all_goals exact List.cons_ne_nil _ _

/-- `unquote_to_bytes(s)` of ASCII. A `%` that no two digits follow stays. -/
def unquoteToBytes : PyStr → Bytes
  | [] => []
  | c :: x :: y :: s =>
      match hexValue? x, hexValue? y with
      | some hi, some lo =>
          if c = CodePoint.ofChar '%' then .ofNat (hi * 16 + lo) :: unquoteToBytes s
          else .ofNat c.val :: unquoteToBytes (x :: y :: s)
      | _, _ => .ofNat c.val :: unquoteToBytes (x :: y :: s)
  | c :: s => .ofNat c.val :: unquoteToBytes s

theorem unquoteToBytes_ne_nil {s : PyStr} (h : s ≠ []) : unquoteToBytes s ≠ [] := by
  rw [unquoteToBytes.eq_def]
  repeat' split
  · exact absurd rfl h
  all_goals exact List.cons_ne_nil _ _

/-- The longest pieces of ASCII and of other code points, in order. -/
def asciiRuns (s : PyStr) : List PyStr := s.splitBy fun c d => c.isAscii == d.isAscii

/-- `unquote(s)`. -/
def unquote (s : PyStr) : PyStr :=
  (asciiRuns s).flatMap fun run =>
    if isAscii run then decodeUtf8Replace (unquoteToBytes run) else run

theorem unquote_ne_nil {s : PyStr} (h : s ≠ []) : unquote s ≠ [] := by
  obtain ⟨run, runs, hruns⟩ := List.exists_cons_of_ne_nil
    (show asciiRuns s ≠ [] from fun hnil => h (List.splitBy_eq_nil.mp hnil))
  have hrun : run ≠ [] := by
    intro hnil
    refine List.nil_notMem_splitBy (fun c d : CodePoint => c.isAscii == d.isAscii) s ?_
    rw [asciiRuns] at hruns
    rw [hruns, hnil]
    exact List.mem_cons_self
  rw [unquote, hruns, List.flatMap_cons]
  refine List.append_ne_nil_of_left_ne_nil ?_ _
  split
  · exact decodeUtf8Replace_ne_nil (unquoteToBytes_ne_nil hrun)
  · exact hrun

/-! ### Reading a query -/

/-- `unquote(s.replace("+", " "))`. -/
def unquotePlus (s : PyStr) : PyStr :=
  unquote (s.map fun c => if c = CodePoint.ofChar '+' then CodePoint.ofChar ' ' else c)

/-- What stands before the first `sep` and what after it. -/
def partition (s : PyStr) (sep : CodePoint) : PyStr × PyStr :=
  (s.takeWhile (· ≠ sep), (s.dropWhile (· ≠ sep)).tail)

/-- One field of a query, unless it has no value. -/
def queryField (nameValue : PyStr) : Option (PyStr × PyStr) :=
  let field := partition nameValue (CodePoint.ofChar '=')
  if field.2 = [] then none else some (unquotePlus field.1, unquotePlus field.2)

/-- `parse_qsl(qs)`. -/
def parseQsl (qs : PyStr) : List (PyStr × PyStr) :=
  (qs.splitOn (CodePoint.ofChar '&')).filterMap queryField

/-- No value is empty. -/
theorem parseQsl_ne_nil {qs : PyStr} {field : PyStr × PyStr} (h : field ∈ parseQsl qs) :
    field.2 ≠ [] := by
  obtain ⟨nameValue, -, hfield⟩ := List.mem_filterMap.mp h
  by_cases hvalue : (partition nameValue (CodePoint.ofChar '=')).2 = []
  · rw [queryField, if_pos hvalue] at hfield
    cases hfield
  · rw [queryField, if_neg hvalue] at hfield
    cases hfield
    exact unquote_ne_nil (by simpa using hvalue)

/-- `d.setdefault(k, v)`. -/
def setdefault (d : List (PyStr × PyStr)) (field : PyStr × PyStr) : List (PyStr × PyStr) :=
  if d.any (·.1 = field.1) then d else d ++ [field]

/-- The first value of every key. -/
def firstValues (fields : List (PyStr × PyStr)) : List (PyStr × PyStr) :=
  fields.foldl setdefault []

theorem lookup_setdefault (d : List (PyStr × PyStr)) (field : PyStr × PyStr) (k : PyStr) :
    (setdefault d field).lookup k = (d ++ [field]).lookup k := by
  obtain ⟨name, value⟩ := field
  unfold setdefault
  split
  · rename_i hmem
    obtain ⟨other, hother, hkey⟩ := List.any_eq_true.mp hmem
    rw [List.lookup_append]
    by_cases hk : k = name
    · have hlookup : (d.lookup k).isSome = true := by
        rw [List.lookup_isSome_iff]
        exact ⟨other, hother, by rw [hk, of_decide_eq_true hkey, beq_self_eq_true]⟩
      obtain ⟨v, hv⟩ := Option.isSome_iff_exists.mp hlookup
      rw [hv]
      rfl
    · simp [List.lookup_cons, beq_eq_false_iff_ne.mpr hk]
  · rfl

theorem lookup_firstValues (fields : List (PyStr × PyStr)) (k : PyStr) :
    (firstValues fields).lookup k = fields.lookup k := by
  suffices hfold : ∀ d : List (PyStr × PyStr),
      (fields.foldl setdefault d).lookup k = (d ++ fields).lookup k from hfold []
  induction fields with
  | nil => intro d; rw [List.append_nil]; rfl
  | cons field fields ih =>
      intro d
      rw [List.foldl_cons, ih, List.lookup_append, lookup_setdefault, ← List.lookup_append,
        List.append_assoc]
      rfl

example : parseQsl (str "state=a%2Bb&code=4/x+y&error=&code=z&%C3=%E9%C3%A9") =
    [(str "state", str "a+b"), (str "code", str "4/x y"), (str "code", str "z"),
      ([replacementChar], replacementChar :: str "é")] := by decide +kernel

end GmailGateway.Python
