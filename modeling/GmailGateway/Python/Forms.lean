import GmailGateway.Python.Http

/-!
# GmailGateway.Python.Forms

**A form is read back.** `parse_qsl` inverts `urlencode`: every field comes back as it was, whatever
its characters, but for the fields without a value, which it drops.
-/

namespace GmailGateway.Python

/-! ### Decoding with replacement -/

/-- Decoding takes an encoded code point off the front. -/
theorem decodeUtf8Replace_utf8 {c : CodePoint} (h : c.isSurrogate = false) (s : Bytes) :
    decodeUtf8Replace (c.utf8 ++ s) = c :: decodeUtf8Replace s := by
  have hc := c.isLt
  have hback : ∀ n, n = c.val → Fin.ofNat 0x110000 n = c := by
    intro n hn
    exact Fin.ext ((Nat.mod_eq_of_lt (by omega)).trans hn)
  have hsur : ¬ (0xD800 ≤ c.val ∧ c.val ≤ 0xDFFF) := by
    simpa [CodePoint.isSurrogate] using h
  -- The low six bits, the six above them, and the six above those.
  have h₀ : c.val % 0x40 < 0x40 := Nat.mod_lt _ (by omega)
  have h₁ : c.val / 0x40 % 0x40 < 0x40 := Nat.mod_lt _ (by omega)
  have h₂ : c.val / 0x1000 % 0x40 < 0x40 := Nat.mod_lt _ (by omega)
  unfold CodePoint.utf8
  by_cases hone : c.val < 0x80
  · simp only [hone, if_true, List.cons_append, List.nil_append]
    rw [decodeUtf8Replace.eq_def]
    simp only [toNat_ofNat (show c.val < 256 by omega), hone, if_true, hback _ rfl]
  by_cases htwo : c.val < 0x800
  · have ha : 0xC0 + c.val / 0x40 < 256 := by omega
    have hn : (0xC0 + c.val / 0x40 - 0xC0) * 0x40 + c.val % 0x40 = c.val := by omega
    have hsecond :
        maySecond (.ofNat (0xC0 + c.val / 0x40)) (.ofNat (0x80 + c.val % 0x40)) = true := by
      simp only [maySecond, isTail_ofNat h₀, toNat_ofNat ha,
        toNat_ofNat (show 0x80 + c.val % 0x40 < 256 by omega)]
      simp
      omega
    simp only [hone, htwo, if_true, if_false, List.cons_append, List.nil_append]
    rw [decodeUtf8Replace.eq_def]
    simp only [toNat_ofNat ha, tailBits_ofNat h₀, hn, hsecond]
    rw [if_neg (by omega), if_neg (by omega), if_neg (by simp), if_pos (by omega), hback _ rfl]
  by_cases hthree : c.val < 0x10000
  · have ha : 0xE0 + c.val / 0x1000 < 256 := by omega
    have hn : (0xE0 + c.val / 0x1000 - 0xE0) * 0x1000 + c.val / 0x40 % 0x40 * 0x40 +
        c.val % 0x40 = c.val := by omega
    have hsecond : maySecond (.ofNat (0xE0 + c.val / 0x1000))
        (.ofNat (0x80 + c.val / 0x40 % 0x40)) = true := by
      simp only [maySecond, isTail_ofNat h₁, toNat_ofNat ha,
        toNat_ofNat (show 0x80 + c.val / 0x40 % 0x40 < 256 by omega)]
      simp
      omega
    simp only [hone, htwo, hthree, if_true, if_false, List.cons_append, List.nil_append]
    rw [decodeUtf8Replace.eq_def]
    simp only [toNat_ofNat ha, isTail_ofNat h₀, tailBits_ofNat h₀, tailBits_ofNat h₁, hn, hsecond]
    rw [if_neg (by omega), if_neg (by omega), if_neg (by simp), if_neg (by omega), if_neg (by simp),
      if_pos (by omega), hback _ rfl]
  · have ha : 0xF0 + c.val / 0x40000 < 256 := by omega
    have hn : (0xF0 + c.val / 0x40000 - 0xF0) * 0x40000 + c.val / 0x1000 % 0x40 * 0x1000 +
        c.val / 0x40 % 0x40 * 0x40 + c.val % 0x40 = c.val := by omega
    have hsecond : maySecond (.ofNat (0xF0 + c.val / 0x40000))
        (.ofNat (0x80 + c.val / 0x1000 % 0x40)) = true := by
      simp only [maySecond, isTail_ofNat h₂, toNat_ofNat ha,
        toNat_ofNat (show 0x80 + c.val / 0x1000 % 0x40 < 256 by omega)]
      simp
      omega
    simp only [hone, htwo, hthree, if_false, List.cons_append, List.nil_append]
    rw [decodeUtf8Replace.eq_def]
    simp only [toNat_ofNat ha, isTail_ofNat h₀, tailBits_ofNat h₀, isTail_ofNat h₁,
      tailBits_ofNat h₁, tailBits_ofNat h₂, hn, hsecond]
    rw [if_neg (by omega), if_neg (by omega), if_neg (by simp), if_neg (by omega), if_neg (by simp),
      if_neg (by omega), if_neg (by simp), hback _ rfl]

theorem decodeUtf8Replace_encodeUtf8 {s : PyStr} {data : Bytes} (h : encodeUtf8 s = some data) :
    decodeUtf8Replace data = s := by
  have hsur : s.any CodePoint.isSurrogate = false := by
    by_contra hs
    rw [Bool.not_eq_false] at hs
    rw [encodeUtf8, if_pos hs] at h
    cases h
  rw [encodeUtf8, hsur] at h
  cases h
  induction s with
  | nil => rfl
  | cons c s ih =>
      rw [List.any_cons, Bool.or_eq_false_iff] at hsur
      rw [List.flatMap_cons, decodeUtf8Replace_utf8 hsur.1, ih hsur.2]

/-! ### One value -/

/-- A plus stands for a space. -/
def plusToSpace (c : CodePoint) : CodePoint :=
  if c = CodePoint.ofChar '+' then CodePoint.ofChar ' ' else c

/-- Every byte is written in ASCII, and without the separators of a form. -/
theorem quoteByte_chars (b : UInt8) : ∀ c ∈ quoteByte b,
    c.isAscii = true ∧ c ≠ CodePoint.ofChar '&' ∧ c ≠ CodePoint.ofChar '=' := by
  have hplain : ∀ n < 256, isUnreserved (.ofNat n) = true →
      CodePoint.isAscii (Fin.ofNat 0x110000 n) = true ∧
      Fin.ofNat 0x110000 n ≠ CodePoint.ofChar '&' ∧
      Fin.ofNat 0x110000 n ≠ CodePoint.ofChar '=' := by
    decide +kernel
  have hdigit : ∀ n < 16, (upperDigit n).isAscii = true ∧ upperDigit n ≠ CodePoint.ofChar '&' ∧
      upperDigit n ≠ CodePoint.ofChar '=' := by decide
  have hb := b.toNat_lt
  unfold quoteByte
  intro c hc
  split at hc
  · rename_i hkept
    rw [← UInt8.ofNat_toNat (x := b)] at hkept
    rw [List.mem_singleton.mp hc]
    exact hplain _ hb hkept
  split at hc
  · rw [List.mem_singleton.mp hc]
    decide
  · simp only [List.mem_cons, List.not_mem_nil, or_false] at hc
    rcases hc with rfl | rfl | rfl
    · decide
    · exact hdigit _ (by omega)
    · exact hdigit _ (by omega)

theorem hexValue?_plusToSpace : ∀ n < 16, hexValue? (plusToSpace (upperDigit n)) = some n := by decide

/-- Only an escape is more than its own byte. -/
theorem unquoteToBytes_cons {c : CodePoint} (h : c ≠ CodePoint.ofChar '%') (s : PyStr) :
    unquoteToBytes (c :: s) = .ofNat c.val :: unquoteToBytes s := by
  rw [unquoteToBytes.eq_def]
  split
  · rename_i heq
    cases heq
  · rename_i heq
    cases heq
    split <;> simp [h]
  · rename_i heq
    cases heq
    rfl

/-- A byte is read back. -/
theorem unquoteToBytes_quoteByte (b : UInt8) (s : PyStr) :
    unquoteToBytes ((quoteByte b).map plusToSpace ++ s) = b :: unquoteToBytes s := by
  have hb := b.toNat_lt
  unfold quoteByte
  split
  · have hplain : ∀ n < 256, isUnreserved (.ofNat n) = true →
        plusToSpace (Fin.ofNat 0x110000 n) ≠ CodePoint.ofChar '%' ∧
          (plusToSpace (Fin.ofNat 0x110000 n)).val = n := by decide +kernel
    rename_i hkept
    rw [← UInt8.ofNat_toNat (x := b)] at hkept
    obtain ⟨hne, hval⟩ := hplain b.toNat hb hkept
    rw [List.map_singleton, List.singleton_append, unquoteToBytes_cons hne, hval,
      UInt8.ofNat_toNat]
  split
  · rename_i hspace
    have hplus : (str "+").map plusToSpace = [CodePoint.ofChar ' '] := by decide
    rw [hplus, List.singleton_append, unquoteToBytes_cons (by decide)]
    have hbyte : (CodePoint.ofChar ' ').val = b.toNat := by rw [hspace]; decide
    rw [hbyte, UInt8.ofNat_toNat]
  · have hpercent : plusToSpace (CodePoint.ofChar '%') = CodePoint.ofChar '%' := by decide
    simp only [List.map_cons, List.map_nil, List.cons_append, List.nil_append, hpercent]
    rw [unquoteToBytes, hexValue?_plusToSpace _ (by omega), hexValue?_plusToSpace _ (by omega)]
    simp only [if_true]
    rw [show b.toNat / 16 * 16 + b.toNat % 16 = b.toNat by omega, UInt8.ofNat_toNat]

theorem unquoteToBytes_quoted (data : Bytes) :
    unquoteToBytes ((data.flatMap quoteByte).map plusToSpace) = data := by
  induction data with
  | nil => rfl
  | cons b data ih =>
      rw [List.flatMap_cons, List.map_append, unquoteToBytes_quoteByte, ih]

/-- ASCII is one run. -/
theorem unquote_of_isAscii {s : PyStr} (hs : isAscii s = true) :
    unquote s = decodeUtf8Replace (unquoteToBytes s) := by
  by_cases hnil : s = []
  · subst hnil
    rfl
  · have hall := List.all_eq_true.mp hs
    have hruns : asciiRuns s = [s] := by
      refine List.splitBy_of_isChain hnil ?_
      refine (List.Pairwise.isChain (List.pairwise_of_forall_mem_list fun c hc d hd => ?_))
      rw [hall c hc, hall d hd]
      rfl
    rw [unquote, hruns, List.flatMap_singleton, if_pos hs]

theorem quotePlus_chars {s quoted : PyStr} (h : quotePlus s = some quoted) : ∀ c ∈ quoted,
    c.isAscii = true ∧ c ≠ CodePoint.ofChar '&' ∧ c ≠ CodePoint.ofChar '=' := by
  obtain ⟨data, -, rfl⟩ := Option.map_eq_some_iff.mp h
  intro c hc
  obtain ⟨b, -, hb⟩ := List.mem_flatMap.mp hc
  exact quoteByte_chars b c hb

/-- **A value is read back.** -/
theorem unquotePlus_quotePlus {s quoted : PyStr} (h : quotePlus s = some quoted) :
    unquotePlus quoted = s := by
  obtain ⟨data, hdata, rfl⟩ := Option.map_eq_some_iff.mp h
  have hascii : isAscii ((data.flatMap quoteByte).map plusToSpace) = true := by
    refine List.all_eq_true.mpr fun c hc => ?_
    obtain ⟨d, hd, rfl⟩ := List.mem_map.mp hc
    rw [plusToSpace]
    split
    · decide
    · exact (quotePlus_chars h d hd).1
  change unquote ((data.flatMap quoteByte).map plusToSpace) = s
  rw [unquote_of_isAscii hascii, unquoteToBytes_quoted, decodeUtf8Replace_encodeUtf8 hdata]

theorem quotePlus_eq_nil {s quoted : PyStr} (h : quotePlus s = some quoted) :
    quoted = [] ↔ s = [] := by
  constructor
  · intro hnil
    rw [← unquotePlus_quotePlus h, hnil]
    rfl
  · intro hnil
    rw [hnil] at h
    cases h
    rfl

/-! ### A form -/

theorem partition_eq {k v : PyStr} {sep : CodePoint} (hk : sep ∉ k) :
    partition (k ++ sep :: v) sep = (k, v) := by
  have hall : ∀ c ∈ k, decide (c ≠ sep) = true := by
    intro c hc
    exact decide_eq_true fun heq => hk (heq ▸ hc)
  rw [partition, List.takeWhile_append_of_pos hall, List.dropWhile_append_of_pos hall]
  simp

/-- A field is read back, unless its value is empty. -/
theorem queryField_formField {field : PyStr × PyStr} {text : PyStr}
    (h : formField field = some text) :
    queryField text = if field.2 = [] then none else some field := by
  obtain ⟨k, v⟩ := field
  simp only [formField, Option.bind_eq_bind, Option.bind_eq_some_iff, Option.pure_def,
    Option.some.injEq] at h
  obtain ⟨k', hk, v', hv, rfl⟩ := h
  have hsep : CodePoint.ofChar '=' ∉ k' := fun hmem => (quotePlus_chars hk _ hmem).2.2 rfl
  have hparts : partition (k' ++ str "=" ++ v') (CodePoint.ofChar '=') = (k', v') := by
    rw [List.append_assoc]
    exact partition_eq hsep
  simp only [queryField, hparts, quotePlus_eq_nil hv, unquotePlus_quotePlus hk,
    unquotePlus_quotePlus hv]

theorem formField_amp {field : PyStr × PyStr} {text : PyStr} (h : formField field = some text) :
    CodePoint.ofChar '&' ∉ text := by
  simp only [formField, Option.bind_eq_bind, Option.bind_eq_some_iff, Option.pure_def,
    Option.some.injEq] at h
  obtain ⟨k, hk, v, hv, rfl⟩ := h
  simp only [List.mem_append, not_or]
  exact ⟨⟨fun hmem => (quotePlus_chars hk _ hmem).2.1 rfl, by decide⟩,
    fun hmem => (quotePlus_chars hv _ hmem).2.1 rfl⟩

theorem forall₂_of_mapM {α β : Type} {f : α → Option β} {xs : List α} {ys : List β}
    (h : xs.mapM f = some ys) : List.Forall₂ (fun x y => f x = some y) xs ys := by
  induction xs generalizing ys with
  | nil =>
      cases h
      exact .nil
  | cons x xs ih =>
      simp only [List.mapM_cons, Option.bind_eq_bind, Option.bind_eq_some_iff, Option.pure_def,
        Option.some.injEq] at h
      obtain ⟨y, hy, ys, hys, rfl⟩ := h
      exact .cons hy (ih hys)

/-- **A form is read back.** -/
theorem parseQsl_urlencode {query : List (PyStr × PyStr)} {text : PyStr}
    (h : urlencode query = some text) : parseQsl text = query.filter (·.2 ≠ []) := by
  simp only [urlencode, Option.bind_eq_bind, Option.bind_eq_some_iff, Option.pure_def,
    Option.some.injEq] at h
  obtain ⟨fields, hfields, rfl⟩ := h
  have hpairs := forall₂_of_mapM hfields
  have hread : fields.filterMap queryField = query.filter (·.2 ≠ []) := by
    clear hfields
    induction hpairs with
    | nil => rfl
    | @cons field text query fields hfield _ ih =>
        rw [List.filterMap_cons, List.filter_cons, queryField_formField hfield, ih]
        by_cases hvalue : field.2 = [] <;> simp [hvalue]
  by_cases hnil : fields = []
  · subst hnil
    rw [← hread]
    rfl
  · have hamp : ∀ text ∈ fields, CodePoint.ofChar '&' ∉ text := by
      clear hfields hread hnil
      induction hpairs with
      | nil => simp
      | cons hfield _ ih =>
          rw [List.forall_mem_cons]
          exact ⟨formField_amp hfield, ih⟩
    rw [parseQsl, str, ← hread]
    exact congrArg _ (List.splitOn_intercalate _ hamp hnil)

/-! ### The bytes of a form -/

theorem isSurrogate_of_isAscii {c : CodePoint} (h : c.isAscii = true) : c.isSurrogate = false := by
  have hlt : c.val < 0x80 := of_decide_eq_true h
  simp only [CodePoint.isSurrogate, Bool.and_eq_false_iff, decide_eq_false_iff_not]
  omega

/-- Text in ASCII is encoded. -/
theorem encodeUtf8_of_isAscii {s : PyStr} (h : isAscii s = true) :
    encodeUtf8 s = some (s.flatMap CodePoint.utf8) := by
  rw [encodeUtf8, if_neg]
  intro hsur
  obtain ⟨c, hc, hcsur⟩ := List.any_eq_true.mp hsur
  rw [isSurrogate_of_isAscii (List.all_eq_true.mp h c hc)] at hcsur
  cases hcsur

theorem isAscii_append {s t : PyStr} : isAscii (s ++ t) = (isAscii s && isAscii t) :=
  List.all_append

theorem isAscii_intercalate {sep : PyStr} (hsep : isAscii sep = true) {parts : List PyStr}
    (hparts : ∀ part ∈ parts, isAscii part = true) :
    isAscii (List.intercalate sep parts) = true := by
  induction parts with
  | nil => rfl
  | cons part parts ih =>
      rw [List.forall_mem_cons] at hparts
      by_cases hnil : parts = []
      · subst hnil
        rw [List.intercalate_singleton]
        exact hparts.1
      · rw [List.intercalate_cons_of_ne_nil hnil, isAscii_append, isAscii_append, hparts.1, hsep,
          ih hparts.2]
        rfl

theorem isAscii_quotePlus {s quoted : PyStr} (h : quotePlus s = some quoted) :
    isAscii quoted = true := List.all_eq_true.mpr fun c hc => (quotePlus_chars h c hc).1

theorem isAscii_urlencode {query : List (PyStr × PyStr)} {text : PyStr}
    (h : urlencode query = some text) : isAscii text = true := by
  simp only [urlencode, Option.bind_eq_bind, Option.bind_eq_some_iff, Option.pure_def,
    Option.some.injEq] at h
  obtain ⟨fields, hfields, rfl⟩ := h
  have hpairs := forall₂_of_mapM hfields
  refine isAscii_intercalate (by decide) fun text htext => ?_
  clear hfields
  induction hpairs with
  | nil => cases htext
  | @cons field text' query fields hfield _ ih =>
      rcases List.mem_cons.mp htext with rfl | htext
      · simp only [formField, Option.bind_eq_bind, Option.bind_eq_some_iff, Option.pure_def,
          Option.some.injEq] at hfield
        obtain ⟨k, hk, v, hv, rfl⟩ := hfield
        rw [isAscii_append, isAscii_append, isAscii_quotePlus hk, isAscii_quotePlus hv]
        rfl
      · exact ih htext

example : (urlencode [(str "q", str "a+b=c&é"), (str "empty", [])]).map parseQsl =
    some [(str "q", str "a+b=c&é")] := by decide +kernel

end GmailGateway.Python
