import GmailGateway.Python.Text

/-!
# GmailGateway.Python.Utf16

**UTF-16 as an order.** Comparing two big-endian UTF-16 encodings byte by byte is comparing
their code units, for texts of any length; and the code units determine the text. So the
encodings order texts strictly: no two of them tie.
-/

namespace GmailGateway.Python

/-- The UTF-16 code units of a string. -/
def codeUnits (s : PyStr) : List Nat := s.flatMap CodePoint.utf16

/-- The big-endian bytes of a code unit. -/
def unitBytes (u : Nat) : Bytes := [.ofNat (u / 0x100), .ofNat (u % 0x100)]

/-- Every code unit has 16 bits. -/
theorem lt_of_mem_codeUnits {s : PyStr} {u : Nat} (h : u ∈ codeUnits s) : u < 0x10000 := by
  obtain ⟨c, -, hc⟩ := List.mem_flatMap.mp h
  unfold CodePoint.utf16 at hc
  split at hc
  · simp only [List.mem_singleton] at hc
    omega
  · have hbound := c.isLt
    simp only [List.mem_cons, List.not_mem_nil, or_false] at hc
    omega

theorem encodeUtf16be_eq {s : PyStr} (h : s.any CodePoint.isSurrogate = false) :
    encodeUtf16be s = some ((codeUnits s).flatMap unitBytes) := by
  rw [encodeUtf16be, h]
  rfl

/-! ### Comparing bytes is comparing code units -/

theorem ofNat_lt_ofNat {m n : Nat} (hm : m < 0x100) (hn : n < 0x100) :
    UInt8.ofNat m < UInt8.ofNat n ↔ m < n := by
  rw [UInt8.lt_iff_toNat_lt, UInt8.toNat_ofNat', UInt8.toNat_ofNat', Nat.mod_eq_of_lt hm,
    Nat.mod_eq_of_lt hn]

theorem ofNat_inj {m n : Nat} (hm : m < 0x100) (hn : n < 0x100) :
    UInt8.ofNat m = UInt8.ofNat n ↔ m = n := by
  rw [← UInt8.toNat_inj, UInt8.toNat_ofNat', UInt8.toNat_ofNat', Nat.mod_eq_of_lt hm,
    Nat.mod_eq_of_lt hn]

/-- Two units are compared by the first byte in which they differ, and then what follows. -/
theorem unitBytes_append_lt {u v : Nat} (hu : u < 0x10000) (hv : v < 0x10000) (x y : Bytes) :
    unitBytes u ++ x < unitBytes v ++ y ↔ u < v ∨ u = v ∧ x < y := by
  simp only [unitBytes, List.cons_append, List.nil_append, List.cons_lt_cons_iff]
  rw [ofNat_lt_ofNat (by omega) (by omega), ofNat_inj (by omega) (by omega),
    ofNat_lt_ofNat (by omega) (by omega), ofNat_inj (by omega) (by omega)]
  constructor
  · rintro (h | ⟨h, h' | ⟨h', hxy⟩⟩)
    · exact .inl (by omega)
    · exact .inl (by omega)
    · exact .inr ⟨by omega, hxy⟩
  · rintro (h | ⟨rfl, hxy⟩)
    · by_cases hhigh : u / 0x100 = v / 0x100
      · exact .inr ⟨hhigh, .inl (by omega)⟩
      · exact .inl (by omega)
    · exact .inr ⟨rfl, .inr ⟨rfl, hxy⟩⟩

theorem flatMap_unitBytes_lt : ∀ {us vs : List Nat}, (∀ u ∈ us, u < 0x10000) →
    (∀ v ∈ vs, v < 0x10000) → (us.flatMap unitBytes < vs.flatMap unitBytes ↔ us < vs)
  | [], [], _, _ => by simp
  | [], v :: vs, _, _ => by simp [unitBytes]
  | u :: us, [], _, _ => by simp
  | u :: us, v :: vs, hu, hv => by
      rw [List.flatMap_cons, List.flatMap_cons, unitBytes_append_lt (hu u List.mem_cons_self)
        (hv v List.mem_cons_self), List.cons_lt_cons_iff,
        flatMap_unitBytes_lt (fun u h => hu u (List.mem_cons_of_mem _ h))
          fun v h => hv v (List.mem_cons_of_mem _ h)]

/-- **Byte order is code unit order.** -/
theorem utf16Bytes_lt (s t : PyStr) :
    (codeUnits s).flatMap unitBytes < (codeUnits t).flatMap unitBytes ↔
      codeUnits s < codeUnits t :=
  flatMap_unitBytes_lt (fun _ => lt_of_mem_codeUnits) fun _ => lt_of_mem_codeUnits

/-! ### Code units determine the string -/

/-- A surrogate-free code point begins with a unit that tells how many follow. -/
theorem utf16_append_inj {c d : CodePoint} (hc : c.isSurrogate = false)
    (hd : d.isSurrogate = false) {us vs : List Nat} (h : c.utf16 ++ us = d.utf16 ++ vs) :
    c = d ∧ us = vs := by
  simp only [CodePoint.isSurrogate, Bool.and_eq_false_imp, decide_eq_true_eq,
    decide_eq_false_iff_not] at hc hd
  have hcb := c.isLt
  have hdb := d.isLt
  unfold CodePoint.utf16 at h
  split at h <;> split at h <;>
    simp only [List.cons_append, List.nil_append, List.cons.injEq] at h
  · exact ⟨Fin.ext h.1, h.2⟩
  · omega
  · omega
  · exact ⟨Fin.ext (by omega), h.2.2⟩

theorem codeUnits_injective : ∀ {s t : PyStr}, s.any CodePoint.isSurrogate = false →
    t.any CodePoint.isSurrogate = false → codeUnits s = codeUnits t → s = t
  | [], [], _, _, _ => rfl
  | [], d :: t, _, _, h => by
      rw [codeUnits, codeUnits, List.flatMap_nil, List.flatMap_cons, CodePoint.utf16] at h
      split at h <;> simp at h
  | c :: s, [], _, _, h => by
      rw [codeUnits, codeUnits, List.flatMap_nil, List.flatMap_cons, CodePoint.utf16] at h
      split at h <;> simp at h
  | c :: s, d :: t, hs, ht, h => by
      rw [List.any_cons, Bool.or_eq_false_iff] at hs ht
      rw [codeUnits, codeUnits, List.flatMap_cons, List.flatMap_cons] at h
      obtain ⟨rfl, hrest⟩ := utf16_append_inj hs.1 ht.1 h
      rw [codeUnits_injective hs.2 ht.2 hrest]

end GmailGateway.Python
