import GmailGateway.Python.Text

/-!
# GmailGateway.Python.Decimal

The decimal rendering of a number: digits, the most significant one first and not zero,
from which the number is read back.
-/

namespace GmailGateway.Python

theorem digitChar_val {d : Nat} (hd : d < 10) : (digitChar d).val = 0x30 + d :=
  Nat.mod_eq_of_lt (by omega)

theorem natDecimal_zero : natDecimal 0 = [digitChar 0] := rfl

theorem natDecimal_eq {n : Nat} (hn : n ≠ 0) :
    natDecimal n = (Nat.digits 10 n).reverse.map digitChar := if_neg hn

theorem mem_natDecimal {n : Nat} {c : CodePoint} (hc : c ∈ natDecimal n) :
    ∃ d < 10, c = digitChar d := by
  by_cases hn : n = 0
  · subst hn
    exact ⟨0, by omega, List.mem_singleton.mp hc⟩
  · rw [natDecimal_eq hn] at hc
    obtain ⟨d, hd, rfl⟩ := List.mem_map.mp hc
    exact ⟨d, Nat.digits_lt_base (by omega) (List.mem_reverse.mp hd), rfl⟩

/-- The character of a decimal digit. -/
theorem val_of_mem_natDecimal {n : Nat} {c : CodePoint} (hc : c ∈ natDecimal n) :
    0x30 ≤ c.val ∧ c.val ≤ 0x39 := by
  obtain ⟨d, hd, rfl⟩ := mem_natDecimal hc
  rw [digitChar_val hd]
  omega

theorem natDecimal_ne_nil (n : Nat) : natDecimal n ≠ [] := by
  by_cases hn : n = 0
  · subst hn
    exact List.cons_ne_nil _ _
  · rw [natDecimal_eq hn]
    simpa using Nat.digits_ne_nil_iff_ne_zero.mpr hn

/-- No leading zero. -/
theorem natDecimal_eq_cons {n : Nat} (hn : n ≠ 0) :
    ∃ d ds, d ≠ 0 ∧ d < 10 ∧ natDecimal n = digitChar d :: ds := by
  have hne : Nat.digits 10 n ≠ [] := Nat.digits_ne_nil_iff_ne_zero.mpr hn
  have hlast := List.dropLast_append_getLast hne
  refine ⟨(Nat.digits 10 n).getLast hne, (Nat.digits 10 n).dropLast.reverse.map digitChar,
    Nat.getLast_digit_ne_zero 10 hn, Nat.digits_lt_base (by omega) (List.getLast_mem hne), ?_⟩
  have hrev := congrArg (fun ds => (List.reverse ds).map digitChar) hlast
  rw [natDecimal_eq hn]
  simpa using hrev.symm

/-- Reading the digits back, the most significant one first. -/
theorem ofDigits_natDecimal (n : Nat) :
    Nat.ofDigits 10 ((natDecimal n).reverse.map fun c => c.val - 0x30) = n := by
  have hread : ∀ ds : List Nat, (∀ d ∈ ds, d < 10) →
      (ds.map digitChar).map (fun c => c.val - 0x30) = ds := by
    intro ds hds
    rw [List.map_map]
    refine (List.map_congr_left fun d hd => ?_).trans (List.map_id ds)
    show (digitChar d).val - 0x30 = d
    rw [digitChar_val (hds d hd)]
    omega
  by_cases hn : n = 0
  · subst hn
    rfl
  · rw [natDecimal_eq hn, List.map_reverse, List.map_reverse, List.map_reverse, List.reverse_reverse,
      hread _ fun d hd => Nat.digits_lt_base (by omega) hd, Nat.ofDigits_digits]

theorem natDecimal_inj {m n : Nat} (h : natDecimal m = natDecimal n) : m = n := by
  rw [← ofDigits_natDecimal m, h, ofDigits_natDecimal]

end GmailGateway.Python
