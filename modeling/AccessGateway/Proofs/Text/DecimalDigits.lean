import AccessGateway.Text.Decimal

/-!
# Digits of whole numbers

The digits of a number are digits, have its value, and begin with a zero for zero
alone.
-/

namespace AccessGateway.Text.Decimal

theorem isDigit_of_mem_digits {n : Nat} {c : Char} (h : c ∈ digits n) : c.isDigit = true :=
  Nat.isDigit_of_mem_toDigits (by decide) (by decide) h

theorem value_digits (n : Nat) : value (digits n) = n := by
  have hvalue : ∀ (chars : List Char) (total : Nat),
      chars.foldl (fun total c => total * 10 + digitValue c) total =
        Nat.ofDigitChars 10 chars total := by
    intro chars total
    simp [Nat.ofDigitChars_eq_foldl, Nat.mul_comm, digitValue]
  rw [value, hvalue, digits, Nat.ofDigitChars_ten_toDigits]

/-- No positive number is written with a leading zero. -/
theorem digits_eq_cons {n : Nat} (h : 0 < n) :
    ∃ c rest, digits n = c :: rest ∧ c ≠ '0' := by
  induction n using Nat.strongRecOn with
  | ind n ih =>
      by_cases hlt : n < 10
      · refine ⟨n.digitChar, [], Nat.toDigits_of_lt_base hlt, ?_⟩
        have hall : ∀ m : Fin 10, 0 < m.val → Nat.digitChar m ≠ '0' := by decide
        exact hall ⟨n, hlt⟩ h
      · obtain ⟨c, rest, hdigits, hzero⟩ := ih (n / 10) (by omega) (by omega)
        refine ⟨c, rest ++ [Nat.digitChar (n % 10)], ?_, hzero⟩
        rw [digits] at hdigits ⊢
        rw [Nat.toDigits_of_base_le (by decide) (by omega), hdigits]
        rfl

end AccessGateway.Text.Decimal
