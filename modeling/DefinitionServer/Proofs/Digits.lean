import DefinitionServer.Text.Basic
import Mathlib.Algebra.GroupWithZero.Nat
import Mathlib.Data.List.Induction

/-!
# Written numbers

The digits of a number, in a base up to sixteen, read as the number again, and digits never write a
greater number than there is room for.
-/
namespace DefinitionServer.Digit

variable {base d n : Nat} {c : Char} {digits : Text}

theorem value?_digitChar (h : d < 16) : value? d.digitChar = some d := by
  revert d
  decide

theorem isBelow_digitChar (hbase : base ≤ 16) (h : d < base) : isBelow base d.digitChar = true := by
  rw [isBelow, value?_digitChar (by omega)]
  exact decide_eq_true h

theorem range_of_isBelow (h : isBelow base c = true) : '0' ≤ c ∧ c ≤ 'f' := by
  rw [isBelow] at h
  split at h <;> rename_i hvalue
  · rw [value?] at hvalue
    split at hvalue <;> rename_i hdecimal
    · exact ⟨hdecimal.1, Char.le_trans hdecimal.2 (by decide)⟩
    · split at hvalue <;> rename_i hsmall
      · exact ⟨Char.le_trans (by decide) hsmall.1, hsmall.2⟩
      · rw [Option.ite_none_right_eq_some] at hvalue
        exact ⟨Char.le_trans (by decide) hvalue.1.1, Char.le_trans hvalue.1.2 (by decide)⟩
  · simp at h

theorem number_concat (base : Nat) (digits : Text) (c : Char) :
    number base (digits ++ [c]) = number base digits * base + (value? c).getD 0 := by
  rw [number, List.foldl_append]
  rfl

/-- A number is what its digits write. -/
theorem number_toDigits (h : 1 < base) (hbase : base ≤ 16) (n : Nat) :
    number base (Nat.toDigits base n) = n := by
  induction n using Nat.strongRecOn with
  | ind n ih =>
    rw [Nat.toDigits_eq_if h]
    split <;> rename_i hn
    · rw [← List.nil_append [n.digitChar], number_concat, value?_digitChar (by omega)]
      simp [number]
    · have hpos : 0 < n := by omega
      have hmod : n % base < base := Nat.mod_lt _ (by omega)
      rw [number_concat, ih _ (Nat.div_lt_self hpos h), value?_digitChar (by omega)]
      exact Nat.div_add_mod' n base

theorem isBelow_of_mem_toDigits (h : 1 < base) (hbase : base ≤ 16)
    (hc : c ∈ Nat.toDigits base n) : isBelow base c = true := by
  induction n using Nat.strongRecOn with
  | ind n ih =>
    rw [Nat.toDigits_eq_if h] at hc
    split at hc <;> rename_i hn
    · obtain rfl := List.mem_singleton.1 hc
      exact isBelow_digitChar hbase hn
    · rcases List.mem_append.1 hc with hc | hc
      · exact ih _ (Nat.div_lt_self (by omega) h) hc
      · obtain rfl := List.mem_singleton.1 hc
        exact isBelow_digitChar hbase (Nat.mod_lt _ (by omega))

/-- So many digits write a number below that power of the base. -/
theorem number_lt_pow (h : ∀ c ∈ digits, isBelow base c = true) :
    number base digits < base ^ digits.length := by
  induction digits using List.reverseRecOn with
  | nil => exact Nat.one_pos
  | append_singleton digits c ih =>
    have hfront := ih fun x hx => h x (List.mem_append_left _ hx)
    have hlast : (value? c).getD 0 < base := by
      have hc := h c (by simp)
      rw [isBelow] at hc
      cases hvalue : value? c with
      | none => simp [hvalue] at hc
      | some d => simpa [hvalue] using hc
    rw [number_concat, List.length_append, List.length_singleton, Nat.pow_succ]
    calc number base digits * base + (value? c).getD 0
        < number base digits * base + base := Nat.add_lt_add_left hlast _
      _ = (number base digits + 1) * base := (Nat.succ_mul _ _).symm
      _ ≤ base ^ digits.length * base := Nat.mul_le_mul_right base hfront

end DefinitionServer.Digit
