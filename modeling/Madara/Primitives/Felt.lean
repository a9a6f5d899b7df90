import Mathlib.Data.Nat.Digits

/-! Field elements of the Starknet prime field and their `{:#x}` rendering. A felt is
its canonical representative below the prime; rendering is Rust's lowercase hex:
the digits from the most significant one, `0` for zero, behind `0x` in the
alternate form. -/
namespace Madara

/-- `2^251 + 17 * 2^192 + 1`, the modulus of `starknet_types_core::felt::Felt`. -/
def feltPrime : Nat := 2 ^ 251 + 17 * 2 ^ 192 + 1

structure Felt where
  val : Nat
  lt_prime : val < feltPrime
  deriving DecidableEq

namespace Felt

def zero : Felt := ⟨0, by norm_num [feltPrime]⟩

instance : Inhabited Felt := ⟨zero⟩

end Felt

/-- The digits `{:x}` writes for `n`. -/
def lowerHex (n : Nat) : List Char :=
  if n = 0 then ['0'] else ((Nat.digits 16 n).map Nat.digitChar).reverse

theorem lowerHex_length (n : Nat) :
    (lowerHex n).length = if n = 0 then 1 else Nat.log 16 n + 1 := by
  unfold lowerHex
  split
  · rfl
  · simp only [List.length_reverse, List.length_map, Nat.digits_len 16 n (by norm_num) ‹_›]

theorem six_le_lowerHex_length {n : Nat} : 6 ≤ (lowerHex n).length ↔ 16 ^ 5 ≤ n := by
  rw [lowerHex_length]
  split
  · subst n; norm_num
  · rw [Nat.pow_le_iff_le_log (by norm_num) ‹_›]
    omega

/-- `format!("{:#x}", h)`, as the characters of the string. -/
def Felt.formatHex (h : Felt) : List Char := '0' :: 'x' :: lowerHex h.val

@[simp] theorem Felt.formatHex_length (h : Felt) :
    h.formatHex.length = (lowerHex h.val).length + 2 := rfl

end Madara
