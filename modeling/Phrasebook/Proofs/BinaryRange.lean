import Mathlib.Algebra.Order.Ring.Nat
import Phrasebook.Number.Binary64

/-! The integers in the range of binary numbers. An integer leaves it where the nearest significand with
the greatest exponent would need one bit more. -/
namespace Phrasebook.Number

namespace Binary64

theorem sizeOf {n : Nat} (filled : n ≠ 0) (k : Nat) :
    0 < 2 ^ k ∧ (n.log2 < k + 53 → n < 2 ^ k * 2 ^ 53) ∧ (n.log2 < k + 54 → n < 2 ^ k * 2 ^ 54) ∧
      (k + 54 ≤ n.log2 → 2 ^ k * 2 ^ 54 ≤ n) := by
  simp only [← Nat.pow_add]
  exact ⟨Nat.two_pow_pos k, (Nat.log2_lt filled).mp, (Nat.log2_lt filled).mp, (Nat.le_log2 filled).mp⟩

end Binary64
end Phrasebook.Number
