import Mathlib

/-! Numbers as bytes, the most significant first. -/
namespace Resiprocate.BigEndian

/-- The last `w` bytes of a number. -/
def bytes : ℕ → ℕ → List UInt8
  | 0, _ => []
  | w + 1, n => UInt8.ofNat (n / 256 ^ w) :: bytes w n

def value : List UInt8 → ℕ
  | [] => 0
  | b :: l => b.toNat * 256 ^ l.length + value l

@[simp] theorem length_bytes (w n : ℕ) : (bytes w n).length = w := by
  induction w with
  | zero => rfl
  | succ w ih => simp [bytes, ih]

theorem value_bytes (w n : ℕ) : value (bytes w n) = n % 256 ^ w := by
  induction w with
  | zero => simp [bytes, value, Nat.mod_one]
  | succ w ih =>
    have hb : (UInt8.ofNat (n / 256 ^ w)).toNat = n / 256 ^ w % 256 := UInt8.toNat_ofNat'
    rw [bytes, value, hb, ih, length_bytes, Nat.mod_pow_succ]
    ring

theorem value_bytes_of_lt {w n : ℕ} (h : n < 256 ^ w) : value (bytes w n) = n := by
  rw [value_bytes, Nat.mod_eq_of_lt h]

theorem value_lt (l : List UInt8) : value l < 256 ^ l.length := by
  induction l with
  | nil => simp [value]
  | cons b l ih =>
    have hb : b.toNat + 1 ≤ 256 := b.toNat_lt
    calc value (b :: l) < b.toNat * 256 ^ l.length + 256 ^ l.length := by simpa [value] using ih
      _ = (b.toNat + 1) * 256 ^ l.length := by ring
      _ ≤ 256 * 256 ^ l.length := Nat.mul_le_mul_right _ hb
      _ = 256 ^ (b :: l).length := by rw [List.length_cons, pow_succ]; ring

/-- Higher bytes of a number do not matter. -/
theorem bytes_add_mul (w n k : ℕ) : bytes w (n + k * 256 ^ w) = bytes w n := by
  induction w generalizing n k with
  | zero => rfl
  | succ w ih =>
    have hdiv : (n + k * 256 ^ (w + 1)) / 256 ^ w = n / 256 ^ w + k * 256 := by
      rw [pow_succ, show k * (256 ^ w * 256) = k * 256 * 256 ^ w by ring]
      exact Nat.add_mul_div_right _ _ (by positivity)
    have hrest : bytes w (n + k * 256 ^ (w + 1)) = bytes w n := by
      rw [pow_succ, show k * (256 ^ w * 256) = k * 256 * 256 ^ w by ring]
      exact ih n (k * 256)
    rw [bytes, bytes, hdiv, hrest]
    congr 1
    apply UInt8.toNat_inj.mp
    simp only [UInt8.toNat_ofNat']
    omega

theorem bytes_value (l : List UInt8) : bytes l.length (value l) = l := by
  induction l with
  | nil => rfl
  | cons b l ih =>
    have hlt := value_lt l
    have hhead : value (b :: l) / 256 ^ l.length = b.toNat := by
      rw [value, Nat.add_comm, Nat.add_mul_div_right _ _ (by positivity), Nat.div_eq_of_lt hlt,
        Nat.zero_add]
    have htail : bytes l.length (value (b :: l)) = l := by
      rw [value, Nat.add_comm, bytes_add_mul, ih]
    rw [List.length_cons, bytes, hhead, htail, UInt8.ofNat_toNat]

/-- Numbers that fit are told apart by their bytes. -/
theorem bytes_inj {w n k : ℕ} (hn : n < 256 ^ w) (hk : k < 256 ^ w)
    (h : bytes w n = bytes w k) : n = k := by
  rw [← value_bytes_of_lt hn, ← value_bytes_of_lt hk, h]

end Resiprocate.BigEndian
