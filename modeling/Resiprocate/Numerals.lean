import Resiprocate.ParseBuffer

/-! Decimal numerals: the number that a string of digits denotes, and the numeral of a number. -/
namespace Resiprocate.Numerals
open Rutil (isDigit digitVal)

/-- The number that the digits denote. -/
def numeral (digits : List UInt8) : ℕ := digits.foldl (fun n c => n * 10 + digitVal c) 0

def digitChar (d : ℕ) : UInt8 := UInt8.ofNat (48 + d)

/-- The digits of a number without leading zeros; zero has none. -/
def digitsOf (n : ℕ) : List UInt8 := (Nat.digits 10 n).reverse.map digitChar

/-- A numeral of an integer: digits, after a minus sign if it is so written. -/
inductive IsNumeral : List UInt8 → ℤ → Prop
  | unsigned (digits : List UInt8) (nonempty : digits ≠ []) (all : ∀ c ∈ digits, isDigit c = true) :
    IsNumeral digits (numeral digits)
  | negative (digits : List UInt8) (nonempty : digits ≠ []) (all : ∀ c ∈ digits, isDigit c = true) :
    IsNumeral (45 :: digits) (-(numeral digits : ℤ))

/-- No numeral of the integer is shorter. -/
def IsShortest (text : List UInt8) (n : ℤ) : Prop :=
  IsNumeral text n ∧ ∀ other, IsNumeral other n → text.length ≤ other.length

section
variable {digits : List UInt8} {c : UInt8} {n d : ℕ}

theorem isDigit_toNat (h : isDigit c = true) : c.toNat = 48 + digitVal c ∧ digitVal c < 10 := by
  simp only [isDigit, digitVal, Bool.and_eq_true, decide_eq_true_eq, UInt8.le_iff_toNat_le] at h ⊢
  have h48 : (48 : UInt8).toNat = 48 := rfl
  have h57 : (57 : UInt8).toNat = 57 := rfl
  rw [UInt8.toNat_sub_of_le _ _ (UInt8.le_iff_toNat_le.2 h.1)]
  omega

theorem digitVal_lt (h : isDigit c = true) : digitVal c < 10 := (isDigit_toNat h).2

theorem isDigit_digitChar (h : d < 10) : isDigit (digitChar d) = true ∧ digitVal (digitChar d) = d := by
  interval_cases d <;> decide

theorem numeral_append (more : List UInt8) : numeral (digits ++ more) =
    more.foldl (fun n c => n * 10 + digitVal c) (numeral digits) := by
  rw [numeral, List.foldl_append, numeral]

theorem numeral_append_one (digits : List UInt8) (c : UInt8) :
    numeral (digits ++ [c]) = numeral digits * 10 + digitVal c := by
  rw [numeral_append]
  rfl

theorem numeral_cons (c : UInt8) (digits : List UInt8) :
    numeral (c :: digits) = digitVal c * 10 ^ digits.length + numeral digits := by
  induction digits using List.reverseRecOn with
  | nil => simp [numeral]
  | append_singleton digits last ih =>
    rw [← List.cons_append, numeral_append_one, numeral_append_one, ih, List.length_append,
      List.length_singleton, pow_succ]
    ring

theorem numeral_lt (h : ∀ c ∈ digits, isDigit c = true) : numeral digits < 10 ^ digits.length := by
  induction digits using List.reverseRecOn with
  | nil => simp [numeral]
  | append_singleton digits last ih =>
    have hlast := digitVal_lt (h last (by simp))
    have hrest := ih fun c hc => h c (by simp [hc])
    rw [numeral_append_one, List.length_append, List.length_singleton, pow_succ]
    omega

@[simp] theorem digitsOf_zero : digitsOf 0 = [] := by simp [digitsOf]

theorem digitsOf_pos (h : 0 < n) : digitsOf n = digitsOf (n / 10) ++ [digitChar (n % 10)] := by
  rw [digitsOf, Nat.digits_def' (by decide) h, List.reverse_cons, List.map_append]
  rfl

theorem digitsOf_eq_nil : digitsOf n = [] ↔ n = 0 := by
  simp [digitsOf, Nat.digits_eq_nil_iff_eq_zero]

theorem isDigit_digitsOf (h : c ∈ digitsOf n) : isDigit c = true := by
  simp only [digitsOf, List.mem_map, List.mem_reverse] at h
  obtain ⟨d, hd, rfl⟩ := h
  exact (isDigit_digitChar (Nat.digits_lt_base (by decide) hd)).1

@[simp] theorem numeral_digitsOf (n : ℕ) : numeral (digitsOf n) = n := by
  induction n using Nat.strongRecOn with
  | ind n ih =>
    rcases Nat.eq_zero_or_pos n with rfl | hpos
    · simp [numeral]
    · rw [digitsOf_pos hpos, numeral_append_one, ih _ (Nat.div_lt_self hpos (by decide)),
        (isDigit_digitChar (Nat.mod_lt n (by decide))).2]
      omega

theorem length_digitsOf_le (k : ℕ) : (digitsOf n).length ≤ k ↔ n < 10 ^ k := by
  rw [digitsOf, List.length_map, List.length_reverse]
  exact Nat.digits_length_le_iff (by decide) n

/-- Digits that denote a number are at least as many as its own. -/
theorem length_digitsOf_numeral (h : ∀ c ∈ digits, isDigit c = true) :
    (digitsOf (numeral digits)).length ≤ digits.length :=
  (length_digitsOf_le _).2 (numeral_lt h)

/-- The digits of a positive number are its shortest numeral. -/
theorem isShortest_digitsOf (h : 0 < n) : IsShortest (digitsOf n) n := by
  have hnil : digitsOf n ≠ [] := fun h' => h.ne' (digitsOf_eq_nil.1 h')
  refine ⟨?_, ?_⟩
  · have hnumeral := IsNumeral.unsigned (digitsOf n) hnil fun _ => isDigit_digitsOf
    rwa [numeral_digitsOf] at hnumeral
  · rintro other hother
    generalize hz : (n : ℤ) = z at hother
    cases hother with
    | unsigned _ _ all =>
      have hn : n = numeral other := by exact_mod_cast hz
      rw [hn]
      exact length_digitsOf_numeral all
    | negative digits _ all => omega

/-- With a minus sign before them, of a negative number. -/
theorem isShortest_neg_digitsOf (h : 0 < n) : IsShortest (45 :: digitsOf n) (-(n : ℤ)) := by
  have hnil : digitsOf n ≠ [] := fun h' => h.ne' (digitsOf_eq_nil.1 h')
  refine ⟨?_, ?_⟩
  · have hnumeral := IsNumeral.negative (digitsOf n) hnil fun _ => isDigit_digitsOf
    rwa [numeral_digitsOf] at hnumeral
  · rintro other hother
    generalize hz : -(n : ℤ) = z at hother
    cases hother with
    | unsigned _ _ all => omega
    | negative digits _ all =>
      have hn : n = numeral digits := by omega
      rw [hn, List.length_cons, List.length_cons]
      exact Nat.succ_le_succ (length_digitsOf_numeral all)

theorem isShortest_zero : IsShortest [48] 0 := by
  have hzero : ∀ c ∈ [(48 : UInt8)], isDigit c = true := by
    intro c hc
    rw [List.mem_singleton.1 hc]
    rfl
  refine ⟨IsNumeral.unsigned [48] (List.cons_ne_nil _ _) hzero, fun other hother => ?_⟩
  generalize (0 : ℤ) = z at hother
  cases hother with
  | unsigned _ nonempty _ => exact List.length_pos_of_ne_nil nonempty
  | negative digits _ _ => simp

end

end Resiprocate.Numerals
