import Resiprocate.HeldBytes
import Resiprocate.Numerals

/-! The decimal numerals that a string makes of an integer, and the integers that it reads. The digits
are counted by one loop and written from the right by another. -/
namespace Resiprocate.Data
open Rutil (isDigit digitVal)
open Numerals

/-- The characters of a buffer up to the size. -/
def textOf (mBuf : ℤ → UInt8) (mSize : ℤ) : List UInt8 :=
  (List.range mSize.toNat).map fun i : ℕ => mBuf i

section Writing
variable {α : Type} [OfNat α 0] [OfNat α 10] [Div α] [Mod α] [DecidableEq α]

/-- `while (v /= 10) ++c;` where `none` is a loop that has not ended after that many turns. -/
def countLoop : ℕ → α → ℤ → Option ℤ
  | 0, _, _ => none
  | turns + 1, v, c => if v / 10 = 0 then some c else countLoop turns (v / 10) (c + 1)

/-- `while (v)`, which writes at `c` and goes left. `character` is what it writes of `v % 10`. -/
def writeLoop (character : α → UInt8) : ℕ → α → ℤ → (ℤ → UInt8) → Option (ℤ → UInt8)
  | 0, _, _, _ => none
  | turns + 1, v, c, mBuf =>
    if v = 0 then some mBuf
    else writeLoop character turns (v / 10) (c - 1) (Function.update mBuf c (character (v % 10)))

/-- More turns than a number of 64 bits has digits. -/
def manyTurns : ℕ := 24

/-- `"0"` -/
def zeroText (mBuf : ℤ → UInt8) : List UInt8 := textOf (Function.update (Function.update mBuf 0 48) 1 0) 1

/-- The constructors of unsigned integers. -/
def ofUnsigned (character : α → UInt8) (mBuf : ℤ → UInt8) (value : α) : Option (List UInt8) :=
  if value = 0 then some (zeroText mBuf)
  else do
    let c ← countLoop manyTurns value 0
    let mSize := c + 1
    let mBuf ← writeLoop character manyTurns value c (Function.update mBuf (c + 1) 0)
    some (textOf mBuf mSize)

end Writing

/-- `Data(uint32_t)` in a buffer `mBuf` -/
def ofUInt32 (mBuf : ℤ → UInt8) (value : UInt32) : Option (List UInt8) :=
  ofUnsigned (fun digit => 48 + digit.toUInt8) mBuf value

/-- `Data(uint64_t)` in a buffer `mBuf` -/
def ofUInt64 (mBuf : ℤ → UInt8) (value : UInt64) : Option (List UInt8) :=
  ofUnsigned (fun digit => 48 + digit.toUInt8) mBuf value

/-- `Data(int32_t)` in a buffer `mBuf` -/
def ofInt32 (mBuf : ℤ → UInt8) (val : Int32) : Option (List UInt8) :=
  if val = 0 then some (zeroText mBuf)
  else do
    let neg := val < 0
    let value := if val < 0 then -val else val
    let c ← countLoop manyTurns value 0
    let c := if neg then c + 1 else c
    let mSize := c + 1
    let mBuf ← writeLoop (fun digit : Int32 => UInt8.ofInt (48 + digit.toInt)) manyTurns value c
      (Function.update mBuf (c + 1) 0)
    let mBuf := if neg then Function.update mBuf 0 45 else mBuf
    some (textOf mBuf mSize)

section Reading
variable {α : Type} [OfNat α 10] [Add α] [Mul α]

/-- `isspace` -/
def isspace (c : UInt8) : Bool := c == 32 || (9 ≤ c && c ≤ 13)

/-- The loop over the digits. `digit` is `*p - '0'`. -/
def convertLoop (digit : UInt8 → α) : α → List UInt8 → α
  | val, [] => val
  | val, c :: p => if isDigit c then convertLoop digit (val * 10 + digit c) p else val

/-- The conversions to unsigned integers. -/
def convertUnsigned [OfNat α 0] (digit : UInt8 → α) (d : List UInt8) : α :=
  match d.dropWhile isspace with
  | [] => 0
  | c :: p => if c = 43 then convertLoop digit 0 p else convertLoop digit 0 (c :: p)

end Reading

/-- `convertUnsignedLong`, whose integers have 64 bits -/
def convertUnsignedLong (d : List UInt8) : UInt64 :=
  convertUnsigned (fun c => UInt64.ofNat (digitVal c)) d

def convertUInt64 (d : List UInt8) : UInt64 := convertUnsigned (fun c => UInt64.ofNat (digitVal c)) d

def convertInt (d : List UInt8) : Int32 :=
  let loop := convertLoop (fun c => Int32.ofNat (digitVal c)) 0
  match d.dropWhile isspace with
  | [] => 0
  | c :: p =>
    if c = 45 then -1 * loop p
    else if c = 43 then 1 * loop p
    else 1 * loop (c :: p)

/-! ### Writing -/

section
variable {α : Type} [OfNat α 0] [OfNat α 10] [Div α] [Mod α]

/-- The values that are `good` are divided as the natural numbers that they stand for. -/
structure Divides (character : α → UInt8) (good : α → Prop) (number : α → ℕ) : Prop where
  zero_iff : ∀ v, good v → (v = 0 ↔ number v = 0)
  good_tenth : ∀ v, good v → good (v / 10)
  number_tenth : ∀ v, good v → number (v / 10) = number v / 10
  character_mod : ∀ v, good v → character (v % 10) = digitChar (number v % 10)

variable [DecidableEq α] {character : α → UInt8} {good : α → Prop} {number : α → ℕ}

theorem countLoop_eq (h : Divides character good number) : ∀ (turns : ℕ) (v : α) (c : ℤ), good v →
    number v < 10 ^ turns → 0 < turns →
    countLoop turns v c = some (c + (digitsOf (number v / 10)).length)
  | 0, _, _, _, _, hturns => absurd hturns (lt_irrefl 0)
  | turns + 1, v, c, hv, hlt, _ => by
    have htenth := h.good_tenth v hv
    rw [countLoop]
    by_cases hzero : v / 10 = 0
    · have hn := (h.zero_iff _ htenth).1 hzero
      rw [if_pos hzero, ← h.number_tenth v hv, hn]
      simp
    · have hpos : 0 < number v / 10 := by
        rw [← h.number_tenth v hv]
        exact Nat.pos_of_ne_zero fun hn => hzero ((h.zero_iff _ htenth).2 hn)
      have hlt' : number (v / 10) < 10 ^ turns := by
        rw [h.number_tenth v hv]
        rw [pow_succ] at hlt
        omega
      have hturns : 0 < turns := by
        rcases Nat.eq_zero_or_pos turns with rfl | hturns
        · rw [h.number_tenth v hv] at hlt'
          omega
        · exact hturns
      rw [if_neg hzero, countLoop_eq h turns (v / 10) (c + 1) htenth hlt' hturns, h.number_tenth v hv,
        digitsOf_pos hpos, List.length_append]
      congr 1
      push_cast [List.length_singleton]
      ring

/-- The buffer has the characters from an address on. -/
def HasAt (mBuf : ℤ → UInt8) (a : ℤ) (cs : List UInt8) : Prop :=
  ∀ i : ℕ, (hi : i < cs.length) → mBuf (a + i) = cs[i]

theorem hasAt_append_one {mBuf : ℤ → UInt8} {a : ℤ} {cs : List UInt8} {c : UInt8}
    (hcs : HasAt mBuf a cs) (hc : mBuf (a + cs.length) = c) : HasAt mBuf a (cs ++ [c]) := by
  intro i hi
  rcases Nat.lt_or_ge i cs.length with hlt | hge
  · rw [List.getElem_append_left hlt, hcs i hlt]
  · have hi' : i = cs.length := by
      rw [List.length_append, List.length_singleton] at hi
      omega
    subst hi'
    rw [List.getElem_append_right (le_refl _), hc]
    simp

/-- The loop writes the digits up to `c`, and nothing else. -/
theorem writeLoop_eq (h : Divides character good number) : ∀ (turns : ℕ) (v : α) (c : ℤ)
    (mBuf : ℤ → UInt8), good v → number v < 10 ^ turns → ∃ mBuf',
    writeLoop character (turns + 1) v c mBuf = some mBuf' ∧
    HasAt mBuf' (c + 1 - (digitsOf (number v)).length) (digitsOf (number v)) ∧
    ∀ a, a ≤ c - (digitsOf (number v)).length ∨ c < a → mBuf' a = mBuf a
  | turns, v, c, mBuf, hv, hlt => by
    rw [writeLoop]
    by_cases hzero : v = 0
    · have hn := (h.zero_iff v hv).1 hzero
      refine ⟨mBuf, by rw [if_pos hzero], ?_, fun _ _ => rfl⟩
      rw [hn, digitsOf_zero]
      exact fun i hi => absurd hi (Nat.not_lt_zero i)
    · have hpos : 0 < number v := Nat.pos_of_ne_zero fun hn => hzero ((h.zero_iff v hv).2 hn)
      cases turns with
      | zero => omega
      | succ turns =>
        have hlt' : number (v / 10) < 10 ^ turns := by
          rw [h.number_tenth v hv]
          rw [pow_succ] at hlt
          omega
        obtain ⟨mBuf', hloop, hdigits, hkept⟩ := writeLoop_eq h turns (v / 10) (c - 1)
          (Function.update mBuf c (character (v % 10))) (h.good_tenth v hv) hlt'
        rw [h.number_tenth v hv] at hdigits hkept
        have hlast : mBuf' c = digitChar (number v % 10) := by
          rw [hkept c (.inr (by omega)), Function.update_self, h.character_mod v hv]
        have hlength : ((digitsOf (number v)).length : ℤ) = (digitsOf (number v / 10)).length + 1 := by
          rw [digitsOf_pos hpos, List.length_append, List.length_singleton, Nat.cast_add, Nat.cast_one]
        rw [if_neg hzero]
        refine ⟨mBuf', hloop, ?_, fun a ha => ?_⟩
        · rw [hlength, digitsOf_pos hpos]
          have hstart : c + 1 - ((digitsOf (number v / 10)).length + 1 : ℤ) =
              c - 1 + 1 - (digitsOf (number v / 10)).length := by ring
          rw [hstart]
          refine hasAt_append_one hdigits ?_
          rw [← hlast]
          congr 1
          ring
        · rw [hkept a (by omega), Function.update_of_ne (by omega)]

theorem textOf_eq {mBuf : ℤ → UInt8} {cs : List UInt8} (h : HasAt mBuf 0 cs) :
    textOf mBuf cs.length = cs := by
  refine List.ext_getElem (by simp [textOf]) fun i hi hi' => ?_
  have hc := h i hi'
  rw [zero_add] at hc
  simpa [textOf] using hc

/-- The buffer has a minus sign and the digits after it. -/
theorem hasAt_cons {mBuf : ℤ → UInt8} {c : UInt8} {cs : List UInt8} (hc : mBuf 0 = c)
    (hcs : HasAt mBuf 1 cs) : HasAt mBuf 0 (c :: cs) := by
  intro i hi
  cases i with
  | zero => simpa using hc
  | succ i =>
    have hnext := hcs i (Nat.lt_of_succ_lt_succ hi)
    rw [List.getElem_cons_succ, ← hnext]
    congr 1
    push_cast
    ring

theorem zeroText_eq (mBuf : ℤ → UInt8) : zeroText mBuf = [48] := by
  simp [zeroText, textOf]

/-- An unsigned integer is written as its digits. -/
theorem ofUnsigned_eq (h : Divides character good number) (mBuf : ℤ → UInt8) {value : α}
    (hgood : good value) (hpos : 0 < number value) (hlt : number value < 10 ^ 23) :
    ofUnsigned character mBuf value = some (digitsOf (number value)) := by
  have hne : value ≠ 0 := fun hzero => hpos.ne' ((h.zero_iff value hgood).1 hzero)
  have hlt' : number value < 10 ^ manyTurns := hlt.trans (by decide)
  have hlength : ((digitsOf (number value)).length : ℤ) = (digitsOf (number value / 10)).length + 1 := by
    rw [digitsOf_pos hpos, List.length_append, List.length_singleton, Nat.cast_add, Nat.cast_one]
  obtain ⟨mBuf', hloop, hdigits, -⟩ := writeLoop_eq h 23 value
    (0 + (digitsOf (number value / 10)).length)
    (Function.update mBuf (0 + (digitsOf (number value / 10)).length + 1) 0) hgood hlt
  have hstart : (0 : ℤ) + (digitsOf (number value / 10)).length + 1 - (digitsOf (number value)).length = 0 := by
    omega
  rw [hstart] at hdigits
  have htext := textOf_eq hdigits
  rw [ofUnsigned, if_neg hne, countLoop_eq h manyTurns value 0 hgood hlt' (by decide)]
  simp only [Option.bind_eq_bind, Option.bind_some]
  rw [show manyTurns = 23 + 1 from rfl, hloop]
  simp only [Option.bind_some]
  rw [hlength] at htext
  rw [zero_add, htext]

end

theorem divides_uint32 : Divides (fun digit : UInt32 => 48 + digit.toUInt8) (fun _ => True) UInt32.toNat where
  zero_iff v _ := by rw [← UInt32.toNat_inj]; rfl
  good_tenth _ _ := trivial
  number_tenth v _ := UInt32.toNat_div v 10
  character_mod v _ := by
    refine UInt8.toNat_inj.1 ?_
    simp [digitChar]

theorem divides_uint64 : Divides (fun digit : UInt64 => 48 + digit.toUInt8) (fun _ => True) UInt64.toNat where
  zero_iff v _ := by rw [← UInt64.toNat_inj]; rfl
  good_tenth _ _ := trivial
  number_tenth v _ := UInt64.toNat_div v 10
  character_mod v _ := by
    refine UInt8.toNat_inj.1 ?_
    simp [digitChar]

/-- Signed integers that are not negative divide so. -/
theorem divides_int32 : Divides (fun digit : Int32 => UInt8.ofInt (48 + digit.toInt))
    (fun v => 0 ≤ v.toInt) (fun v => v.toInt.toNat) where
  zero_iff v hv := by
    rw [← Int32.toInt_inj, show (0 : Int32).toInt = 0 from rfl]
    omega
  good_tenth v hv := by
    rw [Int32.toInt_div_of_ne_right v 10 (by decide), show (10 : Int32).toInt = 10 from rfl]
    exact Int.tdiv_nonneg hv (by decide)
  number_tenth v hv := by
    rw [Int32.toInt_div_of_ne_right v 10 (by decide), show (10 : Int32).toInt = 10 from rfl,
      Int.tdiv_eq_ediv_of_nonneg hv]
    omega
  character_mod v hv := by
    rw [Int32.toInt_mod, show (10 : Int32).toInt = 10 from rfl, Int.tmod_eq_emod_of_nonneg hv, digitChar]
    have hcast : (48 : ℤ) + v.toInt % 10 = ((48 + v.toInt.toNat % 10 : ℕ) : ℤ) := by omega
    rw [hcast]
    generalize 48 + v.toInt.toNat % 10 = n
    refine UInt8.toNat_inj.1 ?_
    simp only [UInt8.ofInt, UInt8.toNat_ofNat']
    omega

/-! ### Reading -/

section
variable {α : Type} [OfNat α 0] [OfNat α 10] [Add α] [Mul α] {digit : UInt8 → α} {cast : ℕ → α}

omit [OfNat α 0] in
theorem convertLoop_eq (hcast : ∀ n c, cast (n * 10 + digitVal c) = cast n * 10 + digit c) :
    ∀ (digits : List UInt8) (n : ℕ), (∀ c ∈ digits, isDigit c = true) →
      convertLoop digit (cast n) digits = cast (digits.foldl (fun n c => n * 10 + digitVal c) n)
  | [], _, _ => rfl
  | c :: digits, n, hall => by
    rw [convertLoop, if_pos (hall c (by simp)), ← hcast, List.foldl_cons]
    exact convertLoop_eq hcast digits _ fun c hc => hall c (by simp [hc])

theorem convertLoop_numeral (hcast : ∀ n c, cast (n * 10 + digitVal c) = cast n * 10 + digit c)
    (hzero : cast 0 = 0) {digits : List UInt8} (hall : ∀ c ∈ digits, isDigit c = true) :
    convertLoop digit 0 digits = cast (numeral digits) := by
  rw [← hzero, convertLoop_eq hcast digits 0 hall]
  rfl

/-- A digit is no space and no sign. -/
theorem isDigit_plain {c : UInt8} (h : isDigit c = true) : isspace c = false ∧ c ≠ 43 ∧ c ≠ 45 := by
  have hall : ∀ c : UInt8, isDigit c = true → isspace c = false ∧ c ≠ 43 ∧ c ≠ 45 :=
    HeldBytes.forall_byte (by decide +kernel)
  exact hall c h

theorem convertUnsigned_numeral (hcast : ∀ n c, cast (n * 10 + digitVal c) = cast n * 10 + digit c)
    (hzero : cast 0 = 0) {digits : List UInt8} (hall : ∀ c ∈ digits, isDigit c = true) :
    convertUnsigned digit digits = cast (numeral digits) := by
  rw [← convertLoop_numeral hcast hzero hall]
  cases digits with
  | nil => rfl
  | cons c p =>
    obtain ⟨hspace, hplus, -⟩ := isDigit_plain (hall c (by simp))
    simp [convertUnsigned, hspace, hplus]

end

theorem convertUInt64_numeral {digits : List UInt8} (hall : ∀ c ∈ digits, isDigit c = true) :
    convertUInt64 digits = UInt64.ofNat (numeral digits) :=
  convertUnsigned_numeral (fun n c => by simp) rfl hall

theorem convertLoop_int32 {digits : List UInt8} (hall : ∀ c ∈ digits, isDigit c = true) :
    convertLoop (fun c => Int32.ofNat (digitVal c)) 0 digits = Int32.ofNat (numeral digits) :=
  convertLoop_numeral (fun n c => by simp) rfl hall

theorem convertInt_numeral {digits : List UInt8} (hall : ∀ c ∈ digits, isDigit c = true) :
    convertInt digits = Int32.ofNat (numeral digits) := by
  have hloop := convertLoop_int32 hall
  cases digits with
  | nil => rfl
  | cons c p =>
    obtain ⟨hspace, hplus, hminus⟩ := isDigit_plain (hall c (by simp))
    simp [convertInt, hspace, hplus, hminus, hloop]

theorem convertInt_minus {digits : List UInt8} (hall : ∀ c ∈ digits, isDigit c = true) :
    convertInt (45 :: digits) = -Int32.ofNat (numeral digits) := by
  simp only [convertInt]
  rw [List.dropWhile_cons_of_neg (by decide)]
  simp only [reduceIte]
  rw [convertLoop_int32 hall, ← Int32.neg_eq_neg_one_mul]

/-! ### Both -/

theorem ofUInt64_spec (mBuf : ℤ → UInt8) (v : UInt64) : ∃ text, ofUInt64 mBuf v = some text ∧
    IsShortest text v.toNat ∧ convertUInt64 text = v := by
  rcases Nat.eq_zero_or_pos v.toNat with hzero | hpos
  · have hv : v = 0 := (divides_uint64.zero_iff v trivial).2 hzero
    refine ⟨[48], ?_, by rw [hzero]; exact isShortest_zero, by rw [hv]; decide⟩
    rw [ofUInt64, ofUnsigned, if_pos hv, zeroText_eq]
  · have hlt : v.toNat < 10 ^ 23 := v.toNat_lt.trans (by decide)
    refine ⟨_, ofUnsigned_eq divides_uint64 mBuf trivial hpos hlt, isShortest_digitsOf hpos, ?_⟩
    rw [convertUInt64_numeral fun _ => isDigit_digitsOf, numeral_digitsOf, UInt64.ofNat_toNat]

theorem ofUInt32_spec (mBuf : ℤ → UInt8) (v : UInt32) : ∃ text, ofUInt32 mBuf v = some text ∧
    IsShortest text v.toNat ∧ convertUnsignedLong text = v.toUInt64 := by
  rcases Nat.eq_zero_or_pos v.toNat with hzero | hpos
  · have hv : v = 0 := (divides_uint32.zero_iff v trivial).2 hzero
    refine ⟨[48], ?_, by rw [hzero]; exact isShortest_zero, by rw [hv]; decide⟩
    rw [ofUInt32, ofUnsigned, if_pos hv, zeroText_eq]
  · have hlt : v.toNat < 10 ^ 23 := v.toNat_lt.trans (by decide)
    refine ⟨_, ofUnsigned_eq divides_uint32 mBuf trivial hpos hlt, isShortest_digitsOf hpos, ?_⟩
    change convertUInt64 _ = _
    rw [convertUInt64_numeral fun _ => isDigit_digitsOf, numeral_digitsOf]
    refine UInt64.toNat_inj.1 ?_
    have := v.toNat_lt
    rw [UInt64.toNat_ofNat', UInt32.toNat_toUInt64, Nat.mod_eq_of_lt (by omega)]

/-- The value whose digits are written of an integer that has a negation. -/
theorem abs_toInt {v : Int32} (h : v ≠ Int32.minValue) :
    ((if v < 0 then -v else v).toInt).toNat = v.toInt.natAbs ∧ 0 ≤ (if v < 0 then -v else v).toInt := by
  have hlt := v.toInt_lt
  have hle := v.le_toInt
  have hne : v.toInt ≠ -2 ^ 31 := fun hv => h (Int32.toInt_inj.1 hv)
  by_cases hv : v < 0
  · have hint : v.toInt < 0 := Int32.lt_iff_toInt_lt.1 hv
    have hneg : (-v).toInt = -v.toInt := by
      rw [Int32.toInt_neg]
      exact Int.bmod_eq_of_le (by omega) (by omega)
    rw [if_pos hv, hneg]
    omega
  · have hint : 0 ≤ v.toInt := Int.not_lt.1 fun hlt => hv (Int32.lt_iff_toInt_lt.2 hlt)
    rw [if_neg hv]
    omega

theorem ofInt32_eq (mBuf : ℤ → UInt8) {v : Int32} (hne : v ≠ 0) (hmin : v ≠ Int32.minValue) :
    ofInt32 mBuf v = some (if v < 0 then 45 :: digitsOf v.toInt.natAbs else digitsOf v.toInt.natAbs) := by
  obtain ⟨habs, hgood⟩ := abs_toInt hmin
  have hpos : 0 < v.toInt.natAbs := by
    refine Int.natAbs_pos.2 fun hv => hne (Int32.toInt_inj.1 hv)
  have hlt : v.toInt.natAbs < 10 ^ 23 := by
    have hlt := v.toInt_lt
    have hle := v.le_toInt
    omega
  have hlength : ((digitsOf v.toInt.natAbs).length : ℤ) = (digitsOf (v.toInt.natAbs / 10)).length + 1 := by
    rw [digitsOf_pos hpos, List.length_append, List.length_singleton, Nat.cast_add, Nat.cast_one]
  have hcount := countLoop_eq divides_int32 manyTurns _ 0 hgood (by rw [habs]; exact hlt.trans (by decide))
    (by decide)
  have hwrite := fun c mBuf => writeLoop_eq divides_int32 23 _ c mBuf hgood (by rw [habs]; exact hlt)
  rw [habs] at hcount
  simp only [habs] at hwrite
  rw [ofInt32, if_neg hne]
  simp only [hcount, Option.bind_eq_bind, Option.bind_some]
  by_cases hneg : v < 0
  · simp only [if_pos hneg] at hwrite ⊢
    obtain ⟨mBuf', hloop, hdigits, -⟩ := hwrite (0 + (digitsOf (v.toInt.natAbs / 10)).length + 1)
      (Function.update mBuf (0 + (digitsOf (v.toInt.natAbs / 10)).length + 1 + 1) 0)
    rw [show manyTurns = 23 + 1 from rfl, hloop]
    have hstart : (0 : ℤ) + (digitsOf (v.toInt.natAbs / 10)).length + 1 + 1 -
        (digitsOf v.toInt.natAbs).length = 1 := by omega
    rw [hstart] at hdigits
    have hsigned : HasAt (Function.update mBuf' 0 45) 0 (45 :: digitsOf v.toInt.natAbs) := by
      refine hasAt_cons (Function.update_self _ _ _) fun i hi => ?_
      rw [Function.update_of_ne (by omega), hdigits i hi]
    have htext := textOf_eq hsigned
    rw [List.length_cons, Nat.cast_add, hlength, Nat.cast_one] at htext
    simp only [Option.bind_some, zero_add, htext]
  · simp only [if_neg hneg] at hwrite ⊢
    obtain ⟨mBuf', hloop, hdigits, -⟩ := hwrite (0 + (digitsOf (v.toInt.natAbs / 10)).length)
      (Function.update mBuf (0 + (digitsOf (v.toInt.natAbs / 10)).length + 1) 0)
    rw [show manyTurns = 23 + 1 from rfl, hloop]
    have hstart : (0 : ℤ) + (digitsOf (v.toInt.natAbs / 10)).length + 1 -
        (digitsOf v.toInt.natAbs).length = 0 := by omega
    rw [hstart] at hdigits
    have htext := textOf_eq hdigits
    rw [hlength] at htext
    simp only [Option.bind_some, zero_add, htext]

theorem ofInt32_spec (mBuf : ℤ → UInt8) {v : Int32} (hmin : v ≠ Int32.minValue) :
    ∃ text, ofInt32 mBuf v = some text ∧ IsShortest text v.toInt ∧ convertInt text = v := by
  by_cases hne : v = 0
  · refine ⟨[48], by rw [ofInt32, if_pos hne, zeroText_eq], by rw [hne]; exact isShortest_zero, ?_⟩
    rw [hne]
    decide
  · have hpos : 0 < v.toInt.natAbs := Int.natAbs_pos.2 fun hv => hne (Int32.toInt_inj.1 hv)
    refine ⟨_, ofInt32_eq mBuf hne hmin, ?_⟩
    by_cases hneg : v < 0
    · have hint : v.toInt < 0 := Int32.lt_iff_toInt_lt.1 hneg
      have habs : v.toInt = -(v.toInt.natAbs : ℤ) := by omega
      rw [if_pos hneg]
      refine ⟨?_, ?_⟩
      · rw [habs, Int.natAbs_neg, Int.natAbs_natCast]
        exact isShortest_neg_digitsOf hpos
      · rw [convertInt_minus fun _ => isDigit_digitsOf, numeral_digitsOf, Int32.neg_ofNat, ← habs,
          Int32.ofInt_toInt]
    · have hint : 0 ≤ v.toInt := Int.not_lt.1 fun hv => hneg (Int32.lt_iff_toInt_lt.2 hv)
      have habs : v.toInt = (v.toInt.natAbs : ℤ) := by omega
      rw [if_neg hneg]
      refine ⟨?_, ?_⟩
      · rw [habs, Int.natAbs_natCast]
        exact isShortest_digitsOf hpos
      · rw [convertInt_numeral fun _ => isDigit_digitsOf, numeral_digitsOf, ← Int32.ofInt_eq_ofNat, ← habs,
          Int32.ofInt_toInt]

/-- The least integer has no negation: the remainders of its digits are negative, and the characters
before the digits are written of them. -/
theorem ofInt32_minValue (mBuf : ℤ → UInt8) :
    ofInt32 mBuf Int32.minValue = some (Rutil.literal "-./,),(-*,(") := by
  rfl

/-- Every integer but the least of 32 bits is written as its shortest numeral and read back from it. -/
theorem decimal_coding (mBuf : ℤ → UInt8) :
    (∀ v : Int32, (∃ text, ofInt32 mBuf v = some text ∧ IsShortest text v.toInt ∧ convertInt text = v) ↔
      v ≠ Int32.minValue) ∧
    (∀ v : UInt32, ∃ text, ofUInt32 mBuf v = some text ∧
      IsShortest text v.toNat ∧ convertUnsignedLong text = v.toUInt64) ∧
    ∀ v : UInt64, ∃ text, ofUInt64 mBuf v = some text ∧
      IsShortest text v.toNat ∧ convertUInt64 text = v := by
  refine ⟨fun v => ⟨?_, ofInt32_spec mBuf⟩, ofUInt32_spec mBuf, ofUInt64_spec mBuf⟩
  rintro ⟨text, htext, -, hread⟩ rfl
  rw [ofInt32_minValue] at htext
  cases htext
  revert hread
  decide

theorem not_decimal_coding :
    ofInt32 (fun _ => 0) Int32.minValue = some (Rutil.literal "-./,),(-*,(") ∧
    ¬∃ text, ofInt32 (fun _ => 0) Int32.minValue = some text ∧
      IsShortest text Int32.minValue.toInt ∧ convertInt text = Int32.minValue := by
  refine ⟨ofInt32_minValue _, ?_⟩
  rintro ⟨text, htext, -, hread⟩
  rw [ofInt32_minValue] at htext
  cases htext
  revert hread
  decide

end Resiprocate.Data
