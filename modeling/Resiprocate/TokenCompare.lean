import Resiprocate.MaskedBits

/-! The comparison of two tokens that leaves case out, a word at a time. -/
namespace Resiprocate.Data
open MaskedBits

/-- Two bytes as a number, in the byte order of the build. -/
def get16bits (bigEndian : Bool) (b₀ b₁ : UInt8) : UInt32 :=
  if bigEndian then (b₀.toUInt32 <<< 8) + b₁.toUInt32 else (b₁.toUInt32 <<< 8) + b₀.toUInt32

def get32bits (bigEndian : Bool) (b₀ b₁ b₂ b₃ : UInt8) : UInt32 :=
  if bigEndian then (get16bits bigEndian b₀ b₁ <<< 16) + get16bits bigEndian b₂ b₃
  else (get16bits bigEndian b₂ b₃ <<< 16) + get16bits bigEndian b₀ b₁

/-- A word that is read from memory at once. -/
def loadWord (bigEndian : Bool) (b₀ b₁ b₂ b₃ : UInt8) : UInt32 :=
  ⟨if bigEndian then b₀.toBitVec ++ b₁.toBitVec ++ (b₂.toBitVec ++ b₃.toBitVec)
    else b₃.toBitVec ++ b₂.toBitVec ++ (b₁.toBitVec ++ b₀.toBitVec)⟩

variable (bigEndian : Bool)

/-- `compUnalignedRemainder`. The two pointers advance together, so that the rest of both buffers is
a list of pairs; `none` is a difference. -/
def compUnalignedRemainder (size : ℕ) (d : List (UInt8 × UInt8)) : Option (List (UInt8 × UInt8)) :=
  match size, d with
  | 3, (a, b) :: (a₀, b₀) :: (a₁, b₁) :: d =>
    if (a ^^^ b) &&& 0xDF ≠ 0 then none
    else if (get16bits bigEndian a₀ a₁ ^^^ get16bits bigEndian b₀ b₁) &&& 0xDFDF ≠ 0 then none
    else some d
  | 2, (a₀, b₀) :: (a₁, b₁) :: d =>
    if (get16bits bigEndian a₀ a₁ ^^^ get16bits bigEndian b₀ b₁) &&& 0xDFDF ≠ 0 then none
    else some d
  | 1, (a, b) :: d => if (a ^^^ b) &&& 0xDF ≠ 0 then none else some d
  | _, d => some d

/-- The loop over `wordLen` words, of which those of the second buffer are read by `load`. -/
def compWords (load : UInt8 → UInt8 → UInt8 → UInt8 → UInt32) :
    ℕ → List (UInt8 × UInt8) → Option (List (UInt8 × UInt8))
  | wordLen + 1, (a₀, b₀) :: (a₁, b₁) :: (a₂, b₂) :: (a₃, b₃) :: d =>
    if (loadWord bigEndian a₀ a₁ a₂ a₃ ^^^ load b₀ b₁ b₂ b₃) &&& 0xDFDFDFDF ≠ 0 then none
    else compWords load wordLen d
  | _, d => some d

/-- Two buffers of one size at the addresses `d₁` and `d₂`. -/
def sizeEqualCaseInsensitiveTokenCompare (d₁ d₂ : ℕ) (mBuf rhs : List UInt8) : Bool :=
  let mSize := mBuf.length
  let d := mBuf.zip rhs
  if mSize < 4 then (compUnalignedRemainder bigEndian mSize d).isSome
  else
    let unalignedPrefix := 4 - d₁ % 4
    match compUnalignedRemainder bigEndian unalignedPrefix d with
    | none => false
    | some rest =>
      let wordLen := (mSize - unalignedPrefix) / 4
      let rem := (mSize - unalignedPrefix) % 4
      -- the second pointer has advanced by what was compared
      let d₂ := d₂ + (d.length - rest.length)
      let load := if d₂ % 4 = 0 then loadWord bigEndian else get32bits bigEndian
      match compWords bigEndian load wordLen rest with
      | none => false
      | some rest => (compUnalignedRemainder bigEndian rem rest).isSome

/-! ### Words and bytes -/

/-- Two bytes have the same bits but for 0x20. -/
def agree (p : UInt8 × UInt8) : Bool := p.1 &&& 0xDF == p.2 &&& 0xDF

variable {bigEndian}

theorem agree_iff {p : UInt8 × UInt8} : agree p ↔ Agree 0xDF#8 p.1.toBitVec p.2.toBitVec := by
  obtain ⟨a, b⟩ := p
  unfold agree
  rw [beq_iff_eq, ← UInt8.toBitVec_inj, agree_iff_and]
  rfl

theorem toNat_get16bits (b₀ b₁ : UInt8) :
    (get16bits bigEndian b₀ b₁).toNat =
      if bigEndian then b₀.toNat * 256 + b₁.toNat else b₁.toNat * 256 + b₀.toNat := by
  have hbytes (x y : UInt8) : ((x.toUInt32 <<< 8) + y.toUInt32).toNat = x.toNat * 256 + y.toNat := by
    have hx := x.toNat_lt
    have hy := y.toNat_lt
    simp [Nat.shiftLeft_eq]
    omega
  unfold get16bits
  cases bigEndian
  · exact hbytes b₁ b₀
  · exact hbytes b₀ b₁

theorem toNat_loadWord (b₀ b₁ b₂ b₃ : UInt8) :
    (loadWord bigEndian b₀ b₁ b₂ b₃).toNat =
      if bigEndian then (b₀.toNat * 256 + b₁.toNat) * 65536 + (b₂.toNat * 256 + b₃.toNat)
      else (b₃.toNat * 256 + b₂.toNat) * 65536 + (b₁.toNat * 256 + b₀.toNat) := by
  have hfour (w x y z : BitVec 8) : (w ++ x ++ (y ++ z)).toNat =
      (w.toNat * 256 + x.toNat) * 65536 + (y.toNat * 256 + z.toNat) := by
    rw [MaskedBits.toNat_append, MaskedBits.toNat_append, MaskedBits.toNat_append]
    rfl
  cases bigEndian
  · exact hfour b₃.toBitVec b₂.toBitVec b₁.toBitVec b₀.toBitVec
  · exact hfour b₀.toBitVec b₁.toBitVec b₂.toBitVec b₃.toBitVec

theorem get32bits_eq_loadWord (b₀ b₁ b₂ b₃ : UInt8) :
    get32bits bigEndian b₀ b₁ b₂ b₃ = loadWord bigEndian b₀ b₁ b₂ b₃ := by
  have h₀ := b₀.toNat_lt
  have h₁ := b₁.toNat_lt
  have h₂ := b₂.toNat_lt
  have h₃ := b₃.toNat_lt
  apply UInt32.toNat_inj.mp
  rw [toNat_loadWord]
  unfold get32bits
  cases bigEndian <;> simp [toNat_get16bits, Nat.shiftLeft_eq] <;> omega

/-! ### Differences -/

theorem differ_byte {a b : UInt8} : (a ^^^ b) &&& 0xDF ≠ 0 ↔ agree (a, b) = false := by
  rw [Bool.eq_false_iff, ne_eq, not_iff_not, agree_iff, ← UInt8.toBitVec_inj]
  rfl

theorem toBitVec_get16bits (b₀ b₁ : UInt8) :
    (get16bits bigEndian b₀ b₁).toBitVec =
      0#16 ++ if bigEndian then b₀.toBitVec ++ b₁.toBitVec else b₁.toBitVec ++ b₀.toBitVec := by
  have htwo (x y : BitVec 8) : (0#16 ++ (x ++ y)).toNat = x.toNat * 256 + y.toNat := by
    rw [MaskedBits.toNat_append, MaskedBits.toNat_append]
    simp
  apply BitVec.eq_of_toNat_eq
  rw [UInt32.toNat_toBitVec, toNat_get16bits]
  cases bigEndian
  · exact (htwo b₁.toBitVec b₀.toBitVec).symm
  · exact (htwo b₀.toBitVec b₁.toBitVec).symm

theorem differ_half {a₀ a₁ b₀ b₁ : UInt8} :
    (get16bits bigEndian a₀ a₁ ^^^ get16bits bigEndian b₀ b₁) &&& 0xDFDF ≠ 0 ↔
      (agree (a₀, b₀) && agree (a₁, b₁)) = false := by
  have hhalf : ((get16bits bigEndian a₀ a₁ ^^^ get16bits bigEndian b₀ b₁) &&& 0xDFDF).toBitVec = 0 ↔
      Agree (0#16 ++ (0xDF#8 ++ 0xDF#8)) (get16bits bigEndian a₀ a₁).toBitVec
        (get16bits bigEndian b₀ b₁).toBitVec := Iff.rfl
  have hhigh : Agree 0#16 0#16 0#16 := rfl
  rw [Bool.eq_false_iff, ne_eq, not_iff_not, ← UInt32.toBitVec_inj]
  simp only [Bool.and_eq_true, agree_iff]
  refine hhalf.trans ?_
  rw [toBitVec_get16bits, toBitVec_get16bits]
  cases bigEndian
  · simp only [Bool.false_eq_true, if_false]
    rw [agree_append, agree_append, and_iff_right hhigh, and_comm]
  · simp only [if_true]
    rw [agree_append, agree_append, and_iff_right hhigh]

theorem differ_word {a₀ a₁ a₂ a₃ b₀ b₁ b₂ b₃ : UInt8} :
    (loadWord bigEndian a₀ a₁ a₂ a₃ ^^^ loadWord bigEndian b₀ b₁ b₂ b₃) &&& 0xDFDFDFDF ≠ 0 ↔
      (agree (a₀, b₀) && agree (a₁, b₁) && (agree (a₂, b₂) && agree (a₃, b₃))) = false := by
  rw [Bool.eq_false_iff, ne_eq, not_iff_not, ← UInt32.toBitVec_inj]
  simp only [Bool.and_eq_true, agree_iff]
  cases bigEndian
  · change Agree (0xDF#8 ++ 0xDF#8 ++ (0xDF#8 ++ 0xDF#8))
      (a₃.toBitVec ++ a₂.toBitVec ++ (a₁.toBitVec ++ a₀.toBitVec))
      (b₃.toBitVec ++ b₂.toBitVec ++ (b₁.toBitVec ++ b₀.toBitVec)) ↔ _
    rw [agree_append, agree_append, agree_append]
    tauto
  · change Agree (0xDF#8 ++ 0xDF#8 ++ (0xDF#8 ++ 0xDF#8))
      (a₀.toBitVec ++ a₁.toBitVec ++ (a₂.toBitVec ++ a₃.toBitVec))
      (b₀.toBitVec ++ b₁.toBitVec ++ (b₂.toBitVec ++ b₃.toBitVec)) ↔ _
    rw [agree_append, agree_append, agree_append]

/-! ### The comparison -/

/-- The first `n` pairs agree, and the rest follows them. -/
def agreed (n : ℕ) (d : List (UInt8 × UInt8)) : Option (List (UInt8 × UInt8)) :=
  if (d.take n).all agree then some (d.drop n) else none

theorem compUnalignedRemainder_eq {size : ℕ} {d : List (UInt8 × UInt8)} (hsize : size < 4)
    (hd : size ≤ d.length) : compUnalignedRemainder bigEndian size d = agreed size d := by
  unfold agreed
  match size, d with
  | 0, d => simp [compUnalignedRemainder]
  | 1, (a, b) :: d =>
    rw [compUnalignedRemainder, if_congr differ_byte rfl rfl]
    cases h : agree (a, b) <;> simp [h]
  | 2, (a₀, b₀) :: (a₁, b₁) :: d =>
    rw [compUnalignedRemainder, if_congr differ_half rfl rfl]
    cases h₀ : agree (a₀, b₀) <;> cases h₁ : agree (a₁, b₁) <;> simp [h₀, h₁]
  | 3, (a, b) :: (a₀, b₀) :: (a₁, b₁) :: d =>
    rw [compUnalignedRemainder, if_congr differ_byte rfl rfl, if_congr differ_half rfl rfl]
    cases h : agree (a, b) <;> cases h₀ : agree (a₀, b₀) <;> cases h₁ : agree (a₁, b₁) <;>
      simp [h, h₀, h₁]

theorem agreed_add (k n : ℕ) (d : List (UInt8 × UInt8)) :
    agreed (k + n) d = (agreed k d).bind (agreed n) := by
  unfold agreed
  rw [List.take_add, List.all_append, ← List.drop_drop]
  by_cases h : (d.take k).all agree <;> simp [h]

theorem compWords_eq {load : UInt8 → UInt8 → UInt8 → UInt8 → UInt32}
    (hload : load = loadWord bigEndian) {wordLen : ℕ} {d : List (UInt8 × UInt8)}
    (hd : 4 * wordLen ≤ d.length) : compWords bigEndian load wordLen d = agreed (4 * wordLen) d := by
  subst hload
  induction wordLen generalizing d with
  | zero => simp [compWords, agreed]
  | succ wordLen ih =>
    match d with
    | (a₀, b₀) :: (a₁, b₁) :: (a₂, b₂) :: (a₃, b₃) :: d =>
      simp only [List.length_cons] at hd
      rw [compWords, if_congr differ_word rfl rfl, ih (by omega), Nat.mul_succ, Nat.add_comm,
        agreed_add 4]
      unfold agreed
      cases h₀ : agree (a₀, b₀) <;> cases h₁ : agree (a₁, b₁) <;> cases h₂ : agree (a₂, b₂) <;>
        cases h₃ : agree (a₃, b₃) <;> simp [h₀, h₁, h₂, h₃]

/-- How many pairs are compared. A first buffer at a word's address has no prefix, and what is taken
off its size for one stays uncompared. -/
def compared (d₁ size : ℕ) : ℕ := if 4 ≤ size ∧ d₁ % 4 = 0 then size - 4 else size

theorem agreed_isSome (n : ℕ) (d : List (UInt8 × UInt8)) :
    (agreed n d).isSome = (d.take n).all agree := by
  unfold agreed
  split <;> simp_all

theorem length_agreed {n : ℕ} {d rest : List (UInt8 × UInt8)} (h : agreed n d = some rest) :
    rest.length = d.length - n := by
  unfold agreed at h
  split at h
  · obtain rfl := Option.some.inj h
    exact List.length_drop
  · cases h

/-- The words and the remainder, from where the prefix has ended. -/
theorem compRest_eq {load : UInt8 → UInt8 → UInt8 → UInt8 → UInt32}
    (hload : load = loadWord bigEndian) {size : ℕ} {rest : List (UInt8 × UInt8)}
    (hsize : size ≤ rest.length) :
    (match compWords bigEndian load (size / 4) rest with
      | none => false
      | some rest => (compUnalignedRemainder bigEndian (size % 4) rest).isSome) =
      (agreed size rest).isSome := by
  have hsplit : agreed size rest = (agreed (4 * (size / 4)) rest).bind (agreed (size % 4)) := by
    rw [← agreed_add, Nat.div_add_mod]
  rw [hsplit, compWords_eq hload (by omega)]
  cases hwords : agreed (4 * (size / 4)) rest with
  | none => rfl
  | some last =>
    have hlength := length_agreed hwords
    have hmod := Nat.mod_lt size (show 0 < 4 by omega)
    dsimp only
    rw [compUnalignedRemainder_eq hmod (by omega)]
    rfl

theorem compare_eq (d₁ d₂ : ℕ) {mBuf rhs : List UInt8} (hsize : mBuf.length = rhs.length) :
    sizeEqualCaseInsensitiveTokenCompare bigEndian d₁ d₂ mBuf rhs =
      ((mBuf.zip rhs).take (compared d₁ mBuf.length)).all agree := by
  have hlength : (mBuf.zip rhs).length = mBuf.length := by simp [hsize]
  have hload : ∀ a, (if a % 4 = 0 then loadWord bigEndian else get32bits bigEndian) =
      loadWord bigEndian := by
    intro a
    split
    · rfl
    · funext b₀ b₁ b₂ b₃
      exact get32bits_eq_loadWord b₀ b₁ b₂ b₃
  unfold sizeEqualCaseInsensitiveTokenCompare compared
  generalize mBuf.zip rhs = d at hlength ⊢
  generalize mBuf.length = size at hlength ⊢
  rw [← agreed_isSome]
  dsimp only
  by_cases hshort : size < 4
  · rw [if_pos hshort, if_neg (by omega), compUnalignedRemainder_eq hshort (by omega)]
  rw [if_neg hshort]
  by_cases haligned : d₁ % 4 = 0
  · -- nothing is compared of a prefix of four bytes
    have hfirst : compUnalignedRemainder bigEndian (4 - d₁ % 4) d = some d := by
      rw [haligned]
      rfl
    rw [hfirst, if_pos ⟨by omega, haligned⟩, haligned]
    exact compRest_eq (hload _) (by omega)
  · rw [if_neg (by omega), compUnalignedRemainder_eq (by omega) (by omega)]
    have hsplit : agreed size d =
        (agreed (4 - d₁ % 4) d).bind (agreed (size - (4 - d₁ % 4))) := by
      rw [← agreed_add]
      congr 1
      omega
    rw [hsplit]
    cases hfirst : agreed (4 - d₁ % 4) d with
    | none => rfl
    | some rest =>
      have hrest := length_agreed hfirst
      exact compRest_eq (hload _) (by omega)

/-! ### What the comparison is for -/

/-- The buffers are equal but for the bit 0x20 of their bytes. -/
def TokenEqual (mBuf rhs : List UInt8) : Prop :=
  List.Forall₂ (fun a b : UInt8 => a &&& 0xDF = b &&& 0xDF) mBuf rhs

/-- The first buffer is at a word's address, and the only difference is in the last four bytes. -/
def LastFourDiffer (d₁ : ℕ) (mBuf rhs : List UInt8) : Prop :=
  4 ≤ mBuf.length ∧ d₁ % 4 = 0 ∧ ((mBuf.zip rhs).take (mBuf.length - 4)).all agree ∧
    ((mBuf.zip rhs).drop (mBuf.length - 4)).all agree = false

theorem tokenEqual_iff {mBuf rhs : List UInt8} (hsize : mBuf.length = rhs.length) :
    TokenEqual mBuf rhs ↔ (mBuf.zip rhs).all agree := by
  unfold TokenEqual
  rw [List.forall₂_iff_zip, List.all_eq_true]
  simp [hsize, agree]

theorem token_compare (bigEndian : Bool) (d₁ d₂ : ℕ) (mBuf rhs : List UInt8)
    (hsize : mBuf.length = rhs.length) :
    (sizeEqualCaseInsensitiveTokenCompare bigEndian d₁ d₂ mBuf rhs = true ↔ TokenEqual mBuf rhs) ↔
      ¬LastFourDiffer d₁ mBuf rhs := by
  have hlength : (mBuf.zip rhs).length = mBuf.length := by simp [hsize]
  rw [compare_eq d₁ d₂ hsize, tokenEqual_iff hsize]
  unfold compared LastFourDiffer
  by_cases hcase : 4 ≤ mBuf.length ∧ d₁ % 4 = 0
  · have hall : (mBuf.zip rhs).all agree =
        (((mBuf.zip rhs).take (mBuf.length - 4)).all agree &&
          ((mBuf.zip rhs).drop (mBuf.length - 4)).all agree) := by
      rw [← List.all_append, List.take_append_drop]
    rw [if_pos hcase, hall]
    simp only [hcase, true_and]
    cases ((mBuf.zip rhs).take (mBuf.length - 4)).all agree <;> simp
  · rw [if_neg hcase, ← hlength, List.take_length]
    simp only [true_iff]
    rw [hlength]
    tauto

/-- Two tokens that differ in case. -/
theorem token_compare_sip :
    (sizeEqualCaseInsensitiveTokenCompare false 1 2 [0x53, 0x69, 0x70, 0x73] [0x73, 0x49, 0x50, 0x53]
      = true ↔ TokenEqual [0x53, 0x69, 0x70, 0x73] [0x73, 0x49, 0x50, 0x53]) ↔
      ¬LastFourDiffer 1 [0x53, 0x69, 0x70, 0x73] [0x73, 0x49, 0x50, 0x53] :=
  token_compare false 1 2 _ _ rfl

/-- At a word's address, `abcd` is taken for `wxyz`. -/
theorem not_token_compare :
    ¬(sizeEqualCaseInsensitiveTokenCompare false 0 0 [0x61, 0x62, 0x63, 0x64]
      [0x77, 0x78, 0x79, 0x7A] = true ↔
        TokenEqual [0x61, 0x62, 0x63, 0x64] [0x77, 0x78, 0x79, 0x7A]) := by
  unfold TokenEqual
  decide

end Resiprocate.Data
