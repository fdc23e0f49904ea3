import Resiprocate.UrlCoding

/-! The percent coding of byte strings. Its decoder looks digits up with `strchr`, which finds the end
of the digits for a zero, and subtracts pointers also when it finds none. -/
namespace Resiprocate.Data
open Rutil (literal)
open HeldBytes (forall_byte)

/-- `isprint` -/
def isprint (c : UInt8) : Bool := 32 ≤ c && c ≤ 126

/-- `strchr` finds a zero at the end of the literal. -/
def charEncodedSpecial (c : UInt8) : Bool :=
  !isprint c || c ∈ literal " \";/?:@&=+%$,\t-_.!~*'()" ++ [0]

def charEncoded : List UInt8 → List UInt8
  | [] => []
  | 13 :: 10 :: p => 13 :: 10 :: charEncoded p
  | c :: p =>
    if charEncodedSpecial c then
      37 :: hexmap.getD ((c.toNat &&& 0xF0) >>> 4) 0 :: hexmap.getD (c.toNat &&& 0x0F) 0 ::
        charEncoded p
    else c :: charEncoded p

/-- `strchr(hexmap, tolower(c))` as an index; `none` is a null pointer. -/
def hexmapIndex (c : UInt8) : Option ℕ := (hexmap ++ [0]).idxOf? (Rutil.toLower c)

/-- A byte that the decoder appends, and where it comes from. -/
inductive Appended
  | plain (c : UInt8)
  | escape (high low byte : UInt8)

def Appended.byte : Appended → UInt8
  | .plain c => c
  | .escape _ _ byte => byte

/-- `int(high - hexmap)`, where the digits are at `hexmapAddress`. -/
def hexmapDifference (hexmapAddress : ℕ) (index : Option ℕ) : BitVec 32 :=
  match index with
  | some n => BitVec.ofNat 32 n
  | none => -BitVec.ofNat 32 hexmapAddress

/-- The byte of an escape, unless the assertion fails. -/
def escapeByte (hexmapAddress : ℕ) (high low : UInt8) : Option UInt8 :=
  if hexmapIndex high = none ∧ hexmapIndex low = none then none
  else
    let highInt := hexmapDifference hexmapAddress (hexmapIndex high)
    let lowInt := hexmapDifference hexmapAddress (hexmapIndex low)
    some ⟨((highInt <<< 4) ||| lowInt).setWidth 8⟩

/-- What `charUnencoded` appends, to the end of the string, to an escape without two characters or to
the assertion. -/
def charUnencodedLoop (hexmapAddress : ℕ) : List UInt8 → List Appended
  | [] => []
  | c :: p =>
    if c = 37 then
      match p with
      | high :: low :: p =>
        match escapeByte hexmapAddress high low with
        | none => []
        | some byte => .escape high low byte :: charUnencodedLoop hexmapAddress p
      | _ => []
    else .plain c :: charUnencodedLoop hexmapAddress p

def charUnencoded (hexmapAddress : ℕ) (s : List UInt8) : List UInt8 :=
  (charUnencodedLoop hexmapAddress s).map (·.byte)

/-! ### Digits -/

/-- A byte that comes from an escape is computed of two hexadecimal digits. -/
def Appended.OfDigits : Appended → Prop
  | .plain _ => True
  | .escape high low byte =>
    ∃ x y, hexDigit high = some x ∧ hexDigit low = some y ∧ byte = UInt8.ofNat (x * 16 + y)

/-- The first escape that has not two hexadecimal digits has neither, nor a zero in their places. -/
def EscapesOfDigits : List UInt8 → Prop
  | [] => True
  | c :: p =>
    if c = 37 then
      match p with
      | high :: low :: p =>
        if hexDigit high ≠ none ∧ hexDigit low ≠ none then EscapesOfDigits p
        else hexDigit high = none ∧ hexDigit low = none ∧ high ≠ 0 ∧ low ≠ 0
      | _ => True
    else EscapesOfDigits p

/-- What the table says of a byte, digit or not, and how digits make bytes. -/
theorem hexDigit_bytes : (∀ c : UInt8, hexmapIndex c = if c = 0 then some 16 else hexDigit c) ∧
    (∀ c : UInt8, (hexDigit c).all (· < 16)) ∧
    (∀ c : UInt8, hexDigit (hexmap.getD ((c.toNat &&& 0xF0) >>> 4) 0) = some (c.toNat / 16) ∧
      hexDigit (hexmap.getD (c.toNat &&& 0x0F) 0) = some (c.toNat % 16)) ∧
    ∀ x < 16, ∀ y < 16, (⟨((BitVec.ofNat 32 x <<< 4) ||| BitVec.ofNat 32 y).setWidth 8⟩ : UInt8) =
      UInt8.ofNat (x * 16 + y) := by
  refine ⟨forall_byte ?_, forall_byte ?_, forall_byte ?_, ?_⟩ <;> decide +kernel

theorem hexmapIndex_eq (c : UInt8) : hexmapIndex c = if c = 0 then some 16 else hexDigit c :=
  hexDigit_bytes.1 c

theorem hexDigit_lt {c : UInt8} {n : ℕ} (h : hexDigit c = some n) : n < 16 := by
  have hc := hexDigit_bytes.2.1 c
  rw [h] at hc
  simpa using hc

theorem hexDigit_zero : hexDigit 0 = none := rfl

/-- The byte of two digits. -/
theorem escapeByte_digits (hexmapAddress : ℕ) {high low : UInt8} {x y : ℕ}
    (hx : hexDigit high = some x) (hy : hexDigit low = some y) :
    escapeByte hexmapAddress high low = some (UInt8.ofNat (x * 16 + y)) := by
  obtain ⟨-, -, -, hbyte⟩ := hexDigit_bytes
  have hhigh : hexmapIndex high = some x := by
    rw [hexmapIndex_eq, if_neg (by rintro rfl; cases hx), hx]
  have hlow : hexmapIndex low = some y := by
    rw [hexmapIndex_eq, if_neg (by rintro rfl; cases hy), hy]
  unfold escapeByte
  rw [hhigh, hlow, if_neg (by simp)]
  exact congrArg some (hbyte x (hexDigit_lt hx) y (hexDigit_lt hy))

theorem escapeByte_none_iff (hexmapAddress : ℕ) {high low : UInt8} :
    escapeByte hexmapAddress high low = none ↔
      hexDigit high = none ∧ hexDigit low = none ∧ high ≠ 0 ∧ low ≠ 0 := by
  have hindex (c : UInt8) : hexmapIndex c = none ↔ hexDigit c = none ∧ c ≠ 0 := by
    rw [hexmapIndex_eq]
    split <;> simp_all
  unfold escapeByte
  split
  case isTrue h =>
    rw [hindex, hindex] at h
    exact ⟨fun _ => ⟨h.1.1, h.2.1, h.1.2, h.2.2⟩, fun _ => rfl⟩
  case isFalse h =>
    rw [hindex, hindex] at h
    exact ⟨nofun, fun h' => absurd ⟨⟨h'.1, h'.2.2.1⟩, h'.2.1, h'.2.2.2⟩ h⟩

/-! ### What is appended -/

theorem charUnencodedLoop_plain (hexmapAddress : ℕ) {c : UInt8} (hc : c ≠ 37) (p : List UInt8) :
    charUnencodedLoop hexmapAddress (c :: p) = .plain c :: charUnencodedLoop hexmapAddress p := by
  rw [charUnencodedLoop.eq_def]
  exact if_neg hc

theorem charUnencodedLoop_digits (hexmapAddress : ℕ) {high low : UInt8} {x y : ℕ}
    (hx : hexDigit high = some x) (hy : hexDigit low = some y) (p : List UInt8) :
    charUnencodedLoop hexmapAddress (37 :: high :: low :: p) =
      .escape high low (UInt8.ofNat (x * 16 + y)) :: charUnencodedLoop hexmapAddress p := by
  rw [charUnencodedLoop, if_pos rfl, escapeByte_digits hexmapAddress hx hy]

theorem ofDigits_iff (hexmapAddress : ℕ) (s : List UInt8) :
    (∀ a ∈ charUnencodedLoop hexmapAddress s, a.OfDigits) ↔ EscapesOfDigits s := by
  induction s using EscapesOfDigits.induct with
  | case1 => simp [charUnencodedLoop, EscapesOfDigits]
  | case2 high low p hdigits ih =>
    obtain ⟨x, hx⟩ := Option.ne_none_iff_exists'.mp hdigits.1
    obtain ⟨y, hy⟩ := Option.ne_none_iff_exists'.mp hdigits.2
    rw [charUnencodedLoop_digits hexmapAddress hx hy, List.forall_mem_cons, ih, EscapesOfDigits,
      if_pos rfl, if_pos hdigits]
    exact and_iff_right ⟨x, y, hx, hy, rfl⟩
  | case3 high low p hdigits =>
    rw [EscapesOfDigits, if_pos rfl, if_neg hdigits, ← escapeByte_none_iff hexmapAddress,
      charUnencodedLoop, if_pos rfl]
    cases hbyte : escapeByte hexmapAddress high low with
    | none => simp
    | some byte =>
      -- the byte is not one of two digits
      simp only [reduceCtorEq, iff_false]
      intro h
      obtain ⟨x, y, hx, hy, -⟩ := h _ List.mem_cons_self
      exact hdigits ⟨by rw [hx]; simp, by rw [hy]; simp⟩
  | case4 p hshort =>
    match p with
    | [] => simp [charUnencodedLoop, EscapesOfDigits]
    | [_] => simp [charUnencodedLoop, EscapesOfDigits]
    | high :: low :: p => exact absurd rfl (hshort high low p)
  | case5 c p hc ih =>
    have hplain : EscapesOfDigits (c :: p) = EscapesOfDigits p := by
      rw [EscapesOfDigits.eq_def]
      exact if_neg hc
    rw [charUnencodedLoop_plain hexmapAddress hc, List.forall_mem_cons, ih, hplain]
    exact and_iff_right trivial

/-! ### The round trip -/

theorem charEncodedSpecial_percent {c : UInt8} (h : ¬charEncodedSpecial c = true) : c ≠ 37 := by
  rintro rfl
  exact absurd (by decide : charEncodedSpecial 37 = true) h

theorem charUnencoded_charEncoded (hexmapAddress : ℕ) (d : List UInt8) :
    charUnencoded hexmapAddress (charEncoded d) = d := by
  unfold charUnencoded
  induction d using charEncoded.induct with
  | case1 => rfl
  | case2 p ih =>
    rw [charEncoded, charUnencodedLoop_plain _ (by decide), charUnencodedLoop_plain _ (by decide),
      List.map_cons, List.map_cons, ih]
    rfl
  | case3 c p hcrlf hspecial ih =>
    obtain ⟨-, -, hdigits, -⟩ := hexDigit_bytes
    rw [charEncoded.eq_3 _ _ hcrlf, if_pos hspecial,
      charUnencodedLoop_digits hexmapAddress (hdigits c).1 (hdigits c).2, List.map_cons, ih,
      Nat.div_add_mod', UInt8.ofNat_toNat]
    rfl
  | case4 c p hcrlf hplain ih =>
    rw [charEncoded.eq_3 _ _ hcrlf, if_neg hplain,
      charUnencodedLoop_plain _ (charEncodedSpecial_percent hplain), List.map_cons, ih]
    rfl

/-- The code of a string is decoded to it, and each byte that is appended for an escape of a string is
one of two hexadecimal digits, exactly if the first escape that has not two digits has none. -/
theorem percent_coding (hexmapAddress : ℕ) (d s : List UInt8) :
    (charUnencoded hexmapAddress (charEncoded d) = d ∧
      ∀ a ∈ charUnencodedLoop hexmapAddress s, a.OfDigits) ↔ EscapesOfDigits s := by
  rw [and_iff_right (charUnencoded_charEncoded hexmapAddress d)]
  exact ofDigits_iff hexmapAddress s

/-- With the digits at an address that ends in 1, the escape of `g1` appends a byte of it. -/
theorem not_percent_coding : ¬(charUnencoded 0x4031 (charEncoded []) = [] ∧
    ∀ a ∈ charUnencodedLoop 0x4031 [37, 103, 49], a.OfDigits) := by
  rintro ⟨-, h⟩
  have hloop : charUnencodedLoop 0x4031 [37, 103, 49] = [.escape 103 49 0xF1] := by
    rw [charUnencodedLoop, if_pos rfl]
    rfl
  rw [hloop] at h
  obtain ⟨x, y, hx, -, -⟩ := h _ List.mem_cons_self
  have hnone : hexDigit 103 = none := rfl
  rw [hnone] at hx
  cases hx

end Resiprocate.Data
