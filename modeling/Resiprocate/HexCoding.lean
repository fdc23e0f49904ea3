import Resiprocate.UrlCoding

/-! The hexadecimal coding of byte strings, with the tables it looks digits up in. A string of odd
length has its first digit alone. -/
namespace Resiprocate.Data
open Rutil (literal toLower)
open HeldBytes (forall_byte)

/-- A row of `isCharHex` without digits. -/
def noHexRow : List Bool := List.replicate 16 false

/-- The elements of `isCharHex` that are written out: its rows 0 to 6 and eight others. -/
def isCharHex : List Bool :=
  noHexRow ++ noHexRow ++ noHexRow ++
  (List.replicate 10 true ++ List.replicate 6 false) ++
  (false :: List.replicate 6 true ++ List.replicate 9 false) ++
  noHexRow ++
  (false :: List.replicate 6 true ++ List.replicate 9 false) ++
  noHexRow ++ noHexRow ++ noHexRow ++ noHexRow ++ noHexRow ++ noHexRow ++ noHexRow ++ noHexRow

/-- The table has 256 elements. Those that are not written out are zero. -/
def isHex (c : UInt8) : Bool := isCharHex.getD c.toNat false

/-- `inversehexmap`, which ends at `f`. -/
def inversehexmap : List ℤ :=
  List.replicate 48 (-1) ++ [0, 1, 2, 3, 4, 5, 6, 7, 8, 9] ++ List.replicate 7 (-1) ++
    [10, 11, 12, 13, 14, 15] ++ List.replicate 26 (-1) ++ [10, 11, 12, 13, 14, 15]

/-- `inversehexmap[c]`; `beyond` is what is in memory after the table. -/
def inverseHex (beyond : ℕ → ℤ) (c : UInt8) : ℤ :=
  inversehexmap.getD c.toNat (beyond (c.toNat - inversehexmap.length))

def hex (d : List UInt8) : List UInt8 :=
  d.flatMap fun (temp : UInt8) =>
    let hi := ((temp &&& 0xf0) >>> 4).toNat
    let low := (temp &&& 0xf).toNat
    [hexmap.getD hi 0, hexmap.getD low 0]

/-- The text of the `DataException`. -/
def nonHexDigit : String := "Encountered non-hex digit"

/-- The loop of `fromHex`, which takes two digits at a time. -/
def fromHexPairs (beyond : ℕ → ℤ) : List UInt8 → Except String (List UInt8)
  | high :: low :: p => do
    if !isHex high || !isHex low then throw nonHexDigit
    return UInt8.ofInt (inverseHex beyond high <<< 4 + inverseHex beyond low) ::
      (← fromHexPairs beyond p)
  | _ => return []

def fromHex (beyond : ℕ → ℤ) (s : List UInt8) : Except String (List UInt8) :=
  match s with
  | c :: p =>
    if s.length % 2 = 1 then do
      if !isHex c then throw nonHexDigit
      return UInt8.ofInt (inverseHex beyond c) :: (← fromHexPairs beyond p)
    else fromHexPairs beyond s
  | [] => fromHexPairs beyond s

def HexDigit (c : UInt8) : Prop := c ∈ literal "0123456789abcdefABCDEF"

instance : DecidablePred HexDigit := fun _ => inferInstanceAs (Decidable (_ ∈ _))

/-- The string in lower case, with a zero before it if its length is odd. -/
def evenLower (s : List UInt8) : List UInt8 := List.replicate (s.length % 2) 48 ++ s.map toLower

/-! ### Single digits -/

/-- Which bytes are digits, what the tables say of them, and how bytes are written. -/
theorem hexDigit_table : (∀ c : UInt8, isHex c = decide (HexDigit c)) ∧
    (∀ c : UInt8, HexDigit c → c.toNat < inversehexmap.length) ∧
    (∀ c : UInt8, HexDigit c → ∃ n < 16,
      inversehexmap.getD c.toNat 0 = (n : ℕ) ∧ hexmap.getD n 0 = toLower c) ∧
    (∀ n < 16, HexDigit (hexmap.getD n 0) ∧ inversehexmap.getD (hexmap.getD n 0).toNat 0 = (n : ℕ)) ∧
    (∀ x < 16, ∀ y < 16,
      hex [UInt8.ofInt (((x : ℕ) : ℤ) <<< 4 + ((y : ℕ) : ℤ))] = [hexmap.getD x 0, hexmap.getD y 0]) ∧
    (∀ x < 16, hex [UInt8.ofInt ((x : ℕ) : ℤ)] = [48, hexmap.getD x 0]) ∧
    ∀ c : UInt8, ((c &&& 0xf0) >>> 4).toNat < 16 ∧ (c &&& 0xf).toNat < 16 ∧
      UInt8.ofInt ((((c &&& 0xf0) >>> 4).toNat : ℤ) <<< 4 + ((c &&& 0xf).toNat : ℤ)) = c := by
  refine ⟨forall_byte ?_, forall_byte ?_, forall_byte ?_, ?_, ?_, ?_, forall_byte ?_⟩ <;> decide +kernel

theorem isHex_iff (c : UInt8) : isHex c = true ↔ HexDigit c := by
  rw [hexDigit_table.1, decide_eq_true_eq]

/-- A digit is inside of the table. -/
theorem HexDigit.lt {c : UInt8} (h : HexDigit c) : c.toNat < inversehexmap.length :=
  hexDigit_table.2.1 c h

theorem inverseHex_eq (beyond : ℕ → ℤ) {c : UInt8} (h : HexDigit c) :
    ∃ n < 16, inverseHex beyond c = (n : ℕ) ∧ hexmap.getD n 0 = toLower c := by
  obtain ⟨n, hn, hinverse, hmap⟩ := hexDigit_table.2.2.1 c h
  refine ⟨n, hn, ?_, hmap⟩
  rw [← hinverse, inverseHex]
  simp only [List.getD_eq_getElem _ _ h.lt]

/-- Digit and value determine each other. -/
theorem inverseHex_hexmap (beyond : ℕ → ℤ) {n : ℕ} (hn : n < 16) :
    HexDigit (hexmap.getD n 0) ∧ inverseHex beyond (hexmap.getD n 0) = n := by
  obtain ⟨-, -, -, hwritten, -⟩ := hexDigit_table
  obtain ⟨hdigit, hinverse⟩ := hwritten n hn
  refine ⟨hdigit, ?_⟩
  rw [← hinverse, inverseHex]
  simp only [List.getD_eq_getElem _ _ hdigit.lt]

/-- The byte that two digits make is written with these digits in lower case. -/
theorem hex_pair (beyond : ℕ → ℤ) {high low : UInt8} (hhigh : HexDigit high) (hlow : HexDigit low) :
    hex [UInt8.ofInt (inverseHex beyond high <<< 4 + inverseHex beyond low)] =
      [toLower high, toLower low] := by
  obtain ⟨x, hx, hxv, hxl⟩ := inverseHex_eq beyond hhigh
  obtain ⟨y, hy, hyv, hyl⟩ := inverseHex_eq beyond hlow
  obtain ⟨-, -, -, -, hpair, -, -⟩ := hexDigit_table
  rw [hxv, hyv, hpair x hx y hy, hxl, hyl]

/-- A single digit makes a byte that is written with a zero before it. -/
theorem hex_single (beyond : ℕ → ℤ) {c : UInt8} (hc : HexDigit c) :
    hex [UInt8.ofInt (inverseHex beyond c)] = [48, toLower c] := by
  obtain ⟨x, hx, hxv, hxl⟩ := inverseHex_eq beyond hc
  obtain ⟨-, -, -, -, -, hsingle, -⟩ := hexDigit_table
  rw [hxv, hsingle x hx, hxl]

/-- The digits of a byte are digits, and they make that byte. -/
theorem hex_byte (beyond : ℕ → ℤ) (c : UInt8) :
    ∃ high low, hex [c] = [high, low] ∧ HexDigit high ∧ HexDigit low ∧
      UInt8.ofInt (inverseHex beyond high <<< 4 + inverseHex beyond low) = c := by
  obtain ⟨-, -, -, -, -, -, hhalves⟩ := hexDigit_table
  obtain ⟨hhi, hlow, hc⟩ := hhalves c
  obtain ⟨hhid, hhiv⟩ := inverseHex_hexmap beyond hhi
  obtain ⟨hlowd, hlowv⟩ := inverseHex_hexmap beyond hlow
  refine ⟨_, _, rfl, hhid, hlowd, ?_⟩
  rw [hhiv, hlowv, hc]

/-! ### Strings -/

theorem hex_cons (c : UInt8) (d : List UInt8) : hex (c :: d) = hex [c] ++ hex d := by
  simp [hex]

theorem hex_length (d : List UInt8) : (hex d).length = 2 * d.length := by
  simp [hex, Nat.mul_comm]

section
variable (beyond : ℕ → ℤ)

theorem fromHexPairs_cons {high low : UInt8} (hhigh : HexDigit high) (hlow : HexDigit low)
    (p : List UInt8) : fromHexPairs beyond (high :: low :: p) = (fromHexPairs beyond p).map
      (UInt8.ofInt (inverseHex beyond high <<< 4 + inverseHex beyond low) :: ·) := by
  rw [fromHexPairs, (isHex_iff high).2 hhigh, (isHex_iff low).2 hlow]
  cases fromHexPairs beyond p <;> rfl

/-- The pairs fail at the first byte that is no digit, and else they make what is written so. -/
theorem fromHexPairs_spec : ∀ (s : List UInt8), s.length % 2 = 0 →
    (fromHexPairs beyond s = .error nonHexDigit ∧ ∃ c ∈ s, ¬HexDigit c) ∨
    (∃ d, fromHexPairs beyond s = .ok d ∧ (∀ c ∈ s, HexDigit c) ∧ hex d = s.map toLower)
  | [], _ => .inr ⟨[], rfl, by simp, rfl⟩
  | [c], h => by simp at h
  | high :: low :: p, h => by
    by_cases hboth : HexDigit high ∧ HexDigit low
    · obtain ⟨hhigh, hlow⟩ := hboth
      have hp : p.length % 2 = 0 := by
        rw [List.length_cons, List.length_cons] at h
        omega
      rw [fromHexPairs_cons beyond hhigh hlow]
      rcases fromHexPairs_spec p hp with
        ⟨hp, c, hc, hnot⟩ | ⟨d, hp, hall, hd⟩
      · exact .inl ⟨by rw [hp]; rfl, c, by simp [hc], hnot⟩
      · refine .inr ⟨_, by rw [hp]; rfl, ?_, ?_⟩
        · simpa [hhigh, hlow] using hall
        · rw [hex_cons, hex_pair beyond hhigh hlow, hd]
          rfl
    · refine .inl ⟨?_, ?_⟩
      · have hbad : (!isHex high || !isHex low) = true := by
          rw [← isHex_iff, ← isHex_iff] at hboth
          revert hboth
          cases isHex high <;> cases isHex low <;> simp
        rw [fromHexPairs, if_pos hbad]
        rfl
      · rw [not_and_or] at hboth
        rcases hboth with hhigh | hlow
        · exact ⟨high, by simp, hhigh⟩
        · exact ⟨low, by simp, hlow⟩

theorem fromHex_even {s : List UInt8} (h : s.length % 2 = 0) : fromHex beyond s = fromHexPairs beyond s := by
  cases s with
  | nil => rfl
  | cons c p => rw [fromHex, if_neg (by omega)]

/-- Either a byte is no digit, and the decoder throws, or it makes what is written so. -/
theorem fromHex_spec (s : List UInt8) :
    (fromHex beyond s = .error nonHexDigit ∧ ∃ c ∈ s, ¬HexDigit c) ∨
    (∃ d, fromHex beyond s = .ok d ∧ (∀ c ∈ s, HexDigit c) ∧ hex d = evenLower s) := by
  rcases Nat.mod_two_eq_zero_or_one s.length with heven | hodd
  · rw [fromHex_even beyond heven, evenLower, heven]
    exact fromHexPairs_spec beyond s heven
  · cases s with
    | nil => simp at hodd
    | cons c p =>
      rw [fromHex, if_pos hodd]
      by_cases hc : HexDigit c
      · rw [(isHex_iff c).2 hc]
        have hp : p.length % 2 = 0 := by
          rw [List.length_cons] at hodd
          omega
        rcases fromHexPairs_spec beyond p hp with ⟨hpairs, e, he, hnot⟩ | ⟨d, hpairs, hall, hd⟩
        · exact .inl ⟨by rw [hpairs]; rfl, e, by simp [he], hnot⟩
        · refine .inr ⟨_, by rw [hpairs]; rfl, by simpa [hc] using hall, ?_⟩
          rw [hex_cons, hex_single beyond hc, hd, evenLower, hodd]
          rfl
      · refine .inl ⟨?_, c, by simp, hc⟩
        rw [← isHex_iff, Bool.not_eq_true] at hc
        rw [hc]
        rfl

/-- What is written reads back. -/
theorem fromHex_hex (d : List UInt8) : fromHex beyond (hex d) = .ok d := by
  rw [fromHex_even beyond (by rw [hex_length]; omega)]
  induction d with
  | nil => rfl
  | cons c d ih =>
    obtain ⟨high, low, hwritten, hhigh, hlow, hc⟩ := hex_byte beyond c
    rw [hex_cons, hwritten]
    change fromHexPairs beyond (high :: low :: hex d) = _
    rw [fromHexPairs_cons beyond hhigh hlow, ih, hc]
    rfl

/-- The coding and its decoder: what is written reads back, the decoder throws exactly when a byte is
no digit, and what it reads otherwise is written as the string in lower case and of even length. -/
theorem hex_coding :
    (∀ d, fromHex beyond (hex d) = .ok d) ∧
    ∀ s, (fromHex beyond s = .error nonHexDigit ↔ ∃ c ∈ s, ¬HexDigit c) ∧
      ((∀ c ∈ s, HexDigit c) → ∃ d, fromHex beyond s = .ok d ∧ hex d = evenLower s) := by
  refine ⟨fromHex_hex beyond, fun s => ?_⟩
  rcases fromHex_spec beyond s with ⟨hfails, c, hc, hnot⟩ | ⟨d, hd, hall, hwritten⟩
  · exact ⟨⟨fun _ => ⟨c, hc, hnot⟩, fun _ => hfails⟩, fun hall => absurd (hall c hc) hnot⟩
  · refine ⟨⟨fun hfails => ?_, fun ⟨c, hc, hnot⟩ => absurd (hall c hc) hnot⟩, fun _ => ⟨d, hd, hwritten⟩⟩
    rw [hd] at hfails
    cases hfails

end

end Resiprocate.Data
