import Resiprocate.HeldBytes
import Resiprocate.ParseBuffer

/-! The coding of byte strings in a URL. The decoder reads memory, in which bytes that are not the
string's follow it. -/
namespace Resiprocate.Data
open Rutil (literal)
open HeldBytes

/-- The digit of a case of `hexpair2int`. -/
def hexDigit (c : UInt8) : Option ℕ :=
  if 48 ≤ c ∧ c ≤ 57 then some (c.toNat - 48)
  else if 65 ≤ c ∧ c ≤ 70 then some (c.toNat - 55)
  else if 97 ≤ c ∧ c ≤ 102 then some (c.toNat - 87)
  else none

def questionMark : ℕ := 63

/-- Two digits of zero are no byte. -/
def hexpair2int (high low : UInt8) : ℕ :=
  match hexDigit high with
  | none => questionMark
  | some val =>
    match hexDigit low with
    | none => questionMark
    | some digit => if digit = 0 ∧ val = 0 then questionMark else val * 16 + digit

def hexmap : List UInt8 := literal "0123456789abcdef"

def isalpha (c : UInt8) : Bool := (65 ≤ c && c ≤ 90) || (97 ≤ c && c ≤ 122)

/-- `urlNonEncodedChars` -/
def urlNonEncodedChar (c : UInt8) : Bool :=
  isalpha c || Rutil.isDigit c || c ∈ literal "-_.~!$'()*,;=:@/?"

def urlEncodeChar (c : UInt8) : List UInt8 :=
  if urlNonEncodedChar c then [c]
  else if c = 0x20 then [43]
  else [37, hexmap.getD (c.toNat / 16) 0, hexmap.getD (c.toNat % 16) 0]

def urlEncode (d : List UInt8) : List UInt8 := d.flatMap urlEncodeChar

/-- The loop of `urlDecode` at the offset `p`, where the counter is `i`: what it writes, and the offsets
that it reads. `none` is a loop that has not ended. -/
def urlDecodeLoop (memory : ℕ → UInt8) (size : ℕ) : ℕ → ℕ → ℕ → Option (List UInt8 × List ℕ)
  | 0, _, _ => none
  | fuel + 1, p, i =>
    if p = size then some ([], [])
    else
      let c := memory p
      if c = 37 then
        if i + 2 < size then
          -- the pointer skips the digits, and the counter does not
          (urlDecodeLoop memory size fuel (p + 3) (i + 1)).map fun r =>
            (UInt8.ofNat (hexpair2int (memory (p + 1)) (memory (p + 2))) :: r.1,
              p :: (p + 1) :: (p + 2) :: r.2)
        else some ([], [p])
      else
        (urlDecodeLoop memory size fuel (p + 1) (i + 1)).map fun r =>
          ((if c = 43 then 32 else c) :: r.1, p :: r.2)

/-- `urlDecode` of a string that the memory begins with ends, with these bytes and these reads. -/
def UrlDecodes (memory : ℕ → UInt8) (size : ℕ) (result : List UInt8 × List ℕ) : Prop :=
  ∃ fuel, urlDecodeLoop memory size fuel 0 0 = some result

/-! ### Escapes inside the string -/

/-- The bytes of a string of which the escapes are read to its end. -/
def urlDecoded : List UInt8 → List UInt8
  | [] => []
  | c :: rest =>
    if c = 37 then
      match rest with
      | high :: low :: rest => UInt8.ofNat (hexpair2int high low) :: urlDecoded rest
      | _ => []
    else (if c = 43 then 32 else c) :: urlDecoded rest

/-- Every escape has two digits, or is the first one; `escaped` if one came before the string. -/
def EscapesComplete : Bool → List UInt8 → Prop
  | _, [] => True
  | escaped, c :: rest =>
    if c = 37 then
      match rest with
      | _ :: _ :: rest => EscapesComplete true rest
      | _ => escaped = false
    else EscapesComplete escaped rest

theorem urlDecoded_plain {c : UInt8} (hc : c ≠ 37) (rest : List UInt8) :
    urlDecoded (c :: rest) = (if c = 43 then 32 else c) :: urlDecoded rest := by
  rw [urlDecoded.eq_def]
  exact if_neg hc

theorem escapesComplete_plain {c : UInt8} (hc : c ≠ 37) (escaped : Bool) (rest : List UInt8) :
    EscapesComplete escaped (c :: rest) = EscapesComplete escaped rest := by
  rw [EscapesComplete.eq_def]
  exact if_neg hc

variable {memory : ℕ → UInt8} {size p i : ℕ}

theorem urlDecodeLoop_end (fuel : ℕ) : urlDecodeLoop memory size (fuel + 1) size i = some ([], []) :=
  if_pos rfl

theorem urlDecodeLoop_plain {c : UInt8} (hc : c ≠ 37) (hmemory : memory p = c) (hp : p < size)
    (fuel : ℕ) :
    urlDecodeLoop memory size (fuel + 1) p i =
      (urlDecodeLoop memory size fuel (p + 1) (i + 1)).map fun r =>
        ((if c = 43 then 32 else c) :: r.1, p :: r.2) := by
  subst hmemory
  rw [urlDecodeLoop, if_neg (Nat.ne_of_lt hp)]
  exact if_neg hc

theorem urlDecodeLoop_escape {high low : UInt8} (hmemory : memory p = 37)
    (hhigh : memory (p + 1) = high) (hlow : memory (p + 2) = low) (hp : p < size)
    (hi : i + 2 < size) (fuel : ℕ) :
    urlDecodeLoop memory size (fuel + 1) p i =
      (urlDecodeLoop memory size fuel (p + 3) (i + 1)).map fun r =>
        (UInt8.ofNat (hexpair2int high low) :: r.1, p :: (p + 1) :: (p + 2) :: r.2) := by
  subst hhigh hlow
  rw [urlDecodeLoop, if_neg (Nat.ne_of_lt hp), hmemory]
  exact (if_pos rfl).trans (if_pos hi)

theorem urlDecodeLoop_break (hmemory : memory p = 37) (hp : p < size) (hi : ¬i + 2 < size)
    (fuel : ℕ) : urlDecodeLoop memory size (fuel + 1) p i = some ([], [p]) := by
  rw [urlDecodeLoop, if_neg (Nat.ne_of_lt hp), hmemory]
  exact (if_pos rfl).trans (if_neg hi)

/-- The counter falls behind the pointer at each escape, and stays equal to it before the first. -/
theorem urlDecodeLoop_complete {escaped : Bool} {s : List UInt8} (hs : Holds memory p s)
    (hsize : p + s.length = size) (hcomplete : EscapesComplete escaped s) (hi : i ≤ p)
    (hescaped : escaped = false → i = p) :
    ∃ fuel reads, urlDecodeLoop memory size fuel p i = some (urlDecoded s, reads) ∧
      ∀ q ∈ reads, q < size := by
  induction s using urlDecoded.induct generalizing p i escaped with
  | case1 =>
    obtain rfl : p = size := hsize
    exact ⟨1, [], urlDecodeLoop_end 0, by simp⟩
  | case2 high low rest ih =>
    simp only [holds_cons] at hs
    simp only [List.length_cons] at hsize
    simp only [EscapesComplete, if_true] at hcomplete
    obtain ⟨fuel, reads, hrun, hreads⟩ := ih hs.2.2.2 (by omega) hcomplete (by omega : i + 1 ≤ _)
      fun h => absurd h.symm Bool.false_ne_true
    refine ⟨fuel + 1, p :: (p + 1) :: (p + 2) :: reads, ?_, ?_⟩
    · rw [urlDecodeLoop_escape hs.1 hs.2.1 hs.2.2.1 (by omega) (by omega), hrun]
      rfl
    · simp only [List.forall_mem_cons]
      exact ⟨by omega, by omega, by omega, hreads⟩
  | case3 rest hshort =>
    simp only [holds_cons] at hs
    simp only [List.length_cons] at hsize
    have hlength : rest.length < 2 := by
      rcases rest with _ | ⟨high, _ | ⟨low, rest⟩⟩
      · exact Nat.zero_lt_two
      · exact Nat.one_lt_two
      · exact absurd rfl (hshort high low rest)
    have hfirst : escaped = false := by
      rcases rest with _ | ⟨high, _ | ⟨low, rest⟩⟩
      · exact hcomplete
      · exact hcomplete
      · exact absurd rfl (hshort high low rest)
    have hcounter := hescaped hfirst
    refine ⟨1, [p], ?_, by simp; omega⟩
    rw [urlDecodeLoop_break hs.1 (by omega) (by omega)]
    rcases rest with _ | ⟨high, _ | ⟨low, rest⟩⟩
    · rfl
    · rfl
    · exact absurd rfl (hshort high low rest)
  | case4 c rest hc ih =>
    simp only [holds_cons] at hs
    simp only [List.length_cons] at hsize
    rw [escapesComplete_plain hc] at hcomplete
    obtain ⟨fuel, reads, hrun, hreads⟩ := ih hs.2 (by omega) hcomplete (by omega : i + 1 ≤ _)
      fun h => by rw [hescaped h]
    refine ⟨fuel + 1, p :: reads, ?_, ?_⟩
    · rw [urlDecodeLoop_plain hc hs.1 (by omega), hrun, urlDecoded_plain hc]
      rfl
    · simp only [List.forall_mem_cons]
      exact ⟨by omega, hreads⟩

/-! ### The round trip -/

/-- What comes back for a byte. -/
def zeroReplaced (c : UInt8) : UInt8 := if c = 0 then 63 else c

theorem hexDigit_hexmap {n : ℕ} (hn : n < 16) : hexDigit (hexmap.getD n 0) = some n := by
  revert n
  decide

theorem hexpair2int_hexmap (c : UInt8) :
    UInt8.ofNat (hexpair2int (hexmap.getD (c.toNat / 16) 0) (hexmap.getD (c.toNat % 16) 0)) =
      zeroReplaced c := by
  have hc := c.toNat_lt
  unfold hexpair2int zeroReplaced
  rw [hexDigit_hexmap (by omega), hexDigit_hexmap (by omega)]
  dsimp only
  by_cases h : c = 0
  · subst h
    rfl
  · have hne : c.toNat ≠ 0 := fun h0 => h (UInt8.toNat_inj.mp h0)
    rw [if_neg h, if_neg (by omega), Nat.div_add_mod', UInt8.ofNat_toNat]

theorem urlNonEncodedChar_ne {c : UInt8} (h : urlNonEncodedChar c = true) :
    c ≠ 37 ∧ c ≠ 43 ∧ c ≠ 0 := by
  refine ⟨?_, ?_, ?_⟩ <;> rintro rfl <;> exact absurd h (by decide)

/-- The code of a byte is decoded to it, and its escapes are complete. -/
theorem urlEncodeChar_decoded (c : UInt8) (rest : List UInt8) (escaped : Bool)
    (hrest : EscapesComplete true rest ∧ EscapesComplete false rest) :
    urlDecoded (urlEncodeChar c ++ rest) = zeroReplaced c :: urlDecoded rest ∧
      EscapesComplete escaped (urlEncodeChar c ++ rest) := by
  have hescaped : EscapesComplete escaped rest := by
    cases escaped
    · exact hrest.2
    · exact hrest.1
  unfold urlEncodeChar
  by_cases hplain : urlNonEncodedChar c
  · obtain ⟨hpercent, hplus, hzero⟩ := urlNonEncodedChar_ne hplain
    rw [if_pos hplain]
    refine ⟨?_, ?_⟩
    · rw [List.singleton_append, urlDecoded_plain hpercent, if_neg hplus, zeroReplaced,
        if_neg hzero]
    · rw [List.singleton_append, escapesComplete_plain hpercent]
      exact hescaped
  rw [if_neg hplain]
  by_cases hspace : c = 0x20
  · subst hspace
    rw [if_pos rfl, List.singleton_append, urlDecoded_plain (by decide),
      escapesComplete_plain (by decide)]
    exact ⟨rfl, hescaped⟩
  · rw [if_neg hspace]
    refine ⟨?_, hrest.1⟩
    have hpair := hexpair2int_hexmap c
    simp only [List.cons_append, List.nil_append]
    rw [urlDecoded, if_pos rfl]
    exact congrArg (· :: urlDecoded rest) hpair

theorem urlDecoded_urlEncode (d : List UInt8) (escaped : Bool) :
    urlDecoded (urlEncode d) = d.map zeroReplaced ∧ EscapesComplete escaped (urlEncode d) := by
  induction d generalizing escaped with
  | nil => exact ⟨rfl, trivial⟩
  | cons c d ih =>
    obtain ⟨hdecoded, hcomplete⟩ := urlEncodeChar_decoded c (urlEncode d) escaped
      ⟨(ih true).2, (ih false).2⟩
    refine ⟨?_, hcomplete⟩
    rw [List.map_cons, ← (ih false).1]
    exact hdecoded

/-- What is decoded of a code is the string with its zeros replaced, and a string of which the
escapes are complete is read inside its bounds, whatever follows either in memory. -/
theorem url_coding (following : ℕ → UInt8) :
    (∀ d : List UInt8, ∃ reads, UrlDecodes (followedBy (urlEncode d) following)
      (urlEncode d).length (d.map zeroReplaced, reads)) ∧
    ∀ s : List UInt8, EscapesComplete false s → ∃ out reads,
      UrlDecodes (followedBy s following) s.length (out, reads) ∧ ∀ q ∈ reads, q < s.length := by
  have hends (s : List UInt8) (hs : EscapesComplete false s) : ∃ reads,
      UrlDecodes (followedBy s following) s.length (urlDecoded s, reads) ∧
        ∀ q ∈ reads, q < s.length := by
    obtain ⟨fuel, reads, hrun, hreads⟩ := urlDecodeLoop_complete (holds_followedBy s following)
      (Nat.zero_add _) hs le_rfl fun _ => rfl
    exact ⟨reads, ⟨fuel, hrun⟩, hreads⟩
  constructor
  · intro d
    obtain ⟨hdecoded, hcomplete⟩ := urlDecoded_urlEncode d false
    obtain ⟨reads, hrun, -⟩ := hends (urlEncode d) hcomplete
    rw [hdecoded] at hrun
    exact ⟨reads, hrun⟩
  · intro s hs
    obtain ⟨reads, hrun⟩ := hends s hs
    exact ⟨urlDecoded s, reads, hrun⟩

/-- A string of one escape. -/
theorem url_coding_escape : ∃ out reads,
    UrlDecodes (followedBy [37, 52, 49] fun _ => 0) 3 (out, reads) ∧ ∀ q ∈ reads, q < 3 :=
  (url_coding fun _ => 0).2 [37, 52, 49] trivial

/-- The string of one zero comes back as a question mark. -/
theorem not_url_coding :
    ¬∃ reads, UrlDecodes (followedBy (urlEncode [0]) fun _ => 0) (urlEncode [0]).length
      ([0], reads) := by
  rintro ⟨reads, fuel, h⟩
  match fuel with
  | 0 => cases h
  | 1 => cases h
  | fuel + 2 =>
    have hrun : urlDecodeLoop (followedBy (urlEncode [0]) fun _ => 0) (urlEncode [0]).length
        (fuel + 2) 0 0 = some ([63], [0, 1, 2]) := rfl
    rw [hrun] at h
    exact absurd h (by simp)

end Resiprocate.Data
