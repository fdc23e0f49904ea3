import Mathlib
import Resiprocate.BigEndian

/-! Areas of records: a type, a length, and a value that is filled up to a multiple
of four bytes. -/
namespace Resiprocate.Tlv
open BigEndian (value)

/-- The bytes that fill up a value of length `n`. -/
def fill (n : ℕ) : ℕ := if n % 4 = 0 then 0 else 4 - n % 4

structure Record where
  type : UInt16
  length : ℕ
  /-- The value and what fills it up. -/
  content : List UInt8
  length_lt : length < 256 ^ 2
  content_length : content.length = length + fill length

namespace Record

def bytes (r : Record) : List UInt8 :=
  BigEndian.bytes 2 r.type.toNat ++ (BigEndian.bytes 2 r.length ++ r.content)

/-- The bytes that a record takes. -/
def size (r : Record) : ℕ := 4 + (r.length + fill r.length)

theorem length_bytes (r : Record) : r.bytes.length = r.size := by
  simp only [bytes, size, List.length_append, BigEndian.length_bytes, r.content_length]
  omega

@[ext] theorem ext {r r' : Record} (htype : r.type = r'.type) (hlength : r.length = r'.length)
    (hcontent : r.content = r'.content) : r = r' := by
  cases r
  cases r'
  simp_all

end Record

/-- Type and length of the record at the head of an area. -/
def headType (l : List UInt8) : UInt16 := UInt16.ofNat (value (l.take 2))
def headLength (l : List UInt8) : ℕ := value ((l.drop 2).take 2)

section Head
variable (r : Record) (rest : List UInt8)

theorem drop_bytes : (r.bytes ++ rest).drop 2 = BigEndian.bytes 2 r.length ++ (r.content ++ rest) := by
  have h : (BigEndian.bytes 2 r.type.toNat).length = 2 := BigEndian.length_bytes _ _
  rw [Record.bytes, List.append_assoc, List.append_assoc, List.drop_append_of_le_length h.ge,
    List.drop_of_length_le h.le, List.nil_append]

theorem content_bytes : (r.bytes ++ rest).drop 4 = r.content ++ rest := by
  have h : (BigEndian.bytes 2 r.length).length = 2 := BigEndian.length_bytes _ _
  rw [show 4 = 2 + 2 by rfl, ← List.drop_drop, drop_bytes, List.drop_append_of_le_length h.ge,
    List.drop_of_length_le h.le, List.nil_append]

theorem headType_bytes : headType (r.bytes ++ rest) = r.type := by
  have h : (BigEndian.bytes 2 r.type.toNat).length = 2 := BigEndian.length_bytes _ _
  rw [headType, Record.bytes, List.append_assoc, List.take_append_of_le_length h.ge,
    List.take_of_length_le h.le, BigEndian.value_bytes_of_lt r.type.toNat_lt, UInt16.ofNat_toNat]

theorem headLength_bytes : headLength (r.bytes ++ rest) = r.length := by
  have h : (BigEndian.bytes 2 r.length).length = 2 := BigEndian.length_bytes _ _
  rw [headLength, drop_bytes, List.take_append_of_le_length h.ge, List.take_of_length_le h.le,
    BigEndian.value_bytes_of_lt r.length_lt]

end Head

theorem headLength_lt (l : List UInt8) : headLength l < 256 ^ 2 :=
  (BigEndian.value_lt _).trans_le
    (Nat.pow_le_pow_right (by norm_num) (by simp only [List.length_take]; omega))

/-- The size that the head of an area claims for its record. -/
def headSize (l : List UInt8) : ℕ := 4 + (headLength l + fill (headLength l))

theorem headSize_bytes (r : Record) (rest : List UInt8) : headSize (r.bytes ++ rest) = r.size := by
  rw [headSize, headLength_bytes, Record.size]

/-- The first record of an area, when the area is long enough for it. -/
def uncons (l : List UInt8) : Option (Record × List UInt8) :=
  if h : headSize l ≤ l.length then
    some ({ type := headType l
            length := headLength l
            content := (l.take (headSize l)).drop 4
            length_lt := headLength_lt l
            content_length := by
              simp only [List.length_drop, List.length_take, headSize] at h ⊢
              omega },
      l.drop (headSize l))
  else none

theorem uncons_eq_none {l : List UInt8} : uncons l = none ↔ l.length < headSize l := by
  simp [uncons]

theorem uncons_append (r : Record) (rest : List UInt8) :
    uncons (r.bytes ++ rest) = some (r, rest) := by
  have hsize : headSize (r.bytes ++ rest) = r.bytes.length := by
    rw [headSize_bytes, Record.length_bytes]
  have hle : headSize (r.bytes ++ rest) ≤ (r.bytes ++ rest).length := by
    rw [hsize, List.length_append]
    omega
  rw [uncons, dif_pos hle, Option.some_inj, Prod.mk.injEq]
  constructor
  · ext1
    · exact headType_bytes r rest
    · exact headLength_bytes r rest
    · show ((r.bytes ++ rest).take (headSize (r.bytes ++ rest))).drop 4 = r.content
      rw [hsize, List.take_left]
      simpa using content_bytes r []
  · rw [hsize, List.drop_left]

theorem uncons_bytes {l rest : List UInt8} {r : Record} (h : uncons l = some (r, rest)) :
    l = r.bytes ++ rest := by
  unfold uncons at h
  split_ifs at h with hle
  obtain ⟨rfl, rfl⟩ : _ = r ∧ l.drop (headSize l) = rest := by simpa using h
  have h4 : 4 ≤ l.length := by
    unfold headSize at hle
    omega
  have htype : BigEndian.bytes 2 (headType l).toNat = l.take 2 := by
    have hlen : (l.take 2).length = 2 := by rw [List.length_take]; omega
    have hlt : value (l.take 2) < 2 ^ 16 := by simpa [hlen] using BigEndian.value_lt (l.take 2)
    have hb := BigEndian.bytes_value (l.take 2)
    rw [hlen] at hb
    rw [headType, UInt16.toNat_ofNat', Nat.mod_eq_of_lt hlt, hb]
  have hlength : BigEndian.bytes 2 (headLength l) = (l.drop 2).take 2 := by
    have hlen : ((l.drop 2).take 2).length = 2 := by
      rw [List.length_take, List.length_drop]
      omega
    have hb := BigEndian.bytes_value ((l.drop 2).take 2)
    rwa [hlen] at hb
  have hhead : l.take 2 ++ (l.drop 2).take 2 = l.take 4 := by
    rw [show 4 = 2 + 2 by rfl, List.take_add]
  have hbody : l.take 4 ++ (l.take (headSize l)).drop 4 = l.take (headSize l) := by
    have h := List.take_append_drop 4 (l.take (headSize l))
    rwa [List.take_take, min_eq_left (by unfold headSize; omega)] at h
  show l = (BigEndian.bytes 2 (headType l).toNat ++ (BigEndian.bytes 2 (headLength l) ++
    (l.take (headSize l)).drop 4)) ++ l.drop (headSize l)
  rw [htype, hlength, ← List.append_assoc, hhead, hbody, List.take_append_drop]

/-- The bytes of a list of records. -/
def area (rs : List Record) : List UInt8 := rs.flatMap Record.bytes

@[simp] theorem area_nil : area [] = [] := rfl

@[simp] theorem area_cons (r : Record) (rs : List Record) : area (r :: rs) = r.bytes ++ area rs :=
  rfl

@[simp] theorem area_append (rs rs' : List Record) : area (rs ++ rs') = area rs ++ area rs' :=
  List.flatMap_append

theorem bytes_ne_nil (r : Record) : r.bytes ≠ [] := by
  intro h
  have hlen := r.length_bytes
  rw [h, Record.size, List.length_nil] at hlen
  omega

/-- An area can be read in one way only. -/
theorem area_injective : Function.Injective area := by
  intro rs
  induction rs with
  | nil =>
    intro rs' h
    cases rs' with
    | nil => rfl
    | cons r rs' => exact absurd (List.append_eq_nil_iff.mp h.symm).1 (bytes_ne_nil r)
  | cons r rs ih =>
    intro rs' h
    cases rs' with
    | nil => exact absurd (List.append_eq_nil_iff.mp h).1 (bytes_ne_nil r)
    | cons r' rs' =>
      have hhead := congrArg uncons h
      simp only [area_cons, uncons_append, Option.some_inj, Prod.mk.injEq] at hhead
      rw [hhead.1, ih hhead.2]

/-- The records of an area, as far as whole records go. -/
def records : ℕ → List UInt8 → List Record
  | 0, _ => []
  | fuel + 1, l =>
    match uncons l with
    | none => []
    | some (r, rest) => r :: records fuel rest

theorem records_area {rs : List Record} {fuel : ℕ} (h : (area rs).length ≤ fuel) :
    records fuel (area rs) = rs := by
  induction rs generalizing fuel with
  | nil => cases fuel <;> rfl
  | cons r rs ih =>
    rw [area_cons, List.length_append, Record.length_bytes, Record.size] at h
    obtain ⟨fuel, rfl⟩ := Nat.exists_eq_succ_of_ne_zero (by omega : fuel ≠ 0)
    rw [area_cons, records, uncons_append]
    exact congrArg _ (ih (by omega))

end Resiprocate.Tlv
