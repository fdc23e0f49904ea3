import Resiprocate.HeldBytes
import Resiprocate.ParseBufferRuns
import Resiprocate.Replacement

/-! `Data::find` and `Data::replace`: a string in a buffer with room, which may be shared with its
surroundings until it is written to. -/
namespace Resiprocate.Data
open Rutil (Bytes ParseBuffer View)
open HeldBytes (Holds)
open Replacement

inductive ShareEnum
  | Borrow | Share | Take
  deriving DecidableEq

structure Buffer where
  mBuf : ℕ → UInt8
  mSize : ℕ
  mCapacity : ℕ
  mShareEnum : ShareEnum
  size_le : mSize ≤ mCapacity

namespace Buffer

/-- The string. -/
def text (d : Buffer) : Bytes := (List.range d.mSize).map d.mBuf

def LocalAlloc : ℕ := 16

/-- `resize(newCapacity, true)`; a new buffer has the bytes `fresh`. -/
def resize (fresh : ℕ → UInt8) (d : Buffer) (newCapacity : ℕ) : Except String Buffer :=
  if ¬(d.mCapacity ≤ newCapacity ∨ d.mShareEnum = .Share) then
    .error "newCapacity >= mCapacity || mShareEnum == Data::Share"
  else if h : d.mSize ≤ newCapacity then
    .ok {
      mBuf := fun i => if i < d.mSize then d.mBuf i else if i = d.mSize then 0 else fresh i
      mSize := d.mSize
      mCapacity := newCapacity
      mShareEnum := if LocalAlloc < newCapacity then .Take else .Borrow
      size_le := h }
  else .error "copied past the capacity"

def own (fresh : ℕ → UInt8) (d : Buffer) : Except String Buffer :=
  if d.mShareEnum = .Share then d.resize fresh d.mSize else .ok d

/-- `Data(Share, buffer, length)` -/
def share (bytes : Bytes) : Buffer := ⟨fun i => bytes.getD i 0, bytes.length, bytes.length, .Share, le_rfl⟩

def truncate2 (d : Buffer) (len : ℕ) : Buffer :=
  if h : len < d.mSize then { d with mSize := len, size_le := h.le.trans d.size_le } else d

/-- The parse buffer at `start`. -/
def view (d : Buffer) (start : ℕ) : View := ⟨fun a => d.mBuf a.toNat, start, d.mSize⟩

/-- `none` is `npos`. -/
def find (d : Buffer) (m : Bytes) (start : ℕ) : Except String (Option ℕ) :=
  if start < d.mSize then
    match Rutil.ParseBuffer.skipToData m ((d.view start).at_ start []) with
    | .error msg _ => .error msg
    | .ok _ pb =>
      if pb.eof then .ok none
      else .ok (some (pb.mPosition - pb.mBuff + start).toNat)
  else .ok none

def memmove (mBuf : ℕ → UInt8) (dest src n : ℕ) (i : ℕ) : UInt8 :=
  if dest ≤ i ∧ i < dest + n then mBuf (src + (i - dest)) else mBuf i

def memcpy (mBuf : ℕ → UInt8) (dest : ℕ) (src : Bytes) (i : ℕ) : UInt8 :=
  if dest ≤ i ∧ i < dest + src.length then src.getD (i - dest) 0 else mBuf i

section
variable (fresh : ℕ → UInt8) (m replaceWith : Bytes)

/-- By how much a replacement makes the string longer. -/
def incr : ℤ := replaceWith.length - m.length

/-- The buffer with room for a replacement. -/
def room (d : Buffer) : Except String Buffer :=
  if d.mCapacity ≤ d.mSize + incr m replaceWith then
    d.resize fresh ((d.mCapacity + incr m replaceWith) * 3 / 2).toNat
  else d.own fresh

/-- The body of the loop of `replace`. What it moves and copies ends at the new size. -/
def replaceAt (d : Buffer) (offset : ℕ) : Except String Buffer := do
  let d ← d.room fresh m replaceWith
  let mSize := (d.mSize + incr m replaceWith).toNat
  if h : mSize ≤ d.mCapacity then
    return {
      mBuf := memcpy (memmove d.mBuf (offset + replaceWith.length) (offset + m.length)
        (d.mSize - offset - m.length)) offset replaceWith
      mSize := mSize
      mCapacity := d.mCapacity
      mShareEnum := d.mShareEnum
      size_le := h }
  else throw "moved past the capacity"

/-- The loop of `replace`, which ends before it has made all `turns`. -/
def replaceLoop (max : ℤ) : ℕ → Buffer → ℕ → Option ℕ → Except String (Buffer × ℕ)
  | 0, _, _, _ => throw "no end"
  | turns + 1, d, count, offset =>
    match offset with
    | none => return (d, count)
    | some offset =>
      if count < max then do
        let d ← d.replaceAt fresh m replaceWith offset
        replaceLoop max turns d (count + 1) (← d.find m (offset + replaceWith.length))
      else return (d, count)

def replace (d : Buffer) (max : ℤ) : Except String (Buffer × ℕ) := do
  if m = [] then throw "!match.empty()"
  d.replaceLoop fresh m replaceWith max (d.mSize + 1) 0 (← d.find m 0)

end

/-! ### The string in the buffer -/

section
variable {d : Buffer} {s : Bytes}

@[simp] theorem text_length (d : Buffer) : d.text.length = d.mSize := by simp [text]

theorem holds_text (d : Buffer) : Holds d.mBuf 0 d.text := by
  intro i hi
  simp [text]

theorem text_eq (h : Holds d.mBuf 0 s) (hs : s.length = d.mSize) : d.text = s := by
  refine List.ext_getElem (by simp [hs]) fun i hi hi' => ?_
  rw [← h i hi', ← d.holds_text i hi]

theorem view_holds (d : Buffer) (start : ℕ) : (d.view start).Holds 0 d.text := by
  have hall : ∀ (cs : Bytes) (p : ℕ), Holds d.mBuf p cs → (d.view start).Holds p cs := by
    intro cs
    induction cs with
    | nil => exact fun _ _ => trivial
    | cons c cs ih =>
      intro p h
      rw [HeldBytes.holds_cons] at h
      exact ⟨h.1, ih (p + 1) h.2⟩
  exact hall d.text 0 d.holds_text

theorem view_holds_iff {start i : ℕ} (hi : i + s.length ≤ d.mSize) :
    (d.view start).Holds i s ↔ OccursAt s d.text i := by
  have h : (d.view start).Holds (0 + i) s ↔ OccursAt s d.text i :=
    View.holds_iff_prefix (d.view_holds start) (by simpa using hi)
  rwa [zero_add] at h

/-- The search finds the least index, if there is one. -/
theorem find_spec (d : Buffer) {m : Bytes} (hm : m ≠ []) (start : ℕ) :
    ∃ found, d.find m start = .ok found ∧ Finds m d.text start found := by
  have hlength : 0 < m.length := List.length_pos_of_ne_nil hm
  have hfits : ∀ j, OccursAt m d.text j → j + m.length ≤ d.mSize := fun j hj => by
    simpa using hj.le hm
  by_cases hstart : start < d.mSize
  swap
  · refine ⟨none, by rw [find, if_neg hstart], .nowhere fun j hj hoccurs => ?_⟩
    have := hfits j hoccurs
    omega
  rw [find, if_pos hstart]
  by_cases hsome : ∃ i, start ≤ i ∧ OccursAt m d.text i
  · classical
    have hi := Nat.find_spec hsome
    have hleast := fun j hlt => Nat.find_min hsome (m := j) hlt
    generalize Nat.find hsome = i at hi hleast
    obtain ⟨hle, hoccurs⟩ := hi
    have hfit := hfits i hoccurs
    have hfirst : Rutil.ParseBuffer.First (d.view start) m start i := by
      refine ⟨by omega, by change (i : ℤ) + m.length ≤ d.mSize; omega, (view_holds_iff hfit).2 hoccurs, ?_⟩
      intro k hk hlt hholds
      obtain ⟨k, rfl⟩ := Int.eq_ofNat_of_zero_le (show 0 ≤ k by omega)
      have hki : k < i := by exact_mod_cast hlt
      exact hleast k hki ⟨by exact_mod_cast hk, (view_holds_iff (by omega)).1 hholds⟩
    obtain ⟨reads, hrun⟩ := Rutil.ParseBuffer.lands_skipToData hm hfirst []
    refine ⟨some i, ?_, .first i hle hoccurs fun j hj hlt hoccurs' => hleast j hlt ⟨hj, hoccurs'⟩⟩
    have heof : ((d.view start).at_ i reads).eof = false := by
      refine decide_eq_false (not_le.2 ?_)
      change (i : ℤ) < d.mSize
      omega
    have hposition : ((i : ℤ) - start + start).toNat = i := by omega
    rw [hrun]
    dsimp only
    rw [heof]
    exact congrArg (fun n => Except.ok (some n)) hposition
  · have hnone : ∀ k, (start : ℤ) ≤ k → k + m.length ≤ (d.view start).mEnd → ¬(d.view start).Holds k m := by
      intro k hk hfit hholds
      obtain ⟨k, rfl⟩ := Int.eq_ofNat_of_zero_le (show 0 ≤ k by omega)
      have hfit' : (k : ℤ) + m.length ≤ d.mSize := hfit
      exact hsome ⟨k, by exact_mod_cast hk, (view_holds_iff (by omega)).1 hholds⟩
    have hend : (start : ℤ) ≤ (d.view start).mEnd := by
      change (start : ℤ) ≤ d.mSize
      omega
    obtain ⟨reads, hrun⟩ := Rutil.ParseBuffer.lands_skipToData_none hend hm hnone []
    refine ⟨none, ?_, .nowhere fun j hj hoccurs => hsome ⟨j, hj, hoccurs⟩⟩
    have heof : ((d.view start).at_ (d.view start).mEnd reads).eof = true := by
      simp [ParseBuffer.eof, View.at_]
    rw [hrun]
    simp only [heof]
    rfl

end

/-! ### One replacement -/

section
variable (fresh : ℕ → UInt8) (replaceWith : Bytes) {d : Buffer} {m : Bytes}

/-- A buffer with a capacity that has room for the string keeps the string. -/
theorem resize_spec {n : ℕ} (hsize : d.mSize ≤ n)
    (hassert : d.mCapacity ≤ n ∨ d.mShareEnum = .Share) :
    ∃ d', d.resize fresh n = .ok d' ∧ d'.text = d.text ∧ d'.mSize = d.mSize ∧
      d'.mCapacity = n ∧ d'.mShareEnum ≠ .Share := by
  rw [resize, if_neg (not_not.2 hassert), dif_pos hsize]
  refine ⟨_, rfl, text_eq (fun i hi => ?_) (by simp), rfl, rfl, ?_⟩
  · have hlt : i < d.mSize := by simpa using hi
    have hc := d.holds_text i hi
    rw [zero_add] at hc
    simp [hlt, hc]
  · dsimp only
    split <;> simp

/-- The buffer that a replacement is made in has room for it, unless it is a copy of shared memory that
the string was shorter than. -/
theorem room_spec
    (hroom : ¬(d.mShareEnum = .Share ∧ d.mSize + incr m replaceWith < d.mCapacity ∧
      0 < incr m replaceWith)) :
    ∃ d', d.room fresh m replaceWith = .ok d' ∧ d'.text = d.text ∧ d'.mSize = d.mSize ∧
      d'.mSize + incr m replaceWith ≤ d'.mCapacity ∧ d'.mShareEnum ≠ .Share := by
  have hle := d.size_le
  rw [room]
  split
  · obtain ⟨d', hd', htext, hsize', hcapacity, hshare⟩ := resize_spec fresh (d := d)
      (n := ((d.mCapacity + incr m replaceWith) * 3 / 2).toNat) (by omega) (.inl (by omega))
    exact ⟨d', hd', htext, hsize', by omega, hshare⟩
  · rw [own]
    split
    · rename_i hshared
      obtain ⟨d', hd', htext, hsize', hcapacity, hshare⟩ :=
        resize_spec fresh (d := d) le_rfl (.inr hshared)
      refine ⟨d', hd', htext, hsize', ?_, hshare⟩
      rw [hsize', hcapacity]
      by_contra hlt
      exact hroom ⟨hshared, by omega, by omega⟩
    · rename_i howned
      exact ⟨d, rfl, rfl, rfl, by omega, howned⟩

/-- Otherwise there is no room in the copy. -/
theorem room_shared (hshared : d.mShareEnum = .Share)
    (hlt : d.mSize + incr m replaceWith < d.mCapacity) :
    ∃ d', d.room fresh m replaceWith = .ok d' ∧ d'.mSize = d.mSize ∧ d'.mCapacity = d.mSize := by
  rw [room, if_neg (by omega), own, if_pos hshared]
  obtain ⟨d', hd', -, hsize, hcapacity, -⟩ := resize_spec fresh (d := d) le_rfl (.inr hshared)
  exact ⟨d', hd', hsize, hcapacity⟩

theorem memmove_of_lt {mBuf : ℕ → UInt8} {dest src n i : ℕ} (h : i < dest) : memmove mBuf dest src n i = mBuf i :=
  if_neg (by omega)

theorem memcpy_of_lt {mBuf : ℕ → UInt8} {dest i : ℕ} {src : Bytes} (h : i < dest) :
    memcpy mBuf dest src i = mBuf i :=
  if_neg (by omega)

theorem memcpy_of_ge {mBuf : ℕ → UInt8} {dest i : ℕ} {src : Bytes} (h : dest + src.length ≤ i) :
    memcpy mBuf dest src i = mBuf i :=
  if_neg (by omega)

/-- What is moved and copied makes the string with the replacement. -/
theorem holds_replaced {mBuf : ℕ → UInt8} {before after : Bytes}
    (h : Holds mBuf 0 (before ++ m ++ after)) :
    Holds (memcpy (memmove mBuf (before.length + replaceWith.length) (before.length + m.length)
      after.length) before.length replaceWith) 0 (before ++ replaceWith ++ after) := by
  intro i hi
  rw [zero_add]
  rw [List.length_append, List.length_append] at hi
  rcases Nat.lt_or_ge i before.length with hlt | hge
  · have hc := h i (by simp; omega)
    rw [zero_add, List.getElem_append_left (by simp; omega), List.getElem_append_left hlt] at hc
    rw [memcpy_of_lt hlt, memmove_of_lt (by omega), hc, List.getElem_append_left (by simp; omega),
      List.getElem_append_left hlt]
  rcases Nat.lt_or_ge i (before.length + replaceWith.length) with hlt | hge'
  · have hindex : i - before.length < replaceWith.length := by omega
    rw [memcpy, if_pos ⟨hge, hlt⟩, List.getD_eq_getElem _ _ hindex,
      List.getElem_append_left (by simp; omega), List.getElem_append_right hge]
  · have hindex : i - (before.length + replaceWith.length) < after.length := by omega
    have hc := h (before.length + m.length + (i - (before.length + replaceWith.length))) (by simp; omega)
    rw [zero_add, List.getElem_append_right (by simp)] at hc
    rw [memcpy_of_ge hge', memmove, if_pos (by omega), hc, List.getElem_append_right (by simp; omega)]
    congr 1
    simp

/-- An occurrence is replaced, and the string is not shared after it. -/
theorem replaceAt_spec {before after : Bytes} (htext : d.text = before ++ m ++ after)
    (hroom : ¬(d.mShareEnum = .Share ∧ d.mSize + incr m replaceWith < d.mCapacity ∧
      0 < incr m replaceWith)) :
    ∃ d', d.replaceAt fresh m replaceWith before.length = .ok d' ∧
      d'.text = before ++ replaceWith ++ after ∧ d'.mShareEnum ≠ .Share := by
  obtain ⟨e, he, hetext, hesize, hfit, hshare⟩ := room_spec fresh replaceWith hroom
  have hsize : d.mSize = before.length + m.length + after.length := by
    rw [← text_length, htext]
    simp [Nat.add_assoc]
  have hnew : (e.mSize + incr m replaceWith).toNat =
      before.length + replaceWith.length + after.length := by
    rw [hesize, incr, hsize]
    omega
  have hmoved : e.mSize - before.length - m.length = after.length := by omega
  have hholds := holds_text e
  rw [hetext, htext] at hholds
  simp only [replaceAt, he, bind, Except.bind]
  rw [dif_pos (by omega)]
  refine ⟨_, rfl, text_eq ?_ ?_, hshare⟩
  · rw [hmoved]
    exact holds_replaced replaceWith hholds
  · simp only [List.length_append]
    exact hnew.symm

/-- Without room nothing is replaced. -/
theorem replaceAt_shared {offset : ℕ} (hshared : d.mShareEnum = .Share)
    (hlt : d.mSize + incr m replaceWith < d.mCapacity) (hincr : 0 < incr m replaceWith) :
    d.replaceAt fresh m replaceWith offset = .error "moved past the capacity" := by
  obtain ⟨e, he, hesize, hcapacity⟩ := room_shared fresh replaceWith hshared hlt
  simp only [replaceAt, he, bind, Except.bind]
  rw [dif_neg (by omega)]
  rfl

/-! ### All replacements -/

/-- The string that is left after `done` is replaced. -/
theorem replaceLoop_spec (hm : m ≠ []) (max : ℤ) : ∀ (turns : ℕ) (d : Buffer) (count : ℕ) (done rest : Bytes)
    (found : Option ℕ), d.text = done ++ rest → Finds m d.text done.length found → rest.length < turns →
    (d.mShareEnum = .Share → ¬(d.mSize + incr m replaceWith < d.mCapacity ∧ 0 < incr m replaceWith ∧
      count < max ∧ found ≠ none)) →
    ∃ d' more result, d.replaceLoop fresh m replaceWith max turns count found = .ok (d', count + more) ∧
      Replaced m replaceWith (max - count).toNat rest more result ∧ d'.text = done ++ result
  | 0, _, _, _, _, _, _, _, hturns, _ => absurd hturns (Nat.not_lt_zero _)
  | turns + 1, d, count, done, rest, found, htext, hfinds, hturns, hroom => by
    rw [htext] at hfinds
    rcases hfinds.drop with ⟨rfl, habsent⟩ | ⟨i, rfl, hfirst⟩
    · exact ⟨d, 0, rest, rfl, .absent _ _ habsent, htext⟩
    by_cases hmore : (count : ℤ) < max
    swap
    · refine ⟨d, 0, rest, by rw [replaceLoop, if_neg hmore]; rfl, ?_, htext⟩
      rw [show (max - count).toNat = 0 by omega]
      exact .enough rest
    -- the occurrence is in what is left
    have hoccurs : OccursAt m rest i := by
      cases hfirst with
      | first _ _ occurs _ => exact occurs
    obtain ⟨before, after, rfl, rfl⟩ := hoccurs.cut hm
    have hcut : d.text = (done ++ before) ++ m ++ after := by
      rw [htext]
      simp
    obtain ⟨e, he, hetext, hshare⟩ := replaceAt_spec fresh replaceWith hcut
      fun ⟨hshared, hlt, hincr⟩ => hroom hshared ⟨hlt, hincr, hmore, by simp⟩
    rw [List.length_append] at he
    obtain ⟨found', hfind, hfinds'⟩ := e.find_spec hm (done.length + before.length + replaceWith.length)
    have hdone : done.length + before.length + replaceWith.length =
        (done ++ before ++ replaceWith).length := by simp [Nat.add_assoc]
    rw [hdone] at hfinds'
    obtain ⟨d', more, result, hloop, hreplaced, hresult⟩ := replaceLoop_spec hm max turns e (count + 1)
      (done ++ before ++ replaceWith) after found' hetext hfinds'
      (by simp only [List.length_append] at hturns; have := List.length_pos_of_ne_nil hm; omega)
      fun hshared => absurd hshared hshare
    refine ⟨d', more + 1, before ++ replaceWith ++ result, ?_, ?_, ?_⟩
    · rw [replaceLoop, if_pos hmore]
      simp only [he, hfind, hloop, bind, Except.bind]
      rw [Nat.add_assoc, Nat.add_comm 1]
    · have hmax : (max - count).toNat = (max - (count + 1 : ℕ)).toNat + 1 := by omega
      rw [hmax]
      exact .occurrence _ _ before after result hfirst hreplaced
    · rw [hresult]
      simp

/-- The string is shared and shorter than what is shared, and a replacement makes it longer, but not
beyond what is shared: the copy that is made of it has no room. -/
def CopyTooSmall (d : Buffer) (m replaceWith : Bytes) (max : ℤ) : Prop :=
  d.mShareEnum = .Share ∧ d.mSize + incr m replaceWith < d.mCapacity ∧ m.length < replaceWith.length ∧
    0 < max ∧ ∃ i, OccursAt m d.text i

end

/-- Forty bytes that are shared, cut to twenty. -/
def shortened : Buffer := (share (List.replicate 40 97)).truncate2 20

end Buffer

end Resiprocate.Data
