import Resiprocate.StreamMachine
import Resiprocate.WsFrameExtractor

/-! WebSocket frames as they are sent, and a machine that reads them one byte at a time and lets
out a message with the last byte of its final frame. -/
namespace Resiprocate.WebSocket
open Scanner StreamMachine

/-! ### Frames -/

inductive LengthForm
  | seven | sixteen | sixtyFour
  deriving DecidableEq, Repr

/-- The lengths that a form can stand for. Eight bytes are only used where two are too few. -/
def LengthForm.Fits : LengthForm → ℕ → Prop
  | .seven, n => n ≤ 125
  | .sixteen, n => n ≤ 0xFFFF
  | .sixtyFour, n => 0xFFFF < n ∧ n < 2 ^ 63

instance : ∀ (form : LengthForm) (n : ℕ), Decidable (form.Fits n)
  | .seven, n => inferInstanceAs (Decidable (n ≤ 125))
  | .sixteen, n => inferInstanceAs (Decidable (n ≤ 0xFFFF))
  | .sixtyFour, n => inferInstanceAs (Decidable (0xFFFF < n ∧ n < 2 ^ 63))

/-- A frame. Only the low seven bits of `opcode` count. -/
structure Frame where
  fin : Bool
  opcode : UInt8
  maskKey : Option (Fin 4 → UInt8)
  form : LengthForm
  payload : Bytes
  fits : form.Fits payload.length

/-- Byte `i` of a length, counted from the last. -/
def lengthByte (n i : ℕ) : UInt8 := UInt8.ofNat (n >>> (8 * i))

namespace Frame
variable (f : Frame)

def lengthBits : UInt8 :=
  match f.form with
  | .seven => UInt8.ofNat f.payload.length
  | .sixteen => 126
  | .sixtyFour => 127

/-- The bytes of a length that does not fit seven bits. -/
def lengthBytes : Bytes :=
  match f.form with
  | .seven => []
  | .sixteen => [lengthByte f.payload.length 1, lengthByte f.payload.length 0]
  | .sixtyFour => [7, 6, 5, 4, 3, 2, 1, 0].map (lengthByte f.payload.length)

local instance neZero_four : NeZero 4 := inferInstance

def keyBytes : Bytes := (f.maskKey.map fun key => [key 0, key 1, key 2, key 3]).getD []

def firstByte : UInt8 := f.opcode &&& 0x7F ||| if f.fin then 0x80 else 0

def secondByte : UInt8 := f.lengthBits ||| if f.maskKey.isSome then 0x80 else 0

def header : Bytes := f.firstByte :: f.secondByte :: (f.lengthBytes ++ f.keyBytes)

/-- The payload as it is sent. -/
def body : Bytes :=
  match f.maskKey with
  | some key => unmask key 0 f.payload
  | none => f.payload

def encode : Bytes := f.header ++ f.body

end Frame

theorem unmask_unmask (key : Fin 4 → UInt8) (pos : ℕ) (data : Bytes) :
    unmask key pos (unmask key pos data) = data := by
  induction data generalizing pos with
  | nil => rfl
  | cons c data ih => simp [unmask, ih, UInt8.xor_assoc]

@[simp] theorem length_unmask (key : Fin 4 → UInt8) (pos : ℕ) (data : Bytes) :
    (unmask key pos data).length = data.length := by
  induction data generalizing pos with
  | nil => rfl
  | cons c data ih => simp [unmask, ih]

theorem unmask_append (key : Fin 4 → UInt8) (pos : ℕ) (data more : Bytes) :
    unmask key pos (data ++ more) = unmask key pos data ++ unmask key (pos + data.length) more := by
  induction data generalizing pos with
  | nil => simp [unmask]
  | cons c data ih =>
    simp only [List.cons_append, unmask, ih, List.length_cons]
    congr 3
    omega

/-! ### The reader -/

/-- What a header says. -/
structure FrameHeader where
  fin : Bool
  key : Option (Fin 4 → UInt8)
  length : ℕ

def FrameHeader.unmask (hd : FrameHeader) (pos : ℕ) (data : Bytes) : Bytes :=
  match hd.key with
  | some key => WebSocket.unmask key pos data
  | none => data

@[simp] theorem FrameHeader.length_unmask (hd : FrameHeader) (pos : ℕ) (data : Bytes) :
    (hd.unmask pos data).length = data.length := by
  unfold FrameHeader.unmask
  cases hd.key <;> simp

@[simp] theorem FrameHeader.unmask_nil (hd : FrameHeader) (pos : ℕ) : hd.unmask pos [] = [] := by
  unfold FrameHeader.unmask
  cases hd.key <;> rfl

theorem FrameHeader.unmask_append (hd : FrameHeader) (pos : ℕ) (data more : Bytes) :
    hd.unmask pos (data ++ more) = hd.unmask pos data ++ hd.unmask (pos + data.length) more := by
  unfold FrameHeader.unmask
  cases hd.key
  · rfl
  · exact WebSocket.unmask_append ..

/-- How many bytes a header is known to lack. -/
def headerNeeds : Bytes → ℕ
  | [] => 2
  | [_] => 1
  | _ :: b :: rest =>
    (if b &&& 0x7F = 126 then 2 else 0) + (if b >>> 7 = 0 then 0 else 4) - rest.length

/-- A length of eight bytes is announced. -/
def longLength : Bytes → Bool
  | _ :: b :: _ => b &&& 0x7F = 127
  | _ => false

/-- What a complete header says. -/
def frameHeader (h : Bytes) : FrameHeader :=
  let wide := h.getD 1 0 &&& 0x7F = 126
  { fin := h.getD 0 0 >>> 7 != 0
    key := if h.getD 1 0 >>> 7 = 0 then none
      else some fun i => h.getD ((if wide then 4 else 2) + i) 0
    length := if wide then (h.getD 2 0).toNat <<< 8 ||| (h.getD 3 0).toNat
      else (h.getD 1 0 &&& 0x7F).toNat }

/-- A reader is in a header, or has read a header and part of the payload it announces. -/
inductive Phase
  | header (h : Bytes)
  | payload (hd : FrameHeader) (got : Bytes)

/-- `frames` is what earlier frames of the message hold. `late` is the message let out with the
last byte if an empty frame was its last. -/
structure Reader where
  frames : Bytes
  phase : Phase
  late : List Bytes

namespace Reader

def start : Reader := ⟨[], .header [], []⟩

/-- A frame is complete. -/
def finish (fin : Bool) (frames : Bytes) : List Bytes × Bytes :=
  if fin then ([frames], []) else ([], frames)

/-- More of a header has been read. A reader stops at a length of eight bytes, and where the
message gets longer than `max`. -/
def arrive (max : ℕ) (frames h : Bytes) : List Bytes × (Reader ⊕ Unit) :=
  if longLength h then ([], .inr ())
  else if headerNeeds h ≠ 0 then ([], .inl ⟨frames, .header h, []⟩)
  else
    let hd := frameHeader h
    if max < frames.length + hd.length then ([], .inr ())
    else if hd.length = 0 then
      let r := finish hd.fin frames
      (r.1, .inl ⟨r.2, .header [], r.1⟩)
    else ([], .inl ⟨frames, .payload hd [], []⟩)

def step (max : ℕ) : Step Reader UInt8 Bytes Unit
  | ⟨frames, .header h, _⟩, c => arrive max frames (h ++ [c])
  | ⟨frames, .payload hd got, _⟩, c =>
    let got := got ++ hd.unmask got.length [c]
    if got.length < hd.length then ([], .inl ⟨frames, .payload hd got, []⟩)
    else
      let r := finish hd.fin (frames ++ got)
      (r.1, .inl ⟨r.2, .header [], []⟩)

variable {max : ℕ}

/-- Payload is read until there is as much as was announced. -/
theorem run_payload {frames got : Bytes} {hd : FrameHeader} (h : got.length < hd.length)
    (data : Bytes) :
    run (step max) ⟨frames, .payload hd got, []⟩ data =
      if got.length + data.length < hd.length then
        ([], .inl ⟨frames, .payload hd (got ++ hd.unmask got.length data), []⟩)
      else
        let r := finish hd.fin
          (frames ++ (got ++ hd.unmask got.length (data.take (hd.length - got.length))))
        after r.1 (run (step max) ⟨r.2, .header [], []⟩ (data.drop (hd.length - got.length))) := by
  induction data generalizing got with
  | nil => simp [run, h]
  | cons c data ih =>
    have hlen : (got ++ hd.unmask got.length [c]).length = got.length + 1 := by
      simp [FrameHeader.length_unmask]
    have hsplit : ∀ rest, got ++ hd.unmask got.length (c :: rest) =
        got ++ hd.unmask got.length [c] ++ hd.unmask (got.length + 1) rest := by
      intro rest
      rw [← List.singleton_append, hd.unmask_append, List.append_assoc]
      rfl
    rw [run_cons, step]
    by_cases hmore : got.length + 1 < hd.length
    · simp only [hlen, hmore, if_true, proceed, after_nil]
      rw [ih (by rw [hlen]; exact hmore)]
      have hneed : hd.length - got.length = (hd.length - (got.length + 1)) + 1 := by omega
      have hcond : (got.length + 1 + data.length < hd.length) =
          (got.length + (c :: data).length < hd.length) := by
        rw [List.length_cons]
        congr 1
        omega
      simp only [hlen, hcond, hneed, List.take_succ_cons, List.drop_succ_cons]
      rw [hsplit data, hsplit (data.take _)]
    · have hneed : hd.length - got.length = 1 := by omega
      have hnot : ¬ got.length + (c :: data).length < hd.length := by
        rw [List.length_cons]
        omega
      simp only [hlen, hmore, if_false, proceed, hnot, hneed]
      simp

end Reader

theorem headerNeeds_of_short {h : Bytes} (hlen : h.length < 2) : headerNeeds h = 2 - h.length := by
  match h, hlen with
  | [], _ => rfl
  | [_], _ => rfl

theorem headerNeeds_append_of_two {h : Bytes} (hlen : 2 ≤ h.length) (p : Bytes) :
    headerNeeds (h ++ p) = headerNeeds h - p.length := by
  match h, hlen with
  | _ :: b :: rest, _ =>
    simp only [List.cons_append, headerNeeds, List.length_append]
    omega

/-- A header that still lacks bytes takes them one by one. -/
theorem headerNeeds_append {h p : Bytes} (hp : p.length < headerNeeds h) :
    headerNeeds (h ++ p) = headerNeeds h - p.length := by
  by_cases hlen : h.length < 2
  · rw [headerNeeds_of_short hlen] at hp ⊢
    rw [headerNeeds_of_short (by rw [List.length_append]; omega), List.length_append]
    omega
  · exact headerNeeds_append_of_two (by omega) p

theorem longLength_of_append {h p : Bytes} (hlong : longLength (h ++ p) = false) :
    longLength h = false := by
  match h with
  | [] | [_] => rfl
  | _ :: _ :: _ => exact hlong

/-- Only `p` as a whole may complete the header `h`. -/
def Lacks (h p : Bytes) : Prop := ∀ q r, p = q ++ r → r ≠ [] → headerNeeds (h ++ q) ≠ 0

theorem lacks_of_length {h p : Bytes} (hp : p.length ≤ headerNeeds h) : Lacks h p := by
  intro q r hsplit hr
  have hpos := List.length_pos_of_ne_nil hr
  have hlen : p.length = q.length + r.length := by rw [hsplit, List.length_append]
  rw [headerNeeds_append (by omega)]
  omega

theorem Lacks.append {h p q : Bytes} (hp : Lacks h p) (hq : Lacks (h ++ p) q) : Lacks h (p ++ q) := by
  intro a b hsplit hb
  rcases List.append_eq_append_iff.1 hsplit with ⟨c, rfl, rfl⟩ | ⟨c, rfl, rfl⟩
  · have := hq c b rfl hb
    rwa [List.append_assoc] at this
  · by_cases hc : c = []
    · subst hc
      have := hq [] q rfl (by simpa using hb)
      simpa using this
    · exact hp a c rfl hc

/-- Bytes of a header are collected until it may be complete. -/
theorem Reader.run_header {max : ℕ} {frames h p : Bytes} {late : List Bytes} (hne : p ≠ [])
    (hlacks : Lacks h p) (hlong : longLength (h ++ p) = false) :
    run (step max) ⟨frames, .header h, late⟩ p =
      proceed (step max) (arrive max frames (h ++ p)) [] := by
  induction p generalizing h late with
  | nil => exact absurd rfl hne
  | cons c p ih =>
    rw [run_cons, step]
    by_cases hnil : p = []
    · rw [hnil]
    · have hsplit : h ++ c :: p = (h ++ [c]) ++ p := by simp
      rw [hsplit] at hlong ⊢
      have harrive : arrive max frames (h ++ [c]) = ([], .inl ⟨frames, .header (h ++ [c]), []⟩) := by
        have hmore := hlacks [c] p rfl hnil
        simp [arrive, longLength_of_append hlong, hmore]
      rw [harrive]
      simp only [proceed, after_nil]
      refine ih hnil ?_ hlong
      intro q r hqr hr
      rw [List.append_assoc]
      exact hlacks (c :: q) r (by rw [hqr]; rfl) hr

namespace Reader
variable {max : ℕ}

/-- A reader that goes on has met no length of eight bytes. -/
theorem longLength_of_run {frames h input : Bytes} {late msgs : List Bytes} {s' : Reader}
    (hlong : longLength h = false)
    (hrun : run (step max) ⟨frames, .header h, late⟩ input = (msgs, .inl s')) :
    longLength (h ++ input) = false := by
  by_contra hnot
  rw [Bool.not_eq_false] at hnot
  match h, input with
  | [], [] | [], [_] | [_], [] => simp [longLength] at hnot
  | [], a :: b :: rest =>
    have hb : longLength [a, b] = true := hnot
    simp [run, step, arrive, headerNeeds, longLength, after] at hrun
    simp [longLength] at hb
    simp [hb] at hrun
  | [a], b :: rest =>
    have hb : longLength [a, b] = true := hnot
    simp [run, step, arrive, hb] at hrun
  | _ :: _ :: _, _ => exact absurd (hnot.symm.trans hlong) (by simp)

/-- What was let out before makes no difference to what is read. -/
theorem run_late {frames : Bytes} {phase : Phase} {input : Bytes} (hinput : input ≠ [])
    (late late' : List Bytes) :
    run (step max) ⟨frames, phase, late⟩ input = run (step max) ⟨frames, phase, late'⟩ input := by
  cases input with
  | nil => exact absurd rfl hinput
  | cons c input =>
    rw [run_cons, run_cons]
    cases phase <;> rfl

theorem arrive_lacking {frames h : Bytes} (hneeds : headerNeeds h ≠ 0)
    (hlong : longLength h = false) :
    arrive max frames h = ([], .inl ⟨frames, .header h, []⟩) := by
  simp [arrive, hneeds, hlong]

/-- Where a complete header leads. -/
theorem arrive_complete {frames h : Bytes} {msgs : List Bytes} {s : Reader}
    (hneeds : headerNeeds h = 0) (hlong : longLength h = false)
    (harrive : arrive max frames h = (msgs, .inl s)) :
    frames.length + (frameHeader h).length ≤ max ∧
    ((frameHeader h).length = 0 ∧ msgs = (finish (frameHeader h).fin frames).1 ∧
        s = ⟨(finish (frameHeader h).fin frames).2, .header [], msgs⟩ ∨
      (frameHeader h).length ≠ 0 ∧ msgs = [] ∧ s = ⟨frames, .payload (frameHeader h) [], []⟩) := by
  unfold arrive at harrive
  dsimp only at harrive
  rw [if_neg (by simp [hlong]), if_neg (by simp [hneeds])] at harrive
  split_ifs at harrive with hmax hzero
  · cases harrive
  · cases harrive
    exact ⟨Nat.le_of_not_lt hmax, .inl ⟨hzero, rfl, rfl⟩⟩
  · cases harrive
    exact ⟨Nat.le_of_not_lt hmax, .inr ⟨hzero, rfl, rfl⟩⟩

theorem late_of_arrive {frames h : Bytes} {msgs : List Bytes} {s : Reader}
    (h : arrive max frames h = (msgs, .inl s)) : s.late = msgs := by
  unfold arrive at h
  dsimp only at h
  split_ifs at h <;> cases h <;> rfl

/-- Inside a header, but not just after its first two bytes. -/
def midHeader (s : Reader) : Prop :=
  match s.phase with
  | .header h => h ≠ [] ∧ h.length ≠ 2
  | .payload .. => False

end Reader

/-! ### Reading frames -/

theorem forall_uint8 {P : UInt8 → Prop} (h : ∀ n : Fin 256, P (UInt8.ofNat n)) (x : UInt8) : P x := by
  simpa using h ⟨x.toNat, x.toNat_lt⟩

/-- Setting the high bit of a byte of seven bits. -/
theorem highBit (x : UInt8) : ∀ b : Bool, x.toNat < 128 →
    (x ||| if b then 0x80 else 0) &&& 0x7F = x ∧
      ((x ||| if b then 0x80 else 0) >>> 7 = 0 ↔ b = false) := by
  revert x
  refine forall_uint8 ?_
  decide +kernel

theorem lengthBytes_join {n : ℕ} (h : n ≤ 0xFFFF) :
    (lengthByte n 1).toNat <<< 8 ||| (lengthByte n 0).toNat = n := by
  have h₀ : (lengthByte n 0).toNat = n % 256 := by simp [lengthByte]
  have h₁ : (lengthByte n 1).toNat = n / 256 := by
    simp [lengthByte, Nat.shiftRight_eq_div_pow]
    omega
  rw [h₀, h₁, ← Nat.shiftLeft_add_eq_or_of_lt (by omega), Nat.shiftLeft_eq]
  omega

namespace Frame
variable {f : Frame}

/-- What the header of a frame says. -/
def head (f : Frame) : FrameHeader := ⟨f.fin, f.maskKey, f.payload.length⟩

theorem toNat_lengthBits (f : Frame) : f.lengthBits.toNat < 128 ∧
    (f.lengthBits = 126 ↔ f.form = .sixteen) ∧ (f.lengthBits = 127 ↔ f.form = .sixtyFour) := by
  have hfits := f.fits
  unfold lengthBits
  cases hform : f.form with
  | seven =>
    rw [hform] at hfits
    have hle : f.payload.length ≤ 125 := hfits
    have hnat : (UInt8.ofNat f.payload.length).toNat = f.payload.length :=
      UInt8.toNat_ofNat_of_lt' (lt_of_le_of_lt hle (by decide))
    refine ⟨by simp only [hnat]; omega, ?_, ?_⟩
    · simp only [reduceCtorEq, iff_false, ← UInt8.toNat_inj, hnat]
      exact Nat.ne_of_lt (lt_of_le_of_lt hle (by decide))
    · simp only [reduceCtorEq, iff_false, ← UInt8.toNat_inj, hnat]
      exact Nat.ne_of_lt (lt_of_le_of_lt hle (by decide))
  | sixteen => simp
  | sixtyFour => simp

theorem firstByte_fin (f : Frame) : (f.firstByte >>> 7 != 0) = f.fin := by
  have hseven : (f.opcode &&& 0x7F).toNat < 128 := by
    rw [UInt8.toNat_and]
    exact lt_of_le_of_lt Nat.and_le_right (by decide)
  have hbit : f.firstByte >>> 7 = 0 ↔ f.fin = false := (highBit _ f.fin hseven).2
  cases hfin : f.fin with
  | false => simp [hbit.2 hfin]
  | true =>
    rw [hfin] at hbit
    simpa using hbit

theorem secondByte_bits (f : Frame) : f.secondByte &&& 0x7F = f.lengthBits ∧
    (f.secondByte >>> 7 = 0 ↔ f.maskKey = none) := by
  obtain ⟨hbits, hkey⟩ := highBit f.lengthBits f.maskKey.isSome f.toNat_lengthBits.1
  exact ⟨hbits, hkey.trans (by simp)⟩

/-- The first two bytes tell the length of the header. -/
theorem headerNeeds_header (hform : f.form ≠ .sixtyFour) (rest : Bytes) :
    headerNeeds (f.firstByte :: f.secondByte :: rest) =
      (f.lengthBytes ++ f.keyBytes).length - rest.length := by
  obtain ⟨hbits, hkey⟩ := f.secondByte_bits
  have hwide := f.toNat_lengthBits.2.1
  simp only [headerNeeds, hbits, hwide, hkey, List.length_append]
  congr 2
  · unfold lengthBytes
    cases hf : f.form with
    | seven => rfl
    | sixteen => rfl
    | sixtyFour => exact absurd hf hform
  · unfold keyBytes
    cases f.maskKey <;> rfl

theorem headerNeeds_self (hform : f.form ≠ .sixtyFour) : headerNeeds f.header = 0 := by
  rw [header, headerNeeds_header hform]
  omega

theorem longLength_header (hform : f.form ≠ .sixtyFour) (rest : Bytes) :
    longLength (f.firstByte :: f.secondByte :: rest) = false := by
  simp only [longLength, f.secondByte_bits.1, f.toNat_lengthBits.2.2, hform, decide_false]

/-- A header says what it was written to say. -/
theorem frameHeader_header (hform : f.form ≠ .sixtyFour) : frameHeader f.header = f.head := by
  obtain ⟨hbits, hkey⟩ := f.secondByte_bits
  obtain ⟨-, hwide, -⟩ := f.toNat_lengthBits
  have hfits := f.fits
  have hfin := f.firstByte_fin
  unfold frameHeader head header
  simp only [List.getD_cons_zero, List.getD_cons_succ, hbits, hkey, hwide, hfin]
  cases hf : f.form with
  | seven =>
    have hlength : f.lengthBits.toNat = f.payload.length := by
      rw [hf] at hfits
      simp only [lengthBits, hf]
      exact UInt8.toNat_ofNat_of_lt' (lt_of_le_of_lt hfits (by decide))
    simp only [reduceCtorEq, if_false, hlength, FrameHeader.mk.injEq, true_and, and_true]
    cases hm : f.maskKey with
    | none => rfl
    | some key =>
      simp only [reduceCtorEq, if_false, Option.some.injEq, lengthBytes, keyBytes, hf, hm]
      funext i
      fin_cases i <;> rfl
  | sixteen =>
    rw [hf] at hfits
    have hlength := lengthBytes_join hfits
    simp only [if_true, FrameHeader.mk.injEq, true_and]
    cases hm : f.maskKey with
    | none =>
      simp only [if_true, true_and, lengthBytes, hf]
      exact hlength
    | some key =>
      simp only [reduceCtorEq, if_false, Option.some.injEq, lengthBytes, keyBytes, hf, hm]
      refine ⟨?_, hlength⟩
      funext i
      fin_cases i <;> rfl
  | sixtyFour => exact absurd hf hform

/-- A header lacks bytes until its last one is there. -/
theorem headerNeeds_prefix (hform : f.form ≠ .sixtyFour) {p q : Bytes} (hsplit : f.header = p ++ q) :
    (q ≠ [] → headerNeeds p ≠ 0) ∧ longLength p = false ∧ Lacks [] p := by
  have hlacks : ∀ p q : Bytes, f.header = p ++ q → q ≠ [] → headerNeeds p ≠ 0 := by
    intro p q hsplit hq
    match p with
    | [] | [_] => simp [headerNeeds]
    | a :: b :: rest =>
      simp only [header, List.cons_append, List.cons.injEq] at hsplit
      obtain ⟨rfl, rfl, hrest⟩ := hsplit
      have hpos := List.length_pos_of_ne_nil hq
      rw [headerNeeds_header hform, hrest, List.length_append]
      omega
  refine ⟨hlacks p q hsplit, ?_, ?_⟩
  · have hlong := longLength_header hform (f.lengthBytes ++ f.keyBytes)
    rw [← header, hsplit] at hlong
    exact longLength_of_append hlong
  · intro a b hab hb
    rw [List.nil_append]
    exact hlacks a (b ++ q) (by rw [hsplit, hab, List.append_assoc]) (by simp [hb])

section Run
variable {max : ℕ} {frames : Bytes} {late : List Bytes} (hform : f.form ≠ .sixtyFour)
include hform

theorem run_header (hmax : frames.length + f.payload.length ≤ max) :
    run (Reader.step max) ⟨frames, .header [], late⟩ f.header =
      if f.payload = [] then
        let r := Reader.finish f.fin frames
        (r.1, .inl ⟨r.2, .header [], r.1⟩)
      else ([], .inl ⟨frames, .payload f.head [], []⟩) := by
  have hsplit : f.header = f.header ++ [] := by simp
  obtain ⟨-, hlong, hlacks⟩ := headerNeeds_prefix hform hsplit
  have hdone := headerNeeds_self hform
  rw [Reader.run_header (by simp [header]) hlacks hlong, List.nil_append, Reader.arrive,
    if_neg (by simp [hlong]), if_neg (by simp [hdone]), frameHeader_header hform]
  have hnot : ¬ max < frames.length + f.head.length := Nat.not_lt.2 hmax
  simp only [hnot, if_false]
  by_cases hnil : f.payload = []
  · have hzero : f.head.length = 0 := by simp [head, hnil]
    simp [hnil, hzero, proceed, run, after, head]
  · have hzero : f.head.length ≠ 0 := by simp [head, hnil]
    simp [hnil, hzero, proceed, run, after]

omit hform in
theorem unmask_body : f.head.unmask 0 f.body = f.payload := by
  unfold FrameHeader.unmask head body
  cases f.maskKey with
  | none => rfl
  | some key => exact unmask_unmask key 0 f.payload

omit hform in
theorem length_body : f.body.length = f.payload.length := by
  unfold body
  cases f.maskKey <;> simp

/-- A frame read as a whole. -/
theorem run_encode (hmax : frames.length + f.payload.length ≤ max) :
    run (Reader.step max) ⟨frames, .header [], late⟩ f.encode =
      let r := Reader.finish f.fin (frames ++ f.payload)
      (r.1, .inl ⟨r.2, .header [], if f.payload = [] then r.1 else []⟩) := by
  rw [encode, run_append, run_header hform hmax]
  by_cases hnil : f.payload = []
  · have hbody : f.body = [] := List.eq_nil_of_length_eq_zero (by rw [length_body, hnil]; rfl)
    simp [hnil, hbody, resume, run, after]
  · have hlen : f.head.length = f.body.length := length_body.symm
    have hpos : ([] : Bytes).length < f.head.length := by
      rw [hlen, length_body]
      exact List.length_pos_of_ne_nil hnil
    simp only [hnil, if_false, resume, after_nil]
    rw [Reader.run_payload hpos, if_neg (by simp [hlen])]
    simp only [hlen, List.length_nil, Nat.sub_zero, List.take_length, List.drop_length, unmask_body,
      List.nil_append, run, after, List.append_nil]
    rfl

/-- A frame of which not all has been read. -/
theorem run_encode_prefix (hmax : frames.length + f.payload.length ≤ max) {p q : Bytes}
    (hsplit : f.encode = p ++ q) (hp : p ≠ []) (hq : q ≠ []) :
    ∃ s, run (Reader.step max) ⟨frames, .header [], late⟩ p = ([], .inl s) ∧ s.late = [] ∧
      (s.midHeader ↔ p.length < f.header.length ∧ p.length ≠ 2) := by
  have hp' : p <+: f.encode := ⟨q, hsplit.symm⟩
  have hheader : f.header <+: f.encode := ⟨f.body, rfl⟩
  by_cases hlt : p.length < f.header.length
  · obtain ⟨q', hq'⟩ := List.prefix_of_prefix_length_le hp' hheader hlt.le
    have hne : q' ≠ [] := by
      rintro rfl
      rw [← hq', List.append_nil] at hlt
      exact lt_irrefl _ hlt
    obtain ⟨hneeds, hlong, hlacks⟩ := headerNeeds_prefix hform hq'.symm
    refine ⟨⟨frames, .header p, []⟩, ?_, rfl, by simp [Reader.midHeader, hlt, hp]⟩
    rw [Reader.run_header hp hlacks hlong, List.nil_append,
      Reader.arrive_lacking (hneeds hne) hlong]
    rfl
  · obtain ⟨b, rfl⟩ := List.prefix_of_prefix_length_le hheader hp' (Nat.le_of_not_lt hlt)
    have hbody : f.body = b ++ q := by
      rw [encode, List.append_assoc] at hsplit
      exact List.append_cancel_left hsplit
    have hshort : ([] : Bytes).length + b.length < f.head.length := by
      have hlen : f.head.length = f.body.length := length_body.symm
      have hpos := List.length_pos_of_ne_nil hq
      rw [hlen, hbody, List.length_append, List.length_nil]
      omega
    have hnil : f.payload ≠ [] := by
      intro hnil
      have hzero : f.head.length = 0 := by simp [head, hnil]
      omega
    rw [run_append, run_header hform hmax, if_neg hnil]
    simp only [resume, after_nil]
    rw [Reader.run_payload (by rw [List.length_nil] at hshort ⊢; omega), if_pos hshort]
    exact ⟨_, rfl, rfl, by simp [Reader.midHeader]⟩

end Run

end Frame

/-- Frames as they are sent, one after the other. -/
def stream (fs : List Frame) : Bytes := fs.flatMap Frame.encode

/-- What frames carry. -/
def carried (fs : List Frame) : Bytes := fs.flatMap Frame.payload

/-- Frames of one message: only the last has FIN set. -/
def IsMessage (fs : List Frame) : Prop :=
  ∃ init last, fs = init ++ [last] ∧ (∀ f ∈ init, f.fin = false) ∧ last.fin = true

theorem encode_ne_nil (f : Frame) : f.encode ≠ [] := by simp [Frame.encode, Frame.header]

/-- Frames without FIN are joined. -/
theorem run_unfinished {max : ℕ} {fs : List Frame} (hforms : ∀ f ∈ fs, f.form ≠ .sixtyFour)
    (hfin : ∀ f ∈ fs, f.fin = false) (frames : Bytes)
    (hmax : frames.length + (carried fs).length ≤ max) :
    run (Reader.step max) ⟨frames, .header [], []⟩ (stream fs) =
      ([], .inl ⟨frames ++ carried fs, .header [], []⟩) := by
  induction fs generalizing frames with
  | nil => simp [stream, carried, run]
  | cons f fs ih =>
    have hlen : (carried (f :: fs)).length = f.payload.length + (carried fs).length := by
      simp [carried]
    have hfinish : Reader.finish f.fin (frames ++ f.payload) = ([], frames ++ f.payload) := by
      simp [Reader.finish, hfin f List.mem_cons_self]
    have hrest := ih (fun g hg => hforms g (List.mem_cons_of_mem _ hg))
      (fun g hg => hfin g (List.mem_cons_of_mem _ hg)) (frames ++ f.payload)
      (by rw [List.length_append]; omega)
    rw [stream, List.flatMap_cons, run_append,
      Frame.run_encode (hforms f List.mem_cons_self) (by omega)]
    simp only [hfinish, ite_self, resume, after_nil]
    rw [stream] at hrest
    rw [hrest, carried, carried, List.flatMap_cons, List.append_assoc]

/-- A message is let out with its last frame. -/
theorem run_message {max : ℕ} {init : List Frame} {last : Frame}
    (hforms : ∀ f ∈ init ++ [last], f.form ≠ .sixtyFour) (hfin : ∀ f ∈ init, f.fin = false)
    (hlast : last.fin = true) (hmax : (carried (init ++ [last])).length ≤ max) :
    run (Reader.step max) .start (stream (init ++ [last])) =
      ([carried (init ++ [last])], .inl ⟨[], .header [],
        if last.payload = [] then [carried (init ++ [last])] else []⟩) := by
  have hcarried : carried (init ++ [last]) = carried init ++ last.payload := by simp [carried]
  rw [hcarried, List.length_append] at hmax
  have hinit := run_unfinished (fun f hf => hforms f (by simp [hf])) hfin []
    ((Nat.le_of_eq (Nat.zero_add _)).trans ((Nat.le_add_right _ _).trans hmax))
  rw [stream] at hinit
  rw [stream, List.flatMap_append, run_append, Reader.start, hinit]
  simp only [resume, after_nil, List.flatMap_cons, List.flatMap_nil, List.append_nil]
  rw [Frame.run_encode (hforms last (by simp)) (by simpa using hmax)]
  simp [Reader.finish, hlast, hcarried]

end Resiprocate.WebSocket
