import Resiprocate.BigEndian
import Resiprocate.StunTuple

/-! The receive loop of a TURN server's TCP connection: the first four bytes of a frame, the rest of it,
and the hand-over to `onReceiveSuccess`. -/
namespace Resiprocate.ReTurn
open BigEndian

/-- `RECEIVE_BUFFER_SIZE`. -/
def receiveBufferSize : ℕ := 4096

/-- The first two bits are 00. -/
def isStun (data : Data) : Bool := data.headD 0 &&& 0xC0 = 0

/-- The length in bytes 3 and 4. -/
def lengthField (data : Data) : ℕ := value ((data.drop 2).take 2)

/-- What `asio::async_read` waits for. -/
inductive Reading
  | header
  | body (dataLen : ℕ)
  deriving DecidableEq

structure TcpConnection where
  reading : Reading
  /-- What has been read of `mReceiveBuffer`. -/
  mReceiveBuffer : Data
  /-- What `onReceiveSuccess` was called with. -/
  handedUp : List Data
  closed : Bool
  deriving DecidableEq

namespace TcpConnection

/-- `doFramedReceive`. -/
def doFramedReceive (c : TcpConnection) : TcpConnection :=
  { c with reading := .header, mReceiveBuffer := [] }

/-- `start`. -/
def new : TcpConnection := ⟨.header, [], [], false⟩

/-- `handleReceive` and `onReceiveSuccess`. What a message is answered with does not matter here: the
connection receives on unless it was handed too little. -/
def handleReceive (c : TcpConnection) : TcpConnection :=
  let c := { c with handedUp := c.handedUp ++ [c.mReceiveBuffer] }
  if 4 < c.mReceiveBuffer.length then c.doFramedReceive else { c with closed := true }

/-- `dataLen` has 16 bits. A read of no bytes completes at once. -/
def handleReadHeader (c : TcpConnection) : TcpConnection :=
  let dataLen := lengthField c.mReceiveBuffer
  let dataLen := if isStun c.mReceiveBuffer then (dataLen + 16) % 2 ^ 16 else dataLen
  if dataLen + 4 < receiveBufferSize then
    if dataLen = 0 then c.handleReceive else { c with reading := .body dataLen }
  else { c with closed := true }

/-- A byte arrives. -/
def receive (c : TcpConnection) (b : UInt8) : TcpConnection :=
  if c.closed then c
  else
    let c := { c with mReceiveBuffer := c.mReceiveBuffer ++ [b] }
    match c.reading with
    | .header => if c.mReceiveBuffer.length = 4 then c.handleReadHeader else c
    | .body dataLen => if c.mReceiveBuffer.length = dataLen + 4 then c.handleReceive else c

def run (c : TcpConnection) (stream : Data) : TcpConnection := stream.foldl receive c

end TcpConnection

/-! ### Frames -/

/-- The size of the frame that a header announces. -/
def frameSize (data : Data) : ℕ := lengthField data + if isStun data then 20 else 4

/-- A STUN frame or a ChannelData frame. -/
def IsFrame (data : Data) : Prop := data.length = frameSize data

instance : DecidablePred IsFrame := fun data => inferInstanceAs (Decidable (data.length = frameSize data))

/-- The frame fits the receive buffer. -/
def fitsBuffer (data : Data) : Bool := data.length ≤ receiveBufferSize

/-- The 16-bit length of the rest of a STUN frame has gone round. -/
def Wraps (data : Data) : Prop := isStun data ∧ 2 ^ 16 ≤ lengthField data + 16

instance (data : Data) : Decidable (Wraps data) := inferInstanceAs (Decidable (_ ∧ _))

/-- The frame is handed up and the connection receives on. -/
def Received (data : Data) : Prop := 4 < data.length ∧ data.length < receiveBufferSize

instance : DecidablePred Received := fun _ => inferInstanceAs (Decidable (_ ∧ _))

/-- The frames that the loop takes for what they are: those that fit are shorter than the buffer and
are not empty ChannelData, and the first that does not fit has not gone round. -/
def Sound (frames : List Data) : Prop :=
  (∀ frame ∈ frames.takeWhile fitsBuffer, Received frame) ∧
    ∀ frame ∈ (frames.dropWhile fitsBuffer).head?, ¬Wraps frame

namespace TcpConnection
variable {c : TcpConnection} {frame data : Data} {frames : List Data}

theorem run_append (c : TcpConnection) (data data' : Data) :
    c.run (data ++ data') = (c.run data).run data' := List.foldl_append

theorem run_closed (h : c.closed = true) (data : Data) : c.run data = c := by
  induction data with
  | nil => rfl
  | cons b data ih =>
    have hstep : c.receive b = c := by simp [receive, h]
    rw [run, List.foldl_cons, hstep]
    exact ih

/-- The rest of a frame is read into the buffer. -/
theorem run_body {dataLen : ℕ} (hopen : c.closed = false) (hreading : c.reading = .body dataLen)
    (hdata : data ≠ []) (hlength : c.mReceiveBuffer.length + data.length = dataLen + 4) :
    c.run data = { c with mReceiveBuffer := c.mReceiveBuffer ++ data }.handleReceive := by
  induction data generalizing c with
  | nil => exact absurd rfl hdata
  | cons b data ih =>
    rw [run, List.foldl_cons]
    cases data with
    | nil =>
      have hlast : (c.mReceiveBuffer ++ [b]).length = dataLen + 4 := by
        rw [List.length_append]
        exact hlength
      simp only [receive, hopen, hreading, hlast]
      rfl
    | cons b' data =>
      have hmore : (c.mReceiveBuffer ++ [b]).length ≠ dataLen + 4 := by
        simp only [List.length_append, List.length_cons, List.length_nil] at hlength ⊢
        omega
      have hstep : c.receive b = { c with mReceiveBuffer := c.mReceiveBuffer ++ [b] } := by
        simp only [receive, hopen, hreading, hmore]
        rfl
      have hleft : (c.mReceiveBuffer ++ [b]).length + (b' :: data).length = dataLen + 4 := by
        simp only [List.length_append, List.length_cons, List.length_nil] at hlength ⊢
        omega
      have hrest := ih (c := { c with mReceiveBuffer := c.mReceiveBuffer ++ [b] }) hopen hreading
        (List.cons_ne_nil _ _) hleft
      rw [hstep]
      refine hrest.trans ?_
      rw [List.append_assoc]
      rfl

/-- A connection that waits for the next frame. -/
def ready (handedUp : List Data) : TcpConnection := ⟨.header, [], handedUp, false⟩

variable (handedUp : List Data)

theorem run_header (b₀ b₁ b₂ b₃ : UInt8) : (ready handedUp).run [b₀, b₁, b₂, b₃] =
    { ready handedUp with mReceiveBuffer := [b₀, b₁, b₂, b₃] }.handleReadHeader := rfl

theorem exists_header (hframe : IsFrame frame) : ∃ b₀ b₁ b₂ b₃ rest, frame = [b₀, b₁, b₂, b₃] ++ rest := by
  have hlength : 4 ≤ frame.length := by
    rw [hframe, frameSize]
    split_ifs <;> omega
  match frame with
  | b₀ :: b₁ :: b₂ :: b₃ :: rest => exact ⟨b₀, b₁, b₂, b₃, rest, rfl⟩

theorem lengthField_lt (data : Data) : lengthField data < 2 ^ 16 := by
  have hlt := value_lt ((data.drop 2).take 2)
  have hle : ((data.drop 2).take 2).length ≤ 2 := List.length_take_le _ _
  calc lengthField data < 256 ^ ((data.drop 2).take 2).length := hlt
    _ ≤ 256 ^ 2 := Nat.pow_le_pow_right (by omega) hle
    _ = 2 ^ 16 := rfl

/-- The part of a frame that the loop takes for the whole. -/
def takenSize (data : Data) : ℕ :=
  (if isStun data then (lengthField data + 16) % 2 ^ 16 else lengthField data) + 4

theorem takenSize_eq (hframe : IsFrame frame) (hwraps : ¬Wraps frame) : takenSize frame = frame.length := by
  rw [hframe, takenSize, frameSize]
  by_cases hstun : isStun frame
  · have hlt : lengthField frame + 16 < 2 ^ 16 := by
      by_contra hge
      exact hwraps ⟨hstun, not_lt.mp hge⟩
    rw [if_pos hstun, if_pos hstun, Nat.mod_eq_of_lt hlt]
  · rw [if_neg hstun, if_neg hstun]

/-- What has been read when a frame is taken to be complete. -/
theorem run_taken (hframe : IsFrame frame) (hsize : takenSize frame ≤ frame.length)
    (hfits : takenSize frame < receiveBufferSize) : (ready handedUp).run (frame.take (takenSize frame)) =
      { ready handedUp with
        reading := if takenSize frame = 4 then .header else .body (takenSize frame - 4)
        mReceiveBuffer := frame.take (takenSize frame) }.handleReceive := by
  obtain ⟨b₀, b₁, b₂, b₃, rest, rfl⟩ := exists_header hframe
  obtain ⟨dataLen, hdataLen⟩ : ∃ dataLen, takenSize ([b₀, b₁, b₂, b₃] ++ rest) = dataLen + 4 := ⟨_, rfl⟩
  have hheader : takenSize [b₀, b₁, b₂, b₃] = dataLen + 4 := hdataLen
  rw [hdataLen] at hsize hfits ⊢
  have htake : ([b₀, b₁, b₂, b₃] ++ rest).take (dataLen + 4) = [b₀, b₁, b₂, b₃] ++ rest.take dataLen := rfl
  rw [htake, run_append, run_header, handleReadHeader]
  have hfield : (if isStun [b₀, b₁, b₂, b₃] then (lengthField [b₀, b₁, b₂, b₃] + 16) % 2 ^ 16
      else lengthField [b₀, b₁, b₂, b₃]) = dataLen := Nat.add_right_cancel hheader
  simp only [hfield, if_pos hfits]
  by_cases hzero : dataLen = 0
  · subst hzero
    rfl
  · have hlength : (rest.take dataLen).length = dataLen := by
      rw [List.length_take]
      simp only [List.length_append, List.length_cons, List.length_nil] at hsize
      omega
    have hne : rest.take dataLen ≠ [] := by
      intro hnil
      rw [hnil] at hlength
      exact hzero hlength.symm
    have hnot : dataLen + 4 ≠ 4 := by omega
    rw [if_neg hzero, if_neg hnot]
    exact run_body rfl rfl hne (by simp only [hlength, List.length_cons, List.length_nil]; omega)

/-- A frame that is received. -/
theorem run_received (hframe : IsFrame frame) (h : Received frame) :
    (ready handedUp).run frame = ready (handedUp ++ [frame]) := by
  have hwraps : ¬Wraps frame := by
    rintro ⟨hstun, hge⟩
    have hsize : frame.length = lengthField frame + 20 := by rw [hframe, frameSize, if_pos hstun]
    have hlt := h.2
    unfold receiveBufferSize at hlt
    omega
  have hsize := takenSize_eq hframe hwraps
  have htaken := run_taken handedUp hframe hsize.le (hsize.trans_lt h.2)
  rw [hsize, List.take_length] at htaken
  rw [htaken, handleReceive]
  exact if_pos h.1

/-- Empty ChannelData is handed up, and the connection closes. -/
theorem run_empty (hframe : IsFrame frame) (h : frame.length = 4) :
    ((ready handedUp).run frame).closed = true := by
  have hwraps : ¬Wraps frame := by
    rintro ⟨hstun, hge⟩
    have hsize : frame.length = lengthField frame + 20 := by rw [hframe, frameSize, if_pos hstun]
    omega
  have hsize := takenSize_eq hframe hwraps
  have hlt : takenSize frame < receiveBufferSize := by
    rw [hsize, h]
    decide
  have htaken := run_taken handedUp hframe hsize.le hlt
  rw [hsize, List.take_length] at htaken
  rw [htaken, handleReceive]
  simp only [h, lt_irrefl, if_false]

/-- The connection closes where a frame does not fit. -/
theorem run_tooLong (hframe : IsFrame frame) (hwraps : ¬Wraps frame)
    (hlong : receiveBufferSize ≤ frame.length) :
    ((ready handedUp).run frame).handedUp = handedUp ∧ ((ready handedUp).run frame).closed = true := by
  have hsize := takenSize_eq hframe hwraps
  obtain ⟨b₀, b₁, b₂, b₃, rest, rfl⟩ := exists_header hframe
  have hheader : ¬takenSize [b₀, b₁, b₂, b₃] < receiveBufferSize := by
    have hsame : takenSize [b₀, b₁, b₂, b₃] = takenSize ([b₀, b₁, b₂, b₃] ++ rest) := rfl
    omega
  have hclosed : (ready handedUp).run [b₀, b₁, b₂, b₃] =
      { ready handedUp with mReceiveBuffer := [b₀, b₁, b₂, b₃], closed := true } := by
    rw [run_header, handleReadHeader]
    exact if_neg hheader
  rw [run_append, hclosed, run_closed rfl]
  exact ⟨rfl, rfl⟩

theorem handedUp_receive (c : TcpConnection) (b : UInt8) : c.handedUp <+: (c.receive b).handedUp := by
  have hhanded (c : TcpConnection) : c.handedUp <+: c.handleReceive.handedUp := by
    simp only [handleReceive]
    split_ifs
    · exact List.prefix_append _ _
    · exact List.prefix_append _ _
  have hheader (c : TcpConnection) : c.handedUp <+: c.handleReadHeader.handedUp := by
    unfold handleReadHeader
    dsimp only
    split_ifs
    all_goals first
      | exact hhanded c
      | exact List.prefix_rfl
  obtain ⟨reading, buffer, handedUp, closed⟩ := c
  cases closed with
  | true => exact List.prefix_rfl
  | false =>
    cases reading with
    | header =>
      simp only [receive, Bool.false_eq_true, if_false]
      split_ifs
      · exact hheader ⟨.header, buffer ++ [b], handedUp, false⟩
      · exact List.prefix_rfl
    | body dataLen =>
      simp only [receive, Bool.false_eq_true, if_false]
      split_ifs
      · exact hhanded ⟨.body dataLen, buffer ++ [b], handedUp, false⟩
      · exact List.prefix_rfl

theorem handedUp_run (c : TcpConnection) (data : Data) : c.handedUp <+: (c.run data).handedUp := by
  induction data generalizing c with
  | nil => exact List.prefix_rfl
  | cons b data ih => exact (handedUp_receive c b).trans (ih _)

/-- A piece of a frame is handed up when the 16-bit length has gone round. -/
theorem run_wraps (hframe : IsFrame frame) (h : Wraps frame) :
    ((ready handedUp).run frame).handedUp ≠ handedUp := by
  obtain ⟨hstun, hge⟩ := h
  have hlt := lengthField_lt frame
  have hsize : takenSize frame = lengthField frame + 16 - 2 ^ 16 + 4 := by
    rw [takenSize, if_pos hstun, Nat.mod_eq_sub_mod hge, Nat.mod_eq_of_lt (by omega)]
  have hlength : frame.length = lengthField frame + 20 := by rw [hframe, frameSize, if_pos hstun]
  have htaken := run_taken handedUp hframe (by omega)
    (by unfold receiveBufferSize; omega)
  have hpiece : ((ready handedUp).run (frame.take (takenSize frame))).handedUp =
      handedUp ++ [frame.take (takenSize frame)] := by
    rw [htaken]
    simp only [handleReceive]
    split_ifs <;> rfl
  have hmore := handedUp_run ((ready handedUp).run (frame.take (takenSize frame)))
    (frame.drop (takenSize frame))
  rw [← run_append, List.take_append_drop, hpiece] at hmore
  intro heq
  rw [heq] at hmore
  exact absurd hmore.length_le (by simp)

/-- After any number of frames, those up to the first that does not fit have been handed up, and the
connection is closed if there was one. -/
def Exact (handedUp frames : List Data) : Prop :=
  ∀ seen, seen <+: frames → ((ready handedUp).run seen.flatten).handedUp =
    handedUp ++ seen.takeWhile fitsBuffer ∧
      ((ready handedUp).run seen.flatten).closed = !seen.all fitsBuffer

theorem exact_cons_received (hframe : IsFrame frame) (h : Received frame) :
    Exact handedUp (frame :: frames) ↔ Exact (handedUp ++ [frame]) frames := by
  have hfits : fitsBuffer frame = true := decide_eq_true h.2.le
  have hrun (seen : List Data) : (ready handedUp).run (frame :: seen).flatten =
      (ready (handedUp ++ [frame])).run seen.flatten := by
    rw [List.flatten_cons, run_append, run_received handedUp hframe h]
  constructor
  · intro hexact seen hseen
    have hfirst := hexact (frame :: seen) (List.cons_prefix_cons.mpr ⟨rfl, hseen⟩)
    rw [hrun] at hfirst
    simpa [hfits] using hfirst
  · intro hexact seen hseen
    rcases List.prefix_cons_iff.mp hseen with rfl | ⟨rest, rfl, hrest⟩
    · simp [run, ready]
    · rw [hrun]
      simpa [hfits] using hexact rest hrest

/-- The loop hands up the frames of a stream as they are exactly if they are sound. -/
theorem exact_iff (hframes : ∀ frame ∈ frames, IsFrame frame) :
    Exact handedUp frames ↔ Sound frames := by
  induction frames generalizing handedUp with
  | nil =>
    refine iff_of_true ?_ ⟨nofun, nofun⟩
    intro seen hseen
    rw [List.prefix_nil.mp hseen]
    simp [run, ready]
  | cons frame frames ih =>
    have hframe := hframes frame List.mem_cons_self
    have hone : [frame] <+: frame :: frames := List.cons_prefix_cons.mpr ⟨rfl, List.nil_prefix⟩
    by_cases hreceived : Received frame
    · have hfits : fitsBuffer frame = true := decide_eq_true hreceived.2.le
      rw [exact_cons_received handedUp hframe hreceived, ih _ fun f hf => hframes f (List.mem_cons_of_mem _ hf)]
      simp [Sound, hfits, hreceived]
    · by_cases hfits : fitsBuffer frame = true
      · -- a frame of the size of the buffer, or empty ChannelData
        refine iff_of_false (fun hexact => ?_) fun hsound =>
          hreceived (hsound.1 frame (by simp [hfits]))
        have hclosed := (hexact [frame] hone).2
        rw [List.flatten_singleton, List.all_cons, hfits, List.all_nil] at hclosed
        have hle : frame.length ≤ receiveBufferSize := of_decide_eq_true hfits
        by_cases hempty : frame.length = 4
        · rw [run_empty handedUp hframe hempty] at hclosed
          cases hclosed
        · have hlength : 4 ≤ frame.length := by
            rw [hframe, frameSize]
            split_ifs <;> omega
          have hlong : receiveBufferSize ≤ frame.length := by
            by_contra hlt
            exact hreceived ⟨by omega, not_le.mp hlt⟩
          have hwraps : ¬Wraps frame := by
            rintro ⟨hstun, hge⟩
            have hsize : frame.length = lengthField frame + 20 := by rw [hframe, frameSize, if_pos hstun]
            unfold receiveBufferSize at hle
            omega
          rw [(run_tooLong handedUp hframe hwraps hlong).2] at hclosed
          cases hclosed
      · have hlong : receiveBufferSize < frame.length := by
          by_contra hle
          exact hfits (decide_eq_true (not_lt.mp hle))
        by_cases hwraps : Wraps frame
        · refine iff_of_false (fun hexact => ?_) fun hsound =>
            hsound.2 frame (by simp [hfits]) hwraps
          have hhanded := (hexact [frame] hone).1
          rw [List.flatten_singleton] at hhanded
          exact run_wraps handedUp hframe hwraps (by simpa [hfits] using hhanded)
        · refine iff_of_true ?_ ⟨?_, ?_⟩
          · intro seen hseen
            rcases List.prefix_cons_iff.mp hseen with rfl | ⟨seen, rfl, -⟩
            · simp [run, ready]
            · obtain ⟨hhanded, hclosed⟩ := run_tooLong handedUp hframe hwraps hlong.le
              rw [List.flatten_cons, run_append, run_closed hclosed, hhanded, hclosed]
              simp [hfits]
          · simp [hfits]
          · simpa [hfits] using hwraps

/-- For every stream of frames: after any number of them, exactly those up to the first that does not
fit the receive buffer have been handed up, and the connection is closed exactly if there was one, if
and only if the frames are sound. -/
theorem framing (hframes : ∀ frame ∈ frames, IsFrame frame) :
    (∀ seen, seen <+: frames → (new.run seen.flatten).handedUp = seen.takeWhile fitsBuffer ∧
      (new.run seen.flatten).closed = !seen.all fitsBuffer) ↔ Sound frames := by
  have hexact := exact_iff [] hframes
  have hnew : ready [] = new := rfl
  simpa only [Exact, List.nil_append, hnew] using hexact

/-- A STUN frame without attributes and four bytes on a channel. -/
def shortFrames : List Data :=
  [[0, 1, 0, 0, 33, 18, 164, 66, 1, 2, 3, 4, 5, 6, 7, 8, 9, 10, 11, 12], [64, 0, 0, 4, 1, 2, 3, 4]]

theorem framing_shortFrames :
    (new.run shortFrames.flatten).handedUp = shortFrames.takeWhile fitsBuffer ∧
      (new.run shortFrames.flatten).closed = !shortFrames.all fitsBuffer :=
  (framing (by decide)).mpr ⟨by decide, by decide⟩ shortFrames List.prefix_rfl

/-- A STUN frame of 65540 bytes. -/
def wrappedFrame : Data := [0, 1, 255, 240] ++ List.replicate 65536 0

/-- The first four bytes of a long STUN frame are handed up as if they were a frame, and after empty
ChannelData the frames that follow are not handed up. -/
theorem not_framing :
    (IsFrame wrappedFrame ∧ fitsBuffer wrappedFrame = false ∧ (new.run wrappedFrame).handedUp ≠ []) ∧
      IsFrame [64, 0, 0, 0] ∧ IsFrame [64, 0, 0, 1, 5] ∧
      (new.run ([64, 0, 0, 0] ++ [64, 0, 0, 1, 5])).handedUp = [[64, 0, 0, 0]] := by
  have hlength : wrappedFrame.length = 65540 := by
    rw [wrappedFrame, List.length_append, List.length_replicate]
    rfl
  have hframe : IsFrame wrappedFrame := hlength
  have hfits : fitsBuffer wrappedFrame = false := by
    rw [fitsBuffer, hlength]
    decide
  have hwraps : Wraps wrappedFrame := ⟨rfl, le_rfl⟩
  exact ⟨⟨hframe, hfits, run_wraps [] hframe hwraps⟩, by decide, by decide, by decide⟩

end TcpConnection
end Resiprocate.ReTurn
