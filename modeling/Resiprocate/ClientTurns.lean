import Resiprocate.SessionTurns

/-! What the functions of the caller's session do to its timers, to the retransmission of its 2xx and to what
it remembers of the reliable provisionals. -/
namespace Resiprocate.Dum
open ProgramLogic

def SessionState.caller : SessionState → Bool
  | .UAC_Start | .UAC_Early | .UAC_EarlyWithOffer | .UAC_EarlyWithAnswer | .UAC_Answered | .UAC_SentUpdateEarly
  | .UAC_SentUpdateEarlyGlare | .UAC_ReceivedUpdateEarly | .UAC_SentAnswer | .UAC_QueuedUpdate
  | .UAC_Cancelled => true
  | state => state.shared

namespace ClientInviteSession
open InviteSession
variable {γ : Type*}

/-- What a function of the caller's session does. -/
@[mk_iff] structure Moves (stops starts idle : Prop) (s s' : ClientInviteSession γ) : Prop where
  waits : s.Waits → s'.Waits
  info : s'.mRelRespInfo = s.mRelRespInfo
  retransmission : (s'.mCurrentRetransmit200 = s.mCurrentRetransmit200 ∧ s'.mInvite200 = s.mInvite200 ∧
      s'.retransmissions = s.retransmissions) ∨
    (stops ∧ s'.mCurrentRetransmit200 = false ∧ s'.mInvite200 = s.mInvite200 ∧
      s'.retransmissions = s.retransmissions) ∨
    (starts ∧ s'.mCurrentRetransmit200 = true ∧ s'.mInvite200.isSome ∧
      ∃ t, s'.retransmissions = t :: s.retransmissions)
  caller : s'.mState.caller
  frames : s'.frames = s.frames ∨ idle ∧ ∃ f, s'.frames = f :: s.frames ∧ f.isAck = false ∧
    (f.isGlare → s'.mState.shared ∧ s'.rests = s.rests)

variable {s s' : ClientInviteSession γ} {msg : SessionMessage γ} {stops starts idle : Prop}

lemma shared_caller {state : SessionState} (h : state.shared) : state.caller := by
  cases state <;> simp_all +decide

lemma Moves.refl (h : s.mState.caller) : s.Moves stops starts idle s :=
  ⟨id, rfl, .inl ⟨rfl, rfl, rfl⟩, h, .inl rfl⟩

lemma Moves.mono {stops' starts' idle' : Prop} (h : s.Moves stops starts idle s') (hstops : stops → stops')
    (hstarts : starts → starts') (hidle : idle → idle') : s.Moves stops' starts' idle' s' :=
  ⟨h.waits, h.info, h.retransmission.imp_right (.imp (.imp_left hstops) (.imp_left hstarts)), h.caller,
    h.frames.imp_right (.imp_left hidle)⟩

/-- A function that does nothing of the kind may follow. -/
lemma Moves.trans {s₁ : ClientInviteSession γ} (h : s.Moves stops starts False s₁)
    (h' : s₁.Moves False False False s') : s.Moves stops starts idle s' := by
  have hf : s₁.frames = s.frames := by simpa using h.frames
  have hf' : s'.frames = s₁.frames := by simpa using h'.frames
  refine ⟨fun hw => h'.waits (h.waits hw), h'.info.trans h.info, ?_, h'.caller, .inl (hf'.trans hf)⟩
  have hkept := h'.retransmission
  simp only [false_and, or_false] at hkept
  rw [hkept.1, hkept.2.1, hkept.2.2]
  exact h.retransmission

/-- The base class is passed through. -/
lemma Moves.of_base {b : InviteSession γ} {suspends : Prop}
    (h : s.toInviteSession.Turns stops starts suspends b) (hc : s.mState.caller) (hidle : suspends → idle) :
    s.Moves stops starts idle { s with toInviteSession := b } := by
  refine ⟨h.waits, rfl, h.retransmission, ?_, ?_⟩
  · rcases h.shared with hs | hs
    · show b.mState.caller
      rw [hs]
      exact hc
    · exact shared_caller hs
  · rcases h.frames with hf | ⟨hsuspends, f, hf, hr, ha, hg⟩
    · exact .inl hf
    · exact .inr ⟨hidle hsuspends, f, hf, ha, fun h => ⟨hg h, rfl⟩⟩

lemma inherited_moves {r : Outcome (InviteSession γ)} {suspends : Prop}
    (h : Yields r (s.toInviteSession.Turns stops starts suspends)) (hc : s.mState.caller) (hidle : suspends → idle) :
    Yields (s.inherited r) (s.Moves stops starts idle) :=
  Yields.map_iff.mpr (h.weaken fun _ hb => .of_base hb hc hidle)

/-! ### Calls -/

lemma provideOffer_moves (offer : γ) (hc : s.mState.caller) :
    Yields (s.provideOffer offer) (s.Moves False (s.mState = .ReceivedReinviteNoOffer) False) := by
  simp only [provideOffer]
  split
  case h_12 => exact inherited_moves (InviteSession.provideOffer_turns offer) hc id
  all_goals simp_all +decide [moves_iff, waits_iff, retransmissions]

lemma requestOffer_moves (hc : s.mState.caller) : Yields s.requestOffer (s.Moves False False False) :=
  inherited_moves InviteSession.requestOffer_turns hc id

lemma sendAck_spec (answer : Option γ) : Yields (s.sendAck answer) fun s' => ∃ transactionId sequence,
    s' = s.onBase fun b => ({ b with mAcks := ⟨transactionId, sequence, answer⟩ :: b.mAcks }.addTimer .CanDiscardAck
      transactionId 0).emit (.request .ack sequence answer) := by
  simp only [sendAck, inherited, Yields.map_iff]
  refine (InviteSession.sendAck_spec answer).weaken ?_
  rintro b ⟨transactionId, sequence, rfl⟩
  exact ⟨transactionId, sequence, rfl⟩

lemma provideAnswer_moves (answer : γ) (hc : s.mState.caller) :
    Yields (s.provideAnswer answer) (s.Moves False (s.mState = .ReceivedReinvite) False) := by
  simp only [provideAnswer]
  split
  case h_2 =>
    refine Yields.bind_iff.mpr ((sendAck_spec (some answer)).weaken ?_)
    rintro _ ⟨transactionId, sequence, rfl⟩
    simp_all +decide [moves_iff, waits_iff, retransmissions]
  case h_12 => exact inherited_moves (InviteSession.provideAnswer_turns answer) hc id
  all_goals simp_all +decide [moves_iff, waits_iff, retransmissions]

lemma endSession_moves (hc : s.mState.caller) : Yields s.endSession (s.Moves False False False) := by
  simp only [endSession]
  split
  case h_12 => exact inherited_moves InviteSession.endSession_turns hc id
  all_goals simp_all +decide [moves_iff, waits_iff, retransmissions]

lemma reject_moves (code : ℕ) (hc : s.mState.caller) : Yields (s.reject code) (s.Moves False False False) := by
  simp only [reject]
  split
  case h_2 =>
    refine Yields.bind_iff.mpr ((sendAck_spec none).weaken ?_)
    rintro _ ⟨transactionId, sequence, rfl⟩
    simp_all +decide [moves_iff, waits_iff, retransmissions]
  case h_10 => exact inherited_moves (InviteSession.reject_turns code) hc id
  all_goals simp_all +decide [moves_iff, waits_iff, retransmissions]

lemma targetRefresh_moves (hc : s.mState.caller) : Yields s.targetRefresh (s.Moves False False False) :=
  inherited_moves InviteSession.targetRefresh_turns hc id

lemma cancel_moves : Yields s.cancel (s.Moves False False False) := by
  simp only [cancel]
  split <;> simp_all +decide [moves_iff, waits_iff, retransmissions]

lemma onForkAccepted_moves (hc : s.mState.caller) : s.Moves False False False s.onForkAccepted := by
  simp only [onForkAccepted]
  split <;> simp_all +decide [moves_iff, waits_iff, retransmissions]

/-! ### Responses to the INVITE -/

/-- From one state of the caller to another. -/
lemma transition_moves (target : SessionState) (ht : target.caller) (hw : target.awaitsAck = false)
    (hr : target.reinvites = false) : s.Moves False False False (s.transition target) := by
  have hh : target.hangsUp = false := by cases target <;> simp_all +decide
  simp_all [moves_iff, waits_iff, retransmissions]

lemma handleProvisional_moves (rest : ClientFrame γ) (hc : s.mState.caller) :
    Yields (s.handleProvisional msg rest) (s.Moves False False False) := by
  simp only [handleProvisional, Yields.bind_iff]
  intro request _
  refine Yields.pure_iff.mpr ?_
  split <;> simp_all [moves_iff, waits_iff, retransmissions]

lemma receiveAnswer_spec (answer : γ) : Yields (s.receiveAnswer answer) fun s' => ∃ offer,
    s' = { s with
      mCurrentLocalOfferAnswer := some offer
      mProposedLocalOfferAnswer := none
      mCurrentRemoteOfferAnswer := some answer } := by
  simp only [receiveAnswer, InviteSession.setCurrentLocalOfferAnswer]
  split
  · exact Yields.of_error _
  · simp_all [InviteSession.setCurrentRemote]

lemma receiveAnswer_moves (answer : γ) (hc : s.mState.caller) :
    Yields (s.receiveAnswer answer) (s.Moves False False False) := by
  refine (receiveAnswer_spec answer).weaken ?_
  rintro _ ⟨offer, rfl⟩
  simp_all [moves_iff, waits_iff, retransmissions]

lemma handle1xxAnswer_moves (answer : γ) (hc : s.mState.caller) :
    Yields (s.handle1xxAnswer msg answer) (s.Moves False False False) := by
  refine Yields.bind_iff.mpr ((receiveAnswer_moves answer hc).weaken fun s₁ h₁ => ?_)
  exact (handleProvisional_moves _ h₁.caller).weaken fun s' h' => h₁.trans h'

lemma fail_moves : s.Moves False False False s.fail := by
  simp_all +decide [fail, moves_iff, waits_iff, retransmissions]

lemma sendAck_moves (answer : Option γ) (hc : s.mState.caller) :
    Yields (s.sendAck answer) (s.Moves False False False) :=
  inherited_moves (InviteSession.sendAck_turns answer) hc id

lemma refuse2xx_moves (hc : s.mState.caller) : Yields s.refuse2xx (s.Moves False False False) := by
  refine Yields.bind_iff.mpr ((sendAck_moves none hc).weaken fun s₁ h₁ => Yields.pure_iff.mpr (h₁.trans ?_))
  simp_all +decide [moves_iff, waits_iff, retransmissions]

lemma handleFinalResponse_moves (hc : s.mState.caller) : s.Moves False False False (s.handleFinalResponse msg) := by
  simp_all [handleFinalResponse, moves_iff, waits_iff, retransmissions]

lemma callback_moves (c : Callback γ) (hc : s.mState.caller) : s.Moves False False False (s.callback c) := by
  simp_all [moves_iff, waits_iff, retransmissions]

lemma wait_moves (f : ClientFrame γ) (hc : s.mState.caller) : s.Moves False False False (s.wait f) := by
  simp_all [moves_iff, waits_iff, retransmissions]

lemma destroy_moves (hc : s.mState.caller) : s.Moves False False False s.destroy := by
  simp_all [moves_iff, waits_iff, retransmissions]

lemma connect_moves : Yields (s.connect msg) (s.Moves False False False) := by
  have hconnected : s.Moves False False False (s.transition .Connected) := transition_moves _ rfl rfl rfl
  refine Yields.bind_iff.mpr ((sendAck_moves none rfl).weaken fun s₁ h₁ => Yields.pure_iff.mpr ?_)
  have hfinal : s₁.Moves False False False (s₁.handleFinalResponse msg) := handleFinalResponse_moves h₁.caller
  exact (hconnected.trans h₁).trans (hfinal.trans (callback_moves _ hfinal.caller))

lemma connectAnswered_moves (answer : γ) : Yields (s.connectAnswered msg answer) (s.Moves False False False) := by
  have hconnected : s.Moves False False False (s.transition .Connected) := transition_moves _ rfl rfl rfl
  refine Yields.bind_iff.mpr ((sendAck_moves none rfl).weaken fun s₁ h₁ => ?_)
  have hfinal : s₁.Moves False False False (s₁.handleFinalResponse msg) := handleFinalResponse_moves h₁.caller
  refine (receiveAnswer_moves answer hfinal.caller).weaken fun s' h' => ?_
  exact (hconnected.trans h₁).trans (hfinal.trans h')

lemma dispatchBye_moves : Yields (s.dispatchBye msg) (s.Moves False False False) := by
  simp only [dispatchBye, InviteSession.dispatchBye]
  split <;> simp_all +decide [moves_iff, waits_iff, retransmissions]

lemma dispatchStart_moves (hst : s.mState = .UAC_Start) :
    Yields (s.dispatchStart msg) (s.Moves False False False) := by
  have hc : s.mState.caller := by rw [hst]; rfl
  simp only [dispatchStart]
  split
  · exact Yields.of_error _
  split
  case h_1 | h_2 => simp_all +decide [moves_iff, waits_iff, retransmissions]
  case h_3 | h_4 =>
    refine Yields.bind_iff.mpr fun offer _ => Yields.pure_iff.mpr ?_
    simp_all +decide [moves_iff, waits_iff, retransmissions]
  case h_5 =>
    refine Yields.bind_iff.mpr fun offer _ => Yields.pure_iff.mpr ?_
    simp_all +decide [handleFinalResponse, moves_iff, waits_iff, retransmissions]
  case h_6 =>
    refine Yields.bind_iff.mpr fun answer _ => Yields.bind_iff.mpr ?_
    refine (connectAnswered_moves answer).weaken fun s₁ h₁ => Yields.pure_iff.mpr ?_
    have hnew : s₁.Moves False False False (s₁.callback .onNewSession) := callback_moves _ h₁.caller
    exact h₁.trans (hnew.trans (wait_moves _ hnew.caller))
  case h_7 => exact refuse2xx_moves hc
  case h_14 => exact dispatchBye_moves
  case h_15 => exact Yields.ok_iff.mpr (.refl hc)
  all_goals exact Yields.ok_iff.mpr fail_moves

lemma receiveUpdate_moves : Yields (s.receiveUpdate msg) (s.Moves False False False) := by
  refine Yields.map_iff.mpr (Yields.bind_iff.mpr fun offer _ => Yields.pure_iff.mpr ?_)
  simp_all +decide [moves_iff, waits_iff, retransmissions]

lemma dispatchEarly_moves (hst : s.mState = .UAC_Early) :
    Yields (s.dispatchEarly msg) (s.Moves False False False) := by
  have hc : s.mState.caller := by rw [hst]; rfl
  have hgo (target : SessionState) (ht : target.caller) (hw : target.awaitsAck = false) (hr : target.reinvites = false) :
      s.Moves False False False (s.transition target) := transition_moves target ht hw hr
  simp only [dispatchEarly]
  split
  case h_1 | h_2 =>
    exact (handleProvisional_moves _ rfl).weaken fun s' h' => (hgo .UAC_Early rfl rfl rfl).trans h'
  case h_3 =>
    refine Yields.bind_iff.mpr fun offer _ => ?_
    exact (handleProvisional_moves _ rfl).weaken fun s' h' => (hgo .UAC_EarlyWithOffer rfl rfl rfl).trans h'
  case h_4 =>
    refine Yields.bind_iff.mpr fun answer _ => ?_
    exact (handle1xxAnswer_moves _ rfl).weaken fun s' h' => (hgo .UAC_EarlyWithAnswer rfl rfl rfl).trans h'
  case h_5 =>
    refine Yields.bind_iff.mpr fun offer _ => ?_
    split
    · exact Yields.of_throw _
    · refine Yields.pure_iff.mpr ((hgo .UAC_Answered rfl rfl rfl).trans ?_)
      simp_all +decide [handleFinalResponse, moves_iff, waits_iff, retransmissions]
  case h_6 =>
    refine Yields.bind_iff.mpr fun answer _ => Yields.bind_iff.mpr ?_
    refine (connectAnswered_moves answer).weaken fun s₁ h₁ => Yields.pure_iff.mpr ?_
    have hanswer : s₁.Moves False False False (s₁.callback (.onAnswer answer)) := callback_moves _ h₁.caller
    exact h₁.trans (hanswer.trans (wait_moves _ hanswer.caller))
  case h_7 => exact refuse2xx_moves hc
  case h_8 | h_9 | h_10 | h_11 | h_12 => exact Yields.ok_iff.mpr fail_moves
  case h_13 => exact dispatchBye_moves
  case h_14 =>
    split
    · simp_all +decide [moves_iff, waits_iff, retransmissions]
    · exact receiveUpdate_moves
  case h_15 => simp_all +decide [moves_iff, waits_iff, retransmissions]
  case h_16 => exact Yields.ok_iff.mpr (.refl hc)

lemma dispatchAnswered_moves (hst : s.mState = .UAC_Answered) :
    Yields (s.dispatchAnswered msg) (s.Moves False False False) := by
  have hc : s.mState.caller := by rw [hst]; rfl
  simp only [dispatchAnswered]
  split
  · exact dispatchBye_moves
  · exact Yields.ok_iff.mpr (.refl hc)

lemma dispatchEarlyWithOffer_moves (hst : s.mState = .UAC_EarlyWithOffer) :
    Yields (s.dispatchEarlyWithOffer msg) (s.Moves False False False) := by
  have hc : s.mState.caller := by rw [hst]; rfl
  simp only [dispatchEarlyWithOffer]
  split
  case h_1 => exact handleProvisional_moves _ hc
  case h_2 | h_3 => exact refuse2xx_moves hc
  case h_4 | h_5 | h_6 | h_7 | h_8 | h_9 => exact Yields.ok_iff.mpr fail_moves
  case h_10 => exact dispatchBye_moves
  case h_13 => exact Yields.ok_iff.mpr (.refl hc)
  all_goals simp_all +decide [moves_iff, waits_iff, retransmissions]

lemma dispatchSentAnswer_moves (hst : s.mState = .UAC_SentAnswer) :
    Yields (s.dispatchSentAnswer msg) (s.Moves False False False) := by
  have hc : s.mState.caller := by rw [hst]; rfl
  simp only [dispatchSentAnswer]
  split
  case h_1 => exact Yields.ok_iff.mpr (transition_moves _ rfl rfl rfl)
  case h_2 | h_3 => exact connect_moves
  case h_4 | h_5 => exact refuse2xx_moves hc
  case h_6 | h_7 => exact handleProvisional_moves _ hc
  case h_8 | h_9 | h_10 | h_11 | h_12 | h_13 => exact Yields.ok_iff.mpr fail_moves
  case h_14 => exact dispatchBye_moves
  case h_15 => exact Yields.ok_iff.mpr (.refl hc)

lemma dispatchQueuedUpdate_moves (hst : s.mState = .UAC_QueuedUpdate) :
    Yields (s.dispatchQueuedUpdate msg) (s.Moves False False False) := by
  have hc : s.mState.caller := by rw [hst]; rfl
  simp only [dispatchQueuedUpdate]
  split
  case h_1 => simp_all +decide [moves_iff, waits_iff, retransmissions]
  case h_2 =>
    have hupdate : s.Moves False False False (s.transition .SentUpdate) := transition_moves _ rfl rfl rfl
    refine Yields.bind_iff.mpr ((sendAck_moves none rfl).weaken fun s₁ h₁ => Yields.pure_iff.mpr ?_)
    refine (hupdate.trans h₁).trans ?_
    have hc₁ := h₁.caller
    simp_all +decide [handleFinalResponse, moves_iff, waits_iff, retransmissions]
  case h_3 => exact connect_moves
  case h_4 | h_5 => exact refuse2xx_moves hc
  case h_6 | h_7 => exact handleProvisional_moves _ hc
  case h_8 | h_9 | h_10 | h_11 | h_12 | h_13 => exact Yields.ok_iff.mpr fail_moves
  case h_14 => exact dispatchBye_moves
  case h_15 => exact Yields.ok_iff.mpr (.refl hc)

/-- Also the rest of a handler, when the session may have ended meanwhile. -/
lemma dispatchEarlyWithAnswer_moves (hc : s.mState.caller) :
    Yields (s.dispatchEarlyWithAnswer msg) (s.Moves False False False) := by
  simp only [dispatchEarlyWithAnswer]
  split
  case h_1 | h_2 => exact handleProvisional_moves _ hc
  case h_3 | h_4 => exact connect_moves
  case h_5 => exact refuse2xx_moves hc
  case h_6 => exact receiveUpdate_moves
  case h_7 => simp_all +decide [moves_iff, waits_iff, retransmissions]
  case h_8 | h_9 | h_10 | h_11 | h_12 | h_13 => exact Yields.ok_iff.mpr fail_moves
  case h_14 => exact dispatchBye_moves
  case h_15 =>
    split
    · refine Yields.bind_iff.mpr ((receiveAnswer_moves _ hc).weaken fun s₁ h₁ => Yields.pure_iff.mpr ?_)
      exact h₁.trans (callback_moves _ h₁.caller)
    · exact Yields.ok_iff.mpr (.refl hc)
  case h_16 => exact Yields.ok_iff.mpr (.refl hc)

lemma dispatchSentUpdateEarly_moves (hst : s.mState = .UAC_SentUpdateEarly) :
    Yields (s.dispatchSentUpdateEarly msg) (s.Moves False False False) := by
  have hc : s.mState.caller := by rw [hst]; rfl
  simp only [dispatchSentUpdateEarly]
  split
  case h_1 =>
    refine Yields.bind_iff.mpr fun answer _ => Yields.bind_iff.mpr ?_
    have hback : s.Moves False False False (s.transition .UAC_EarlyWithAnswer) := transition_moves _ rfl rfl rfl
    refine (receiveAnswer_moves answer rfl).weaken fun s₁ h₁ => Yields.pure_iff.mpr ?_
    exact (hback.trans h₁).trans (callback_moves _ h₁.caller)
  case h_5 =>
    have hupdate : s.Moves False False False (s.transition .SentUpdate) := transition_moves _ rfl rfl rfl
    exact (sendAck_moves none rfl).weaken fun s₁ h₁ => hupdate.trans h₁
  case h_6 | h_7 | h_8 | h_9 | h_10 => exact Yields.ok_iff.mpr fail_moves
  case h_11 => exact Yields.ok_iff.mpr (.refl hc)
  all_goals simp_all +decide [moves_iff, waits_iff, retransmissions]

lemma dispatchSentUpdateEarlyGlare_moves (hst : s.mState = .UAC_SentUpdateEarlyGlare) :
    Yields (s.dispatchSentUpdateEarlyGlare msg) (s.Moves False False False) := by
  have hc : s.mState.caller := by rw [hst]; rfl
  simp only [dispatchSentUpdateEarlyGlare]
  split
  case h_1 => simp_all +decide [moves_iff, waits_iff, retransmissions]
  case h_2 =>
    have hupdate : s.Moves False False False (s.transition .SentUpdateGlare) := transition_moves _ rfl rfl rfl
    exact (sendAck_moves none rfl).weaken fun s₁ h₁ => hupdate.trans h₁
  case h_3 | h_4 | h_5 | h_6 | h_7 => exact Yields.ok_iff.mpr fail_moves
  case h_8 => exact Yields.ok_iff.mpr (.refl hc)

lemma dispatchCancelled_moves (hst : s.mState = .UAC_Cancelled) :
    Yields (s.dispatchCancelled msg) (s.Moves False False False) := by
  have hc : s.mState.caller := by rw [hst]; rfl
  simp only [dispatchCancelled]
  split
  case h_8 | h_9 | h_10 =>
    refine Yields.bind_iff.mpr ((sendAck_moves none hc).weaken fun s₁ h₁ => Yields.pure_iff.mpr (h₁.trans ?_))
    simp_all +decide [moves_iff, waits_iff, retransmissions]
  case h_11 => exact dispatchBye_moves
  case h_12 =>
    refine Yields.ok_ite_iff.mpr ⟨fun _ => ?_, fun _ => .refl hc⟩
    simp_all [moves_iff, waits_iff, retransmissions]
  all_goals simp_all +decide [moves_iff, waits_iff, retransmissions]

theorem dispatchByState_moves [DecidableEq γ] (hc : s.mState.caller) :
    Yields (s.dispatchByState msg) (s.Moves (msg.method = .ack) False True) := by
  have hkeep {s' : ClientInviteSession γ} (hs : s.Moves False False False s') :
      s.Moves (msg.method = .ack) False True s' := hs.mono False.elim id False.elim
  simp only [dispatchByState]
  split
  case h_1 hst => exact (dispatchStart_moves hst).weaken fun _ => hkeep
  case h_2 hst => exact (dispatchEarly_moves hst).weaken fun _ => hkeep
  case h_3 hst => exact (dispatchEarlyWithOffer_moves hst).weaken fun _ => hkeep
  case h_4 => exact (dispatchEarlyWithAnswer_moves hc).weaken fun _ => hkeep
  case h_5 hst => exact (dispatchAnswered_moves hst).weaken fun _ => hkeep
  case h_6 hst => exact (dispatchSentUpdateEarly_moves hst).weaken fun _ => hkeep
  case h_7 hst => exact (dispatchSentUpdateEarlyGlare_moves hst).weaken fun _ => hkeep
  case h_8 =>
    simp only [dispatchReceivedUpdateEarly]
    split <;> simp_all [moves_iff, waits_iff, retransmissions]
  case h_9 hst => exact (dispatchSentAnswer_moves hst).weaken fun _ => hkeep
  case h_10 hst => exact (dispatchQueuedUpdate_moves hst).weaken fun _ => hkeep
  case h_11 hst => exact (dispatchCancelled_moves hst).weaken fun _ => hkeep
  case h_12 => exact inherited_moves InviteSession.dispatch_turns hc id

/-! ### Timers, and the rests of handlers -/

lemma dispatchClientTimer_moves (timer : ClientTimer) (hc : s.mState.caller) :
    s.Moves False False False ({ s with clientTimers := s.clientTimers.erase timer }.dispatchClientTimer timer) := by
  simp only [dispatchClientTimer]
  split <;> (try split) <;> simp_all +decide [moves_iff, waits_iff, retransmissions]

/-- A timer of the caller's own is gone. -/
lemma erase_moves (timeout : SessionTimer) (ht : timeout.type = .Glare) (hc : s.mState.caller) :
    s.Moves False False False { s with timers := s.timers.erase timeout } :=
  Moves.of_base (InviteSession.erase_turns timeout (by simp [ht]) (by simp [ht]) (by simp [ht])) hc False.elim

lemma updateAgain_moves : s.Moves False False False ((s.transition .UAC_SentUpdateEarly).onBase fun b =>
    b.sendModification .update b.mLastLocalSessionModification.body) := by
  simp_all +decide [moves_iff, waits_iff, retransmissions]

theorem dispatchTimer_moves (timeout : SessionTimer) (h200 : timeout.type ≠ .Retransmit200) (hc : s.mState.caller) :
    Yields ({ s with timers := s.timers.erase timeout }.dispatchTimer timeout)
      (s.Moves (timeout.type = .WaitForAck ∧ timeout.seq = s.mLastRemoteSessionModification.2) False True) := by
  simp only [dispatchTimer]
  split
  case isTrue ht =>
    exact Yields.ok_iff.mpr (((erase_moves timeout ht.1 hc).mono False.elim id id).trans updateAgain_moves)
  case isFalse =>
    refine Yields.map_iff.mpr ((InviteSession.dispatchTimer_turns timeout h200).weaken fun b hb => ?_)
    exact Moves.of_base hb hc id

lemma sendPrackIfNeeded_moves (hc : s.mState.caller) : s.Moves False False False (s.sendPrackIfNeeded msg) := by
  simp only [sendPrackIfNeeded]
  split <;> simp_all [moves_iff, waits_iff, retransmissions]

theorem resumeRest_moves (f : ClientFrame γ) (hc : s.mState.caller) :
    Yields (s.resumeRest f) (s.Moves False False False) := by
  have hkeep : s.Moves False False False s := .refl hc
  have hcallback (c : Callback γ) : s.Moves False False False (s.callback c) := callback_moves c hc
  simp only [resumeRest]
  split
  case h_1 | h_2 | h_3 =>
    split
    · exact Yields.ok_iff.mpr hkeep
    · exact handleProvisional_moves _ hc
  case h_4 =>
    split
    · exact Yields.ok_iff.mpr hkeep
    · exact handle1xxAnswer_moves _ hc
  case h_5 =>
    split
    · exact Yields.of_error _
    · exact Yields.ok_ite_iff.mpr ⟨fun _ => hkeep, fun _ => (hcallback _).trans (wait_moves _ hc)⟩
  case h_6 => exact Yields.ok_ite_iff.mpr ⟨fun _ => hkeep, fun _ => (hcallback _).trans (wait_moves _ hc)⟩
  case h_7 => exact Yields.ok_iff.mpr (sendPrackIfNeeded_moves hc)
  case h_8 | h_12 => exact Yields.ok_ite_iff.mpr ⟨fun _ => hkeep, fun _ => hcallback _⟩
  case h_9 | h_10 => simp_all [moves_iff, waits_iff, retransmissions]
  case h_11 msg =>
    have hforget : s.Moves False False False { s with mAllowOfferInPrack := false } := by
      simp_all [moves_iff, waits_iff, retransmissions]
    refine Yields.ok_iff.mpr ?_
    split
    · simp_all [moves_iff, waits_iff, retransmissions]
    · exact hforget.trans (sendPrackIfNeeded_moves hc)
  case h_13 =>
    exact Yields.ok_ite_iff.mpr ⟨fun _ => (hcallback _).trans (destroy_moves hc), fun _ => hcallback _⟩
  case h_14 => exact endSession_moves hc
  case h_15 => exact dispatchEarlyWithAnswer_moves hc

end ClientInviteSession

end Resiprocate.Dum
