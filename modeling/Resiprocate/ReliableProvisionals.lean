import Resiprocate.ServerProgress
import Resiprocate.ClientSessionRuns

/-! Reliable provisional responses, from the session that sends them to the session that they reach. The callee
numbers them in the order in which they are made, and the caller compares each number with the last one that it
has taken. -/
namespace Resiprocate.Dum
open TransitionSystem ProgramLogic

/-- The RSeq numbers of the reliable provisionals, in the order in which they were sent. -/
def sentNumbers {γ : Type*} (trace : List (Effect γ)) : List ℕ := ((reliable trace).map (·.rSeq.getD 0)).reverse

lemma RSeqOrdered.ascending {γ : Type*} {trace : List (Effect γ)} (h : RSeqOrdered trace) :
    (sentNumbers trace).Pairwise (· ≤ ·) := by
  rw [sentNumbers, List.pairwise_reverse, ← List.isChain_iff_pairwise, List.isChain_map]
  refine h.imp fun later earlier hr => ?_
  rcases hr with rfl | hr
  · exact le_rfl
  · cases he : earlier.rSeq <;> simp [hr, he]

namespace ServerInviteSession
variable {γ : Type*} {s : ServerInviteSession γ}

/-- No timer makes another provisional of the last one. -/
def NoResubmission (s : ServerInviteSession γ) (e : ServerEvent γ) : Prop := s.resubmitsIn e = false

instance (s : ServerInviteSession γ) (e : ServerEvent γ) : Decidable (s.NoResubmission e) :=
  inferInstanceAs (Decidable (_ = _))

lemma numbered_reach [DecidableEq γ] (h : Reach (runs γ) NoResubmission s) : s.Numbered := by
  refine (invariant (P := fun s => s.Steady ∧ s.Numbered) (fun profile request _ => ?_) (fun s e hs ha ho => ?_) h).2
  · exact (dispatchStart_spec profile request).weaken fun s h => ⟨h.1, h.2.1⟩
  · exact (step_spec hs.1 ha).weaken fun s' h => ⟨h.steady, (h.numbered ho hs.2).1⟩

/-- Every reliable provisional repeats the one before in every part, or has the next number. -/
theorem rseq_ordered [DecidableEq γ] (h : Reach (runs γ) NoResubmission s) : RSeqOrdered s.trace :=
  (numbered_reach h).ordered

/-- A provisional with the answer, the timer that sends it again, its PRACK, and another one. -/
theorem rseq_ordered_acknowledged :
    let prack : SessionMessage ℕ := { SessionMessage.plain .prack 2 none with rAck := ⟨1, 1, .invite⟩ }
    RSeqOrdered ([.resume, .provideAnswer 2, .provisional 183 true, .timer ⟨.Retransmit1xxRel, 1, 1⟩, .message prack,
      .provisional 180 false].foldl (runs ℕ).next (started .Supported (some 1))).trace :=
  rseq_ordered (reach_started.run [.resume, .provideAnswer 2, .provisional 183 true,
    .timer ⟨.Retransmit1xxRel, 1, 1⟩, .message { SessionMessage.plain .prack 2 none with rAck := ⟨1, 1, .invite⟩ },
    .provisional 180 false] (by decide))

end ServerInviteSession

/-- The number of a reliable provisional. -/
def SessionMessage.number {γ : Type*} (msg : SessionMessage γ) : Option ℕ :=
  if msg.method = .invite ∧ 100 < msg.statusCode ∧ msg.statusCode < 200 then msg.rSeq else none

namespace ClientInviteSession
variable {γ : Type*} {s : ClientInviteSession γ} {msg : SessionMessage γ}

lemma isBadRseq_unnumbered (h : msg.number = none) : s.isBadRseq msg = (false, s.mRelRespInfo) := by
  unfold isBadRseq
  unfold SessionMessage.number at h
  split
  case h_1 rseq hr =>
    by_cases hp : msg.method = .invite ∧ 100 < msg.statusCode ∧ msg.statusCode < 200
    · simp [hp, hr] at h
    · rw [if_neg hp]
  case h_2 => rfl

lemma isBadRseq_numbered {q : ℕ} (h : msg.number = some q) :
    s.isBadRseq msg = if q = s.mRelRespInfo.rSequence then (true, s.mRelRespInfo)
      else if s.mRelRespInfo.rSequence ≠ 0 ∧ s.mRelRespInfo.rSequence + 1 < q then (true, s.mRelRespInfo)
      else (false, ⟨q, msg.sequence, .invite⟩) := by
  unfold SessionMessage.number at h
  split_ifs at h with hp
  unfold isBadRseq
  rw [h]
  simp only [hp, and_self, if_true]

end ClientInviteSession

/-! ### Both sessions -/

/-- A callee and a caller, with a channel from one to the other that keeps the order of the reliable provisionals
but may lose and repeat them: those before `received` have gone by, the last of them may come once more. The
numbers of those that the caller has taken are in `processed`, the latest first. -/
structure ProvisionalExchange (γ : Type*) where
  callee : ServerInviteSession γ
  caller : ClientInviteSession γ
  received : ℕ
  processed : List ℕ

inductive ExchangeEvent (γ : Type*)
  | callee (e : ServerEvent γ)
  | caller (e : ClientEvent γ)
  | deliver (position : ℕ) (msg : SessionMessage γ)

namespace ProvisionalExchange
variable {γ : Type*}

/-- What else the caller does is no reliable provisional. -/
def unnumbered : ClientEvent γ → Bool
  | .message msg => msg.number = none
  | _ => true

/-- The numbers of what the caller has taken, once it has this message. -/
def taken (p : ProvisionalExchange γ) (msg : SessionMessage γ) : List ℕ :=
  match msg.number with
  | some q => if (p.caller.isBadRseq msg).1 then p.processed else q :: p.processed
  | none => p.processed

def runs (γ : Type*) [DecidableEq γ] : System (ProvisionalExchange γ) (ExchangeEvent γ) where
  init p := (ServerInviteSession.runs γ).init p.callee ∧
    (∃ profile request response, p.caller = ClientInviteSession.create profile request response) ∧
    p.received = 0 ∧ p.processed = []
  enabled p
    | .callee e => (ServerInviteSession.runs γ).enabled p.callee e
    | .caller e => (ClientInviteSession.runs γ).enabled p.caller e ∧ unnumbered e
    | .deliver position msg => (ClientInviteSession.runs γ).enabled p.caller (.message msg) ∧
        p.received ≤ position + 1 ∧ msg.number.isSome ∧ (sentNumbers p.callee.trace)[position]? = msg.number
  next p
    | .callee e => { p with callee := (ServerInviteSession.runs γ).next p.callee e }
    | .caller e => { p with caller := (ClientInviteSession.runs γ).next p.caller e }
    | .deliver position msg => {
        p with
        caller := (ClientInviteSession.runs γ).next p.caller (.message msg)
        received := position + 1
        processed := p.taken msg }

instance [DecidableEq γ] (p : ProvisionalExchange γ) (e : ExchangeEvent γ) : Decidable ((runs γ).enabled p e) :=
  match e with
  | .callee _ | .caller _ | .deliver _ _ => inferInstanceAs (Decidable (_ ∧ _))

/-- The callee makes no provisional of its last one again. -/
def NoResubmission (p : ProvisionalExchange γ) : ExchangeEvent γ → Prop
  | .callee e => p.callee.NoResubmission e
  | _ => True

instance (p : ProvisionalExchange γ) (e : ExchangeEvent γ) : Decidable (p.NoResubmission e) :=
  match e with
  | .callee _ => inferInstanceAs (Decidable (_ = _))
  | .caller _ | .deliver _ _ => isTrue trivial

/-- The caller has taken the numbers without a gap, and the last of them is not ahead of the channel. -/
structure InOrder (p : ProvisionalExchange γ) : Prop where
  callee : p.callee.Steady ∧ p.callee.Numbered
  caller : p.caller.Steady
  last : p.caller.mRelRespInfo.rSequence = p.processed.head?.getD 0
  consecutive : p.processed.IsChain fun later earlier => later = earlier + 1
  positive : ∀ q ∈ p.processed, 0 < q
  sent : ∀ q ∈ p.processed, q ∈ sentNumbers p.callee.trace
  behind : ∀ q, p.processed.head? = some q → ∃ i < p.received, (sentNumbers p.callee.trace)[i]? = some q

variable {p : ProvisionalExchange γ}

lemma InOrder.calleeStep [DecidableEq γ] (h : p.InOrder) {e : ServerEvent γ}
    (he : (ServerInviteSession.runs γ).enabled p.callee e) (ho : p.callee.NoResubmission e) :
    InOrder { p with callee := (ServerInviteSession.runs γ).next p.callee e } := by
  have hstep := ServerInviteSession.step_spec h.callee.1 he.1 _ (ServerInviteSession.step_eq_next he)
  obtain ⟨hnumbered, new, hnew⟩ := hstep.numbered ho h.callee.2
  have hsent : sentNumbers ((ServerInviteSession.runs γ).next p.callee e).trace =
      sentNumbers p.callee.trace ++ (new.map (·.rSeq.getD 0)).reverse := by
    simp [sentNumbers, ← hnew]
  refine ⟨⟨hstep.steady, hnumbered⟩, h.caller, h.last, h.consecutive, h.positive, fun q hq => ?_, fun q hq => ?_⟩
  · rw [hsent]
    exact List.mem_append_left _ (h.sent q hq)
  · obtain ⟨i, hi, hq⟩ := h.behind q hq
    refine ⟨i, hi, ?_⟩
    rw [hsent, List.getElem?_append_left (List.getElem?_eq_some_iff.mp hq).1]
    exact hq

lemma InOrder.callerStep [DecidableEq γ] (h : p.InOrder) {e : ClientEvent γ}
    (he : (ClientInviteSession.runs γ).enabled p.caller e) (hu : unnumbered e) :
    InOrder { p with caller := (ClientInviteSession.runs γ).next p.caller e } := by
  have hstep := ClientInviteSession.step_spec h.caller he.1 _ (ClientInviteSession.step_eq_next he)
  have hinfo : p.caller.infoAfter e = p.caller.mRelRespInfo := by
    cases e with
    | message msg =>
      have hnumber : msg.number = none := by simpa [unnumbered] using hu
      simp [ClientInviteSession.infoAfter, ClientInviteSession.isBadRseq_unnumbered hnumber]
    | _ => rfl
  have hlast := hstep.info.trans hinfo
  exact ⟨h.callee, hstep.steady, (congrArg RAck.rSequence hlast).trans h.last, h.consecutive, h.positive, h.sent, h.behind⟩

lemma infoAfter_numbered {c : ClientInviteSession γ} {msg : SessionMessage γ} {q : ℕ} (h : msg.number = some q) :
    c.infoAfter (.message msg) = (c.isBadRseq msg).2 := by
  have hm : msg.method = .invite := by
    unfold SessionMessage.number at h
    split_ifs at h with hp
    exact hp.1
  simp [ClientInviteSession.infoAfter, hm]

/-- What has come before is older, so a number that is taken is the next one. -/
lemma InOrder.number_le (h : p.InOrder) {position q last : ℕ} (hp : p.received ≤ position + 1)
    (hq : (sentNumbers p.callee.trace)[position]? = some q) (hlast : p.processed.head? = some last) : last ≤ q := by
  obtain ⟨i, hi, hi'⟩ := h.behind last hlast
  obtain ⟨hlt, rfl⟩ := List.getElem?_eq_some_iff.mp hq
  obtain ⟨hlt', rfl⟩ := List.getElem?_eq_some_iff.mp hi'
  rcases (show i ≤ position by omega).lt_or_eq with h' | rfl
  · exact List.pairwise_iff_getElem.mp h.callee.2.ordered.ascending i position hlt' hlt h'
  · exact le_rfl

lemma InOrder.ignored (h : p.InOrder) {position : ℕ} (hp : p.received ≤ position + 1) {c : ClientInviteSession γ}
    (hc : c.Steady) (hinfo : c.mRelRespInfo = p.caller.mRelRespInfo) :
    InOrder { p with caller := c, received := position + 1 } := by
  refine ⟨h.callee, hc, (congrArg RAck.rSequence hinfo).trans h.last, h.consecutive, h.positive, h.sent, fun q hq => ?_⟩
  obtain ⟨i, hi, hq⟩ := h.behind q hq
  exact ⟨i, hi.trans_le hp, hq⟩

lemma InOrder.accepted (h : p.InOrder) {position q : ℕ} (hp : p.received ≤ position + 1)
    (hq : (sentNumbers p.callee.trace)[position]? = some q) {c : ClientInviteSession γ} (hc : c.Steady)
    (hinfo : c.mRelRespInfo.rSequence = q) (hnew : q ≠ p.caller.mRelRespInfo.rSequence)
    (hnext : ¬(p.caller.mRelRespInfo.rSequence ≠ 0 ∧ p.caller.mRelRespInfo.rSequence + 1 < q)) :
    InOrder { p with caller := c, received := position + 1, processed := q :: p.processed } := by
  have hfollows : (q :: p.processed).IsChain (fun later earlier => later = earlier + 1) ∧ 0 < q := by
    rw [h.last] at hnew hnext
    cases hprocessed : p.processed with
    | nil =>
      simp only [hprocessed, List.head?_nil, Option.getD_none] at hnew
      exact ⟨.singleton q, Nat.pos_of_ne_zero hnew⟩
    | cons last rest =>
      have hle := h.number_le hp hq (by rw [hprocessed, List.head?_cons])
      have hpos := h.positive last (by simp [hprocessed])
      have hchain := h.consecutive
      rw [hprocessed] at hchain
      simp only [hprocessed, List.head?_cons, Option.getD_some] at hnew hnext
      exact ⟨List.isChain_cons_cons.mpr ⟨by omega, hchain⟩, by omega⟩
  have hmem : q ∈ sentNumbers p.callee.trace := List.mem_of_getElem? hq
  refine ⟨h.callee, hc, hinfo, hfollows.1, ?_, ?_, ?_⟩
  · exact List.forall_mem_cons.mpr ⟨hfollows.2, h.positive⟩
  · exact List.forall_mem_cons.mpr ⟨hmem, h.sent⟩
  · rintro q' hq'
    obtain rfl : q = q' := Option.some.inj hq'
    exact ⟨position, Nat.lt_succ_self position, hq⟩

lemma InOrder.deliverStep [DecidableEq γ] (h : p.InOrder) {position : ℕ} {msg : SessionMessage γ}
    (he : (runs γ).enabled p (.deliver position msg)) : InOrder ((runs γ).next p (.deliver position msg)) := by
  obtain ⟨hcaller, hp, hsome, hsent⟩ := he
  obtain ⟨q, hq⟩ := Option.isSome_iff_exists.mp hsome
  rw [hq] at hsent
  have hstep := ClientInviteSession.step_spec h.caller hcaller.1 _ (ClientInviteSession.step_eq_next hcaller)
  have hinfo := hstep.info.trans (infoAfter_numbered hq)
  have htaken : p.taken msg = if (p.caller.isBadRseq msg).1 then p.processed else q :: p.processed := by
    simp [taken, hq]
  have hbad := ClientInviteSession.isBadRseq_numbered (s := p.caller) hq
  have hignored (h' : p.caller.isBadRseq msg = (true, p.caller.mRelRespInfo)) :
      InOrder ((runs γ).next p (.deliver position msg)) := by
    rw [h'] at hinfo htaken
    simp only [runs]
    rw [htaken.trans (if_pos rfl)]
    exact h.ignored hp hstep.steady hinfo
  by_cases hsame : q = p.caller.mRelRespInfo.rSequence
  · exact hignored (hbad.trans (if_pos hsame))
  · rw [if_neg hsame] at hbad
    by_cases hskip : p.caller.mRelRespInfo.rSequence ≠ 0 ∧ p.caller.mRelRespInfo.rSequence + 1 < q
    · exact hignored (hbad.trans (if_pos hskip))
    · rw [if_neg hskip] at hbad
      rw [hbad] at hinfo htaken
      simp only [runs]
      rw [htaken.trans (if_neg Bool.false_ne_true)]
      exact h.accepted hp hsent hstep.steady (congrArg RAck.rSequence hinfo) hsame hskip

theorem inOrder_reach [DecidableEq γ] (h : Reach (runs γ) NoResubmission p) : p.InOrder := by
  refine h.invariant ?_ ?_
  · rintro p ⟨⟨profile, request, -, hcallee⟩, ⟨profile', request', response, hcaller⟩, hreceived, hprocessed⟩
    have hspec := ServerInviteSession.dispatchStart_spec profile request _ hcallee
    refine ⟨⟨hspec.1, hspec.2.1⟩, hcaller ▸ ClientInviteSession.steady_create _ _ _, ?_, ?_, ?_, ?_, ?_⟩ <;>
      simp [hcaller, hprocessed, ClientInviteSession.create]
  · rintro p (e | e | ⟨position, msg⟩) - hp he ho
    · exact hp.calleeStep he ho
    · exact hp.callerStep he.1 he.2
    · exact hp.deliverStep he

/-- Over a channel that loses and repeats but keeps the order, the caller takes each reliable provisional once, in
order and without a gap, and no number that the callee has not sent. -/
theorem provisionals_in_order [DecidableEq γ] (h : Reach (runs γ) NoResubmission p) :
    (p.processed.IsChain fun later earlier => later = earlier + 1) ∧
      ∀ q ∈ p.processed, ∃ r ∈ reliable p.callee.trace, r.rSeq = some q := by
  have hp := inOrder_reach h
  refine ⟨hp.consecutive, fun q hq => ?_⟩
  have hsent := hp.sent q hq
  simp only [sentNumbers, List.mem_reverse, List.mem_map] at hsent
  obtain ⟨r, hr, hnumber⟩ := hsent
  obtain ⟨rSeq, hrSeq⟩ := Option.isSome_iff_exists.mp (List.mem_filter.mp hr).2
  exact ⟨r, hr, by simpa [hrSeq] using hnumber⟩

/-- The answer in a reliable provisional that comes twice, and the next provisional. -/
theorem provisionals_in_order_twice :
    let answer : SessionMessage ℕ := .reply .invite 183 1 (some 2) (some 1)
    let prack : SessionMessage ℕ := { SessionMessage.plain .prack 2 none with rAck := ⟨1, 1, .invite⟩ }
    let started : ProvisionalExchange ℕ := ⟨.started .Supported (some 1), .create (.plain .Supported)
      ⟨.invite, 1, 1, some 1⟩ answer, 0, []⟩
    let p := [.callee .resume, .callee (.provideAnswer 2), .callee (.provisional 183 true), .deliver 0 answer,
      .caller .resume, .caller .resume, .caller .resume, .deliver 0 answer, .callee (.message prack),
      .callee (.provisional 180 false), .deliver 1 (.reply .invite 180 1 none (some 2))].foldl (runs ℕ).next started
    p.processed = [2, 1] ∧ p.processed.IsChain fun later earlier => later = earlier + 1 := by
  intro answer prack started p
  have hinit : (runs ℕ).init started := ⟨ServerInviteSession.init_started .Supported (some 1), ⟨_, _, _, rfl⟩, rfl, rfl⟩
  exact ⟨by decide, (provisionals_in_order (Reach.run (.init hinit) _ (by decide))).1⟩

end ProvisionalExchange

end Resiprocate.Dum
