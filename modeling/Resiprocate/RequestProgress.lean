import Mathlib
import Resiprocate.NoNewBranch

/-! A request does not hang: after each event it has been answered, a branch is active, or a
processor is still to report. The places where the code lets go of a request are the condition of
the run theorem. -/
namespace Resiprocate.Repro
open TransitionSystem (Reach anyStep)

theorem SipResponse.isFinal_iff {υ : Type*} {r : SipResponse υ} :
    r.isFinal = true ↔ 199 < r.statusCode ∧ r.method ≠ .cancel := by
  simp [isFinal]

namespace Core
variable {υ : Type*} {c : Core υ} {msg : SipResponse υ}

/-- What has been kept, if anything, can be sent as the final response. -/
structure WellKept (c : Core υ) : Prop where
  final : c.bestPriority ≠ 50 → c.bestResponse.isFinal = true
  least : c.bestPriority ≤ 50
  unkept : c.bestPriority = 50 → c.bestResponse.isGlobal = false

/-- The flag is set only with an answer. -/
def Accounted (c : Core υ) : Prop :=
  c.haveSentFinalResponse = true → c.hasAnswered = true ∨ c.abandoned = true

theorem WellKept.of_eq {c' : Core υ} (h : c.WellKept) (hprio : c'.bestPriority = c.bestPriority)
    (hbest : c'.bestResponse = c.bestResponse) : c'.WellKept := by
  constructor
  · rw [hprio, hbest]
    exact h.final
  · rw [hprio]
    exact h.least
  · rw [hprio, hbest]
    exact h.unkept

theorem WellKept.soften (h : c.WellKept) : c.soften.WellKept := by
  unfold Core.soften
  split
  · refine ⟨fun hprio => ?_, h.least, fun _ => rfl⟩
    have hmethod := (SipResponse.isFinal_iff.1 (h.final hprio)).2
    exact SipResponse.isFinal_iff.2 ⟨(by decide : (199 : ℤ) < 480), hmethod⟩
  · exact ⟨h.final, h.least, h.unkept⟩

theorem forward_kept : c.forward.bestPriority = c.bestPriority ∧
    c.forward.bestResponse = c.soften.bestResponse := by
  unfold forward
  dsimp only
  split
  · exact ⟨rfl, rfl⟩
  · exact ⟨bestPriority_send _ _, bestResponse_send _ _⟩

theorem keepBest_priority (h : c.bestPriority ≤ 50) : (c.keepBest msg).bestPriority < 50 := by
  have hmsg := getPriority_le msg.statusCode
  unfold keepBest
  simp only [apply_ite bestPriority, ite_self]
  split
  · omega
  · split <;> omega

/-- Once a response has been considered, one is kept. -/
theorem WellKept.keep_priority (h : c.WellKept) : (c.keep msg).bestPriority ≠ 50 := by
  unfold Core.keep
  split
  · unfold Core.keepGlobal
    split
    · simp
    · next hbest =>
      intro hprio
      rw [not_not] at hbest
      exact beq_eq_false_iff_ne.1 (h.unkept hprio) hbest
  · exact (keepBest_priority h.least).ne

theorem WellKept.keep_final (h : c.WellKept) (hmsg : msg.isFinal = true) :
    (c.keep msg).bestResponse.isFinal = true := by
  have hprio : (c.keep msg).bestPriority ≠ 50 := h.keep_priority
  have hcode := getPriority_le msg.statusCode
  unfold Core.keep at hprio ⊢
  split
  · unfold Core.keepGlobal
    split
    · exact hmsg
    · next hbest =>
      refine h.final fun h50 => ?_
      rw [not_not] at hbest
      exact beq_eq_false_iff_ne.1 (h.unkept h50) hbest
  · unfold Core.keepBest
    dsimp only
    split
    · next heq =>
      -- a response of the same rank has been kept before
      obtain ⟨hlow, hmethod⟩ := SipResponse.isFinal_iff.1 (h.final (by omega))
      repeat' split
      · refine SipResponse.isFinal_iff.2 ⟨?_, hmethod⟩
        unfold SipResponse.mergeChallenges
        dsimp only
        split
        · exact hlow
        · decide
      · exact SipResponse.isFinal_iff.2 ⟨(by decide : (199 : ℤ) < 300), hmethod⟩
      · exact SipResponse.isFinal_iff.2 ⟨hlow, hmethod⟩
    · split
      · exact hmsg
      · exact h.final (by omega)

theorem WellKept.keep (h : c.WellKept) (hmsg : msg.isFinal = true) : (c.keep msg).WellKept := by
  refine ⟨fun _ => h.keep_final hmsg, ?_, fun h50 => absurd h50 h.keep_priority⟩
  unfold Core.keep
  split
  · unfold Core.keepGlobal
    split
    · simp
    · exact h.least
  · exact (keepBest_priority h.least).le

theorem wellKept_rule : Rule (WellKept (υ := υ)) fun msg => msg.isFinal = true where
  send c msg h := h.of_eq (bestPriority_send c msg) (bestResponse_send c msg)
  forward c h := h.soften.of_eq forward_kept.1 forward_kept.2
  keep c msg hmsg h := h.keep hmsg
  success c msg hmsg hclass h := by
    unfold success
    split
    · exact h
    · refine WellKept.of_eq ?_ (bestPriority_send _ _) (bestResponse_send _ _)
      refine ⟨fun hprio => ?_, h.least, fun _ => ?_⟩
      · have hmethod := (SipResponse.isFinal_iff.1 (h.final hprio)).2
        exact SipResponse.isFinal_iff.2 ⟨(SipResponse.isFinal_iff.1 hmsg).1, hmethod⟩
      · simp [SipResponse.isGlobal, hclass]
  pending c _ h := ⟨h.final, h.least, h.unkept⟩
  asked c h := ⟨h.final, h.least, h.unkept⟩

theorem hasAnswered_send (h : c.hasAnswered = true) : (c.send msg).hasAnswered = true := by
  unfold send
  split
  · exact h
  · unfold hasAnswered at h ⊢
    rw [List.any_append, h]
    rfl

theorem abandoned_send (h : c.abandoned = true) : (c.send msg).abandoned = true := by
  unfold send
  split <;> exact h

/-- A final response that is sent is an answer. -/
theorem answered_send (hm : c.originalMethod ≠ .ack) (h : msg.isFinal = true) :
    (c.send msg).hasAnswered = true := by
  unfold send
  rw [if_neg hm, if_neg (SipResponse.isFinal_iff.1 h).2]
  unfold hasAnswered
  rw [List.any_append, List.any_cons, h]
  simp

theorem Accounted.send (h : c.Accounted) (msg : SipResponse υ) : (c.send msg).Accounted := by
  intro hsent
  by_cases hfinal : c.haveSentFinalResponse = true
  · exact (h hfinal).imp hasAnswered_send abandoned_send
  · have hm : c.originalMethod ≠ .ack := by
      intro hm
      rw [Core.send, if_pos hm] at hsent
      exact hfinal hsent
    rw [Core.send, if_neg hm] at hsent
    exact .inl (answered_send hm ((Bool.or_eq_true_iff.1 hsent).resolve_left hfinal))

/-- A request, not an ACK, whose flag and kept response are in order. -/
structure Sound (c : Core υ) : Prop where
  ack : c.originalMethod ≠ .ack
  cancel : c.originalMethod ≠ .cancel
  kept : c.WellKept
  accounted : c.Accounted

theorem Sound.of_request {c' : Core υ} (h : c.Sound) (hreq : c'.request = c.request)
    (hkept : c'.WellKept) (hacc : c'.Accounted) : c'.Sound :=
  ⟨(congrArg Request.method hreq).trans_ne h.ack, (congrArg Request.method hreq).trans_ne h.cancel,
    hkept, hacc⟩

theorem sound_rule : Rule (Sound (υ := υ)) fun msg => msg.isFinal = true where
  send c msg h :=
    h.of_request (request_send c msg) (wellKept_rule.send c msg h.kept) (h.accounted.send msg)
  forward c h := by
    refine h.of_request ((request_rule c.request).forward c rfl) (wellKept_rule.forward c h.kept) ?_
    unfold forward
    dsimp only
    split
    · exact fun _ => .inr rfl
    · exact Accounted.send (c := c.soften) h.accounted _
  keep c msg hmsg h := by
    refine h.of_request ((request_rule c.request).keep c msg trivial rfl) (h.kept.keep hmsg) ?_
    unfold keep keepGlobal keepBest
    dsimp only
    repeat' split
    all_goals exact h.accounted
  success c msg hmsg hclass h := by
    refine h.of_request ((request_rule c.request).success c msg trivial hclass rfl)
      (wellKept_rule.success c msg hmsg hclass h.kept) ?_
    unfold success
    split
    · exact h.accounted
    · exact fun _ => .inl (answered_send h.ack hmsg)
  pending c _ h := ⟨h.ack, h.cancel, wellKept_rule.pending c _ h.kept, h.accounted⟩
  asked c h := ⟨h.ack, h.cancel, wellKept_rule.asked c h.kept, h.accounted⟩

theorem pending_send (c : Core υ) (msg : SipResponse υ) :
    (c.send msg).pendingChains = c.pendingChains := by
  unfold send
  split <;> rfl

/-- Answers do not touch what the chains are waiting for. -/
theorem pending_rule (l : List ChainType) :
    AnswerRule (fun c : Core υ => c.pendingChains = l) fun _ => True where
  send c msg h := (pending_send c msg).trans h
  forward c h := by
    unfold forward
    dsimp only
    split
    · exact h
    · exact (pending_send _ _).trans h
  keep c msg _ h := by
    unfold keep keepGlobal keepBest
    dsimp only
    repeat' split
    all_goals exact h
  success c msg _ _ h := by
    unfold success
    split
    · exact h
    · exact (pending_send _ _).trans h

/-- A kept response that is sent settles the request. -/
theorem WellKept.forward_final (h : c.WellKept) (hm : c.originalMethod ≠ .ack)
    (hprio : c.bestPriority ≠ 50) : c.forward.haveSentFinalResponse = true := by
  have hfinal : c.soften.bestResponse.isFinal = true := h.soften.final hprio
  unfold forward
  dsimp only
  split
  · rfl
  · rw [send, if_neg (show c.soften.originalMethod ≠ .ack from hm)]
    exact Bool.or_eq_true_iff.2 (.inr hfinal)

end Core

namespace Context
variable {υ : Type*} [BEq υ] {s : Context υ} {run targetChain : ChainRun υ} {chain : ChainType}
  {msg : SipResponse υ}

/-- Something will still happen to the request, or it has been answered. -/
def Going (s : Context υ) : Prop :=
  s.haveSentFinalResponse = true ∨ s.hasActiveTransactions = true ∨ s.pendingChains ≠ []

instance (s : Context υ) : Decidable s.Going := inferInstanceAs (Decidable (_ ∨ _ ∨ _))

omit [BEq υ] in
theorem send_final (hs : s.core.Sound) (hmsg : msg.isFinal = true) :
    (s.sendResponse msg).haveSentFinalResponse = true := by
  unfold sendResponse
  rw [if_neg (show s.originalMethod ≠ .ack from hs.ack)]
  exact Bool.or_eq_true_iff.2 (.inr hmsg)

omit [BEq υ] in
/-- The failure responses of the proxy itself are final. -/
theorem send_own (hs : s.core.Sound) {code : ℤ} (hcode : 199 < code) :
    (s.sendResponse (s.makeResponse code)).Going :=
  .inl (send_final hs (SipResponse.isFinal_iff.2 ⟨hcode, hs.cancel⟩))

omit [BEq υ] in
theorem forward_final (hs : s.core.Sound) (hprio : s.bestPriority ≠ 50) :
    s.forwardBestResponse.haveSentFinalResponse = true :=
  (congrArg Core.haveSentFinalResponse (core_forwardBestResponse s)).trans
    (hs.kept.forward_final hs.ack hprio)

section Going

omit [BEq υ] in
theorem Going.send (h : s.Going) : (s.sendResponse msg).Going := by
  unfold sendResponse
  split
  · exact h
  · exact h.imp (fun hfinal => Bool.or_eq_true_iff.2 (.inl hfinal)) id

theorem Going.forward (h : s.Going) : s.forwardBestResponse.Going := by
  rcases h with hfinal | hactive | hpending
  · exact .inl (Core.final_rule.context.forward s hfinal)
  · rw [hasActiveTransactions_iff] at hactive
    obtain ⟨tid, htid⟩ := hactive
    exact .inr (.inl (hasActiveTransactions_iff.2 ⟨tid, mem_forwardBestResponse.2 htid⟩))
  · have hsame := (Core.pending_rule s.pendingChains).context.forward s rfl
    exact .inr (.inr (hsame.trans_ne hpending))

theorem pending_calls (result : ChainResult) (l : List (Call υ)) :
    (calls result l s).1.pendingChains = s.pendingChains := by
  refine calls_induction (P := fun s' => s'.pendingChains = s.pendingChains) rfl
    fun c _ s' hs' => ?_
  by_cases hsends : c.sends = true
  · cases c with
    | sendResponse msg => exact (Core.pending_rule _).context.send s' msg hs'
    | _ => cases hsends
  · exact (congrArg Core.pendingChains (core_call (by simpa using hsends) s')).trans hs'

/-- A run that waits is waited for. -/
theorem pending_process (chain : ChainType) (run : ChainRun υ) :
    (s.process chain run).1.pendingChains =
      if (s.process chain run).2 = .waitsForEvent then chain :: s.pendingChains
      else s.pendingChains := by
  rw [process_snd]
  simp only [process]
  split
  · exact congrArg _ (pending_calls _ _)
  · exact pending_calls _ _

theorem Going.process (h : s.Going) : (s.process chain run).1.Going := by
  rcases h with hfinal | hactive | hpending
  · exact .inl (Core.final_rule.context.process hfinal (fun _ _ => trivial) _)
  · exact .inr (.inl (hasActive_process hactive))
  · refine .inr (.inr ?_)
    rw [pending_process]
    split
    · simp
    · exact hpending

theorem going_waits (h : (s.process chain run).2 = .waitsForEvent) :
    (s.process chain run).1.Going := by
  refine .inr (.inr ?_)
  rw [pending_process, if_pos h]
  simp

end Going

section Chains

/-- There is a response to forward that is not dropped where the request chain has been resumed. -/
def Settleable (s : Context υ) : Prop := s.bestPriority ≠ 50 ∧ s.bestResponse.statusCode ≠ 408

instance (s : Context υ) : Decidable s.Settleable := inferInstanceAs (Decidable (_ ∧ _))

/-- The target processors, if they raise no exception, leave something to go on with, a candidate
or a response to forward. -/
def TargetsServed (targetChain : ChainRun υ) (s : Context υ) : Prop :=
  s.hasTargets = true → (s.process .targetChain targetChain).2 ≠ .raised →
    (s.process .targetChain targetChain).1.Going ∨
    (s.process .targetChain targetChain).1.hasCandidateTransactions = true ∨
    (s.process .targetChain targetChain).1.Settleable

instance (targetChain : ChainRun υ) (s : Context υ) : Decidable (s.TargetsServed targetChain) :=
  inferInstanceAs (Decidable (_ → _ → _))

/-- Where the targets have all ended, `settle` finds what to send. -/
def Settles (settle : Context υ → Context υ) : Prop :=
  ∀ s : Context υ, s.core.Sound → s.Going ∨ s.Settleable → (settle s).Going

theorem settles_forward : Settles (υ := υ) forwardBestResponse := by
  intro s hs h
  rcases h with hgoing | hsettle
  · exact hgoing.forward
  · exact .inl (forward_final hs hsettle.1)

theorem settles_resumed : Settles (υ := υ) settleResumed := by
  intro s hs h
  have hset : ({ s with bestIsResponse := true } : Context υ).core.Sound :=
    Core.sound_rule.asked _ hs
  unfold settleResumed
  dsimp only
  split
  · rcases h with hgoing | hsettle
    · exact Going.forward (s := { s with bestIsResponse := true }) hgoing
    · exact .inl (forward_final hset hsettle.1)
  · next hcode =>
    rcases h with hgoing | hsettle
    · exact hgoing
    · exact absurd hsettle.2 hcode

omit [BEq υ] in
theorem going_checkTargets {settle : Context υ → Context υ} {ret : ChainResult}
    (hs : s.core.Sound) (hsettle : Settles settle) (hwaits : ret = .waitsForEvent → s.Going)
    (h : s.Going ∨ s.hasCandidateTransactions = true ∨ s.Settleable) :
    (s.checkTargets settle ret).Going := by
  unfold checkTargets
  split
  · split
    · exact send_own hs (by decide)
    · next hnone =>
      refine hsettle s hs ?_
      rcases h with hgoing | hcand | hkept
      · exact .inl hgoing
      · exact absurd hcand hnone
      · exact .inr hkept
  · next hguard =>
    by_contra hnot
    refine hguard ⟨fun hr => hnot (hwaits hr), ?_, ?_⟩
    · by_contra hfinal
      exact hnot (.inl (by simpa using hfinal))
    · by_contra hactive
      exact hnot (.inr (.inl (by simpa using hactive)))

/-- The target chain after the request chain. -/
theorem going_runTargetChain {settle : Context υ → Context υ} (hs : s.core.Sound)
    (hsettle : Settles settle) (h : s.TargetsServed targetChain) :
    (s.runTargetChain settle targetChain).Going := by
  have hs' : (s.process .targetChain targetChain).1.core.Sound :=
    Core.sound_rule.context.process hs (fun _ _ => trivial) _
  unfold runTargetChain
  split
  · exact send_own hs (by decide)
  · next hsome =>
    have htargets : s.hasTargets = true := by simpa using hsome
    dsimp only
    by_cases hraised : (s.process .targetChain targetChain).2 = .raised
    · have hgoing : ((s.process .targetChain targetChain).1.catchTargetException
          (s.process .targetChain targetChain).2).Going := by
        unfold catchTargetException
        split
        · next hguard =>
          have hclear : (s.process .targetChain targetChain).1.clearCandidateTransactions.core.Sound := by
            rwa [core_clearCandidateTransactions]
          exact send_own hclear (by decide)
        · next hguard =>
          refine .inr (.inl ?_)
          by_contra hactive
          exact hguard ⟨hraised, by simpa using hactive⟩
      exact going_checkTargets (Core.sound_rule.context.catchTargetException hs' _) hsettle
        (fun _ => hgoing) (.inl hgoing)
    · have hcatch : (s.process .targetChain targetChain).1.catchTargetException
          (s.process .targetChain targetChain).2 = (s.process .targetChain targetChain).1 := by
        rw [catchTargetException, if_neg fun hguard => hraised hguard.1]
      rw [hcatch]
      exact going_checkTargets hs' hsettle going_waits (h htargets hraised)

/-- The request chain as the processors leave it. -/
def afterRequestChain (run : ChainRun υ) (s : Context υ) : Context υ :=
  (s.process .requestChain run).1.catchRequestException (s.process .requestChain run).2

theorem going_runRequestChain {settle : Context υ → Context υ} (hs : s.core.Sound)
    (hsettle : Settles settle) (h : (s.afterRequestChain run).TargetsServed targetChain) :
    (s.runRequestChain settle run targetChain).Going := by
  have hs' : (s.process .requestChain run).1.core.Sound :=
    Core.sound_rule.context.process hs (fun _ _ => trivial) _
  have hafter : (s.afterRequestChain run).core.Sound := by
    unfold afterRequestChain catchRequestException
    split
    · exact Core.sound_rule.context.send _ _ hs'
    · exact hs'
  have hrun : s.runRequestChain settle run targetChain =
      if (s.process .requestChain run).2 ≠ .waitsForEvent ∧
          (s.afterRequestChain run).haveSentFinalResponse = false
        then (s.afterRequestChain run).runTargetChain settle targetChain
        else s.afterRequestChain run := rfl
  rw [hrun]
  split
  · exact going_runTargetChain hafter hsettle h
  · next hguard =>
    by_cases hwaits : (s.process .requestChain run).2 = .waitsForEvent
    · have hsame : s.afterRequestChain run = (s.process .requestChain run).1 := by
        rw [afterRequestChain, catchRequestException, if_neg (by simp [hwaits])]
      rw [hsame]
      exact going_waits hwaits
    · left
      by_contra hfinal
      exact hguard ⟨hwaits, by simpa using hfinal⟩

end Chains

section Responses

/-- The response ends the last branch without an answer: its `Via` fails the checks, or candidates
are left to be tried. -/
def Undecided (s : Context υ) (msg : SipResponse υ) : Prop :=
  s.haveSentFinalResponse = false ∧ s.pendingChains = [] ∧
    (s.activeTransactionMap.erase msg.tid).isEmpty = true ∧
    (msg.viaCheck s.originalBranch = .failed ∨ s.candidateTransactionMap.isEmpty = false)

instance (s : Context υ) (msg : SipResponse υ) : Decidable (s.Undecided msg) :=
  inferInstanceAs (Decidable (_ ∧ _ ∧ _ ∧ (_ ∨ _)))

omit [BEq υ] in
/-- Another branch than `tid` is active. -/
theorem others_iff {tid : Data} : (s.activeTransactionMap.erase tid).isEmpty = false ↔
    ∃ tid', tid ≠ tid' ∧ tid' ∈ s.activeTransactionMap := by
  rw [Std.TreeMap.isEmpty_eq_false_iff_exists_mem]
  simp [Std.TreeMap.mem_erase]

omit [BEq υ] in
theorem active_terminate {tid : Data}
    (h : (s.activeTransactionMap.erase tid).isEmpty = false) :
    (s.terminateClientTransaction tid).hasActiveTransactions = true := by
  obtain ⟨tid', hne, hmem⟩ := others_iff.1 h
  exact hasActiveTransactions_iff.2 ⟨tid', (mem_terminateClientTransaction hne.symm).2 hmem⟩

omit [BEq υ] in
/-- While a branch is active the best response waits; then it is forwarded. -/
theorem going_forwardIfDone (hs : s.core.Sound) (hprio : s.bestPriority ≠ 50)
    (h : s.hasActiveTransactions = true ∨ s.areAllTransactionsTerminated = true) :
    s.forwardIfDone.Going := by
  unfold forwardIfDone
  split
  · exact .inl (forward_final hs hprio)
  · next hnot =>
    rcases h with hactive | hdone
    · exact .inr (.inl hactive)
    · exact absurd hdone hnot

omit [BEq υ] in
/-- The last branch has ended and no candidate is left. -/
theorem areAllTransactionsTerminated_keep (hcand : s.candidateTransactionMap.isEmpty = true)
    (hactive : (s.terminateClientTransaction msg.tid).hasActiveTransactions = false) :
    ((s.terminateClientTransaction msg.tid).keep msg).areAllTransactionsTerminated = true := by
  have hterm : (s.terminateClientTransaction msg.tid).candidateTransactionMap.isEmpty = true :=
    candidates_terminate hcand
  have hkeep := (keep_targets msg).2 hterm
  unfold areAllTransactionsTerminated
  rw [hkeep, Bool.true_and, Std.TreeMap.isEmpty_iff_forall_not_mem]
  intro tid hmem
  have hnot := hasActiveTransactions_iff.2 ⟨tid, mem_keep.1 hmem⟩
  simp [hactive] at hnot

/-- A response on an active branch, where it is not the last one or no candidate is left. -/
theorem going_processActiveResponse (hs : s.core.Sound) (hmsg : msg.method = s.originalMethod)
    (h : s.Going) (hdecided : (s.terminateClientTransaction msg.tid).hasActiveTransactions = true ∨
      s.candidateTransactionMap.isEmpty = true) : (s.processActiveResponse msg).Going := by
  have hterm : (s.terminateClientTransaction msg.tid).core.Sound := by
    rwa [core_terminateClientTransaction]
  have htimer : (s.startTimerC msg.tid).Going := by
    unfold startTimerC
    split <;> exact h
  refine processActiveResponse_induction (fun _ => ⟨htimer, fun _ _ => htimer.send⟩)
    (fun _ => .inl (final_processSuccess s msg)) (fun hlow _ => ⟨.inl, fun _ => ?_⟩) fun _ => h
  have hfinal : msg.isFinal = true :=
    SipResponse.isFinal_iff.2 ⟨by omega, hmsg.trans_ne hs.cancel⟩
  have hprio : ((s.terminateClientTransaction msg.tid).keep msg).bestPriority ≠ 50 :=
    (congrArg Core.bestPriority (core_keep _ msg)).trans_ne hterm.kept.keep_priority
  refine going_forwardIfDone (Core.sound_rule.context.keep _ msg hfinal hterm) hprio ?_
  by_cases hactive : (s.terminateClientTransaction msg.tid).hasActiveTransactions = true
  · obtain ⟨tid, hmem⟩ := hasActiveTransactions_iff.1 hactive
    exact .inl (hasActiveTransactions_iff.2 ⟨tid, mem_keep.2 hmem⟩)
  · exact .inr (areAllTransactionsTerminated_keep (hdecided.resolve_left hactive)
      (by simpa using hactive))

/-- The response logic lets a request go on, unless the response leaves the last branch undecided. -/
theorem going_processResponse (hs : s.core.Sound) (hmsg : msg.method = s.originalMethod)
    (h : s.Going) (hdecided : ¬ s.Undecided msg) : (s.processResponse msg).Going := by
  by_cases hfinal : s.haveSentFinalResponse = true
  · exact .inl ((Core.final_rule.toAnswerRule.context.processResponse hfinal)
      fun _ _ _ _ => trivial)
  by_cases hpending : s.pendingChains = []
  · have hrest : (s.activeTransactionMap.erase msg.tid).isEmpty = true →
        msg.viaCheck s.originalBranch ≠ .failed ∧ s.candidateTransactionMap.isEmpty = true := by
      intro herase
      by_contra hnot
      refine hdecided ⟨by simpa using hfinal, hpending, herase, ?_⟩
      by_cases hfailed : msg.viaCheck s.originalBranch = .failed
      · exact .inl hfailed
      · exact .inr (by simpa [hfailed] using hnot)
    by_cases herase : (s.activeTransactionMap.erase msg.tid).isEmpty = true
    · obtain ⟨hfailed, hcand⟩ := hrest herase
      unfold processResponse
      split
      · exact h
      · next hcheck => exact absurd hcheck hfailed
      · split
        · exact going_processActiveResponse hs hmsg h (.inr hcand)
        · split
          · exact h.send
          · exact h
    · have hactive := active_terminate (s := s) (eq_false_of_ne_true herase)
      unfold processResponse
      split
      · exact h
      · exact .inr (.inl hactive)
      · split
        · exact going_processActiveResponse hs hmsg h (.inl hactive)
        · split
          · exact h.send
          · exact h
  · have hsame : (s.processResponse msg).pendingChains = s.pendingChains :=
      (Core.pending_rule s.pendingChains).context.processResponse rfl fun _ _ _ _ => trivial
    exact .inr (.inr (hsame.trans_ne hpending))

end Responses

section Events

/-- After a response that leaves the last branch undecided the target processors raise no exception
unless a branch is active, and leave something to try or to answer with. A 408 to another method
than INVITE is not answered. -/
def Followed (msg : SipResponse υ) (targetChain : ChainRun υ) (s : Context υ) : Prop :=
  (s.process .targetChain targetChain).1.Going ∨
  (s.process .targetChain targetChain).2 ≠ .raised ∧
    ((s.process .targetChain targetChain).1.hasCandidateTransactions = true ∨
      (msg.method = .invite ∨ msg.statusCode ≠ 408) ∧
        ((s.process .targetChain targetChain).1.bestIsResponse = true →
          (s.process .targetChain targetChain).1.bestPriority ≠ 50))

instance (msg : SipResponse υ) (targetChain : ChainRun υ) (s : Context υ) :
    Decidable (s.Followed msg targetChain) := inferInstanceAs (Decidable (_ ∨ _ ∧ (_ ∨ _ ∧ _)))

/-- The response processors do not eat the response of the last branch, and what they let through
is followed up. -/
def Handled (msg : SipResponse υ) (run targetChain : ChainRun υ) (s : Context υ) : Prop :=
  msg.method = s.originalMethod →
    ((s.process .responseChain run).2 = .continues →
      (s.process .responseChain run).1.Undecided msg →
        ((s.process .responseChain run).1.processResponse msg).Followed msg targetChain) ∧
    ((s.process .responseChain run).2 ≠ .continues →
      (s.process .responseChain run).1.haveSentFinalResponse = true ∨
      (s.process .responseChain run).1.pendingChains ≠ [] ∨
      ((s.process .responseChain run).1.activeTransactionMap.erase
        (msg.tid.map Rutil.toLower)).isEmpty = false)

instance (msg : SipResponse υ) (run targetChain : ChainRun υ) (s : Context υ) :
    Decidable (s.Handled msg run targetChain) := inferInstanceAs (Decidable (_ → _ ∧ _))

/-- Nothing lets go of the request.

* The processors of a new or resumed request leave something to go on with.
* A response is handled, also the 408 of timer C.
* Resumed response and target processors leave the request going: nothing is checked after them.
* The last active branch ends with a response, not with its transaction alone. -/
def Attended (s : Context υ) : Event υ → Prop
  | .request .done run targetChain =>
    (({ s with received := true } : Context υ).afterRequestChain run).TargetsServed targetChain
  | .response msg run targetChain => s.Handled msg run targetChain
  | .timerC tid serial run targetChain => ∀ msg ∈ (s.processTimerC tid serial).2,
      (s.processTimerC tid serial).1.Handled msg run targetChain
  | .processorMessage .requestChain run targetChain =>
    ((s.resume .requestChain).afterRequestChain run).TargetsServed targetChain
  | .processorMessage .responseChain run targetChain =>
    ((s.resume .responseChain).resumeResponseChain run targetChain).Going
  | .processorMessage .targetChain run _ =>
    ((s.resume .targetChain).process .targetChain run).1.Going
  | .transactionTerminated true tid =>
    tid ∈ s.terminatedTransactionMap ∨ tid ∈ s.candidateTransactionMap ∨
    s.haveSentFinalResponse = true ∨ s.pendingChains ≠ [] ∨
    (s.activeTransactionMap.erase tid).isEmpty = false
  | .request .. | .ack .. | .cancel .. | .transactionTerminated false _ | .ack200Done => True

instance (s : Context υ) : (e : Event υ) → Decidable (s.Attended e)
  | .request .done _ _ => inferInstanceAs (Decidable (TargetsServed _ _))
  | .response .. => inferInstanceAs (Decidable (Handled _ _ _ _))
  | .timerC tid serial .. =>
    inferInstanceAs (Decidable (∀ msg ∈ (s.processTimerC tid serial).2, Handled _ _ _ _))
  | .processorMessage .requestChain .. => inferInstanceAs (Decidable (TargetsServed _ _))
  | .processorMessage .responseChain .. => inferInstanceAs (Decidable (Going _))
  | .processorMessage .targetChain .. => inferInstanceAs (Decidable (Going _))
  | .transactionTerminated true _ => inferInstanceAs (Decidable (_ ∨ _))
  | .request .parseException _ _ | .request .baseException _ _ | .ack .. | .cancel .. |
    .transactionTerminated false _ | .ack200Done => isTrue trivial

theorem Going.processCancel (hs : s.core.Sound) : s.processCancel.Going := by
  have hok : (s.sendResponse (.make s.originalTid .cancel 200)).core.Sound :=
    Core.sound_rule.context.send _ _ hs
  have hall : (s.sendResponse
      (.make s.originalTid .cancel 200)).cancelAllClientTransactions.core.Sound := by
    rwa [core_cancelAllClientTransactions]
  unfold Context.processCancel
  dsimp only
  split
  · next hfinal => exact .inl hfinal
  · split
    · next hactive => exact .inr (.inl hactive)
    · exact send_own hall (by decide)

theorem going_checkBranches (hs : s.core.Sound)
    (h : s.Going ∨ s.hasCandidateTransactions = true ∨
      (msg.method = .invite ∨ msg.statusCode ≠ 408) ∧
        (s.bestIsResponse = true → s.bestPriority ≠ 50)) : (s.checkBranches msg).Going := by
  unfold checkBranches
  split
  · split
    · exact send_own hs (by decide)
    · next hnone =>
      split
      · next h408 =>
        rcases h with hgoing | hcand | ⟨hcode, -⟩
        · exact hgoing
        · exact absurd hcand hnone
        · exact absurd h408 (by simpa [or_iff_not_imp_left] using hcode)
      · split
        · next hresponse =>
          rcases h with hgoing | hcand | ⟨-, hprio⟩
          · exact hgoing.forward
          · exact absurd hcand hnone
          · exact .inl (forward_final hs (hprio hresponse))
        · exact send_own hs (by decide)
  · next hguard =>
    by_contra hnot
    refine hguard ⟨?_, ?_⟩
    · by_contra hfinal
      exact hnot (.inl (by simpa using hfinal))
    · by_contra hactive
      exact hnot (.inr (.inl (by simpa using hactive)))

theorem going_doPostResponseProcessing (hs : (s.processResponse msg).core.Sound)
    (h : (s.processResponse msg).Going ∨ (s.processResponse msg).Followed msg targetChain) :
    (s.doPostResponseProcessing msg targetChain).Going := by
  have hs' : ((s.processResponse msg).process .targetChain targetChain).1.core.Sound :=
    Core.sound_rule.context.process hs (fun _ _ => trivial) _
  have hfollowed : (s.processResponse msg).Followed msg targetChain := h.elim (.inl ·.process) id
  unfold doPostResponseProcessing
  dsimp only
  split
  · next hraised =>
    rcases hfollowed with hgoing | ⟨hnot, -⟩
    · exact hgoing
    · exact absurd hraised hnot
  · exact going_checkBranches hs' (hfollowed.imp id And.right)

theorem going_processResponseTransaction (hs : s.core.Sound) (h : s.Going)
    (hhandled : s.Handled msg run targetChain) :
    (s.processResponseTransaction msg run targetChain).Going := by
  have hs' : (s.process .responseChain run).1.core.Sound :=
    Core.sound_rule.context.process hs (fun _ _ => trivial) _
  have hrequest : (s.process .responseChain run).1.core.request = s.core.request :=
    (Core.request_rule s.core.request).context.process rfl (fun _ _ => trivial) _
  unfold processResponseTransaction
  split
  · next hm =>
    obtain ⟨hlet, heaten⟩ := hhandled hm
    have hmsg : msg.method = (s.process .responseChain run).1.originalMethod :=
      hm.trans (congrArg Request.method hrequest).symm
    dsimp only
    split
    · next hcontinues =>
      refine going_doPostResponseProcessing ?_ ?_
      · refine Core.sound_rule.toAnswerRule.context.processResponse hs' fun _ _ hlow _ => ?_
        exact SipResponse.isFinal_iff.2 ⟨by omega, hmsg.trans_ne hs'.cancel⟩
      · by_cases hundecided : (s.process .responseChain run).1.Undecided msg
        · exact .inr (hlet hcontinues hundecided)
        · exact .inl (going_processResponse hs' hmsg h.process hundecided)
    · next hnot =>
      have hsame := core_terminateClientTransaction (s.process .responseChain run).1
        (msg.tid.map Rutil.toLower)
      rcases heaten hnot with hfinal | hpending | hothers
      · exact .inl ((congrArg Core.haveSentFinalResponse hsame).trans hfinal)
      · exact .inr (.inr ((congrArg Core.pendingChains hsame).trans_ne hpending))
      · exact .inr (.inl (active_terminate hothers))
  · exact h

omit [BEq υ] in
theorem Going.processTimerC (h : s.Going) (tid : Data) (serial : ℕ) :
    (s.processTimerC tid serial).1.Going := by
  rcases processTimerC_state tid serial s with heq | heq
  · have hsame := core_cancelClientTransactionOf s tid
    rw [heq]
    rcases h with hfinal | hactive | hpending
    · exact .inl ((congrArg Core.haveSentFinalResponse hsame).trans hfinal)
    · obtain ⟨tid', hmem⟩ := hasActiveTransactions_iff.1 hactive
      exact .inr (.inl (hasActiveTransactions_iff.2
        ⟨tid', (mem_cancelClientTransactionOf tid).2 hmem⟩))
    · exact .inr (.inr ((congrArg Core.pendingChains hsame).trans_ne hpending))
  · rwa [heq]

theorem going_processTimerCMessage {tid : Data} {serial : ℕ} (hs : s.core.Sound) (h : s.Going)
    (hhandled : ∀ msg ∈ (s.processTimerC tid serial).2,
      (s.processTimerC tid serial).1.Handled msg run targetChain) :
    (s.processTimerCMessage tid serial run targetChain).Going := by
  have hs' : (s.processTimerC tid serial).1.core.Sound := by rwa [core_processTimerC]
  have hgoing := h.processTimerC tid serial
  unfold processTimerCMessage
  split
  · next s₁ msg heq =>
    rw [heq] at hs' hgoing hhandled
    exact going_processResponseTransaction hs' hgoing (hhandled msg rfl)
  · next s₁ heq => rwa [heq] at hgoing

omit [BEq υ] in
theorem going_removeClientTransaction {tid : Data} (h : s.Going)
    (hlast : tid ∈ s.terminatedTransactionMap ∨ tid ∈ s.candidateTransactionMap ∨
      s.haveSentFinalResponse = true ∨ s.pendingChains ≠ [] ∨
      (s.activeTransactionMap.erase tid).isEmpty = false) :
    (s.removeClientTransaction tid).Going := by
  unfold removeClientTransaction
  split
  · exact h
  · next hterm =>
    split
    · exact h
    · next hcand =>
      split
      · rcases hlast with hmem | hmem | hfinal | hpending | hothers
        · exact absurd hmem hterm
        · exact absurd hmem hcand
        · exact .inl hfinal
        · exact .inr (.inr hpending)
        · refine .inr (.inl ?_)
          unfold hasActiveTransactions
          rw [hothers]
          rfl
      · exact h

/-- The main step: an event that is attended to leaves the request going. -/
theorem going_step {e : Event υ} (hs : ({ s with received := true } : Context υ).core.Sound)
    (h : s.received = true → s.Going) (he : s.accepts e) (ha : s.Attended e) :
    (s.step e).Going := by
  have hsame : s.received = true → s.core.Sound := by
    intro hr
    have hs' : ({ s with received := true } : Context υ) = s := by rw [← hr]
    rwa [hs'] at hs
  cases e with
  | request route run targetChain =>
    cases route with
    | done => exact going_runRequestChain hs settles_forward ha
    | parseException => exact send_own hs (by decide)
    | baseException => exact send_own hs (by decide)
  | ack route forwards => exact absurd he.2 hs.ack
  | cancel targetChain =>
    have hgoing := Going.processCancel (hsame he.2)
    change (s.processCancelRequest targetChain).Going
    unfold processCancelRequest
    split
    · exact h he.2
    · have hcancel : s.processCancel.core.Sound :=
        Core.sound_rule.context.processCancel (hsame he.2)
      exact going_runTargetChain hcancel settles_forward fun _ _ => .inl hgoing.process
    · exact h he.2
  | response msg run targetChain =>
    exact going_processResponseTransaction (hsame he.2) (h he.2) ha
  | timerC tid serial run targetChain =>
    exact going_processTimerCMessage (hsame he.2) (h he.2) ha
  | processorMessage chain run targetChain =>
    cases chain with
    | requestChain =>
      exact going_runRequestChain (Core.sound_rule.pending _ _ (hsame he.2)) settles_resumed ha
    | responseChain => exact ha
    | targetChain => exact ha
  | transactionTerminated isClientTransaction tid =>
    cases isClientTransaction with
    | false => exact h he.2
    | true => exact going_removeClientTransaction (h he.2) ha
  | ack200Done => exact h he.2

end Events

/-- What holds of a context before and after the request has come. -/
structure Tended (method : Method) (s : Context υ) : Prop where
  method : s.originalMethod = method
  kept : s.core.WellKept
  accounted : s.core.Accounted
  going : s.received = true → s.originalMethod ≠ .cancel ∧ s.Going

theorem Tended.step {method : Method} {e : Event υ} (h : s.Tended method) (hmethod : method ≠ .ack)
    (he : s.accepts e) (ha : s.Attended e) : (s.step e).Tended method := by
  have hack : s.originalMethod ≠ .ack := h.method.trans_ne hmethod
  have hcancel : s.originalMethod ≠ .cancel := by
    cases e with
    | request _ _ _ => exact he.2.2.2
    | ack _ _ => exact absurd he.2 hack
    | _ => exact (h.going he.2).1
  have hset : ({ s with received := true } : Context υ).core.Sound :=
    ⟨hack, hcancel, ⟨h.kept.final, h.kept.least, h.kept.unkept⟩, h.accounted⟩
  have hrequest := congrArg Request.method (request_step he)
  have hsound : (s.step e).core.Sound := by
    refine Core.sound_rule.context.step he hset (fun _ _ => trivial) ?_ ?_
    · intro msg _ _ _ hm _ hlow _
      exact SipResponse.isFinal_iff.2 ⟨by omega, hm.trans_ne hcancel⟩
    · intro msg hcode hm
      exact SipResponse.isFinal_iff.2 ⟨by omega, hm.trans_ne hcancel⟩
  exact ⟨hrequest.trans h.method, hsound.kept, hsound.accounted, fun _ => ⟨hsound.cancel,
    going_step hset (fun hr => (h.going hr).2) he ha⟩⟩

end Context
end Resiprocate.Repro
