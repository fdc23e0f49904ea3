import Mathlib
import Resiprocate.FinalResponse
import Resiprocate.BestResponse

/-! An INVITE that has been cancelled, or globally refused, is forked no further. Nothing in the
context remembers either event until a final response is out: what keeps branches from starting is
that the candidates are gone and none is offered. -/
namespace Resiprocate.Repro
open TransitionSystem (System Reach anyStep)

namespace Core
variable {υ : Type*}

/-- No 6xx has been kept, unless a final response is out. -/
def Open (c : Core υ) : Prop :=
  c.bestResponse.isGlobal = false ∨ c.haveSentFinalResponse = true

theorem soften_open {c : Core υ} (h : c.bestResponse.isGlobal = false) :
    c.soften.bestResponse.isGlobal = false := by
  unfold soften
  dsimp only
  split
  · rfl
  · exact h

theorem keepBest_open {c : Core υ} {msg : SipResponse υ} (hmsg : msg.isGlobal = false)
    (h : c.bestResponse.isGlobal = false) : (c.keepBest msg).bestResponse.isGlobal = false := by
  unfold keepBest
  dsimp only
  repeat' split
  · unfold SipResponse.mergeChallenges SipResponse.isGlobal
    dsimp only
    split
    · exact h
    · rfl
  · rfl
  all_goals assumption

theorem open_rule : Rule (Open (υ := υ)) fun msg => msg.isGlobal = false where
  send c msg h := h.imp (fun hbest => by rwa [bestResponse_send]) (final_send msg)
  forward c h := by
    refine h.imp (fun hbest => ?_) (final_rule.forward c)
    unfold forward
    dsimp only
    split
    · exact soften_open hbest
    · rw [bestResponse_send]
      exact soften_open hbest
  keep c msg hmsg h := by
    refine h.imp (fun hbest => ?_) (final_rule.keep c msg trivial)
    rw [keep, hmsg]
    exact keepBest_open hmsg hbest
  success c msg hmsg hclass h := by
    refine h.imp (fun hbest => ?_) (final_rule.success c msg trivial hclass)
    unfold success
    split
    · exact hbest
    · rw [bestResponse_send]
      simp [SipResponse.isGlobal, hclass]
  pending _ _ h := h
  asked _ h := h

end Core

namespace Context
variable {υ : Type*} [BEq υ] {s : Context υ} {l : List Data} {offers : Prop}

/-- The transactions `l` have been started, and no other can be: a final response is out, or there
is no candidate and none is offered. -/
structure Calm (offers : Prop) (l : List Data) (s : Context υ) : Prop where
  starts : s.starts = l
  shut : s.haveSentFinalResponse = true ∨ ¬ offers ∧ s.candidateTransactionMap.isEmpty = true

omit [BEq υ] in
theorem Calm.of_core {s' : Context υ} (h : Calm offers l s) (hcore : s'.core = s.core)
    (hstarts : s'.starts = s.starts) (hcand : s.candidateTransactionMap.isEmpty = true →
      s'.candidateTransactionMap.isEmpty = true) : Calm offers l s' :=
  ⟨hstarts.trans h.starts, h.shut.imp
    (congrArg Core.haveSentFinalResponse hcore).trans fun hs => ⟨hs.1, hcand hs.2⟩⟩

section Candidates

omit [BEq υ] in
theorem candidates_cancelActiveClientTransactions :
    s.cancelActiveClientTransactions.candidateTransactionMap = s.candidateTransactionMap := by
  unfold cancelActiveClientTransactions
  repeat' split
  all_goals rfl

omit [BEq υ] in
theorem candidates_withdrawTargets :
    s.withdrawTargets.candidateTransactionMap.isEmpty = true := by
  unfold withdrawTargets
  split
  · rw [candidates_cancelActiveClientTransactions]
    exact Std.TreeMap.isEmpty_emptyc
  · exact Std.TreeMap.isEmpty_emptyc

omit [BEq υ] in
theorem starts_withdrawTargets : s.withdrawTargets.starts = s.starts := by
  unfold withdrawTargets
  split <;> simp

omit [BEq υ] in
/-- Withdrawn candidates stay withdrawn while the best response goes out. -/
theorem candidates_forwardBestResponse :
    s.forwardBestResponse.candidateTransactionMap.isEmpty = true := by
  unfold forwardBestResponse
  dsimp only
  split
  · exact candidates_withdrawTargets
  · rw [candidates_sendResponse]
    exact candidates_withdrawTargets

omit [BEq υ] in
theorem starts_forwardBestResponse : s.forwardBestResponse.starts = s.starts := by
  unfold forwardBestResponse
  dsimp only
  split
  · have hnote : s.withdrawTargets.softenBest.abandonServerTransaction.starts =
        s.withdrawTargets.softenBest.starts := by
      simp [starts, Output.start, abandonServerTransaction]
    exact hnote.trans starts_withdrawTargets
  · rw [starts_sendResponse]
    exact starts_withdrawTargets

omit [BEq υ] in
theorem candidates_terminate {tid : Data} (h : s.candidateTransactionMap.isEmpty = true) :
    (s.terminateClientTransaction tid).candidateTransactionMap.isEmpty = true := by
  have hnone : s.candidateTransactionMap[tid]? = none := by
    rw [getElem?_eq_none_iff]
    exact Std.TreeMap.isEmpty_iff_forall_not_mem.1 h tid
  unfold terminateClientTransaction
  split
  · exact h
  · rw [hnone]
    exact h

omit [BEq υ] in
theorem candidates_remove {tid : Data} (h : s.candidateTransactionMap.isEmpty = true) :
    (s.removeClientTransaction tid).candidateTransactionMap.isEmpty = true := by
  unfold removeClientTransaction
  repeat' split
  · exact h
  · next hmem => exact absurd hmem (Std.TreeMap.isEmpty_iff_forall_not_mem.1 h tid)
  · exact h
  · exact h

omit [BEq υ] in
theorem starts_removeClientTransaction (tid : Data) :
    (s.removeClientTransaction tid).starts = s.starts := by
  unfold removeClientTransaction
  repeat' split
  all_goals rfl

omit [BEq υ] in
/-- Keeping a response of an INVITE starts nothing and offers nothing. -/
theorem keep_targets (msg : SipResponse υ) : (s.keep msg).starts = s.starts ∧
    (s.candidateTransactionMap.isEmpty = true →
      (s.keep msg).candidateTransactionMap.isEmpty = true) := by
  unfold keep
  split
  · unfold keepGlobal
    split
    · dsimp only
      split
      · exact ⟨starts_cancelAllClientTransactions.trans rfl, fun _ => candidates_cancelAll⟩
      · exact ⟨rfl, id⟩
    · exact ⟨rfl, id⟩
  · unfold keepBest
    dsimp only
    repeat' split
    all_goals exact ⟨rfl, id⟩

omit [BEq υ] in
theorem starts_processSuccess (msg : SipResponse υ) :
    (s.processSuccess msg).starts = s.starts := by
  unfold processSuccess
  dsimp only
  split
  · rw [starts_sendResponse]
    exact starts_cancelAllClientTransactions.trans (starts_terminateClientTransaction _)
  · split
    · exact starts_terminateClientTransaction _
    · rw [starts_sendResponse]
      exact starts_clearCandidateTransactions.trans (starts_terminateClientTransaction _)

end Candidates

/-- After a final response, or without a candidate, a call that is allowed starts nothing. -/
theorem Calm.call {c : Call υ} (h : Calm offers l s) (hc : c.adds = true → offers) :
    Calm offers l (s.call c).1 := by
  rcases h.shut with hfinal | ⟨hnot, hempty⟩
  · exact ⟨(call_final c hfinal).starts.trans h.starts,
      .inl (Core.final_rule.context.call s c trivial hfinal)⟩
  · have hadds : c.adds = false := by
      by_contra hne
      exact hnot (hc (eq_true_of_ne_false hne))
    obtain ⟨hstep, -, hcand⟩ := call_quiet hadds (.inr hempty)
    exact ⟨hstep.starts.trans h.starts, .inr ⟨hnot, hcand hempty⟩⟩

theorem Calm.send {msg : SipResponse υ} (h : Calm offers l s) :
    Calm offers l (s.sendResponse msg) := by
  refine ⟨(starts_sendResponse msg).trans h.starts,
    h.shut.imp (Core.final_rule.context.send s msg) fun hs => ?_⟩
  rwa [candidates_sendResponse]

/-- What is calm stays calm, whatever the proxy does. -/
theorem Calm.rule (offers : Prop) (l : List Data) :
    Rule (Calm (υ := υ) offers l) (fun _ => True) fun c => c.adds = true → offers where
  send s msg h := h.send
  forward s h :=
    ⟨starts_forwardBestResponse.trans h.starts,
      h.shut.imp (Core.final_rule.context.forward s) fun hs => ⟨hs.1, candidates_forwardBestResponse⟩⟩
  success s msg _ _ h :=
    ⟨(starts_processSuccess msg).trans h.starts, .inl (final_processSuccess s msg)⟩
  keep s msg _ h := by
    obtain ⟨hstarts, hcand⟩ := keep_targets (s := s) msg
    exact ⟨hstarts.trans h.starts,
      h.shut.imp (Core.final_rule.context.keep s msg trivial) fun hs => ⟨hs.1, hcand hs.2⟩⟩
  terminate s tid h := h.of_core (core_terminateClientTransaction s tid)
    (starts_terminateClientTransaction tid) candidates_terminate
  remove s tid h := h.of_core (core_removeClientTransaction s tid)
    (starts_removeClientTransaction tid) candidates_remove
  cancelAll s h := h.of_core (core_cancelAllClientTransactions s)
    starts_cancelAllClientTransactions fun _ => candidates_cancelAll
  cancelOne s tid h := h.of_core (core_cancelClientTransactionOf s tid)
    (starts_cancelClientTransactionOf tid) (candidates_cancelOf tid)
  clear s h := h.of_core (core_clearCandidateTransactions s)
    starts_clearCandidateTransactions fun _ => Std.TreeMap.isEmpty_emptyc
  timer s tid h := h.of_core (core_startTimerC s tid) (starts_startTimerC tid) fun hempty => by
    unfold startTimerC
    split <;> exact hempty
  call s c hc h := h.call hc
  note s o ho h := h.of_core (core_append ho.1 ho.2.1 s) (by simp [Context.starts, ho.2.2]) id
  pending s chains h := ⟨h.starts, h.shut⟩
  asked s h := ⟨h.starts, h.shut⟩
  count s n d h := ⟨h.starts, h.shut⟩

/-- An event that ends the forking of an INVITE: a CANCEL, or a 6xx on one of its branches. -/
def closes (s : Context υ) : Event υ → Prop
  | .cancel _ => True
  | .response msg responseChain _ => msg.method = .invite ∧ msg.isGlobal = true ∧
      (msg.tid ∈ (s.process .responseChain responseChain).1.activeTransactionMap ∨
        msg.tid.map Rutil.toLower ∈ (s.process .responseChain responseChain).1.activeTransactionMap)
  | _ => False

instance (s : Context υ) : (e : Event υ) → Decidable (s.closes e)
  | .cancel _ => isTrue trivial
  | .response .. => inferInstanceAs (Decidable (_ ∧ _))
  | .request .. | .ack .. | .timerC .. | .processorMessage .. | .transactionTerminated .. |
    .ack200Done => isFalse id

/-- A 6xx takes the candidates away where the response processors let it through, under its own
transaction id, and start nothing; otherwise there must be none. -/
def Clears (s : Context υ) : Event υ → Prop
  | .response msg responseChain _ => s.candidateTransactionMap.isEmpty = true ∨
      (∀ c ∈ responseChain.calls, c.begins = false) ∧ responseChain.result = .continues ∧
        msg.viaCheck s.originalBranch = .passed ∧ msg.tid ∈ s.activeTransactionMap
  | _ => True

instance (s : Context υ) : (e : Event υ) → Decidable (s.Clears e)
  | .response .. => inferInstanceAs (Decidable (_ ∨ _))
  | .request .. | .ack .. | .cancel .. | .timerC .. | .processorMessage .. |
    .transactionTerminated .. | .ack200Done => isTrue trivial

/-- What keeps new branches from starting: from the closing event on and until a final response is
out the processors offer no targets, and the closing event leaves no candidate. -/
def Withholds (p : Context υ × Option (List Data)) (e : Event υ) : Prop :=
  p.1.haveSentFinalResponse = false → (p.2 ≠ none ∨ p.1.closes e) →
    (∀ c ∈ e.calls, c.adds = false) ∧ (p.2 = none → p.1.Clears e)

instance (p : Context υ × Option (List Data)) (e : Event υ) : Decidable (Withholds p e) :=
  inferInstanceAs (Decidable (_ → _ → _))

/-- The transactions that had been started when the first closing event came. -/
def seen (s : Context υ) (e : Event υ) (g : Option (List Data)) : Option (List Data) :=
  g.or (if s.closes e then some s.starts else none)

section Calls
variable {run targetChain : ChainRun υ}

/-- Calls that neither offer nor start targets are carried out to the end. -/
theorem calls_quiet (s : Context υ) (result : ChainResult) {l : List (Call υ)}
    (h : ∀ c ∈ l, c.adds = false ∧ c.begins = false) :
    Unmoved s (calls result l s).1 ∧ (calls result l s).2 = result := by
  induction l generalizing s with
  | nil => exact ⟨.refl s, rfl⟩
  | cons c rest ih =>
    obtain ⟨hadds, hbegins⟩ := h c (by simp)
    obtain ⟨hstep, hreturned, -⟩ := call_quiet (s := s) hadds (.inl hbegins)
    unfold calls
    split
    · next heq =>
      rw [heq] at hreturned
      exact absurd rfl hreturned
    · next heq =>
      rw [heq] at hstep
      obtain ⟨hrest, hresult⟩ := ih _ fun d hd => h d (by simp [hd])
      exact ⟨hstep.trans hrest, hresult⟩

end Calls

section Steps
variable {msg : SipResponse υ} {responseChain targetChain : ChainRun υ} {e : Event υ}

omit [BEq υ] in
theorem Calm.sent (h : s.haveSentFinalResponse = true) : Calm offers s.starts s := ⟨rfl, .inl h⟩

omit [BEq υ] in
theorem Calm.change {offers' : Prop} (h : Calm offers l s)
    (hoffers : s.haveSentFinalResponse = false → ¬ offers') : Calm offers' l s := by
  refine ⟨h.starts, ?_⟩
  by_cases hfinal : s.haveSentFinalResponse = true
  · exact .inl hfinal
  · exact .inr ⟨hoffers (by simpa using hfinal), (h.shut.resolve_left hfinal).2⟩

/-- A calm context stays so where no targets are offered before a final response. -/
theorem Calm.step (h : Calm False l s) (he : s.accepts e)
    (hadds : s.haveSentFinalResponse = false → ∀ c ∈ e.calls, c.adds = false) :
    Calm False l (s.step e) := by
  have hcalm : Calm (∃ c ∈ e.calls, c.adds = true) l s := h.change fun hfinal ⟨c, hc, hc'⟩ => by
    simp [hadds hfinal c hc] at hc'
  have hstep := (Calm.rule _ l).step he ⟨hcalm.starts, hcalm.shut⟩ (fun c hc hc' => ⟨c, hc, hc'⟩)
    (fun _ _ _ _ _ _ _ _ => trivial) fun _ _ _ => trivial
  exact ⟨hstep.starts, hstep.shut.imp id fun hs => ⟨id, hs.2⟩⟩

/-- A CANCEL takes the candidates away. -/
theorem Calm.processCancel : Calm False s.starts s.processCancel := by
  have hok : (s.sendResponse (.make s.originalTid .cancel 200)).starts = s.starts :=
    starts_sendResponse _
  unfold Context.processCancel
  dsimp only
  split
  · next hfinal => exact ⟨hok, .inl hfinal⟩
  · have hall : Calm False s.starts
        (s.sendResponse (.make s.originalTid .cancel 200)).cancelAllClientTransactions :=
      ⟨starts_cancelAllClientTransactions.trans hok, .inr ⟨id, candidates_cancelAll⟩⟩
    split
    · exact hall
    · exact hall.send

/-- The first 6xx takes the candidates of an INVITE away. -/
theorem Calm.global (hinvite : s.originalMethod = .invite) (hopen : s.core.Open)
    (hmsg : msg.isGlobal = true) : Calm False s.starts (s.processActiveResponse msg) := by
  have hclass : msg.statusCode / 100 = 6 := by simpa [SipResponse.isGlobal] using hmsg
  have hstarts : (s.terminateClientTransaction msg.tid).starts = s.starts :=
    starts_terminateClientTransaction _
  have hcore := core_terminateClientTransaction s msg.tid
  refine processActiveResponse_induction (fun _ => by omega) (fun _ => by omega)
    (fun _ _ => ⟨fun hfinal => ⟨hstarts, .inl hfinal⟩, fun hfinal => ?_⟩) fun _ => by omega
  have hbest : (s.terminateClientTransaction msg.tid).bestResponse.statusCode / 100 ≠ 6 := by
    rw [← hcore] at hopen
    have hnot := hopen.resolve_right fun hsent => by
      simp [show (s.terminateClientTransaction msg.tid).haveSentFinalResponse = true from hsent]
        at hfinal
    exact beq_eq_false_iff_ne.1 hnot
  have hmethod : (s.terminateClientTransaction msg.tid).originalMethod = .invite :=
    (congrArg Core.originalMethod hcore).trans hinvite
  refine (Calm.rule False s.starts).forwardIfDone ⟨?_, .inr ⟨id, ?_⟩⟩
  · exact (keep_targets msg).1.trans hstarts
  · unfold keep keepGlobal
    rw [if_pos hmsg, if_pos hbest, if_pos hmethod]
    exact candidates_cancelAll

/-- A 6xx that the response processors let through. -/
theorem Calm.processResponseTransaction (hinvite : s.originalMethod = .invite)
    (hopen : s.core.Open) (hmethod : msg.method = .invite) (hmsg : msg.isGlobal = true)
    (hadds : ∀ c ∈ responseChain.calls, c.adds = false)
    (hbegins : ∀ c ∈ responseChain.calls, c.begins = false)
    (hresult : responseChain.result = .continues)
    (hpass : msg.viaCheck s.originalBranch = .passed) (hmem : msg.tid ∈ s.activeTransactionMap)
    (htarget : ∀ c ∈ targetChain.calls, c.adds = false) :
    Calm False s.starts (s.processResponseTransaction msg responseChain targetChain) := by
  have hopen' : (s.process .responseChain responseChain).1.core.Open :=
    Core.open_rule.context.process hopen (fun _ _ => trivial) _
  have hrequest : (s.process .responseChain responseChain).1.core.request = s.core.request :=
    (Core.request_rule s.core.request).context.process rfl (fun _ _ => trivial) _
  have hmethod' : (s.process .responseChain responseChain).1.originalMethod = .invite :=
    (congrArg Request.method hrequest).trans hinvite
  have hbranch : (s.process .responseChain responseChain).1.originalBranch = s.originalBranch :=
    congrArg Request.branch hrequest
  obtain ⟨hcalls, hcontinues⟩ := calls_quiet s responseChain.result
    fun c hc => ⟨hadds c hc, hbegins c hc⟩
  have hstarts : (s.process .responseChain responseChain).1.starts = s.starts := by
    rw [process_eq]
    exact hcalls.starts
  have hglobal := Calm.global hmethod' hopen' hmsg
  rw [hstarts] at hglobal
  have hresponse : Calm False s.starts
      ((s.process .responseChain responseChain).1.processResponse msg) := by
    unfold processResponse
    rw [hbranch, hpass, if_pos (mem_process hmem)]
    exact hglobal
  unfold Context.processResponseTransaction
  rw [if_pos (hmethod.trans hinvite.symm)]
  dsimp only
  rw [process_snd, hcontinues, if_pos hresult]
  exact (Calm.rule False s.starts).doPostResponseProcessing hresponse fun c hc hc' => by
    simp [htarget c hc] at hc'

/-- The closing event: what has been started before it stays all that is. -/
theorem Calm.close (hinvite : s.originalMethod = .invite) (hopen : s.core.Open) (he : s.accepts e)
    (hcloses : s.closes e) (hw : Withholds (s, none) e) : Calm False s.starts (s.step e) := by
  by_cases hfinal : s.haveSentFinalResponse = true
  · exact Calm.step (.sent hfinal) he fun hno => by simp [hfinal] at hno
  obtain ⟨hadds, hclears⟩ := hw (by simpa using hfinal) (.inr hcloses)
  cases e with
  | cancel targetChain =>
    change Calm False s.starts (s.processCancelRequest targetChain)
    unfold processCancelRequest
    rw [hinvite]
    have hrule := Calm.rule (υ := υ) False s.starts
    exact hrule.runTargetChain .processCancel hrule.forward fun c hc hc' => by
      simp [hadds c hc] at hc'
  | response msg responseChain targetChain =>
    rcases hclears rfl with hempty | ⟨hbegins, hresult, hpass, hmem⟩
    · exact Calm.step ⟨rfl, .inr ⟨id, hempty⟩⟩ he fun _ => hadds
    · have hboth := List.forall_mem_append.1 hadds
      exact .processResponseTransaction hinvite hopen hcloses.1 hcloses.2.1 hboth.1 hbegins hresult
        hpass hmem hboth.2
  | request _ _ _ => exact hcloses.elim
  | ack _ _ => exact hcloses.elim
  | timerC _ _ _ _ => exact hcloses.elim
  | processorMessage _ _ _ => exact hcloses.elim
  | transactionTerminated _ _ => exact hcloses.elim
  | ack200Done => exact hcloses.elim

/-- Until then no 6xx is kept. -/
theorem open_step (hinvite : s.originalMethod = .invite) (hopen : s.core.Open) (he : s.accepts e)
    (hcloses : ¬ s.closes e) : (s.step e).core.Open := by
  refine Core.open_rule.context.step he hopen (fun _ _ => trivial) ?_ fun msg hcode _ => ?_
  · intro msg run targetChain heq hmethod hmem _ _
    subst heq
    by_contra hmsg
    exact hcloses ⟨hmethod.trans hinvite, eq_true_of_ne_false hmsg, .inl hmem⟩
  · simp [SipResponse.isGlobal, hcode]

end Steps

/-- In a run whose events withhold new targets from then on, no transaction starts after a CANCEL or
a 6xx on a branch. -/
theorem no_new_branch {tid branch : Data} {p : Context υ × Option (List Data)}
    (h : Reach ((system .invite tid branch).observe none seen) Withholds p) :
    ∀ l, p.2 = some l → p.1.starts = l := by
  have hinv : p.1.originalMethod = .invite ∧ (p.2 = none → p.1.core.Open) ∧
      ∀ l, p.2 = some l → Calm False l p.1 := by
    refine Reach.invariant (P := fun p : Context υ × Option (List Data) =>
      p.1.originalMethod = .invite ∧ (p.2 = none → p.1.core.Open) ∧
        ∀ l, p.2 = some l → Calm False l p.1) ?_ ?_ h
    · rintro ⟨s, g⟩ ⟨rfl, rfl⟩
      exact ⟨rfl, fun _ => .inl rfl, fun l hl => by cases hl⟩
    · rintro ⟨s, g⟩ e - ⟨hinvite, hopen, hcalm⟩ he hw
      have hmethod : (s.step e).originalMethod = .invite :=
        (congrArg Request.method (request_step he)).trans hinvite
      cases g with
      | some l =>
        refine ⟨hmethod, (fun hnone => by cases hnone), fun l' hl' => ?_⟩
        obtain rfl : l = l' := Option.some.inj hl'
        exact (hcalm l rfl).step he fun hfinal => (hw hfinal (.inl (by simp))).1
      | none =>
        by_cases hcloses : s.closes e
        · refine ⟨hmethod, fun hnone => ?_, fun l hl => ?_⟩
          · simp [System.observe, seen, hcloses] at hnone
          · obtain rfl : s.starts = l := by simpa [System.observe, seen, hcloses] using hl
            exact .close hinvite (hopen rfl) he hcloses hw
        · refine ⟨hmethod, fun _ => open_step hinvite (hopen rfl) he hcloses, fun l hl => ?_⟩
          simp [System.observe, seen, hcloses] at hl
  exact fun l hl => (hinv.2.2 l hl).starts

section Example

/-- The request is forked to two targets. -/
def forkTwo : Event ℕ :=
  .request .done ⟨[.addTarget (branchTo 1) false true, .addTarget (branchTo 2) false true],
    .continues⟩ ⟨[.beginClientTransactions], .skipsAllChains⟩

def cancelledTwice : List (Event ℕ) :=
  [forkTwo, .cancel idle, .response (failureOn 1 487 [98]) idle idle,
    .response (failureOn 2 487 [98]) idle idle]

/-- A redirect on one cancelled branch, whose contact becomes a target, and the end of the other. -/
def redirectedLate : List (Event ℕ) :=
  [forkTwo, .cancel idle,
    .response (failureOn 1 302 [98]) ⟨[.addTargetBatch [branchTo 3] false], .skipsAllChains⟩ idle,
    .response (failureOn 2 487 [98]) idle ⟨[.beginClientTransactions], .skipsAllChains⟩]

end Example

theorem no_new_branch_cancelled :
    (cancelledTwice.foldl ((system .invite [105] [98]).observe none seen).next
      (.new .invite [105] [98], none)).1.starts = [[1], [2]] :=
  no_new_branch (Reach.run (.observe_init rfl) cancelledTwice (by decide)) _ rfl

/-- The contact of a redirect that comes after the CANCEL is tried. -/
theorem not_no_new_branch : ¬ ∀ p : Context ℕ × Option (List Data),
    Reach ((system .invite [105] [98]).observe none seen) anyStep p →
    ∀ l, p.2 = some l → p.1.starts = l := by
  intro h
  have hstarts := h _ (Reach.run (.observe_init rfl) redirectedLate (by decide)) [[1], [2]] rfl
  have hthree : (redirectedLate.foldl ((system .invite [105] [98]).observe none seen).next
      (.new .invite [105] [98], none)).1.starts = [[1], [2], [3]] := rfl
  rw [hthree] at hstarts
  exact absurd hstarts (by decide)

end Context
end Resiprocate.Repro
