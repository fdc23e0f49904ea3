import Resiprocate.TransactionControllerSteps

/-! Timers that outlive their transaction. The timer queue knows a timer by its type and its
transaction id only, and a later transaction may be registered under the same id. -/
namespace Resiprocate.Transaction
open TransitionSystem

/-! ### Timers a machine does not act on -/

/-- The timers that do something in some state of a machine, a failed assertion included. -/
def Machine.heedsTimer (m : Machine) (type : TimerType) : Bool :=
  match m.family with
  | .clientNonInvite =>
    decide (type ∈ [.timerE1, .timerE2, .timerF, .timerK, .tcpConnectTimer])
  | .clientInvite => decide (type ∈
      [.timerA, .timerB, .timerD, .timerCleanUp, .timerStaleClient, .tcpConnectTimer])
  | .serverNonInvite => decide (type ∈ [.timerJ, .timerTrying])
  | _ => true

theorem Machine.heedsTimer_of_family {m m' : Machine} (h : m.family = m'.family)
    (type : TimerType) : m.heedsTimer type = m'.heedsTimer type := by
  simp only [heedsTimer, h]

theorem TransactionState.receive_unheeded (cfg : Config) (env : Env) {st : TransactionState}
    {t : TransactionTimer} (h : st.mMachine.heedsTimer t.type = false) :
    st.receive cfg env (.timer t) = Frame.start st := by
  have hself : (Frame.start st).self = st := rfl
  simp only [receive, Frame.dispatch, hself]
  cases hm : st.mMachine with
  | clientNonInvite =>
    simp only [Frame.processClientNonInvite, Frame.clientNonInviteTimer]
    cases ht : t.type <;> simp_all [Machine.heedsTimer, Machine.family]
  | clientInvite =>
    simp only [Frame.processClientInvite, Frame.clientInviteTimer]
    cases ht : t.type <;> simp_all [Machine.heedsTimer, Machine.family]
  | clientStale =>
    simp only [Frame.processClientStale]
    cases ht : t.type <;> simp_all [Machine.heedsTimer, Machine.family]
  | serverNonInvite =>
    simp only [Frame.processServerNonInvite, Frame.serverNonInviteTimer]
    cases ht : t.type <;> simp_all [Machine.heedsTimer, Machine.family]
  | serverInvite => simp [hm, Machine.heedsTimer, Machine.family] at h
  | serverStale => simp [hm, Machine.heedsTimer, Machine.family] at h
  | stateless => simp [hm, Machine.heedsTimer, Machine.family] at h

/-! ### The controller with stamped timers -/

/-- The controller, how many transactions each side has registered under a key, and the
pending timers, each with the number of the registration it was armed under. -/
structure Traced where
  controller : TransactionController
  births : Bool → Data → ℕ
  armed : List (TransactionTimer × ℕ)

inductive ControllerEvent
  | message (msg : TransactionMessage)
  | timer (t : TransactionTimer) (stamp : ℕ)
  | rewriteRequest (tid : Data) (uri : Uri)

namespace Traced

def start : Traced := ⟨.empty, fun _ _ => 0, []⟩

/-- The last registration under the id and the side that a timer is looked up by. -/
def current (births : Bool → Data → ℕ) (t : TransactionTimer) : ℕ :=
  births t.type.isClientTransaction (branchKey t.transactionId)

/-- The transaction that a timer is looked up to. -/
def lookup (s : Traced) (t : TransactionTimer) : Option TransactionState :=
  (s.controller.map t.type.isClientTransaction).find t.transactionId

/-- Takes in a step of the controller: registrations are counted and new timers stamped. -/
def record (s : Traced) (armed : List (TransactionTimer × ℕ))
    (r : TransactionController × List Emission) : Traced :=
  let births := fun side key => s.births side key + r.2.countP (Emission.registers side key)
  ⟨r.1, births, armed ++ (r.2.flatMap Emission.timers).map fun t => (t, current births t)⟩

def apply (cfg : Config) (s : Traced) : Env × ControllerEvent → Traced
  | (env, .message msg) => s.record s.armed (s.controller.process cfg env msg)
  | (env, .timer t stamp) =>
    let r := s.controller.processTimer cfg env t
    match TransactionController.postponed cfg env t with
    | some t' => { s with controller := r.1, armed := s.armed.erase (t, stamp) ++ [(t', stamp)] }
    | none => s.record (s.armed.erase (t, stamp)) r
  | (_, .rewriteRequest tid uri) => s.record s.armed (s.controller.rewriteRequest tid uri)

/-- Timers come from the timer queue; a request is rewritten by the DNS query of its
transaction. -/
def enabled (s : Traced) : Env × ControllerEvent → Prop
  | (_, .message (.timer _)) => False
  | (_, .message _) => True
  | (_, .timer t stamp) => (t, stamp) ∈ s.armed
  | (_, .rewriteRequest tid _) =>
    ∃ st, s.controller.mClientTransactionMap.find tid = some st ∧
      st.mDnsResult ∧ st.mPendingOperation = .dns

instance (s : Traced) : (e : Env × ControllerEvent) → Decidable (s.enabled e)
  | (_, .message msg) => by
    cases msg <;> first | exact .isTrue trivial | exact .isFalse id
  | (_, .timer t stamp) => inferInstanceAs (Decidable ((t, stamp) ∈ s.armed))
  | (_, .rewriteRequest tid _) => inferInstanceAs (Decidable
      (∃ st, s.controller.mClientTransactionMap.find tid = some st ∧
        st.mDnsResult ∧ st.mPendingOperation = .dns))

end Traced

/-- Runs of the controller. -/
def controllers (cfg : Config) : System Traced (Env × ControllerEvent) where
  init s := s = Traced.start
  enabled := Traced.enabled
  next := Traced.apply cfg

instance (cfg : Config) (s : Traced) (e : Env × ControllerEvent) :
    Decidable ((controllers cfg).enabled s e) :=
  inferInstanceAs (Decidable (s.enabled e))

/-! ### What a run keeps -/

namespace Traced

/-- Registrations only grow, so no timer carries a stamp of the future. -/
structure Stamped (s : Traced) : Prop where
  filed : s.controller.Filed
  stamps : ∀ x ∈ s.armed, x.2 ≤ current s.births x.1
  queue : (s.armed.map Prod.fst).Perm s.controller.mTimers

theorem stamped_start : start.Stamped := by
  refine ⟨TransactionController.filed_empty, ?_, ?_⟩
  · simp [start]
  · simp [start, TransactionController.empty]

theorem Stamped.record {s : Traced} (hs : s.Stamped) {c : TransactionController}
    {opened : Option (Machine × Data)} {r : TransactionController × List Emission}
    {armed : List (TransactionTimer × ℕ)} (harmed : ∀ x ∈ armed, x ∈ s.armed)
    (hqueue : (armed.map Prod.fst).Perm c.mTimers) (hr : c.Evolves opened r) :
    (s.record armed r).Stamped := by
  refine ⟨hr.filed, ?_, ?_⟩
  · intro x hx
    rcases List.mem_append.1 hx with hold | hnew
    · exact (hs.stamps x (harmed x hold)).trans (Nat.le_add_right _ _)
    · obtain ⟨t, -, rfl⟩ := List.mem_map.1 hnew
      exact le_rfl
  · have hmap : (s.record armed r).armed.map Prod.fst =
        armed.map Prod.fst ++ r.2.flatMap Emission.timers := by
      simp [Traced.record, Function.comp_def]
    rw [hmap, show (s.record armed r).controller = r.1 from rfl, hr.timers]
    exact hqueue.append_right _

theorem queue_erase {s : Traced} (hs : s.Stamped) {t : TransactionTimer} {stamp : ℕ}
    (ht : (t, stamp) ∈ s.armed) :
    ((s.armed.erase (t, stamp)).map Prod.fst).Perm (s.controller.mTimers.erase t) := by
  have hcons := (List.perm_cons_erase ht).map Prod.fst
  have hqueue := (hcons.symm.trans hs.queue).erase t
  simpa using hqueue

theorem current_postponed {cfg : Config} {env : Env} {t t' : TransactionTimer}
    (h : TransactionController.postponed cfg env t = some t') :
    t'.type = t.type ∧ t'.transactionId = t.transactionId := by
  unfold TransactionController.postponed at h
  repeat' split at h
  all_goals cases h
  all_goals exact ⟨rfl, rfl⟩

/-- Every step keeps the stamps in order, whatever it does to the transactions. -/
theorem Stamped.apply {cfg : Config} {s : Traced} (hs : s.Stamped) {e : Env × ControllerEvent}
    (he : s.enabled e) : (s.apply cfg e).Stamped := by
  obtain ⟨env, ev⟩ := e
  cases ev with
  | message msg =>
    exact hs.record (fun _ h => h) hs.queue
      (TransactionController.process_evolves cfg env hs.filed msg)
  | rewriteRequest tid uri =>
    exact hs.record (fun _ h => h) hs.queue
      (TransactionController.rewriteRequest_evolves hs.filed tid uri)
  | timer t stamp =>
    have he : (t, stamp) ∈ s.armed := he
    simp only [Traced.apply]
    split
    case h_1 t' ht' =>
      obtain ⟨htype, hid⟩ := current_postponed ht'
      refine ⟨?_, ?_, ?_⟩
      · simp only [TransactionController.processTimer, ht']
        exact hs.filed
      · intro x hx
        rcases List.mem_append.1 hx with hold | hnew
        · exact hs.stamps x (List.mem_of_mem_erase hold)
        · rw [List.mem_singleton.1 hnew]
          simpa [current, htype, hid] using hs.stamps _ he
      · simp only [TransactionController.processTimer, ht', List.map_append, List.map_cons,
          List.map_nil]
        exact (queue_erase hs he).append_right _
    case h_2 ht =>
      exact hs.record (fun _ h => List.mem_of_mem_erase h) (queue_erase hs he)
        (TransactionController.processTimer_evolves cfg env hs.filed ht)

end Traced

/-- The stamped timers are the timers of the queue in every run. -/
theorem controller_stamped {cfg : Config} {ok : Traced → Env × ControllerEvent → Prop} {s : Traced}
    (hr : Reach (controllers cfg) ok s) : s.Stamped := by
  refine hr.invariant ?_ ?_
  · rintro s rfl
    exact Traced.stamped_start
  · intro s e _ hs he _
    exact hs.apply he

/-! ### Leftover timers -/

def Emission.faults : Emission → List Fault
  | .transaction _ out => out.faults
  | _ => []

namespace Traced

/-- A timer armed under an earlier registration neither changes nor ends the transaction that
is registered under its id now, and makes no assertion of it fail. -/
def Harmless (cfg : Config) (s : Traced) : Prop :=
  ∀ env t stamp, (t, stamp) ∈ s.armed → stamp ≠ current s.births t → ∀ st, s.lookup t = some st →
    let r := s.controller.processTimer cfg env t
    (r.1.map t.type.isClientTransaction).find t.transactionId = some st ∧
      ∀ e ∈ r.2, e.faults = []

/-- The message opens a transaction under an id with a pending timer that the machine of the
new transaction acts on. -/
def inheritsTimer (cfg : Config) (s : Traced) : Env × ControllerEvent → Prop
  | (env, .message msg) => ∃ p, s.controller.opens cfg env msg = some p ∧
      ∃ x ∈ s.armed, x.1.type.isClientTransaction = p.1.isClient ∧
        branchKey x.1.transactionId = branchKey p.2 ∧ p.1.heedsTimer x.1.type
  | _ => False

instance (cfg : Config) (s : Traced) : (e : Env × ControllerEvent) →
    Decidable (inheritsTimer cfg s e)
  | (env, .message msg) => inferInstanceAs (Decidable (∃ p, s.controller.opens cfg env msg = some p ∧
      ∃ x ∈ s.armed, x.1.type.isClientTransaction = p.1.isClient ∧
        branchKey x.1.transactionId = branchKey p.2 ∧ p.1.heedsTimer x.1.type))
  | (_, .timer _ _) | (_, .rewriteRequest _ _) => .isFalse id

/-- No transaction acts on the timers of an earlier one. -/
def Unheeded (s : Traced) : Prop :=
  ∀ x ∈ s.armed, x.2 ≠ current s.births x.1 → ∀ st, s.lookup x.1 = some st →
    st.mMachine.heedsTimer x.1.type = false

/-- A timer that the transaction does not act on leaves it as it is. -/
theorem Unheeded.harmless {cfg : Config} {s : Traced} (hs : s.Unheeded) (hf : s.controller.Filed) :
    s.Harmless cfg := by
  intro env t stamp ht hstamp st hst
  have hnone := hs (t, stamp) ht hstamp st hst
  simp only [TransactionController.processTimer]
  split
  case h_1 => exact ⟨hst, by simp⟩
  case h_2 =>
    have hlookup : (({ s.controller with mTimers := s.controller.mTimers.erase t } :
      TransactionController).map t.type.isClientTransaction).find t.transactionId = some st := hst
    simp only [hlookup, TransactionState.receive_unheeded cfg env hnone,
      TransactionController.install, Frame.start]
    obtain ⟨hkey, hside⟩ := hf _ _ st hst
    refine ⟨?_, by simp [Emission.faults, Outputs.empty]⟩
    show (TransactionController.store _ st false).map _ _ = some st
    rw [TransactionController.store_map, if_pos ⟨hside.symm, hkey.symm⟩]
    rfl

/-- The old timers of an id belong to an earlier registration once it is registered again;
those it keeps were not heeded before. -/
theorem Unheeded.record {s : Traced} (hs : s.Unheeded)
    {c : TransactionController} (hc : ∀ side, c.map side = s.controller.map side)
    {opened : Option (Machine × Data)} {r : TransactionController × List Emission}
    {armed : List (TransactionTimer × ℕ)} (harmed : ∀ x ∈ armed, x ∈ s.armed)
    (hr : c.Evolves opened r)
    (hopened : ∀ m tid, opened = some (m, tid) → ∀ x ∈ s.armed,
      x.1.type.isClientTransaction = m.isClient → branchKey x.1.transactionId = branchKey tid →
        m.heedsTimer x.1.type = false) :
    (s.record armed r).Unheeded := by
  intro x hx hstamp st' hst'
  rcases List.mem_append.1 hx with hold | hnew
  · have hmem := harmed x hold
    rcases hr.kept _ _ st' hst' with ⟨hcount, st, hst, hfamily⟩ | ⟨-, m, tid, ho, hkey, hside, hfamily⟩
    · rw [Machine.heedsTimer_of_family hfamily]
      refine hs x hmem ?_ st ?_
      · intro heq
        apply hstamp
        rw [heq]
        simp [current, Traced.record, hcount]
      · rw [hc] at hst
        exact hst
    · rw [Machine.heedsTimer_of_family hfamily]
      exact hopened m tid ho x hmem hside.symm hkey.symm
  · obtain ⟨t, -, rfl⟩ := List.mem_map.1 hnew
    exact absurd rfl hstamp

theorem Unheeded.apply {cfg : Config} {s : Traced} (hs : s.Unheeded) (hstamped : s.Stamped)
    {e : Env × ControllerEvent} (he : s.enabled e) (hok : ¬ inheritsTimer cfg s e) :
    (s.apply cfg e).Unheeded := by
  obtain ⟨env, ev⟩ := e
  cases ev with
  | message msg =>
    refine hs.record (fun _ => rfl) (fun _ h => h)
      (TransactionController.process_evolves cfg env hstamped.filed msg) ?_
    intro m tid ho x hx hside hkey
    by_contra hheeds
    exact hok ⟨(m, tid), ho, x, hx, hside, hkey, by simpa using hheeds⟩
  | rewriteRequest tid uri =>
    exact hs.record (fun _ => rfl) (fun _ h => h)
      (TransactionController.rewriteRequest_evolves hstamped.filed tid uri) nofun
  | timer t stamp =>
    have he : (t, stamp) ∈ s.armed := he
    simp only [Traced.apply]
    split
    case h_1 t' ht' =>
      -- the timer goes back to the queue with the stamp it had
      obtain ⟨htype, hid⟩ := current_postponed ht'
      intro x hx hstamp st hst
      have hlookup : ∀ y : TransactionTimer, lookup { s with
          controller := (s.controller.processTimer cfg env t).1
          armed := s.armed.erase (t, stamp) ++ [(t', stamp)] } y = s.lookup y := by
        intro y
        simp only [lookup, TransactionController.processTimer, ht']
        rfl
      rw [hlookup] at hst
      rcases List.mem_append.1 hx with hold | hnew
      · exact hs x (List.mem_of_mem_erase hold) hstamp st hst
      · rw [List.mem_singleton.1 hnew] at hstamp hst ⊢
        have := hs (t, stamp) he (by simpa [current, htype, hid] using hstamp) st (by
          simpa [lookup, htype, hid] using hst)
        simpa [htype] using this
    case h_2 ht =>
      exact hs.record (fun side => by cases side <;> rfl)
        (fun _ h => List.mem_of_mem_erase h)
        (TransactionController.processTimer_evolves cfg env hstamped.filed ht) nofun

end Traced

/-- In a run that never opens a transaction under an id with a pending timer its machine acts
on, no timer of an earlier transaction harms a later one. -/
theorem controller_timersHarmless (cfg : Config) {s : Traced}
    (hr : Reach (controllers cfg) (fun s e => ¬ Traced.inheritsTimer cfg s e) s) :
    s.Harmless cfg := by
  have hunheeded : s.Unheeded := by
    refine hr.invariant ?_ ?_
    · rintro s rfl x hx
      cases hx
    · intro s e hreach hs he hok
      exact hs.apply (controller_stamped hreach) he hok
  exact hunheeded.harmless (controller_stamped hr).filed

/-- The TU's answer to a request from the wire. -/
def sampleServerResponse (method : MethodTypes) (source : Tuple) (code : ℕ) : SipMessage :=
  makeResponse (sampleWireRequest method source) code [116] ""

/-- OPTIONS over TCP, answered; its Timer Trying is still pending when an INVITE of the TU takes
the same branch, which no server timer is looked up for. -/
theorem controller_timersHarmless_sides :
    Traced.Harmless {} ([
      (sampleEnv, .message (.sip (sampleWireRequest .options (sampleTuple .tcp 1)))),
      (sampleEnv, .message (.sip (sampleServerResponse .options (sampleTuple .tcp 1) 200))),
      (sampleEnv, .message (.sip (sampleRequest .invite (sampleTuple .udp 1))))].foldl
        (controllers {}).next Traced.start) :=
  controller_timersHarmless {} (.run (.init rfl) _ (by decide))

/-- An INVITE over TCP is refused and acknowledged, which ends its transaction with Timer H
pending. When the peer uses the branch again, that Timer H ends the new transaction. -/
theorem serverInvite_ended_by_leftover :
    ∃ s, Reach (controllers {}) anyStep s ∧ ¬ s.Harmless {} := by
  let invite := sampleWireRequest .invite (sampleTuple .tcp 1)
  refine ⟨_, .run (.init rfl) [(sampleEnv, .message (.sip invite)),
    (sampleEnv, .message (.sip (sampleServerResponse .invite (sampleTuple .tcp 1) 486))),
    (sampleEnv, .message (.sip { invite with method := .ack })),
    (sampleEnv, .message (.sip invite))] (by decide), fun h => ?_⟩
  have hold := h sampleEnv ⟨.timerH, sampleBranch, 32000⟩ 1 (by decide) (by decide)
  revert hold
  decide

end Resiprocate.Transaction
