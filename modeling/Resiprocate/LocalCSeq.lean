import Resiprocate.TransactionTypes
import Resiprocate.TransitionSystem

/-! The CSeq numbers of the requests sent in a `Dialog`. A request is numbered when it is made,
kept under its number when it is sent, and sent once more, one number higher, when a challenge to
it can be answered. Message objects are shared: a usage makes its next request in the object of the
last one, also while that is kept under its old number. -/
namespace Resiprocate.Dum
open TransitionSystem
open Transaction (MethodTypes)

/-- A request as it stands in its message object. The `id` tells the requests apart that are made
in one object, and stays when the request is sent again. -/
structure RequestMessage where
  id : ℕ
  method : MethodTypes
  sequence : ℕ
  deriving DecidableEq

/-- A response, and whether `AuthState::handleChallenge` would find credentials for it. -/
structure DialogResponse where
  statusCode : ℕ
  sequence : ℕ
  credentials : Bool

namespace DialogResponse

def isFinal (r : DialogResponse) : Bool := 200 ≤ r.statusCode

/-- The cases in which `ClientAuthManager::handle` returns true. -/
def challenges (r : DialogResponse) : Bool :=
  (r.statusCode = 401 || r.statusCode = 407) && r.credentials

end DialogResponse

/-- The requests of a dialog. Message objects are numbered in the order of their creation;
`sent` is the record of what went out. -/
structure DialogRequests where
  mLocalCSeq : ℕ
  mRequests : ℕ → Option ℕ
  messages : ℕ → RequestMessage
  objects : ℕ
  made : ℕ
  sent : List RequestMessage

namespace DialogRequests

def create (mLocalCSeq : ℕ) : DialogRequests :=
  ⟨mLocalCSeq, fun _ => none, fun _ => ⟨0, .unknown, 0⟩, 0, 0, []⟩

/-- `setRequestNextCSeq` on the message in an object. -/
def setRequestNextCSeq (d : DialogRequests) (object : ℕ) : DialogRequests :=
  { d with
    mLocalCSeq := d.mLocalCSeq + 1
    messages := Function.update d.messages object
      { d.messages object with sequence := d.mLocalCSeq + 1 } }

/-- A request in an object, a new one or that of an earlier request. -/
def put (d : DialogRequests) (object : ℕ) (method : MethodTypes) (sequence : ℕ) :
    DialogRequests :=
  { d with
    messages := Function.update d.messages object ⟨d.made, method, sequence⟩
    objects := max d.objects (object + 1)
    made := d.made + 1 }

def makeRequest (d : DialogRequests) (object : ℕ) (method : MethodTypes) : DialogRequests :=
  (d.put object method (d.messages object).sequence).setRequestNextCSeq object

def send (d : DialogRequests) (object : ℕ) : DialogRequests :=
  let msg := d.messages object
  { d with
    mRequests := if msg.method ≠ .ack
      then Function.update d.mRequests msg.sequence (some object) else d.mRequests
    sent := d.sent ++ [msg] }

@[simp] lemma mLocalCSeq_send (d : DialogRequests) (object : ℕ) :
    (d.send object).mLocalCSeq = d.mLocalCSeq := rfl

@[simp] lemma messages_send (d : DialogRequests) (object : ℕ) :
    (d.send object).messages = d.messages := rfl

@[simp] lemma objects_send (d : DialogRequests) (object : ℕ) :
    (d.send object).objects = d.objects := rfl

/-- `ClientAuthManager::handle` numbers the message by itself. -/
def sendAgain (d : DialogRequests) (object : ℕ) : DialogRequests :=
  send { d with
    messages := Function.update d.messages object
      { d.messages object with sequence := (d.messages object).sequence + 1 }
    mLocalCSeq := d.mLocalCSeq + 1 } object

def erase (d : DialogRequests) (sequence : ℕ) : DialogRequests :=
  { d with mRequests := Function.update d.mRequests sequence none }

/-- The response part of `Dialog::dispatch`, as far as it is about the requests sent. -/
def dispatch (d : DialogRequests) (response : DialogResponse) : DialogRequests :=
  match d.mRequests response.sequence with
  | none => d
  | some object =>
    (if response.challenges then d.sendAgain object else d).erase response.sequence

end DialogRequests

/-- `queue` makes a non-INVITE request that is numbered later, by `nitComplete`; `makeAck` makes an
ACK, to which the caller gives the number of the INVITE. -/
inductive RequestEvent
  | makeRequest (object : ℕ) (method : MethodTypes)
  | queue (method : MethodTypes)
  | setRequestNextCSeq (object : ℕ)
  | makeAck (sequence : ℕ)
  | send (object : ℕ)
  | dispatch (response : DialogResponse)

/-- Requests that are queued and ACKs get an object of their own; numbers go to requests only that
are neither ACK nor CANCEL. -/
def dialogRequests : System DialogRequests RequestEvent where
  init d := ∃ mLocalCSeq, d = .create mLocalCSeq
  enabled d e := match e with
    | .makeRequest object method => object ≤ d.objects ∧ method ≠ .ack ∧ method ≠ .cancel
    | .queue method => method ≠ .ack ∧ method ≠ .cancel
    | .setRequestNextCSeq object => object < d.objects ∧ (d.messages object).method ≠ .ack
    | .makeAck _ => True
    | .send object => object < d.objects
    | .dispatch _ => True
  next d e := match e with
    | .makeRequest object method => d.makeRequest object method
    | .queue method => d.put d.objects method 0
    | .setRequestNextCSeq object => d.setRequestNextCSeq object
    | .makeAck sequence => d.put d.objects .ack sequence
    | .send object => d.send object
    | .dispatch response => d.dispatch response

instance (d : DialogRequests) : (e : RequestEvent) → Decidable (dialogRequests.enabled d e)
  | .makeRequest _ _ => inferInstanceAs (Decidable (_ ∧ _ ∧ _))
  | .queue _ => inferInstanceAs (Decidable (_ ∧ _))
  | .setRequestNextCSeq _ => inferInstanceAs (Decidable (_ ∧ _))
  | .makeAck _ => isTrue trivial
  | .send object => inferInstanceAs (Decidable (object < d.objects))
  | .dispatch _ => isTrue trivial

/-- What is remembered of a run: the object that was numbered last, until it is sent, and the
numbers of requests sent for which a provisional or a final response came. -/
structure RequestHistory where
  unsent : Option ℕ
  provisional : List ℕ
  final : List ℕ

namespace RequestHistory

/-- A request goes out under a number: no response that came before is one to it. -/
def sentAs (h : RequestHistory) (sequence : ℕ) : RequestHistory :=
  ⟨none, h.provisional.filter (· ≠ sequence), h.final.filter (· ≠ sequence)⟩

def respond (h : RequestHistory) (r : DialogResponse) : RequestHistory :=
  if r.isFinal then { h with final := r.sequence :: h.final }
  else { h with provisional := r.sequence :: h.provisional }

end RequestHistory

def updateHistory (d : DialogRequests) (e : RequestEvent) (h : RequestHistory) : RequestHistory :=
  match e with
  | .makeRequest object _ => { h with unsent := some object }
  | .setRequestNextCSeq object => { h with unsent := some object }
  | .queue _ => h
  | .makeAck _ => h
  | .send object =>
    if (d.messages object).method ≠ .ack then h.sentAs (d.messages object).sequence else h
  | .dispatch response =>
    match d.mRequests response.sequence with
    | none => h.respond response
    | some object =>
      if response.challenges then (h.respond response).sentAs ((d.messages object).sequence + 1)
      else h.respond response

abbrev RequestRun := DialogRequests × RequestHistory

def requestRuns : System RequestRun RequestEvent :=
  dialogRequests.observe ⟨none, [], []⟩ updateHistory

instance (p : RequestRun) (e : RequestEvent) : Decidable (requestRuns.enabled p e) :=
  inferInstanceAs (Decidable (dialogRequests.enabled p.1 e))

/-- The numbers of the requests other than ACK, in the order in which they were sent. -/
def numbers (sent : List RequestMessage) : List ℕ :=
  (sent.filter (·.method ≠ .ack)).map (·.sequence)

/-- A challenge for which there are credentials, the first final response to a request, makes the
request go out again. -/
def SentAgain (p : RequestRun) (e : RequestEvent) : Prop :=
  ∀ response, e = .dispatch response → response.challenges →
    ∀ msg ∈ p.1.sent, msg.method ≠ .ack → msg.sequence = response.sequence →
      response.sequence ∉ p.2.final →
      ∃ sequence, (requestRuns.next p e).1.sent = p.1.sent ++ [{ msg with sequence := sequence }]

/-- A request is sent before another one is numbered, and the request that is challenged is the
last one numbered, with no provisional response to it before. -/
def Undisturbed (p : RequestRun) (e : RequestEvent) : Prop :=
  match e with
  | .send object => (p.1.messages object).method ≠ .ack → p.2.unsent = some object
  | .dispatch response => response.challenges → response.sequence ∈ numbers p.1.sent →
      response.sequence ∉ p.2.final →
      response.sequence = p.1.mLocalCSeq ∧ response.sequence ∉ p.2.provisional
  | _ => True

instance (p : RequestRun) : (e : RequestEvent) → Decidable (Undisturbed p e)
  | .makeRequest _ _ => isTrue trivial
  | .queue _ => isTrue trivial
  | .setRequestNextCSeq _ => isTrue trivial
  | .makeAck _ => isTrue trivial
  | .send _ => inferInstanceAs (Decidable (_ → _))
  | .dispatch _ => inferInstanceAs (Decidable (_ → _ → _ → _))

/-- Only the last number can be pending: it is that of the request numbered and not yet sent, or of
the last request sent, which is then kept under it as it was sent. -/
structure Numbered (p : RequestRun) : Prop where
  increasing : (numbers p.1.sent).Pairwise (· < ·)
  below : ∀ n ∈ numbers p.1.sent, n ≤ p.1.mLocalCSeq
  unsent : ∀ object, p.2.unsent = some object →
    object < p.1.objects ∧ (p.1.messages object).sequence = p.1.mLocalCSeq ∧
      p.1.mLocalCSeq ∉ numbers p.1.sent
  kept : ∀ n object, p.1.mRequests n = some object →
    object < p.1.objects ∧ n ∈ numbers p.1.sent ∧ n ∉ p.2.provisional ∧ n ∉ p.2.final
  last : ∀ msg ∈ p.1.sent, msg.method ≠ .ack → msg.sequence = p.1.mLocalCSeq →
    p.1.mLocalCSeq ∉ p.2.provisional → p.1.mLocalCSeq ∉ p.2.final →
    ∃ object, p.1.mRequests p.1.mLocalCSeq = some object ∧ p.1.messages object = msg

lemma mem_numbers {sent : List RequestMessage} {n : ℕ} :
    n ∈ numbers sent ↔ ∃ msg ∈ sent, msg.method ≠ .ack ∧ msg.sequence = n := by
  simp [numbers, and_assoc]

lemma numbers_append (sent : List RequestMessage) (msg : RequestMessage) :
    numbers (sent ++ [msg]) =
      numbers sent ++ if msg.method ≠ .ack then [msg.sequence] else [] := by
  by_cases h : msg.method = .ack <;> simp [numbers, h]

namespace Numbered
variable {p : RequestRun}

lemma create (mLocalCSeq : ℕ) : Numbered (.create mLocalCSeq, ⟨none, [], []⟩) where
  increasing := List.Pairwise.nil
  below n hn := by cases hn
  unsent object h := by cases h
  kept n object h := by cases h
  last msg h := by cases h

/-- A number is given away: what was sent before stays below it. -/
lemma renumber (h : Numbered p) {d : DialogRequests} {object : ℕ} (hsent : d.sent = p.1.sent)
    (hrequests : d.mRequests = p.1.mRequests) (hnext : d.mLocalCSeq = p.1.mLocalCSeq + 1)
    (hobjects : p.1.objects ≤ d.objects) (hobject : object < d.objects)
    (hsequence : (d.messages object).sequence = d.mLocalCSeq) :
    Numbered (d, { p.2 with unsent := some object }) where
  increasing := by
    change (numbers d.sent).Pairwise _
    rw [hsent]
    exact h.increasing
  below n hn := by
    change n ∈ numbers d.sent at hn
    change n ≤ d.mLocalCSeq
    rw [hsent] at hn
    have hle := h.below n hn
    omega
  unsent := by
    rintro other hother
    cases hother
    refine ⟨hobject, hsequence, fun hmem => ?_⟩
    change d.mLocalCSeq ∈ numbers d.sent at hmem
    rw [hsent] at hmem
    have hle := h.below _ hmem
    omega
  kept n other hkept := by
    change d.mRequests n = some other at hkept
    rw [hrequests] at hkept
    obtain ⟨hlt, hmem, hrest⟩ := h.kept n other hkept
    refine ⟨hlt.trans_le hobjects, ?_, hrest⟩
    change n ∈ numbers d.sent
    rwa [hsent]
  last := by
    intro msg hmsg hmethod hlast
    change msg ∈ d.sent at hmsg
    change msg.sequence = d.mLocalCSeq at hlast
    rw [hsent] at hmsg
    have hle := h.below _ (mem_numbers.mpr ⟨msg, hmsg, hmethod, rfl⟩)
    omega

lemma setRequestNextCSeq (h : Numbered p) {object : ℕ} (hobject : object < p.1.objects) :
    Numbered (p.1.setRequestNextCSeq object, { p.2 with unsent := some object }) :=
  h.renumber rfl rfl rfl le_rfl hobject (by simp [DialogRequests.setRequestNextCSeq])

lemma makeRequest (h : Numbered p) (object : ℕ) (method : MethodTypes) :
    Numbered (p.1.makeRequest object method, { p.2 with unsent := some object }) :=
  h.renumber rfl rfl rfl (le_max_left _ _)
    (Nat.lt_of_succ_le (le_max_right p.1.objects (object + 1)))
    (by simp [DialogRequests.makeRequest, DialogRequests.setRequestNextCSeq])

/-- A message in an object of its own. -/
lemma put_new (h : Numbered p) (method : MethodTypes) (sequence : ℕ) :
    Numbered (p.1.put p.1.objects method sequence, p.2) := by
  have hother : ∀ object < p.1.objects,
      (p.1.put p.1.objects method sequence).messages object = p.1.messages object := by
    intro object hobject
    simp [DialogRequests.put, Function.update_of_ne hobject.ne]
  have hgrow : p.1.objects ≤ (p.1.put p.1.objects method sequence).objects := le_max_left _ _
  refine ⟨h.increasing, h.below, fun object hunsent => ?_, fun n object hkept => ?_, ?_⟩
  · obtain ⟨hobject, hsequence, hnot⟩ := h.unsent object hunsent
    exact ⟨hobject.trans_le hgrow, by rw [hother object hobject]; exact hsequence, hnot⟩
  · obtain ⟨hobject, hrest⟩ := h.kept n object hkept
    exact ⟨hobject.trans_le hgrow, hrest⟩
  · intro msg hmsg hmethod hsequence hprovisional hfinal
    obtain ⟨object, hkept, heq⟩ := h.last msg hmsg hmethod hsequence hprovisional hfinal
    exact ⟨object, hkept, by rw [hother object (h.kept _ _ hkept).1]; exact heq⟩

lemma sendAck (h : Numbered p) {object : ℕ} (hmethod : (p.1.messages object).method = .ack) :
    Numbered (p.1.send object, p.2) := by
  have hsent : numbers (p.1.send object).sent = numbers p.1.sent := by
    simp [DialogRequests.send, numbers_append, hmethod]
  have hrequests : (p.1.send object).mRequests = p.1.mRequests := by
    simp [DialogRequests.send, hmethod]
  refine ⟨?_, ?_, ?_, ?_, ?_⟩
  · simpa only [hsent] using h.increasing
  · simpa only [hsent, DialogRequests.mLocalCSeq_send] using h.below
  · simpa only [hsent, DialogRequests.mLocalCSeq_send, DialogRequests.objects_send,
      DialogRequests.messages_send] using h.unsent
  · simpa only [hsent, hrequests, DialogRequests.objects_send] using h.kept
  · intro msg hmsg hother
    rcases List.mem_append.mp hmsg with hmsg | hmsg
    · simpa only [hrequests, DialogRequests.mLocalCSeq_send, DialogRequests.messages_send]
        using h.last msg hmsg hother
    · rw [List.mem_singleton.mp hmsg] at hother
      exact absurd hmethod hother

/-- The request that was numbered last goes out, the first one under this number. -/
lemma sendNumbered (h : Numbered p) {object : ℕ} (hmethod : (p.1.messages object).method ≠ .ack)
    (hunsent : p.2.unsent = some object) :
    Numbered (p.1.send object, p.2.sentAs (p.1.messages object).sequence) := by
  obtain ⟨hobject, hsequence, hnot⟩ := h.unsent object hunsent
  have hsent : numbers (p.1.send object).sent = numbers p.1.sent ++ [p.1.mLocalCSeq] := by
    simp [DialogRequests.send, numbers_append, hmethod, hsequence]
  have hrequests : (p.1.send object).mRequests =
      Function.update p.1.mRequests p.1.mLocalCSeq (some object) := by
    simp [DialogRequests.send, hmethod, hsequence]
  have hbelow : ∀ n ∈ numbers p.1.sent, n < p.1.mLocalCSeq := fun n hn =>
    lt_of_le_of_ne (h.below n hn) fun heq => hnot (heq ▸ hn)
  rw [hsequence]
  refine ⟨?_, ?_, fun other hother => (Option.some_ne_none other hother.symm).elim, ?_, ?_⟩
  · change (numbers (p.1.send object).sent).Pairwise (· < ·)
    rw [hsent, List.pairwise_append]
    refine ⟨h.increasing, List.pairwise_singleton _ _, fun n hn m hm => ?_⟩
    rw [List.mem_singleton.mp hm]
    exact hbelow n hn
  · intro n hn
    change n ∈ numbers (p.1.send object).sent at hn
    rw [hsent, List.mem_append, List.mem_singleton] at hn
    rcases hn with hn | rfl
    · exact h.below n hn
    · exact le_rfl
  · intro n other hkept
    change (p.1.send object).mRequests n = some other at hkept
    change other < p.1.objects ∧ n ∈ numbers (p.1.send object).sent ∧
      n ∉ p.2.provisional.filter (· ≠ p.1.mLocalCSeq) ∧ n ∉ p.2.final.filter (· ≠ p.1.mLocalCSeq)
    rw [hrequests] at hkept
    rw [hsent]
    by_cases hn : n = p.1.mLocalCSeq
    · rw [hn, Function.update_self, Option.some.injEq] at hkept
      exact ⟨hkept ▸ hobject, by simp [hn], by simp [hn], by simp [hn]⟩
    · rw [Function.update_of_ne hn] at hkept
      obtain ⟨hlt, hmem, hprovisional, hfinal⟩ := h.kept n other hkept
      exact ⟨hlt, List.mem_append_left _ hmem, fun hin => hprovisional (List.mem_of_mem_filter hin),
        fun hin => hfinal (List.mem_of_mem_filter hin)⟩
  · intro msg hmsg hother hlast _ _
    rcases List.mem_append.mp hmsg with hmsg | hmsg
    · have hlt := hbelow _ (mem_numbers.mpr ⟨msg, hmsg, hother, rfl⟩)
      exact absurd hlast hlt.ne
    · refine ⟨object, ?_, (List.mem_singleton.mp hmsg).symm⟩
      change (p.1.send object).mRequests p.1.mLocalCSeq = some object
      rw [hrequests, Function.update_self]

/-- A response takes the request it answers out of the table. -/
lemma respond (h : Numbered p) (r : DialogResponse) :
    Numbered (p.1.erase r.sequence, p.2.respond r) := by
  have hunsent : (p.2.respond r).unsent = p.2.unsent := by
    unfold RequestHistory.respond
    split <;> rfl
  have hmem : ∀ n ≠ r.sequence, (n ∈ (p.2.respond r).provisional ↔ n ∈ p.2.provisional) ∧
      (n ∈ (p.2.respond r).final ↔ n ∈ p.2.final) := by
    intro n hn
    unfold RequestHistory.respond
    split <;> simp [hn]
  have hin : r.sequence ∈ (p.2.respond r).provisional ∨ r.sequence ∈ (p.2.respond r).final := by
    unfold RequestHistory.respond
    split <;> simp
  refine ⟨h.increasing, h.below, fun object hobject => ?_, fun n object hkept => ?_, ?_⟩
  · exact h.unsent object (hunsent ▸ hobject)
  · change Function.update p.1.mRequests r.sequence none n = some object at hkept
    by_cases hn : n = r.sequence
    · rw [hn, Function.update_self] at hkept
      cases hkept
    · rw [Function.update_of_ne hn] at hkept
      obtain ⟨hlt, hnumber, hprovisional, hfinal⟩ := h.kept n object hkept
      exact ⟨hlt, hnumber, fun hin => hprovisional ((hmem n hn).1.mp hin),
        fun hin => hfinal ((hmem n hn).2.mp hin)⟩
  · intro msg hmsg hmethod hlast hprovisional hfinal
    change p.1.mLocalCSeq ∉ _ at hprovisional hfinal
    have hn : p.1.mLocalCSeq ≠ r.sequence := by
      intro heq
      rw [heq] at hprovisional hfinal
      exact hin.elim hprovisional hfinal
    obtain ⟨object, hkept, heq⟩ := h.last msg hmsg hmethod hlast
      (fun hin => hprovisional ((hmem _ hn).1.mpr hin)) (fun hin => hfinal ((hmem _ hn).2.mpr hin))
    refine ⟨object, ?_, heq⟩
    change Function.update p.1.mRequests r.sequence none p.1.mLocalCSeq = some object
    rw [Function.update_of_ne hn, hkept]

/-- The request kept under the last number is the one that was sent with it. -/
lemma last_message (h : Numbered p) {object : ℕ}
    (hkept : p.1.mRequests p.1.mLocalCSeq = some object) :
    p.1.messages object ∈ p.1.sent ∧ (p.1.messages object).method ≠ .ack ∧
      (p.1.messages object).sequence = p.1.mLocalCSeq := by
  obtain ⟨-, hnumber, hprovisional, hfinal⟩ := h.kept _ _ hkept
  obtain ⟨msg, hmsg, hmethod, hsequence⟩ := mem_numbers.mp hnumber
  obtain ⟨other, hkept', rfl⟩ := h.last msg hmsg hmethod hsequence hprovisional hfinal
  rw [hkept, Option.some.injEq] at hkept'
  rw [hkept']
  exact ⟨hmsg, hmethod, hsequence⟩

lemma sentAs_respond (history : RequestHistory) {r : DialogResponse} {sequence : ℕ}
    (hne : r.sequence ≠ sequence) :
    (history.respond r).sentAs sequence = (history.sentAs sequence).respond r := by
  unfold RequestHistory.respond
  split <;> simp [RequestHistory.sentAs, hne]

/-- The last request is challenged and goes out again with the next number. -/
lemma challenged (h : Numbered p) {r : DialogResponse} {object : ℕ}
    (hkept : p.1.mRequests r.sequence = some object) (hlast : r.sequence = p.1.mLocalCSeq) :
    Numbered ((p.1.sendAgain object).erase r.sequence,
      (p.2.respond r).sentAs ((p.1.messages object).sequence + 1)) := by
  rw [hlast] at hkept
  obtain ⟨-, hmethod, hsequence⟩ := h.last_message hkept
  have hnumbered : Numbered ({ p.1 with
      messages := Function.update p.1.messages object
        { p.1.messages object with sequence := (p.1.messages object).sequence + 1 }
      mLocalCSeq := p.1.mLocalCSeq + 1 }, { p.2 with unsent := some object }) :=
    h.renumber rfl rfl rfl le_rfl (h.kept _ _ hkept).1 (by simp [hsequence])
  have hsent := hnumbered.sendNumbered (by simpa using hmethod) rfl
  rw [sentAs_respond _ (by omega)]
  have hfinal := hsent.respond r
  simpa [DialogRequests.sendAgain, RequestHistory.sentAs] using hfinal

lemma dispatch (h : Numbered p) {r : DialogResponse} (hu : Undisturbed p (.dispatch r)) :
    Numbered (requestRuns.next p (.dispatch r)) := by
  change Numbered (p.1.dispatch r, updateHistory p.1 (.dispatch r) p.2)
  cases hkept : p.1.mRequests r.sequence with
  | none =>
    have herase : p.1.erase r.sequence = p.1 := by
      simp [DialogRequests.erase, ← hkept]
    have hrespond := h.respond r
    rw [herase] at hrespond
    simpa only [DialogRequests.dispatch, updateHistory, hkept] using hrespond
  | some object =>
    simp only [DialogRequests.dispatch, updateHistory, hkept]
    cases hchallenge : r.challenges with
    | false => simpa using h.respond r
    | true =>
      obtain ⟨-, hnumber, -, hfinal⟩ := h.kept _ _ hkept
      simpa using h.challenged hkept (hu hchallenge hnumber hfinal).1

lemma step (h : Numbered p) {e : RequestEvent} (he : requestRuns.enabled p e)
    (hu : Undisturbed p e) : Numbered (requestRuns.next p e) := by
  cases e with
  | makeRequest object method => exact h.makeRequest object method
  | queue method => exact h.put_new method 0
  | setRequestNextCSeq object => exact h.setRequestNextCSeq he.1
  | makeAck sequence => exact h.put_new .ack sequence
  | send object =>
    change Numbered (p.1.send object, updateHistory p.1 (.send object) p.2)
    by_cases hmethod : (p.1.messages object).method = .ack
    · simpa only [updateHistory, hmethod, ne_eq, not_true_eq_false, if_false] using
        h.sendAck hmethod
    · simpa only [updateHistory, hmethod, ne_eq, not_false_eq_true, if_true] using
        h.sendNumbered hmethod (hu hmethod)
  | dispatch r => exact h.dispatch hu

lemma sentAgain (h : Numbered p) {e : RequestEvent} (hu : Undisturbed p e) : SentAgain p e := by
  rintro r rfl hchallenge msg hmsg hmethod hsequence hfinal
  have hnumber := mem_numbers.mpr ⟨msg, hmsg, hmethod, hsequence⟩
  obtain ⟨hlast, hprovisional⟩ := hu hchallenge hnumber hfinal
  rw [hlast] at hsequence hfinal hprovisional
  obtain ⟨object, hkept, heq⟩ := h.last msg hmsg hmethod hsequence hprovisional hfinal
  refine ⟨p.1.mLocalCSeq + 1, ?_⟩
  change (p.1.dispatch r).sent = _
  rw [← hlast] at hkept
  simp [DialogRequests.dispatch, hkept, hchallenge, DialogRequests.sendAgain, DialogRequests.send,
    DialogRequests.erase, heq, hsequence]

end Numbered

/-- A dialog that has sent nothing yet. -/
def newDialog : RequestRun := (.create 1, ⟨none, [], []⟩)

lemma reach_newDialog {ok : RequestRun → RequestEvent → Prop} : Reach requestRuns ok newDialog :=
  .init ⟨⟨1, rfl⟩, rfl⟩

end Resiprocate.Dum
