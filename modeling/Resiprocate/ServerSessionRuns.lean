import Resiprocate.ServerInviteSession
import Resiprocate.TransitionSystem
import Resiprocate.ProgramLogic

/-! Runs of a callee's session, and the responses that they send to the INVITE that created it. -/
namespace Resiprocate.Dum
open TransitionSystem ProgramLogic
open Transaction (MethodTypes)

/-- What can happen to a session: a message or a timer, the end of a callback, and the calls of the
application, which it may also make from a callback. -/
inductive ServerEvent (γ : Type*)
  | message (msg : SessionMessage γ)
  | timer (timeout : SessionTimer)
  | resume
  | provisional (code : ℕ) (earlyFlag : Bool)
  | provideOffer (offer : γ) (sendOfferAtAccept : Bool)
  | requestOffer
  | provideAnswer (answer : γ)
  | accept (code : ℕ)
  | reject (code : ℕ)
  | redirect (code : ℕ)
  | endSession
  | targetRefresh
  deriving DecidableEq

/-- The messages that a dialog has for its session. -/
def SessionMessage.routed {γ : Type*} (msg : SessionMessage γ) : Bool :=
  match msg.method with
  | .ack => msg.isRequest
  | .invite | .bye | .update | .info | .message | .prack | .cancel =>
    msg.isRequest || (100 ≤ msg.statusCode && msg.statusCode < 700)
  | _ => false

/-- The INVITEs that the user agent makes a session for. -/
def admitted {γ : Type*} (profile : SessionProfile) (msg : SessionMessage γ) : Bool :=
  msg.method = .invite && msg.isRequest &&
    match profile.uasReliableProvisionalMode with
    | .Never => !msg.requires100rel
    | .Required => msg.requires100rel || msg.supports100rel
    | _ => true

namespace ServerInviteSession
variable {γ : Type*}

def step [DecidableEq γ] (s : ServerInviteSession γ) :
    ServerEvent γ → Outcome (ServerInviteSession γ)
  | .message msg => s.dispatch msg
  | .timer timeout => { s with timers := s.timers.erase timeout }.dispatchTimer timeout
  | .resume => s.resume
  | .provisional code earlyFlag => s.provisional code earlyFlag
  | .provideOffer offer sendOfferAtAccept => s.provideOffer offer sendOfferAtAccept
  | .requestOffer => s.requestOffer
  | .provideAnswer answer => s.provideAnswer answer
  | .accept code => s.accept code
  | .reject code => s.reject code
  | .redirect code => s.redirect code
  | .endSession => s.endSession
  | .targetRefresh => s.targetRefresh

/-- Messages and timers wait until a handler has returned. The two session timers run from the 2xx
on. Each call of the application has a code of its class. -/
def allowed (s : ServerInviteSession γ) : ServerEvent γ → Bool
  | .message msg => s.frames.isEmpty && msg.routed
  | .timer timeout => s.frames.isEmpty && (timeout ∈ s.timers ||
      (s.mInvite200.isSome &&
        (timeout.type = .SessionExpiration || timeout.type = .SessionRefresh)))
  | .provisional code _ => 100 ≤ code && code < 200
  | .accept code => 200 ≤ code && code < 300
  | .redirect code => 300 ≤ code && code < 400
  | .reject code => 400 ≤ code && code < 700
  | _ => true

/-- A session runs from the dispatch of its INVITE on. -/
def runs (γ : Type*) [DecidableEq γ] : System (ServerInviteSession γ) (ServerEvent γ) where
  init s := ∃ profile request, admitted profile request ∧
    (create profile request).dispatchStart request = .ok s
  enabled s e := s.allowed e ∧ (s.step e).isOk
  next s e := (s.step e).toOption.getD s

instance [DecidableEq γ] (s : ServerInviteSession γ) (e : ServerEvent γ) :
    Decidable ((runs γ).enabled s e) :=
  inferInstanceAs (Decidable (_ ∧ _))

lemma step_eq_next [DecidableEq γ] {s : ServerInviteSession γ} {e : ServerEvent γ}
    (h : (runs γ).enabled s e) : s.step e = .ok ((runs γ).next s e) := by
  have hok := h.2
  show s.step e = .ok ((s.step e).toOption.getD s)
  cases hs : s.step e with
  | error f => simp [hs, Except.isOk, Except.toBool] at hok
  | ok s' => rfl

lemma next_eq [DecidableEq γ] {s s' : ServerInviteSession γ} {e : ServerEvent γ}
    (h : s.step e = .ok s') : (runs γ).next s e = s' := by
  show (s.step e).toOption.getD s = s'
  rw [h]
  rfl

/-- A run keeps what every step keeps. -/
theorem invariant [DecidableEq γ] {ok : ServerInviteSession γ → ServerEvent γ → Prop}
    {P : ServerInviteSession γ → Prop}
    (hi : ∀ profile request, admitted profile request →
      Yields ((create profile request).dispatchStart request) P)
    (hs : ∀ s e, P s → s.allowed e → ok s e → Yields (s.step e) P)
    {s : ServerInviteSession γ} (h : Reach (runs γ) ok s) : P s := by
  refine h.invariant ?_ ?_
  · rintro s ⟨profile, request, ha, hr⟩
    exact hi profile request ha s hr
  · intro s e _ hP he ho
    exact hs s e hP he.1 ho _ (step_eq_next he)

end ServerInviteSession

/-! ### Concrete runs -/

/-- A request of a peer that knows 100rel and UPDATE. -/
def SessionMessage.plain (method : MethodTypes) (sequence : ℕ) (body : Option ℕ) :
    SessionMessage ℕ :=
  ⟨method, 0, sequence, sequence, body, true, false, none, ⟨0, 0, .unknown⟩, none, some true⟩

def SessionProfile.plain (mode : ReliableProvisionalMode) : SessionProfile :=
  ⟨mode, .Supported, true, false, 60, 150⟩

/-- The session of an INVITE with this body, in a user agent with this mode. -/
def ServerInviteSession.started (mode : ReliableProvisionalMode) (body : Option ℕ) :
    ServerInviteSession ℕ :=
  let request := SessionMessage.plain .invite 1 body
  let created := create (.plain mode) request
  (created.dispatchStart request).toOption.getD created

lemma ServerInviteSession.init_started (mode : ReliableProvisionalMode) (body : Option ℕ) :
    (runs ℕ).init (started mode body) := by
  refine ⟨.plain mode, .plain .invite 1 body, ?_, ?_⟩
  · cases mode <;> rfl
  · cases mode <;> cases body <;> rfl

lemma ServerInviteSession.reach_started {mode : ReliableProvisionalMode} {body : Option ℕ}
    {ok : ServerInviteSession ℕ → ServerEvent ℕ → Prop} :
    Reach (runs ℕ) ok (started mode body) :=
  .init (init_started mode body)

/-! ### Responses to the first INVITE -/

def firstResponse {γ : Type*} : Effect γ → Option (SentResponse γ)
  | .response r => if r.request = .first then some r else none
  | _ => none

/-- The responses to the INVITE that created the session, the latest first. -/
def firstResponses {γ : Type*} (trace : List (Effect γ)) : List (SentResponse γ) :=
  trace.filterMap firstResponse

section FirstResponses
variable {γ : Type*} (trace : List (Effect γ))

@[simp] lemma firstResponses_nil : firstResponses ([] : List (Effect γ)) = [] := rfl

@[simp] lemma firstResponses_callback (c : Callback γ) :
    firstResponses (.callback c :: trace) = firstResponses trace := rfl

@[simp] lemma firstResponses_request (method : MethodTypes) (sequence : ℕ) (body : Option γ) :
    firstResponses (.request method sequence body :: trace) = firstResponses trace := rfl

@[simp] lemma firstResponses_exception :
    firstResponses (.exception :: trace) = firstResponses trace := rfl

lemma firstResponses_response (r : SentResponse γ) :
    firstResponses (.response r :: trace) =
      if r.request = .first then r :: firstResponses trace else firstResponses trace := by
  by_cases h : r.request = .first <;> simp [firstResponses, firstResponse, h]

@[simp] lemma firstResponses_later (r : SentResponse γ) (h : r.request ≠ .first) :
    firstResponses (.response r :: trace) = firstResponses trace := by
  rw [firstResponses_response, if_neg h]

@[simp] lemma firstResponses_first (r : SentResponse γ) (h : r.request = .first) :
    firstResponses (.response r :: trace) = r :: firstResponses trace := by
  rw [firstResponses_response, if_pos h]

@[simp] lemma SessionMessage.ref_ne_first (msg : SessionMessage γ) : msg.ref ≠ .first := nofun

end FirstResponses

end Resiprocate.Dum
