import Resiprocate.Uri

/-! The assignment of a `Uri` and the embedded headers that are left in force: those of the right side
if it has a message, else those of a message on the left side, else the texts. -/
namespace Resiprocate.Stack.Uri
open Rutil DnsUtil

variable {M : Type} {message : EmbeddedMessage M} {u rhs : Uri M}

/-- What is in force after an assignment is in force in `rhs`, or it writes the same. -/
def EmbeddedAssigned (message : EmbeddedMessage M) (u rhs : Uri M) : Prop :=
  rhs.mEmbeddedHeaders.isSome ∨ u.mEmbeddedHeaders = none ∧ rhs.mEmbeddedHeadersText.isSome ∨
    encodeEmbeddedHeaders message u = encodeEmbeddedHeaders message rhs

theorem encodeEmbeddedHeaders_assign_message (h : rhs.mEmbeddedHeaders.isSome) :
    encodeEmbeddedHeaders message (assign u rhs) = encodeEmbeddedHeaders message rhs := by
  obtain ⟨m, hm⟩ := Option.isSome_iff_exists.mp h
  simp only [encodeEmbeddedHeaders, assign, hm]

theorem encodeEmbeddedHeaders_assign_text (hrhs : rhs.mEmbeddedHeaders = none)
    (hu : u.mEmbeddedHeaders = none) (h : rhs.mEmbeddedHeadersText.isSome) :
    encodeEmbeddedHeaders message (assign u rhs) = encodeEmbeddedHeaders message rhs := by
  obtain ⟨text, htext⟩ := Option.isSome_iff_exists.mp h
  simp only [encodeEmbeddedHeaders, assign, hrhs, hu, htext]

/-- In the other cases what `u` has stays in force. -/
theorem encodeEmbeddedHeaders_assign_kept (hrhs : rhs.mEmbeddedHeaders = none)
    (h : u.mEmbeddedHeaders ≠ none ∨ rhs.mEmbeddedHeadersText = none) :
    encodeEmbeddedHeaders message (assign u rhs) = encodeEmbeddedHeaders message u := by
  cases hu : u.mEmbeddedHeaders with
  | some m => simp only [encodeEmbeddedHeaders, assign, hrhs, hu]
  | none =>
    have htext : rhs.mEmbeddedHeadersText = none := h.resolve_left fun hne => hne hu
    simp only [encodeEmbeddedHeaders, assign, hrhs, hu, htext]

theorem encodeEmbeddedHeaders_assign :
    encodeEmbeddedHeaders message (assign u rhs) = encodeEmbeddedHeaders message rhs ↔
      EmbeddedAssigned message u rhs := by
  unfold EmbeddedAssigned
  by_cases hmessage : rhs.mEmbeddedHeaders.isSome
  · simp only [encodeEmbeddedHeaders_assign_message hmessage, hmessage, true_or]
  have hrhs : rhs.mEmbeddedHeaders = none := by simpa using hmessage
  by_cases htext : u.mEmbeddedHeaders = none ∧ rhs.mEmbeddedHeadersText.isSome
  · simp only [encodeEmbeddedHeaders_assign_text hrhs htext.1 htext.2, htext, and_self, true_or, or_true]
  · have hkept : u.mEmbeddedHeaders ≠ none ∨ rhs.mEmbeddedHeadersText = none := by
      rw [not_and_or] at htext
      exact htext.imp_right fun h => by simpa using h
    rw [encodeEmbeddedHeaders_assign_kept hrhs hkept, or_iff_right hmessage, or_iff_right htext]

/-- A `Uri` whose fields are parsed is assigned with all that is written before the embedded headers. -/
theorem encodeAddress_assign (hparsed : rhs.mState ≠ .NOT_PARSED) :
    encodeAddress (assign u rhs) = encodeAddress rhs := by
  simp only [encodeAddress, encodeParameters, assign, if_neg hparsed]

theorem encodeParsed_assign (hparsed : rhs.mState ≠ .NOT_PARSED) :
    encodeParsed message (assign u rhs) = encodeParsed message rhs ↔ EmbeddedAssigned message u rhs := by
  rw [encodeParsed, encodeParsed, encodeAddress_assign hparsed, List.append_cancel_left_eq]
  exact encodeEmbeddedHeaders_assign

/-- After `u = rhs`, `u` is written as `rhs` is exactly if `rhs` is written as it was read or what it
embeds is what is in force. -/
theorem assign_encode (message : EmbeddedMessage M) (u rhs : Uri M) :
    encode message (assign u rhs) = encode message rhs ↔
      rhs.mState ≠ .DIRTY ∨ EmbeddedAssigned message u rhs := by
  by_cases hdirty : rhs.mState = .DIRTY
  · have hparsed : rhs.mState ≠ .NOT_PARSED := by rw [hdirty]; decide
    have hstate : (assign u rhs).mState = .DIRTY := hdirty
    rw [encode, encode, if_pos hstate, if_pos hdirty, encodeParsed_assign hparsed]
    simp only [hdirty, ne_eq, not_true_eq_false, false_or]
  · have hstate : (assign u rhs).mState ≠ .DIRTY := hdirty
    have hfield : (assign u rhs).mHeaderField = rhs.mHeaderField := if_neg hdirty
    rw [encode, encode, if_neg hstate, if_neg hdirty, hfield]
    exact iff_of_true rfl (.inl hdirty)

/-- Messages of which none is made in what follows. -/
def noMessages : EmbeddedMessage Unit := ⟨(), fun _ _ _ => (), fun _ _ => (), fun _ => []⟩

/-- The text that `a` embeds stays when `b`, which embeds nothing, is assigned to it. -/
theorem not_assign_encode : ∃ a b : Uri Unit,
    ofData .noAddresses (literal "sip:a@h?Subject=x") = .ok a ∧
    ofData .noAddresses (literal "sip:b@h") = .ok b ∧
    encode noMessages b = literal "sip:b@h" ∧
    encode noMessages (assign a b) = literal "sip:b@h?Subject=x" :=
  ⟨parsed .noAddresses (literal "sip:a@h?Subject=x"), parsed .noAddresses (literal "sip:b@h"),
    by decide +kernel⟩

end Resiprocate.Stack.Uri
