import Resiprocate.DnsQuery
import Resiprocate.Faults

/-! Which answers are read inside their buffer: those in which every record that is reached has its
fixed part in the buffer, and in which the records that are collected are not none. -/
namespace Resiprocate.Dns
open BigEndian (value)
open Faults

/-- A read past the buffer, a failed assertion on the expiry of a failure, or the first of no
overlays. -/
def DnsStop.isRead : DnsStop → Bool
  | .outOfBounds | .ttlAssertion | .emptyOverlays => true
  | .thrown _ | .factoryAssertion | .emptyRecords | .statusAssertion | .typeAssertion => false

theorem DnsStop.isRead_thrown (message : String) : (DnsStop.thrown message).isRead = false := rfl

namespace DnsMessage
section Records
variable {δ : Type} (m : DnsMessage δ) (cfg : DnsConfig)

/-! ### Records of a section -/

def valueAt (p n : ℕ) : ℕ := value ((m.bytes.drop p).take n)

/-- Where `n` questions end. -/
def questionsAt : ℕ → ℕ → Option ℕ
  | 0, p => some p
  | n + 1, p =>
    match m.expandName p with
    | none => none
    | some (_, len) =>
      if m.alen < p + len + QFIXEDSZ then none else questionsAt n (p + len + QFIXEDSZ)

/-- The fixed part of a record is in the buffer if its name is. -/
def FixedPartInside (p : ℕ) : Prop :=
  ∀ name len, m.expandName p = some (name, len) → p + len + RRFIXEDSZ ≤ m.alen

/-- Where a record ends, and whether it is collected. A record is refused if it has no name, or if
its data is to be collected and is not in the buffer. -/
def recordAt (discard : Bool) (p : ℕ) : Option (ℕ × Bool) :=
  match m.expandName p with
  | none => none
  | some (_, len) =>
    let next := p + len + RRFIXEDSZ + m.valueAt (p + len + 8) 2
    let kept := cfg.supportedType (m.valueAt (p + len) 2) && !discard
    if kept ∧ m.alen < next then none else some (next, kept)

/-- Every record of a section that is reached has its fixed part in the buffer. -/
def SectionInside (discard : Bool) : ℕ → ℕ → Prop
  | 0, _ => True
  | n + 1, p =>
    m.FixedPartInside p ∧
      ∀ next kept, m.recordAt cfg discard p = some (next, kept) → SectionInside discard n next

/-- Where a section ends, and whether a record of it is collected. -/
def sectionAt (discard : Bool) : ℕ → ℕ → Option (ℕ × Bool)
  | 0, p => some (p, false)
  | n + 1, p =>
    match m.recordAt cfg discard p with
    | none => none
    | some (next, kept) =>
      match sectionAt discard n next with
      | none => none
      | some (last, others) => some (last, kept || others)

variable {m cfg} {p : ℕ} {discard : Bool}

theorem numberAt_of_le {n : ℕ} (h : p + n ≤ m.alen) : m.numberAt p n = .ok (m.valueAt p n) :=
  if_pos h

theorem numberAt_of_lt {n : ℕ} (h : m.alen < p + n) : m.numberAt p n = .error .outOfBounds :=
  if_neg (by omega)

/-- The overlay of the record at `p`, of which the name is known. -/
def overlayOf (m : DnsMessage δ) (p : ℕ) (name : δ) (len : ℕ) : RROverlay δ where
  mData := p + len + RRFIXEDSZ
  mDataLen := m.valueAt (p + len + 8) 2
  mNameLen := len
  mTTL := m.valueAt (p + len + 4) 4
  mType := m.valueAt (p + len) 2
  mDomain := name

/-- The constructor reads what it has found to be there. -/
theorem overlayAt_eq {name : δ} {len : ℕ} (hname : m.expandName p = some (name, len))
    (hfixed : p + len + RRFIXEDSZ ≤ m.alen) :
    m.overlayAt p =
      if m.alen < p + len + RRFIXEDSZ + m.valueAt (p + len + 8) 2 then
        .error (.thrown "Failed parse of RR")
      else .ok (m.overlayOf p name len) := by
  unfold RRFIXEDSZ at hfixed
  unfold overlayAt
  rw [hname]
  dsimp only
  rw [if_neg (by unfold RRFIXEDSZ; omega), numberAt_of_le (by omega), numberAt_of_le (by omega),
    numberAt_of_le (by omega)]
  rfl

theorem createOverlay_outside (overlays : List (RROverlay δ)) (h : ¬m.FixedPartInside p) :
    m.createOverlay cfg p overlays discard = .error .outOfBounds := by
  simp only [FixedPartInside, RRFIXEDSZ, not_forall, not_le] at h
  obtain ⟨name, len, hname, hlt⟩ := h
  unfold createOverlay
  rw [hname]
  dsimp only
  by_cases htype : p + len + 2 ≤ m.alen
  · rw [numberAt_of_le htype, ok_bind, numberAt_of_lt (by omega)]
    rfl
  · rw [numberAt_of_lt (by omega)]
    rfl

theorem createOverlay_refused (overlays : List (RROverlay δ)) (h : m.FixedPartInside p)
    (hrefused : m.recordAt cfg discard p = none) :
    ∃ message, m.createOverlay cfg p overlays discard = .error (.thrown message) := by
  unfold recordAt at hrefused
  unfold createOverlay
  cases hname : m.expandName p with
  | none => exact ⟨_, rfl⟩
  | some r =>
    obtain ⟨name, len⟩ := r
    have hfixed := h name len hname
    have hinside := hfixed
    unfold RRFIXEDSZ at hinside
    rw [hname] at hrefused
    dsimp only at hrefused ⊢
    split at hrefused
    case isFalse => cases hrefused
    case isTrue hkept =>
      simp only [Bool.and_eq_true] at hkept
      obtain ⟨⟨hsupported, hdiscard⟩, hlt⟩ := hkept
      rw [numberAt_of_le (by omega), ok_bind, numberAt_of_le (by omega), ok_bind, hsupported,
        hdiscard, overlayAt_eq hname hfixed, if_pos hlt]
      exact ⟨_, rfl⟩

theorem createOverlay_eq (overlays : List (RROverlay δ)) {name : δ} {len : ℕ}
    (hname : m.expandName p = some (name, len)) (hfixed : p + len + RRFIXEDSZ ≤ m.alen)
    {next : ℕ} {kept : Bool} (hrecord : m.recordAt cfg discard p = some (next, kept)) :
    m.createOverlay cfg p overlays discard =
      .ok (next, overlays ++ if kept then [m.overlayOf p name len] else []) := by
  unfold recordAt at hrecord
  unfold createOverlay
  have hinside := hfixed
  unfold RRFIXEDSZ at hinside
  rw [hname] at hrecord ⊢
  dsimp only at hrecord ⊢
  rw [numberAt_of_le (by omega), ok_bind, numberAt_of_le (by omega), ok_bind]
  split at hrecord
  · cases hrecord
  case isFalse hkept =>
    simp only [Option.some.injEq, Prod.mk.injEq] at hrecord
    obtain ⟨rfl, rfl⟩ := hrecord
    cases hsupported : cfg.supportedType (m.valueAt (p + len) 2) with
    | false => simp; rfl
    | true =>
      cases discard with
      | true => simp; rfl
      | false =>
        rw [hsupported] at hkept
        have hdata : ¬m.alen < p + len + RRFIXEDSZ + m.valueAt (p + len + 8) 2 := by
          simpa using hkept
        simp only [Bool.not_true, Bool.false_eq_true, if_false, Bool.not_false, if_true]
        rw [overlayAt_eq hname hfixed, if_neg hdata, ok_bind]
        rfl

theorem createOverlay_record (overlays : List (RROverlay δ)) (h : m.FixedPartInside p)
    {next : ℕ} {kept : Bool} (hrecord : m.recordAt cfg discard p = some (next, kept)) :
    ∃ new, m.createOverlay cfg p overlays discard = .ok (next, overlays ++ new) ∧
      new.isEmpty = !kept := by
  cases hname : m.expandName p with
  | none => simp [recordAt, hname] at hrecord
  | some r =>
    refine ⟨_, createOverlay_eq overlays hname (h r.1 r.2 hname) hrecord, ?_⟩
    cases kept <;> rfl

/-! ### Sections -/

theorem createOverlays_inside {n : ℕ} (overlays : List (RROverlay δ))
    (h : m.SectionInside cfg discard n p) :
    (m.sectionAt cfg discard n p = none →
      ∃ message, m.createOverlays cfg discard n p overlays = .error (.thrown message)) ∧
    ∀ last kept, m.sectionAt cfg discard n p = some (last, kept) →
      ∃ new, m.createOverlays cfg discard n p overlays = .ok (last, overlays ++ new) ∧
        new.isEmpty = !kept := by
  induction n generalizing p overlays with
  | zero =>
    refine ⟨nofun, fun last kept hlast => ?_⟩
    obtain ⟨rfl, rfl⟩ := Prod.mk.inj (Option.some.inj hlast)
    exact ⟨[], by simp [createOverlays], rfl⟩
  | succ n ih =>
    obtain ⟨hfixed, hrest⟩ := h
    unfold sectionAt createOverlays
    cases hrecord : m.recordAt cfg discard p with
    | none =>
      obtain ⟨message, hrefused⟩ := createOverlay_refused overlays hfixed hrecord
      refine ⟨fun _ => ⟨message, ?_⟩, nofun⟩
      rw [hrefused]
      rfl
    | some r =>
      obtain ⟨next, kept⟩ := r
      obtain ⟨new, hnew, hkept⟩ := createOverlay_record overlays hfixed hrecord
      obtain ⟨hnone, hsome⟩ := ih (overlays ++ new) (hrest next kept hrecord)
      rw [hnew, ok_bind]
      dsimp only
      cases hsection : m.sectionAt cfg discard n next with
      | none => exact ⟨fun _ => hnone hsection, nofun⟩
      | some s =>
        obtain ⟨last, others⟩ := s
        refine ⟨nofun, fun last' kept' hlast => ?_⟩
        obtain ⟨rfl, rfl⟩ := Prod.mk.inj (Option.some.inj hlast)
        obtain ⟨more, hmore, hothers⟩ := hsome last others hsection
        refine ⟨new ++ more, by rw [hmore, List.append_assoc], ?_⟩
        cases new <;> simp_all

theorem createOverlays_outside {n : ℕ} (overlays : List (RROverlay δ))
    (h : ¬m.SectionInside cfg discard n p) :
    m.createOverlays cfg discard n p overlays = .error .outOfBounds := by
  induction n generalizing p overlays with
  | zero => exact absurd trivial h
  | succ n ih =>
    unfold createOverlays
    by_cases hfixed : m.FixedPartInside p
    · obtain ⟨next, kept, hrecord, hrest⟩ : ∃ next kept,
          m.recordAt cfg discard p = some (next, kept) ∧ ¬m.SectionInside cfg discard n next := by
        by_contra hnone
        refine h ⟨hfixed, fun next kept hrecord => ?_⟩
        by_contra hrest
        exact hnone ⟨next, kept, hrecord, hrest⟩
      obtain ⟨new, hnew, -⟩ := createOverlay_record overlays hfixed hrecord
      rw [hnew, ok_bind]
      exact ih _ hrest
    · rw [createOverlay_outside overlays hfixed]
      rfl

/-- A discarded section has no collected records. -/
theorem sectionAt_discard {n : ℕ} {last : ℕ} {kept : Bool}
    (h : m.sectionAt cfg true n p = some (last, kept)) : kept = false := by
  induction n generalizing p kept with
  | zero => exact (Prod.mk.inj (Option.some.inj h)).2.symm
  | succ n ih =>
    unfold sectionAt at h
    cases hrecord : m.recordAt cfg true p with
    | none => simp [hrecord] at h
    | some r =>
      obtain ⟨next, first⟩ := r
      have hfirst : first = false := by
        unfold recordAt at hrecord
        split at hrecord
        · cases hrecord
        · dsimp only at hrecord
          split at hrecord
          · cases hrecord
          · simpa using (Prod.mk.inj (Option.some.inj hrecord)).2.symm
      rw [hrecord] at h
      dsimp only at h
      cases hsection : m.sectionAt cfg true n next with
      | none => simp [hsection] at h
      | some s =>
        rw [hsection] at h
        obtain ⟨rfl, rfl⟩ := Prod.mk.inj (Option.some.inj h)
        rw [hfirst, ih hsection, Bool.or_false]

/-- What follows a section avoids faults if it does after the records that the section has. -/
theorem avoids_section {α : Type} {n : ℕ} {overlays : List (RROverlay δ)}
    {f : ℕ × List (RROverlay δ) → Except DnsStop α} {Q : ℕ → Bool → Prop}
    (hf : ∀ last kept new, m.sectionAt cfg discard n p = some (last, kept) → new.isEmpty = !kept →
      (Avoids DnsStop.isRead (f (last, overlays ++ new)) ↔ Q last kept)) :
    Avoids DnsStop.isRead (m.createOverlays cfg discard n p overlays >>= f) ↔
      m.SectionInside cfg discard n p ∧
      ∀ last kept, m.sectionAt cfg discard n p = some (last, kept) → Q last kept := by
  by_cases hinside : m.SectionInside cfg discard n p
  · obtain ⟨hnone, hsome⟩ := createOverlays_inside overlays hinside
    cases hsection : m.sectionAt cfg discard n p with
    | none =>
      obtain ⟨message, hthrown⟩ := hnone hsection
      rw [hthrown, error_bind]
      simp [hinside, DnsStop.isRead]
    | some r =>
      obtain ⟨new, hnew, hkept⟩ := hsome r.1 r.2 hsection
      rw [hnew, ok_bind, hf r.1 r.2 new hsection hkept]
      constructor
      · rintro hQ
        refine ⟨hinside, fun last kept hr => ?_⟩
        obtain rfl := Option.some.inj hr
        exact hQ
      · rintro ⟨-, hQ⟩
        exact hQ r.1 r.2 rfl
  · rw [createOverlays_outside overlays hinside, error_bind]
    simp [hinside, DnsStop.isRead]

end Records

section Overlays
variable {δ : Type} [LinearOrder δ] (m : DnsMessage δ) (cfg : DnsConfig)

/-- The three sections of an answer are read inside the buffer, and if all their records are
accepted, one of them is collected. -/
def AnswerInside : Prop :=
  ∀ p, m.questionsAt m.qdcount HFIXEDSZ = some p →
    m.SectionInside cfg false m.ancount p ∧
    ∀ p₁ answered, m.sectionAt cfg false m.ancount p = some (p₁, answered) →
      m.SectionInside cfg true m.nscount p₁ ∧
      ∀ p₂ served, m.sectionAt cfg true m.nscount p₁ = some (p₂, served) →
        m.SectionInside cfg false m.arcount p₂ ∧
        ∀ p₃ added, m.sectionAt cfg false m.arcount p₂ = some (p₃, added) → answered || added

/-- The names of an SOA record and its last number are in the buffer. -/
def SoaInside (p : ℕ) : Prop :=
  ∃ name₁ len₁ name₂ len₂, m.expandName p = some (name₁, len₁) ∧
    m.expandName (p + len₁) = some (name₂, len₂) ∧ p + len₁ + len₂ + 20 ≤ m.alen

/-- The first record of a failure with no answers is read inside the buffer, and all of it if it is
an SOA record that is collected. -/
def FailureInside : Prop :=
  ∀ p, m.questionsAt m.qdcount HFIXEDSZ = some p → m.ancount = 0 → m.nscount ≠ 0 →
    m.FixedPartInside p ∧
    ∀ name len, m.expandName p = some (name, len) → (m.recordAt cfg false p).any (·.2) →
      m.valueAt (p + len) 2 = T_SOA → m.SoaInside (p + len + RRFIXEDSZ)

omit [LinearOrder δ] in
theorem skipQuestions_ok_iff {n p q : ℕ} :
    m.skipQuestions n p = .ok q ↔ m.questionsAt n p = some q := by
  induction n generalizing p with
  | zero => simp [skipQuestions, questionsAt]
  | succ n ih =>
    unfold skipQuestions questionsAt skipDNSQuestion
    cases hname : m.expandName p with
    | none => simp
    | some r =>
      dsimp only
      by_cases hfixed : m.alen < p + r.2 + QFIXEDSZ
      · rw [if_pos hfixed, if_pos hfixed]
        simp
      · rw [if_neg hfixed, if_neg hfixed, ok_bind]
        exact ih

omit [LinearOrder δ] in
/-- The questions are refused or skipped. -/
theorem skipQuestions_avoids {bad : DnsStop → Bool} (hbad : ∀ message, bad (.thrown message) = false)
    (n p : ℕ) : Avoids bad (m.skipQuestions n p) := by
  induction n generalizing p with
  | zero => exact avoids_ok p
  | succ n ih =>
    unfold skipQuestions
    rw [avoids_bind]
    refine ⟨?_, fun q _ => ih q⟩
    unfold skipDNSQuestion
    split
    · exact avoids_error.mpr (hbad _)
    · split
      · exact avoids_error.mpr (hbad _)
      · exact avoids_ok _

theorem avoids_overlays : Avoids DnsStop.isRead (m.overlays cfg) ↔ m.AnswerInside cfg := by
  unfold overlays AnswerInside
  rw [avoids_bind]
  simp only [m.skipQuestions_avoids DnsStop.isRead_thrown, true_and, m.skipQuestions_ok_iff]
  refine forall₂_congr fun p _ => ?_
  refine avoids_section fun p₁ answered answers _ hanswered => ?_
  -- the name servers' records are discarded
  refine (avoids_section (Q := fun p₂ _ => m.SectionInside cfg false m.arcount p₂ ∧
    ∀ p₃ added, m.sectionAt cfg false m.arcount p₂ = some (p₃, added) → answered || added)
    fun p₂ served servers hsection hserved => ?_)
  have hservers : servers = [] := by
    rw [sectionAt_discard hsection] at hserved
    exact List.isEmpty_iff.mp hserved
  refine avoids_section fun p₃ added more _ hadded => ?_
  have hsorted : (([] ++ answers ++ servers ++ more).mergeSort RROverlay.le).isEmpty =
      !(answered || added) := by
    rw [Bool.eq_iff_iff, List.isEmpty_iff, ← List.length_eq_zero_iff, List.length_mergeSort,
      hservers]
    cases answers <;> cases more <;> simp_all
  dsimp only
  rw [hsorted]
  cases answered || added with
  | false => simp [DnsStop.isRead]
  | true => simp

/-! ### Failures -/

omit [LinearOrder δ] in
theorem avoids_getTTL (overlay : RROverlay δ) :
    Avoids DnsStop.isRead (m.getTTL overlay) ↔
      (overlay.mType = T_SOA → m.SoaInside overlay.mData) := by
  unfold getTTL SoaInside
  by_cases hsoa : overlay.mType = T_SOA
  · rw [if_neg (not_not.mpr hsoa)]
    simp only [hsoa, true_imp_iff]
    cases hname₁ : m.expandName overlay.mData with
    | none => simp [DnsStop.isRead]
    | some r₁ =>
      obtain ⟨name₁, len₁⟩ := r₁
      dsimp only
      cases hname₂ : m.expandName (overlay.mData + len₁) with
      | none => simp_all [DnsStop.isRead]
      | some r₂ =>
        obtain ⟨name₂, len₂⟩ := r₂
        dsimp only
        by_cases hlast : overlay.mData + len₁ + len₂ + 16 + 4 ≤ m.alen
        · rw [numberAt_of_le hlast, ok_bind]
          simp only [avoids_pure, true_iff]
          exact ⟨name₁, len₁, name₂, len₂, rfl, hname₂, by omega⟩
        · rw [numberAt_of_lt (by omega), error_bind]
          simp only [avoids_error, DnsStop.isRead, Bool.true_eq_false, false_iff]
          rintro ⟨_, _, _, _, h₁, h₂, hle⟩
          obtain ⟨rfl, rfl⟩ := Prod.mk.inj (Option.some.inj h₁)
          obtain ⟨rfl, rfl⟩ := Prod.mk.inj (Option.some.inj (hname₂.symm.trans h₂))
          omega
  · rw [if_pos hsoa]
    simp [hsoa]

omit [LinearOrder δ] in
theorem avoids_failureTTL : Avoids DnsStop.isRead (m.failureTTL cfg) ↔ m.FailureInside cfg := by
  unfold failureTTL FailureInside
  rw [avoids_bind]
  simp only [m.skipQuestions_avoids DnsStop.isRead_thrown, true_and, m.skipQuestions_ok_iff]
  refine forall₂_congr fun p _ => ?_
  by_cases hanswers : m.ancount = 0
  case neg => simp [hanswers]
  by_cases hservers : m.nscount = 0
  case pos => simp [hanswers, hservers]
  rw [if_neg (not_not.mpr hanswers), if_neg hservers]
  simp only [hanswers, true_imp_iff, ne_eq, hservers, not_false_eq_true]
  by_cases hfixed : m.FixedPartInside p
  case neg =>
    rw [createOverlay_outside [] hfixed, error_bind]
    simp [hfixed, DnsStop.isRead]
  simp only [hfixed, true_and]
  cases hrecord : m.recordAt cfg false p with
  | none =>
    obtain ⟨message, hrefused⟩ := createOverlay_refused [] hfixed hrecord
    rw [hrefused, error_bind]
    simp [DnsStop.isRead]
  | some r =>
    obtain ⟨next, kept⟩ := r
    cases hname : m.expandName p with
    | none => simp [recordAt, hname] at hrecord
    | some r =>
      obtain ⟨name, len⟩ := r
      rw [createOverlay_eq [] hname (hfixed name len hname) hrecord, ok_bind]
      cases kept with
      | false => simp
      | true => simp [avoids_getTTL, overlayOf]

end Overlays
end DnsMessage

end Resiprocate.Dns
