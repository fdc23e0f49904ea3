import Resiprocate.DnsBounds

/-! Which answers `process` reads inside their buffer. -/
namespace Resiprocate.Dns
open Faults

variable {δ : Type} [LinearOrder δ]

/-! ### The cache -/

namespace RRCache

theorem avoids_updateCache (c : RRCache δ) (provider : DnsProvider δ) (now : ℕ) (m : DnsMessage δ)
    (overlays : List (RROverlay δ)) :
    Avoids DnsStop.isRead (c.updateCache provider now m overlays) := by
  unfold updateCache
  split
  · exact avoids_ok c
  · split
    · exact avoids_error.mpr rfl
    · exact avoids_ok _

theorem avoids_cache {c : RRCache δ} {provider : DnsProvider δ} {now : ℕ} {m : DnsMessage δ} :
    Avoids DnsStop.isRead (c.cache provider now m) ↔ m.AnswerInside provider.toDnsConfig := by
  unfold cache
  rw [avoids_bind, m.avoids_overlays]
  refine and_iff_left fun overlays _ => ?_
  exact avoids_foldlM (fun c group _ => c.avoids_updateCache provider now m group) c

end RRCache

/-! ### Queries -/

namespace Query

/-- The message of a query is read inside its buffer: that of an answer with records, and that of
a failure unless the file of hosts has the name. -/
def ReadsInside (provider : DnsProvider δ) (q : Query δ) (status : AresStatus) (m : DnsMessage δ) :
    Prop :=
  match status with
  | .SUCCESS => m.ancount ≠ 0 → m.AnswerInside provider.toDnsConfig
  | .ENODATA | .EFORMERR | .ESERVFAIL | .ENOTFOUND | .ENOTIMP | .EREFUSED =>
    (q.mRRType = T_A → provider.hostFileLookup q.mTarget = none) →
      m.FailureInside provider.toDnsConfig
  | _ => True

variable {provider : DnsProvider δ} {now : ℕ} {q : Query δ} {m : DnsMessage δ} {c : RRCache δ}

theorem avoids_followLoop (n : ℕ) (c : RRCache δ) (target : δ) (mReQuery : ℕ) :
    Avoids DnsStop.isRead (followLoop now n c target mReQuery) := by
  induction n generalizing c target mReQuery with
  | zero =>
    unfold followLoop
    split
    · exact avoids_ok _
    · split
      · exact avoids_error.mpr rfl
      · exact avoids_ok _
      · contradiction
  | succ n ih =>
    unfold followLoop
    split
    · exact avoids_ok _
    · split
      · exact avoids_error.mpr rfl
      · contradiction
      · rename_i heq
        obtain rfl := Nat.succ.inj heq
        exact ih _ _ _

theorem avoids_followCached {p : ℕ} (name : δ) (hp : p + 2 ≤ m.alen) :
    Avoids DnsStop.isRead (q.followCached now m p name c) := by
  unfold followCached
  split
  · exact avoids_ok _
  rw [DnsMessage.numberAt_of_le hp, ok_bind]
  split
  · exact avoids_ok _
  split
  · rw [avoids_bind]
    refine ⟨avoids_followLoop _ _ _ _, fun r _ => ?_⟩
    dsimp only
    split <;> exact avoids_pure _
  · exact avoids_ok _

/-- The cached answer has the first record, of which `followCname` reads the type. -/
theorem avoids_followCname {p : ℕ} (hp : m.questionsAt m.qdcount HFIXEDSZ = some p)
    (hanswers : m.ancount ≠ 0) :
    Avoids DnsStop.isRead (q.followCname provider now m p c) ↔
      m.AnswerInside provider.toDnsConfig := by
  unfold followCname
  cases hname : m.expandName p with
  | none =>
    -- a first answer without a name is refused
    simp only [avoids_ok, true_iff]
    intro p' hp'
    obtain rfl := Option.some.inj (hp.symm.trans hp')
    obtain ⟨n, hn⟩ := Nat.exists_eq_succ_of_ne_zero hanswers
    rw [hn]
    refine ⟨⟨by simp [DnsMessage.FixedPartInside, hname], ?_⟩, ?_⟩
    · simp [DnsMessage.recordAt, hname]
    · simp [DnsMessage.sectionAt, DnsMessage.recordAt, hname]
  | some r =>
    obtain ⟨name, len⟩ := r
    have hiff : Avoids DnsStop.isRead (c.cache provider now m) ↔
        m.AnswerInside provider.toDnsConfig := RRCache.avoids_cache
    rw [← hiff]
    dsimp only
    cases hcache : c.cache provider now m with
    | error stop =>
      cases stop <;> simp [DnsStop.isRead]
    | ok cached =>
      simp only [avoids_ok, iff_true]
      have hinside : m.AnswerInside provider.toDnsConfig := by
        rw [← hiff, hcache]
        exact avoids_ok cached
      obtain ⟨n, hn⟩ := Nat.exists_eq_succ_of_ne_zero hanswers
      have hfirst := (hinside p hp).1
      rw [hn] at hfirst
      have hfixed := hfirst.1 name len hname
      unfold RRFIXEDSZ at hfixed
      exact avoids_followCached name (by omega)

theorem avoids_processAnswer :
    Avoids DnsStop.isRead (q.processAnswer provider now m c) ↔
      (m.ancount ≠ 0 → m.AnswerInside provider.toDnsConfig) := by
  unfold processAnswer
  have hskip := m.skipQuestions_avoids DnsStop.isRead_thrown m.qdcount HFIXEDSZ
  cases hp : m.skipQuestions m.qdcount HFIXEDSZ with
  | error stop =>
    have hnone : ∀ p, m.questionsAt m.qdcount HFIXEDSZ ≠ some p := by
      intro p h
      rw [m.skipQuestions_ok_iff.mpr h] at hp
      cases hp
    have hinside : m.AnswerInside provider.toDnsConfig := fun p h => absurd h (hnone p)
    rw [hp, avoids_error] at hskip
    simp only [hinside, implies_true, iff_true]
    cases stop with
    | thrown message => exact avoids_ok _
    | _ => exact avoids_error.mpr hskip
  | ok p =>
    dsimp only
    by_cases hanswers : m.ancount = 0
    · rw [if_pos hanswers]
      simp [hanswers]
    · rw [if_neg hanswers, avoids_followCname (m.skipQuestions_ok_iff.mp hp) hanswers]
      exact ⟨fun h _ => h, fun h => h hanswers⟩

theorem avoids_processFailure {status : AresStatus} :
    Avoids DnsStop.isRead (q.processFailure provider now status m c) ↔
      ((q.mRRType = T_A → provider.hostFileLookup q.mTarget = none) →
        m.FailureInside provider.toDnsConfig) := by
  have hhost : (if q.mRRType = T_A then provider.hostFileLookup q.mTarget else none) = none ↔
      (q.mRRType = T_A → provider.hostFileLookup q.mTarget = none) := by
    split <;> simp_all
  unfold processFailure
  rw [← hhost]
  cases if q.mRRType = T_A then provider.hostFileLookup q.mTarget else none with
  | some address => simp
  | none =>
    simp only [true_imp_iff]
    rw [← m.avoids_failureTTL]
    cases m.failureTTL provider.toDnsConfig with
    | error stop => cases stop <;> simp [DnsStop.isRead]
    | ok ttl => cases ttl <;> simp

theorem process_reads_inside (provider : DnsProvider δ) (now : ℕ) (q : Query δ)
    (status : AresStatus) (m : DnsMessage δ) (c : RRCache δ) :
    Avoids DnsStop.isRead (q.process provider now status m c) ↔
      q.ReadsInside provider status m := by
  unfold process ReadsInside
  cases status with
  | SUCCESS => exact avoids_processAnswer
  | ENODATA | EFORMERR | ESERVFAIL | ENOTFOUND | ENOTIMP | EREFUSED => exact avoids_processFailure
  | EBADFAMILY | other => simp [DnsStop.isRead]
  | _ => simp

/-! ### Three answers to a query for the root -/

/-- A message in which the only name is that of the root. -/
def rootMessage (bytes : List UInt8) (header : 12 ≤ bytes.length) : DnsMessage ℕ where
  bytes := bytes
  header := header
  expandName p := if bytes[p]? = some 0 then some (0, 1) else none
  inside p name len h := by
    split at h
    case isTrue hp =>
      obtain ⟨-, rfl⟩ := Prod.mk.inj (Option.some.inj h)
      exact (List.getElem?_eq_some_iff.mp hp).1
    case isFalse => cases h

/-- An answer that ends after the name of its record. -/
def truncatedAnswer : DnsMessage ℕ := rootMessage [0, 0, 0, 0, 0, 0, 0, 1, 0, 0, 0, 0, 0] (by decide)

/-- An answer with a record of type 99. -/
def unknownAnswer : DnsMessage ℕ :=
  rootMessage [0, 0, 0, 0, 0, 0, 0, 1, 0, 0, 0, 0, 0, 0, 99, 0, 1, 0, 0, 0, 0, 0, 0] (by decide)

/-- A failure with an SOA record without data. -/
def emptySoa : DnsMessage ℕ :=
  rootMessage [0, 0, 0, 0, 0, 0, 0, 0, 0, 1, 0, 0, 0, 0, 6, 0, 1, 0, 0, 0, 0, 0, 0] (by decide)

theorem overlays_unknownAnswer : unknownAnswer.overlays ⟨false, false⟩ = .error .emptyOverlays := by
  unfold DnsMessage.overlays
  have hanswers : unknownAnswer.createOverlays ⟨false, false⟩ false unknownAnswer.ancount 12 [] =
      .ok (23, []) := rfl
  have hservers : unknownAnswer.createOverlays ⟨false, false⟩ true unknownAnswer.nscount 23 [] =
      .ok (23, []) := rfl
  have hadditional : unknownAnswer.createOverlays ⟨false, false⟩ false unknownAnswer.arcount 23 [] =
      .ok (23, []) := rfl
  have hquestions : unknownAnswer.skipQuestions unknownAnswer.qdcount HFIXEDSZ = .ok 12 := rfl
  simp only [hquestions, ok_bind, hanswers, hservers, hadditional, List.mergeSort_nil]
  rfl

theorem not_process_reads_inside :
    let provider : DnsProvider ℕ := ⟨⟨false, false⟩, fun _ => none, fun _ _ => true⟩
    let q : Query ℕ := ⟨0, T_A, 0, 0, true⟩
    let c : RRCache ℕ := ⟨[], 10, 512⟩
    q.process provider 0 .SUCCESS truncatedAnswer c = .error .outOfBounds ∧
      q.process provider 0 .SUCCESS unknownAnswer c = .error .emptyOverlays ∧
      q.process provider 0 .ENOTFOUND emptySoa c = .error .ttlAssertion := by
  intro provider q c
  refine ⟨rfl, ?_, rfl⟩
  have hcache : c.cache provider 0 unknownAnswer = .error .emptyOverlays := by
    unfold RRCache.cache
    rw [show provider.toDnsConfig = ⟨false, false⟩ from rfl, overlays_unknownAnswer]
    rfl
  have hname : unknownAnswer.expandName 12 = some (0, 1) := rfl
  have hfollow : q.followCname provider 0 unknownAnswer 12 c = .error .emptyOverlays := by
    unfold followCname
    rw [hname]
    dsimp only
    rw [hcache]
  exact hfollow

end Query
end Resiprocate.Dns
