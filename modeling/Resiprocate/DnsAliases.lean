import Resiprocate.DnsReads

/-! Chains of aliases in the cache: when a query that follows one comes to its end. -/
namespace Resiprocate.Dns
open Faults

variable {δ : Type} [LinearOrder δ]

/-! ### What is found in a cache -/

namespace RRCache
variable (c : RRCache δ) (now : ℕ)

/-- What a lookup finds: the list of the key, unless it has expired. -/
def visible (target : δ) (type : ℕ) : Option (CachedRecords δ) :=
  match c.find target type with
  | none => none
  | some l => if l.mAbsoluteExpiry ≤ now then none else some ⟨l.mRecords, l.mStatus⟩

/-- The records of the alias that the cache has for a name. -/
def aliases (target : δ) : Option (List (DnsRecord δ)) :=
  (c.visible now target T_CNAME).map (·.records)

variable {c now}

theorem isKey_of_find {target : δ} {type : ℕ} {l : RRList δ} (h : c.find target type = some l) :
    l.mKey = target ∧ l.mRRType = type := by
  have hkey := List.find?_some h
  simpa [RRList.isKey] using hkey

theorem find_remove (target target' : δ) (type type' : ℕ) :
    (c.remove target type).find target' type' =
      if target = target' ∧ type = type' then none else c.find target' type' := by
  unfold find remove
  rw [List.find?_filter]
  split
  case isTrue h =>
    obtain ⟨rfl, rfl⟩ := h
    simp
  case isFalse h =>
    congr 1
    funext l
    cases hkey : l.isKey target' type' with
    | false => simp
    | true =>
      have hother : l.isKey target type = false := by
        unfold RRList.isKey at hkey ⊢
        grind
      simp [hother]

theorem find_insert (l : RRList δ) (target : δ) (type : ℕ) :
    (c.insert l).find target type =
      if l.mKey = target ∧ l.mRRType = type then some l else c.find target type := by
  have happend : (c.insert l).find target type =
      ((c.remove l.mKey l.mRRType).find target type).or
        ([l].find? (·.isKey target type)) := List.find?_append
  rw [happend, find_remove]
  by_cases h : l.mKey = target ∧ l.mRRType = type
  · rw [if_pos h, if_pos h]
    simp [RRList.isKey, h.1, h.2]
  · rw [if_neg h, if_neg h]
    have hkey : l.isKey target type = false := by
      simpa [RRList.isKey] using h
    simp [hkey]

theorem lookup_snd (target : δ) (type : ℕ) :
    (c.lookup now target type).2 = c.visible now target type := by
  unfold lookup visible
  cases c.find target type with
  | none => rfl
  | some l =>
    dsimp only
    split <;> rfl

/-- A lookup removes what has expired and reorders the rest. -/
theorem visible_lookup (target target' : δ) (type type' : ℕ) :
    (c.lookup now target type).1.visible now target' type' = c.visible now target' type' := by
  unfold lookup
  cases hfind : c.find target type with
  | none => rfl
  | some l =>
    obtain ⟨hkey, htype⟩ := isKey_of_find hfind
    dsimp only
    by_cases hexpired : l.mAbsoluteExpiry ≤ now
    · rw [if_pos hexpired]
      unfold visible
      rw [find_remove]
      by_cases h : target = target' ∧ type = type'
      · obtain ⟨rfl, rfl⟩ := h
        rw [if_pos ⟨rfl, rfl⟩, hfind]
        exact (if_pos hexpired).symm
      · rw [if_neg h]
    · rw [if_neg hexpired]
      unfold visible
      rw [find_insert, hkey, htype]
      by_cases h : target = target' ∧ type = type'
      · obtain ⟨rfl, rfl⟩ := h
        rw [if_pos ⟨rfl, rfl⟩, hfind]
      · rw [if_neg h]

theorem aliases_lookup (target : δ) (type : ℕ) :
    (c.lookup now target type).1.aliases now = c.aliases now := by
  funext target'
  unfold aliases
  rw [visible_lookup]

end RRCache

/-! ### Stops that are no reads -/

/-- What neither refuses a message nor reads it. -/
def DnsStop.isOther : DnsStop → Bool
  | .factoryAssertion | .emptyRecords | .statusAssertion | .typeAssertion => true
  | .thrown _ | .outOfBounds | .ttlAssertion | .emptyOverlays => false

theorem DnsStop.isOther_thrown (message : String) : (DnsStop.thrown message).isOther = false := rfl

namespace DnsMessage
variable {m : DnsMessage δ} {cfg : DnsConfig}

omit [LinearOrder δ] in
theorem createOverlays_isOther (discard : Bool) (n p : ℕ) (overlays : List (RROverlay δ)) :
    Avoids DnsStop.isOther (m.createOverlays cfg discard n p overlays) := by
  by_cases hinside : m.SectionInside cfg discard n p
  · obtain ⟨hnone, hsome⟩ := createOverlays_inside overlays hinside
    cases hsection : m.sectionAt cfg discard n p with
    | none =>
      obtain ⟨message, hthrown⟩ := hnone hsection
      rw [hthrown]
      exact avoids_error.mpr rfl
    | some r =>
      obtain ⟨new, hnew, -⟩ := hsome r.1 r.2 hsection
      rw [hnew]
      exact avoids_ok _
  · rw [createOverlays_outside overlays hinside]
    exact avoids_error.mpr rfl

theorem overlays_isOther : Avoids DnsStop.isOther (m.overlays cfg) := by
  unfold overlays
  rw [avoids_bind]
  refine ⟨m.skipQuestions_avoids DnsStop.isOther_thrown _ _, fun p _ => ?_⟩
  rw [avoids_bind]
  refine ⟨createOverlays_isOther _ _ _ _, fun answers _ => ?_⟩
  rw [avoids_bind]
  refine ⟨createOverlays_isOther _ _ _ _, fun servers _ => ?_⟩
  rw [avoids_bind]
  refine ⟨createOverlays_isOther _ _ _ _, fun additional _ => ?_⟩
  dsimp only
  split
  · exact avoids_error.mpr rfl
  · exact avoids_pure _

omit [LinearOrder δ] in
theorem getTTL_isOther (overlay : RROverlay δ) : Avoids DnsStop.isOther (m.getTTL overlay) := by
  unfold getTTL
  split
  · exact avoids_ok _
  split
  · exact avoids_error.mpr rfl
  split
  · exact avoids_error.mpr rfl
  rw [avoids_bind]
  refine ⟨?_, fun _ _ => avoids_pure _⟩
  unfold numberAt
  split
  · exact avoids_ok _
  · exact avoids_error.mpr rfl

omit [LinearOrder δ] in
theorem failureTTL_isOther : Avoids DnsStop.isOther (m.failureTTL cfg) := by
  unfold failureTTL
  rw [avoids_bind]
  refine ⟨m.skipQuestions_avoids DnsStop.isOther_thrown _ _, fun p _ => ?_⟩
  split
  · exact avoids_pure _
  split
  · exact avoids_pure _
  have hone : m.createOverlay cfg p [] false = m.createOverlays cfg false 1 p [] := by
    unfold createOverlays
    cases m.createOverlay cfg p [] false <;> rfl
  rw [hone, avoids_bind]
  refine ⟨createOverlays_isOther _ _ _ _, fun soa _ => ?_⟩
  split
  · exact avoids_pure _
  · exact getTTL_isOther _

end DnsMessage

namespace RRCache

/-- A record of each type that the message has can be made. -/
theorem cache_isOther {c : RRCache δ} {provider : DnsProvider δ} {now : ℕ} {m : DnsMessage δ}
    (h : ∀ overlays, m.overlays provider.toDnsConfig = .ok overlays →
      ∀ overlay ∈ overlays, hasFactory provider.toDnsConfig overlay.mType) :
    Avoids DnsStop.isOther (c.cache provider now m) := by
  unfold cache
  rw [avoids_bind]
  refine ⟨DnsMessage.overlays_isOther, fun overlays hoverlays => ?_⟩
  refine avoids_foldlM (fun c group hgroup => ?_) c
  unfold updateCache
  split
  · exact avoids_ok c
  case h_2 overlay rest =>
    have hmem : overlay ∈ overlays := by
      have hflat := List.mem_flatten_of_mem hgroup List.mem_cons_self
      rwa [List.flatten_splitBy] at hflat
    rw [h overlays hoverlays overlay hmem]
    exact avoids_ok _

end RRCache

/-! ### Chains of aliases -/

section Chains
variable (aliases : δ → Option (List (DnsRecord δ)))

/-- The aliases of a name come to an end, and none of them has no record. -/
inductive AliasEnds : δ → Prop
  | last {target : δ} (h : aliases target = none) : AliasEnds target
  | next {target cname : δ} {records : List (DnsRecord δ)} (h : aliases target = some records)
    (hfirst : firstCname records = some cname) (hrest : AliasEnds cname) : AliasEnds target

/-- The first `n + 1` aliases of a name are of some record. -/
def AliasesNamed : ℕ → δ → Prop
  | 0, target => ∀ records, aliases target = some records → firstCname records ≠ none
  | n + 1, target => ∀ records, aliases target = some records →
      ∃ cname, firstCname records = some cname ∧ AliasesNamed n cname

end Chains

namespace Query
variable {provider : DnsProvider δ} {now : ℕ} {q : Query δ} {m : DnsMessage δ} {c : RRCache δ}

theorem aliasLoop_succ (n : ℕ) (target : δ) :
    aliasLoop now (n + 1) c target =
      match c.aliases now target with
      | none => some (.ok ((c.lookup now target T_CNAME).1, target))
      | some records =>
        match firstCname records with
        | none => some (.error .emptyRecords)
        | some cname => aliasLoop now n (c.lookup now target T_CNAME).1 cname := by
  rw [aliasLoop, RRCache.aliases, ← RRCache.lookup_snd]
  obtain ⟨c', found⟩ := c.lookup now target T_CNAME
  cases found <;> rfl

/-- More rounds do not change what the loop has come to. -/
theorem aliasLoop_mono {n n' : ℕ} (hn : n ≤ n') {target : δ} {r}
    (h : aliasLoop now n c target = some r) : aliasLoop now n' c target = some r := by
  induction n generalizing n' c target with
  | zero => cases h
  | succ n ih =>
    obtain ⟨n', rfl⟩ := Nat.exists_eq_add_of_le' (show 1 ≤ n' by omega)
    rw [aliasLoop_succ] at h ⊢
    split
    · simpa [*] using h
    case h_2 records halias =>
      simp only [halias] at h
      split
      · simpa [*] using h
      case h_2 cname hfirst =>
        simp only [hfirst] at h
        exact ih (by omega) h

/-- The loop of `go` comes to a name exactly if the aliases come to an end. -/
theorem aliasLoop_ends_iff {target : δ} :
    (∃ n r, aliasLoop now n c target = some (.ok r)) ↔ AliasEnds (c.aliases now) target := by
  constructor
  · rintro ⟨n, r, h⟩
    induction n generalizing c target with
    | zero => cases h
    | succ n ih =>
      rw [aliasLoop_succ] at h
      split at h
      case h_1 hnone => exact .last hnone
      case h_2 records halias =>
        split at h
        · cases h
        case h_2 cname hfirst =>
          have hrest := ih h
          rw [RRCache.aliases_lookup] at hrest
          exact .next halias hfirst hrest
  · intro h
    generalize haliases : c.aliases now = aliases at h
    induction h generalizing c with
    | @last target hnone =>
      refine ⟨1, ((c.lookup now target T_CNAME).1, target), ?_⟩
      rw [aliasLoop_succ, haliases, hnone]
    | @next target cname records halias hfirst hrest ih =>
      obtain ⟨n, r, hr⟩ := ih ((RRCache.aliases_lookup target T_CNAME).trans haliases)
      refine ⟨n + 1, r, ?_⟩
      rw [aliasLoop_succ, haliases, halias]
      dsimp only
      rw [hfirst]
      exact hr

/-! ### Going -/

/-- A query that is not answered by the cache has aliases that come to an end, and its type is one
that the file of hosts has. -/
def Goes (provider : DnsProvider δ) (now : ℕ) (q : Query δ) (c : RRCache δ) : Prop :=
  c.visible now q.mTarget q.mRRType = none →
    (q.mRRType ≠ T_CNAME → AliasEnds (c.aliases now) q.mTarget) ∧
    (provider.hostFileLookupLookupOnlyMode → q.mRRType = T_A)

theorem askFor_ok (hhost : provider.hostFileLookupLookupOnlyMode → q.mRRType = T_A) (target : δ) :
    ∃ r, q.askFor provider now c target = .ok r := by
  unfold askFor
  dsimp only
  split
  · exact ⟨_, rfl⟩
  split
  case isTrue hmode =>
    rw [if_neg (not_not.mpr (hhost hmode))]
    split <;> exact ⟨_, rfl⟩
  case isFalse => exact ⟨_, rfl⟩

theorem go_ok (h : q.Goes provider now c) :
    ∃ n r, ∀ n' ≥ n, q.go provider now n' c = some (.ok r) := by
  unfold Goes at h
  unfold go
  rw [← RRCache.lookup_snd] at h
  have haliases : (c.lookup now q.mTarget q.mRRType).1.aliases now = c.aliases now :=
    RRCache.aliases_lookup q.mTarget q.mRRType
  generalize c.lookup now q.mTarget q.mRRType = result at h haliases ⊢
  obtain ⟨c', found⟩ := result
  cases found with
  | some found => exact ⟨0, _, fun _ _ => rfl⟩
  | none =>
    obtain ⟨hends, hhost⟩ := h rfl
    dsimp only at haliases ⊢
    by_cases htype : q.mRRType = T_CNAME
    · obtain ⟨r, hr⟩ := askFor_ok (c := c') hhost q.mTarget
      exact ⟨0, r, fun _ _ => by rw [if_pos htype, hr]⟩
    · have hends := hends htype
      rw [← haliases] at hends
      obtain ⟨n, ⟨c'', target⟩, hloop⟩ := aliasLoop_ends_iff.mpr hends
      obtain ⟨r, hr⟩ := askFor_ok (c := c'') hhost target
      refine ⟨n, r, fun n' hn => ?_⟩
      rw [if_neg htype, aliasLoop_mono hn hloop]
      dsimp only
      rw [hr]

/-! ### Answers -/

/-- The aliases that are followed after an answer have records, those of the answer included. -/
def FollowsNames (provider : DnsProvider δ) (now : ℕ) (q : Query δ) (m : DnsMessage δ)
    (c : RRCache δ) : Prop :=
  ∀ p name len c', m.questionsAt m.qdcount HFIXEDSZ = some p → m.expandName p = some (name, len) →
    c.cache provider now m = .ok c' → q.mRRType ≠ T_CNAME → m.valueAt (p + len) 2 = T_CNAME →
    q.mFollowCname = true → q.mReQuery < MAX_REQUERIES →
    AliasesNamed (c'.aliases now) (MAX_REQUERIES - (q.mReQuery + 2)) name

/-- An answer or a failure is read inside its message, a record of each type that it has can be
made, the aliases that are followed have records, and its status is one of the resolver's. -/
def Settles (provider : DnsProvider δ) (now : ℕ) (q : Query δ) (status : AresStatus)
    (m : DnsMessage δ) (c : RRCache δ) : Prop :=
  q.ReadsInside provider status m ∧
  match status with
  | .SUCCESS => m.ancount ≠ 0 →
    (∀ overlays, m.overlays provider.toDnsConfig = .ok overlays →
      ∀ overlay ∈ overlays, RRCache.hasFactory provider.toDnsConfig overlay.mType) ∧
    q.FollowsNames provider now m c
  | .EBADFAMILY | .other _ => False
  | _ => True

theorem followLoop_ok {n : ℕ} {target : δ} (mReQuery : ℕ)
    (h : AliasesNamed (c.aliases now) n target) :
    ∃ r, followLoop now n c target mReQuery = .ok r ∧ mReQuery ≤ r.2.2 := by
  induction n generalizing c target mReQuery with
  | zero =>
    unfold followLoop
    unfold AliasesNamed RRCache.aliases at h
    rw [← RRCache.lookup_snd] at h
    generalize c.lookup now target T_CNAME = result at h ⊢
    obtain ⟨c', found⟩ := result
    cases found with
    | none => exact ⟨_, rfl, le_rfl⟩
    | some found =>
      obtain ⟨cname, hcname⟩ := Option.ne_none_iff_exists'.mp (h found.records rfl)
      dsimp only
      rw [hcname]
      exact ⟨_, rfl, Nat.le_succ _⟩
  | succ n ih =>
    unfold followLoop
    unfold AliasesNamed RRCache.aliases at h
    rw [← RRCache.lookup_snd] at h
    have haliases : (c.lookup now target T_CNAME).1.aliases now = c.aliases now :=
      RRCache.aliases_lookup target T_CNAME
    generalize c.lookup now target T_CNAME = result at h haliases ⊢
    obtain ⟨c', found⟩ := result
    cases found with
    | none => exact ⟨_, rfl, le_rfl⟩
    | some found =>
      obtain ⟨cname, hcname, hrest⟩ := h found.records rfl
      dsimp only
      rw [hcname]
      have hrest' : AliasesNamed (c'.aliases now) n cname := by
        rw [haliases]
        exact hrest
      obtain ⟨r, hr, hle⟩ := ih (mReQuery + 1) hrest'
      exact ⟨r, hr, by omega⟩

/-- What becomes of a query that is asked for again: it was asked for again fewer than five times, and
this counts. -/
def Requeries (q : Query δ) : QueryOutcome δ → Prop
  | .notifyUser _ _ => True
  | .lookupRecords _ mReQuery => q.mReQuery < mReQuery ∧ q.mReQuery < MAX_REQUERIES

theorem answerWith_requeries (q : Query δ) (c : RRCache δ) (target : δ) :
    q.Requeries (q.answerWith now c target).2 := trivial

theorem followCached_ok {p : ℕ} {name : δ} (hp : p + 2 ≤ m.alen)
    (h : q.mRRType ≠ T_CNAME → m.valueAt p 2 = T_CNAME → q.mFollowCname = true →
      q.mReQuery < MAX_REQUERIES →
      AliasesNamed (c.aliases now) (MAX_REQUERIES - (q.mReQuery + 2)) name) :
    ∃ r, q.followCached now m p name c = .ok r ∧ q.Requeries r.2 := by
  unfold followCached
  split
  case isTrue => exact ⟨_, rfl, q.answerWith_requeries c name⟩
  case isFalse hquery =>
    rw [DnsMessage.numberAt_of_le hp, ok_bind]
    split
    case isTrue => exact ⟨_, rfl, q.answerWith_requeries c name⟩
    case isFalse htype =>
      split
      case isFalse => exact ⟨_, rfl, trivial⟩
      case isTrue hfollow =>
        have hnamed := h hquery (not_not.mp htype) hfollow.1 hfollow.2
        obtain ⟨⟨c', target, mReQuery⟩, hloop, hle⟩ := followLoop_ok (q.mReQuery + 1) hnamed
        rw [hloop, ok_bind]
        dsimp only at hle ⊢
        split
        · exact ⟨_, rfl, by omega, hfollow.2⟩
        · exact ⟨_, rfl, q.answerWith_requeries _ target⟩

theorem processAnswer_ok (h : q.Settles provider now .SUCCESS m c) :
    ∃ r, q.processAnswer provider now m c = .ok r ∧ q.Requeries r.2 := by
  obtain ⟨hinside, hanswers⟩ := h
  unfold processAnswer
  cases hp : m.skipQuestions m.qdcount HFIXEDSZ with
  | error stop =>
    cases stop with
    | thrown message => exact ⟨_, rfl, trivial⟩
    | _ =>
      have hthrows : Avoids (fun e => e.isRead || e.isOther) (m.skipQuestions m.qdcount HFIXEDSZ) :=
        m.skipQuestions_avoids (fun _ => rfl) _ _
      exact absurd (hthrows _ hp) (by decide)
  | ok p =>
    dsimp only
    split
    case isTrue => exact ⟨_, rfl, trivial⟩
    case isFalse hcount =>
      obtain ⟨hfactory, hfollows⟩ := hanswers hcount
      have hmessage := hinside hcount
      rw [m.skipQuestions_ok_iff] at hp
      unfold followCname
      cases hname : m.expandName p with
      | none => exact ⟨_, rfl, trivial⟩
      | some r =>
        obtain ⟨name, len⟩ := r
        dsimp only
        have hread : Avoids DnsStop.isRead (c.cache provider now m) :=
          RRCache.avoids_cache.mpr hmessage
        have hother : Avoids DnsStop.isOther (c.cache provider now m) :=
          RRCache.cache_isOther hfactory
        cases hcache : c.cache provider now m with
        | error stop =>
          have hread := hread stop hcache
          have hother := hother stop hcache
          cases stop with
          | thrown message => exact ⟨_, rfl, trivial⟩
          | _ => simp [DnsStop.isRead, DnsStop.isOther] at hread hother
        | ok c' =>
          obtain ⟨n, hn⟩ := Nat.exists_eq_succ_of_ne_zero hcount
          have hfirst := (hmessage p hp).1
          rw [hn] at hfirst
          have hfixed := hfirst.1 name len hname
          unfold RRFIXEDSZ at hfixed
          exact followCached_ok (by omega) (hfollows p name len c' hp hname hcache)

theorem processFailure_ok {status : AresStatus}
    (h : (q.mRRType = T_A → provider.hostFileLookup q.mTarget = none) →
      m.FailureInside provider.toDnsConfig) :
    ∃ r, q.processFailure provider now status m c = .ok r ∧ q.Requeries r.2 := by
  have hread : Avoids DnsStop.isRead (q.processFailure provider now status m c) :=
    avoids_processFailure.mpr h
  unfold processFailure at hread ⊢
  split
  case h_1 => exact ⟨_, rfl, q.answerWith_requeries _ _⟩
  case h_2 hhost =>
    rw [hhost] at hread
    have hother : Avoids DnsStop.isOther (m.failureTTL provider.toDnsConfig) :=
      DnsMessage.failureTTL_isOther
    cases httl : m.failureTTL provider.toDnsConfig with
    | error stop =>
      cases stop with
      | thrown message => exact ⟨_, rfl, trivial⟩
      | outOfBounds | ttlAssertion | emptyOverlays =>
        rw [httl] at hread
        exact absurd (hread _ rfl) (by decide)
      | _ => exact absurd (hother _ httl) (by decide)
    | ok ttl =>
      cases ttl <;> exact ⟨_, rfl, trivial⟩

/-- A query that settles is notified, or asks for another name. -/
theorem process_ok {status : AresStatus} (h : q.Settles provider now status m c) :
    ∃ r, q.process provider now status m c = .ok r ∧ q.Requeries r.2 := by
  unfold process
  cases status with
  | SUCCESS => exact processAnswer_ok h
  | ENODATA | EFORMERR | ESERVFAIL | ENOTFOUND | ENOTIMP | EREFUSED => exact processFailure_ok h.1
  | EBADFAMILY | other => exact h.2.elim
  | _ => exact ⟨_, rfl, trivial⟩

end Query
end Resiprocate.Dns
