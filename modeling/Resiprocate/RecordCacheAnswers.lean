import Resiprocate.RecordCacheRuns

/-! Runs of a record cache, and the lookups after an update. -/
namespace Resiprocate.RecordCache
open Dns
variable {δ : Type} [LinearOrder δ] {lowercase : δ → δ} {mFactoryMap : ℕ → Option (Factory δ)}
  {mSize : ℕ} {c : RRCache δ}

/-! ### Runs -/

theorem store_sound (h : c.Sound mSize lowercase) {key : RRList δ} {change : RRList δ → RRList δ}
    (hchange : ∀ l, Same lowercase (change l) l) :
    ∃ c', c.store lowercase key change = .ok c' ∧ c'.Sound mSize lowercase := by
  obtain ⟨c', hstore, hsound, _⟩ := h.store key hchange
  exact ⟨c', hstore, hsound⟩

omit [LinearOrder δ] in
theorem same_update {create : RROverlay δ → Option (DnsRecord δ)} {now ttl : ℕ}
    {overlays : List (RROverlay δ)} (l : RRList δ) :
    Same lowercase (update create now ttl overlays l) l := ⟨rfl, rfl⟩

omit [LinearOrder δ] in
theorem same_updateHost {name : δ} {address now : ℕ} (l : RRList δ) :
    Same lowercase (updateHost name address now l) l := ⟨rfl, rfl⟩

theorem lookup_sound (h : c.Sound mSize lowercase) (now : ℕ) (target : δ) (type : ℕ) :
    ∃ c' found, c.lookup lowercase now target type = .ok (c', found) ∧ c'.Sound mSize lowercase := by
  rcases h.lookup now target type with ⟨-, hlookup⟩ | ⟨p, l, -, -, hcases⟩
  · exact ⟨_, _, hlookup, h⟩
  · rcases hcases with ⟨-, hlookup⟩ | ⟨-, c', hsound, -, hlookup⟩
    · exact ⟨_, _, hlookup, h.drop p⟩
    · exact ⟨_, _, hlookup, hsound⟩

theorem perform_lookup {now : ℕ} {target : δ} {type : ℕ} {c' : RRCache δ}
    {found : Option (CachedRecords δ)} (h : c.lookup lowercase now target type = .ok (c', found)) :
    perform lowercase mFactoryMap c now (.lookup target type) = .ok c' :=
  congrArg (Prod.fst <$> ·) h

theorem perform_sound (h : c.Sound mSize lowercase) (now : ℕ) (call : Call δ) :
    (∃ stop, perform lowercase mFactoryMap c now call = .error (.dns stop)) ∨
      ∃ c', perform lowercase mFactoryMap c now call = .ok c' ∧ c'.Sound mSize lowercase := by
  cases call with
  | updateCache m rrType overlays =>
    simp only [perform, RRCache.updateCache]
    cases overlays with
    | nil => exact .inl ⟨_, rfl⟩
    | cons overlay overlays =>
      cases mFactoryMap rrType with
      | none => exact .inl ⟨_, rfl⟩
      | some create => exact .inr (store_sound h same_update)
  | updateCacheFromHostFile name address => exact .inr (store_sound h same_updateHost)
  | cacheTTL m target rrType status overlay => exact h.cacheTTL now m target rrType status overlay
  | lookup target type =>
    obtain ⟨c', found, hlookup, hsound⟩ := lookup_sound h now target type
    exact .inr ⟨c', perform_lookup hlookup, hsound⟩
  | clearCache =>
    obtain ⟨c', hsweep, hsound, _⟩ := h.sweep (fun _ => true) h.nodup fun _ => id
    exact .inr ⟨c', hsweep, hsound⟩
  | logCache =>
    obtain ⟨c', hsweep, hsound, _⟩ := h.sweep (fun l => l.mAbsoluteExpiry ≤ now) h.nodup fun _ => id
    exact .inr ⟨c', hsweep, hsound⟩

theorem run_sound (mFactoryMap : ℕ → Option (Factory δ)) (calls : List (ℕ × Call δ)) (h : c.Sound mSize lowercase) :
    (∃ stop, run lowercase mFactoryMap c calls = .error (.dns stop)) ∨
      ∃ c', run lowercase mFactoryMap c calls = .ok c' ∧ c'.Sound mSize lowercase := by
  induction calls generalizing c with
  | nil => exact .inr ⟨c, rfl, h⟩
  | cons call calls ih =>
    simp only [run, List.foldlM_cons]
    rcases perform_sound h call.1 call.2 with ⟨stop, hstop⟩ | ⟨c', hok, hsound⟩
    · exact .inl ⟨stop, by rw [hstop]; rfl⟩
    · simp only [hok]
      exact ih hsound

/-! ### Lookups after an update -/

/-- What a call caches, and until when. -/
structure Update (δ : Type) where
  name : δ
  type : ℕ
  records : List (DnsRecord δ)
  expiry : ℕ

def Call.update? (mFactoryMap : ℕ → Option (Factory δ)) (mUserDefinedTTL now : ℕ) :
    Call δ → Option (Update δ)
  | .updateCache m rrType (overlay :: overlays) =>
    (mFactoryMap rrType).map fun create =>
      ⟨overlay.mDomain, rrType, (overlay :: overlays).filterMap (create m),
        updateExpiry (create m) now mUserDefinedTTL (overlay :: overlays)⟩
  | .updateCacheFromHostFile name address =>
    some ⟨name, T_A, [.host name address], (now + 3600) % 2 ^ 64⟩
  | _ => none

/-- The calls that look at the cache. -/
def Call.Looks : Call δ → Prop
  | .lookup _ _ | .logCache => True
  | _ => False

/-- After the call, and whatever is looked up after it, a lookup of its key before its expiry
returns its records and the status 0. -/
def Recalled (lowercase : δ → δ) (mFactoryMap : ℕ → Option (Factory δ)) (c : RRCache δ) (now : ℕ)
    (call : Call δ) (u : Update δ) : Prop :=
  ∃ c₁, perform lowercase mFactoryMap c now call = .ok c₁ ∧
    ∀ looks : List (ℕ × Call δ), (∀ look ∈ looks, look.2.Looks) →
      ∀ t, (∀ look ∈ looks, now ≤ look.1 ∧ look.1 ≤ t) → now ≤ t → t < u.expiry →
        ∃ c₂, run lowercase mFactoryMap c₁ looks = .ok c₂ ∧
          ∀ target, lowercase target = lowercase u.name →
            ∃ c₃, c₂.lookup lowercase t target u.type = .ok (c₃, some ⟨u.records, .SUCCESS⟩)

/-- What is cached for the key, if anything, has the status 0. -/
def NoFailure (lowercase : δ → δ) (c : RRCache δ) (name : δ) (type : ℕ) : Prop :=
  ∀ p l, c.Has p l → Same lowercase l (keyOf name type) → l.mStatus = .SUCCESS

/-- An update leaves its records under its key, with the status of what was cached before. -/
theorem update_has (h : c.Sound mSize lowercase) {now : ℕ} {call : Call δ} {u : Update δ}
    (hu : call.update? mFactoryMap c.mUserDefinedTTL now = some u) :
    ∃ c₁, perform lowercase mFactoryMap c now call = .ok c₁ ∧ c₁.Sound mSize lowercase ∧
      ∃ p l, c₁.Has p l ∧ Same lowercase l (keyOf u.name u.type) ∧ l.mRecords = u.records ∧
        l.mAbsoluteExpiry = u.expiry ∧ (l.mStatus = .SUCCESS ↔ NoFailure lowercase c u.name u.type) := by
  have hstored {change : RRList δ → RRList δ} (hchange : ∀ l, Same lowercase (change l) l)
      (hstatus : ∀ l, (change l).mStatus = l.mStatus) (hrecords : ∀ l, (change l).mRecords = u.records)
      (hexpiry : ∀ l, (change l).mAbsoluteExpiry = u.expiry) :
      ∃ c₁, c.store lowercase (keyOf u.name u.type) change = .ok c₁ ∧ c₁.Sound mSize lowercase ∧
        ∃ p l, c₁.Has p l ∧ Same lowercase l (keyOf u.name u.type) ∧ l.mRecords = u.records ∧
          l.mAbsoluteExpiry = u.expiry ∧
            (l.mStatus = .SUCCESS ↔ NoFailure lowercase c u.name u.type) := by
    obtain ⟨c₁, hstore, hsound, q, l, hq, hsame, hbefore⟩ := h.store (keyOf u.name u.type) hchange
    refine ⟨c₁, hstore, hsound, q, change l, hq, (hchange l).trans hsame, hrecords l, hexpiry l, ?_⟩
    rw [hstatus l]
    rcases hbefore with ⟨p, hp⟩ | ⟨rfl, hnone⟩
    · constructor
      · intro hsuccess q k hk hsame'
        obtain rfl : q = p := h.keys q p k l hk hp (hsame'.trans hsame.symm)
        rw [hk.eq hp, hsuccess]
      · exact fun hno => hno p l hp hsame
    · exact iff_of_true rfl fun p k hk hsame' => absurd hsame' (hnone p k hk)
  match call with
  | .updateCache m rrType (overlay :: overlays) =>
    obtain ⟨create, hcreate, rfl⟩ := Option.map_eq_some_iff.mp hu
    simp only [perform, RRCache.updateCache, hcreate]
    exact hstored same_update (fun _ => rfl) (fun _ => rfl) fun _ => rfl
  | .updateCacheFromHostFile name address =>
    obtain rfl := Option.some_injective _ hu
    exact hstored same_updateHost (fun _ => rfl) (fun _ => rfl) fun _ => rfl

/-- An entry that has not expired stays through the calls that look at the cache. -/
theorem looks_has {p : ℕ} {l : RRList δ} (looks : List (ℕ × Call δ))
    (hlooks : ∀ look ∈ looks, look.2.Looks ∧ look.1 < l.mAbsoluteExpiry)
    (h : c.Sound mSize lowercase) (hhas : c.Has p l) :
    ∃ c', run lowercase mFactoryMap c looks = .ok c' ∧ c'.Sound mSize lowercase ∧ c'.Has p l := by
  induction looks generalizing c with
  | nil => exact ⟨c, rfl, h, hhas⟩
  | cons look looks ih =>
    obtain ⟨hlook, hlt⟩ := hlooks look List.mem_cons_self
    have hrest := fun r hr => hlooks r (List.mem_cons_of_mem look hr)
    have hone : ∃ c', perform lowercase mFactoryMap c look.1 look.2 = .ok c' ∧
        c'.Sound mSize lowercase ∧ c'.Has p l := by
      obtain ⟨now, call⟩ := look
      cases call with
      | lookup target type =>
        rcases h.lookup now target type with ⟨-, hlookup⟩ | ⟨q, k, hk, -, hcases⟩
        · exact ⟨c, perform_lookup hlookup, h, hhas⟩
        · rcases hcases with ⟨hexpired, hlookup⟩ | ⟨-, c', hsound, hiff, hlookup⟩
          · refine ⟨c.drop q, perform_lookup hlookup, h.drop q, h.has_drop.mpr ⟨?_, hhas⟩⟩
            rintro rfl
            rw [hk.eq hhas] at hexpired
            exact absurd hlt (not_lt.mpr hexpired)
          · exact ⟨c', perform_lookup hlookup, hsound, (hiff p l).mpr hhas⟩
      | logCache =>
        obtain ⟨c', hsweep, hsound, hiff⟩ :=
          h.sweep (fun l => l.mAbsoluteExpiry ≤ now) h.nodup fun _ => id
        refine ⟨c', hsweep, hsound, (hiff p l).mpr ⟨hhas, fun _ => ?_⟩⟩
        exact decide_eq_false (not_le.mpr hlt)
      | updateCache => exact hlook.elim
      | updateCacheFromHostFile => exact hlook.elim
      | cacheTTL => exact hlook.elim
      | clearCache => exact hlook.elim
    obtain ⟨c', hok, hsound, hhas'⟩ := hone
    obtain ⟨c'', hrun, hdone⟩ := ih hrest hsound hhas'
    refine ⟨c'', ?_, hdone⟩
    simp only [run, List.foldlM_cons, hok]
    exact hrun

/-- An entry that has not expired is found. -/
theorem lookup_has (h : c.Sound mSize lowercase) {p : ℕ} {l : RRList δ} (hhas : c.Has p l) {t : ℕ}
    {target : δ} {type : ℕ} (hsame : Same lowercase l (keyOf target type))
    (hlt : t < l.mAbsoluteExpiry) :
    ∃ c', c.lookup lowercase t target type = .ok (c', some ⟨l.mRecords, l.mStatus⟩) := by
  rcases h.lookup t target type with ⟨hnone, -⟩ | ⟨q, k, hk, hsame', hcases⟩
  · exact absurd hsame (hnone p l hhas)
  · obtain rfl : q = p := h.keys q p k l hk hhas (hsame'.trans hsame.symm)
    obtain rfl : k = l := hk.eq hhas
    rcases hcases with ⟨hexpired, -⟩ | ⟨-, c', -, -, hlookup⟩
    · exact absurd hlt (not_lt.mpr hexpired)
    · exact ⟨c', hlookup⟩

theorem recalled_iff (h : c.Sound mSize lowercase) {now : ℕ} {call : Call δ} {u : Update δ}
    (hu : call.update? mFactoryMap c.mUserDefinedTTL now = some u) :
    Recalled lowercase mFactoryMap c now call u ↔
      u.expiry ≤ now ∨ NoFailure lowercase c u.name u.type := by
  obtain ⟨c₁, hperform, hsound, p, l, hhas, hsame, hrecords, hexpiry, hstatus⟩ := update_has h hu
  constructor
  · rintro ⟨c₁', hperform', hrecalled⟩
    obtain rfl : c₁' = c₁ := Except.ok.inj (hperform'.symm.trans hperform)
    refine (Nat.lt_or_ge now u.expiry).symm.imp_right fun hlt => hstatus.mp ?_
    obtain ⟨c₂, hrun, hfound⟩ := hrecalled [] (by simp) now (by simp) le_rfl hlt
    obtain rfl : c₁' = c₂ := Except.ok.inj hrun
    obtain ⟨c₃, hlookup⟩ := hfound u.name rfl
    obtain ⟨c₄, hlookup'⟩ := lookup_has hsound hhas hsame (hexpiry ▸ hlt)
    rw [hlookup] at hlookup'
    simp only [Except.ok.injEq, Prod.mk.injEq, Option.some.injEq, CachedRecords.mk.injEq] at hlookup'
    exact hlookup'.2.2.symm
  · intro hcase
    refine ⟨c₁, hperform, fun looks hlooks t htimes hnow hlt => ?_⟩
    have hclear := hstatus.mpr (hcase.resolve_left (by omega))
    obtain ⟨c₂, hrun, hsound₂, hhas₂⟩ := looks_has looks
      (fun look hlook => ⟨hlooks look hlook, hexpiry ▸ (htimes look hlook).2.trans_lt hlt⟩) hsound hhas
    refine ⟨c₂, hrun, fun target htarget => ?_⟩
    have hkey : Same lowercase l (keyOf target u.type) := ⟨hsame.1, hsame.2.trans htarget.symm⟩
    obtain ⟨c₃, hlookup⟩ := lookup_has hsound₂ hhas₂ hkey (hexpiry ▸ hlt)
    exact ⟨c₃, by rw [hlookup, hrecords, hclear]⟩

/-- Whatever a cache is called for, its set and its list agree, and the records of an update are
found until they expire unless what was cached before had another status. -/
theorem cache_consistent {mUserDefinedTTL : ℕ} (hsize : 2 ≤ mSize) (calls : List (ℕ × Call δ)) :
    (∀ stop, run lowercase mFactoryMap (fresh mUserDefinedTTL mSize) calls = .error stop →
      ∃ dnsStop, stop = .dns dnsStop) ∧
    ∀ c, run lowercase mFactoryMap (fresh mUserDefinedTTL mSize) calls = .ok c →
      (c.mLruHead.Perm c.mRRSet ∧ c.mRRSet.Nodup ∧ c.mRRSet.length < mSize) ∧
      (∀ now target type c' found, c.lookup lowercase now target type = .ok (c', some found) →
        ∃ p l, c.Has p l ∧ Same lowercase l (keyOf target type) ∧ now < l.mAbsoluteExpiry ∧
          found = ⟨l.mRecords, l.mStatus⟩) ∧
      ∀ now call u, call.update? mFactoryMap c.mUserDefinedTTL now = some u →
        (Recalled lowercase mFactoryMap c now call u ↔
          u.expiry ≤ now ∨ NoFailure lowercase c u.name u.type) := by
  have hrun := run_sound mFactoryMap calls
    (RRCache.sound_fresh lowercase mUserDefinedTTL hsize)
  constructor
  · intro stop hstop
    rcases hrun with ⟨dnsStop, hdns⟩ | ⟨c', hok, -⟩
    · exact ⟨dnsStop, Except.error.inj (hstop.symm.trans hdns)⟩
    · rw [hok] at hstop
      cases hstop
  · intro c hc
    obtain ⟨c', hok, h⟩ := hrun.resolve_left fun ⟨_, hdns⟩ => by
      rw [hdns] at hc
      cases hc
    obtain rfl : c = c' := Except.ok.inj (hc.symm.trans hok)
    refine ⟨⟨h.perm, h.nodup, h.room⟩, fun now target type c' found hlookup => ?_,
      fun now call u hu => recalled_iff h hu⟩
    rcases h.lookup now target type with ⟨-, hnone⟩ | ⟨p, l, hl, hsame, hcases⟩
    · rw [hlookup] at hnone
      cases hnone
    · rcases hcases with ⟨-, hnone⟩ | ⟨hlt, c'', -, -, hsome⟩
      · rw [hlookup] at hnone
        cases hnone
      · rw [hlookup] at hsome
        cases hsome
        exact ⟨p, l, hl, hsame, hlt, rfl⟩

/-! ### A name that was not found at first -/

/-- A record of the type SOA, whose two names are the root and whose numbers are 0. -/
def noSuchName : DnsMessage ℕ where
  bytes := List.replicate 34 0
  header := by decide
  expandName p := if p < 34 then some (0, 1) else none
  inside p name len h := by
    rw [List.length_replicate]
    split at h
    · cases h
      omega
    · cases h

def soaOverlay : RROverlay ℕ := ⟨12, 22, 1, 0, T_SOA, 0⟩

def addressOverlay : RROverlay ℕ := ⟨12, 4, 1, 300, T_A, 7⟩

def addressFactory (type : ℕ) : Option (Factory ℕ) :=
  if type = T_A then some fun _ overlay => some (.other overlay) else none

/-- Nothing is found for the name 7, and then an address. -/
def foundLater : List (ℕ × Call ℕ) :=
  [(100, .cacheTTL noSuchName 7 T_A .ENOTFOUND soaOverlay),
    (101, .updateCache noSuchName T_A [addressOverlay])]

theorem cache_consistent_foundLater :
    ∃ c, run id addressFactory (fresh 10 512) foundLater = .ok c ∧
      c.mLruHead.Perm c.mRRSet ∧ c.mRRSet.Nodup ∧ c.mRRSet.length < 512 := by
  obtain ⟨c, hc⟩ : ∃ c, run id addressFactory (fresh 10 512) foundLater = .ok c := ⟨_, rfl⟩
  exact ⟨c, hc, ((cache_consistent (by decide) foundLater).2 c hc).1⟩

/-- The address is returned with the status of the failure. -/
theorem not_cache_consistent :
    ¬∀ (calls : List (ℕ × Call ℕ)) c, run id addressFactory (fresh 10 512) calls = .ok c →
      ∀ now call u, call.update? addressFactory c.mUserDefinedTTL now = some u →
        Recalled id addressFactory c now call u := by
  intro hall
  have hstatus : ((run id addressFactory (fresh 10 512) foundLater).bind fun c =>
      (c.lookup id 102 7 T_A).map fun result => result.2.map CachedRecords.status) =
        .ok (some AresStatus.ENOTFOUND) := rfl
  obtain ⟨c₁, hperform, hrecalled⟩ := hall [foundLater.head (by decide)] _ rfl 101
    (.updateCache noSuchName T_A [addressOverlay]) _ rfl
  obtain ⟨c₂, hrun, hfound⟩ := hrecalled [] (by simp) 102 (by simp) (by decide) (by decide)
  obtain ⟨c₃, hlookup⟩ := hfound 7 rfl
  have hlater : run id addressFactory (fresh 10 512) foundLater = .ok c₂ := by
    rw [← hrun]
    exact hperform
  simp [hlater, Except.bind, hlookup, Except.map] at hstatus

end Resiprocate.RecordCache
