import Resiprocate.DnsAliases
import Resiprocate.DnsStub

/-! Every query of a stub is notified once, in runs in which the chains of aliases end and the
answers can be read. -/
namespace Resiprocate.Dns
open Faults
variable {δ : Type}

namespace DnsStub

/-- A query waits for one answer and was not notified, or was notified once and does not wait. It
asked the resolver at most six times. -/
def Accounted (stub : DnsStub δ) (id : ℕ) : Prop :=
  (stub.mQueries.map (·.id)).count id + stub.notified.count id = 1 ∧
    stub.asked.count id ≤ MAX_REQUERIES + 1

/-- What holds of a stub between two events. -/
structure Books (stub : DnsStub δ) : Prop where
  once : ∀ id, (stub.mQueries.map (·.id)).count id + stub.notified.count id =
    if id < stub.made then 1 else 0
  asked : ∀ id, stub.asked.count id ≤ MAX_REQUERIES + 1
  unasked : ∀ id, stub.made ≤ id → stub.asked.count id = 0
  waiting : ∀ q ∈ stub.mQueries, stub.asked.count q.id ≤ q.mReQuery + 1

theorem Books.accounted {stub : DnsStub δ} (h : stub.Books) {id : ℕ} (hid : id < stub.made) :
    stub.Accounted id := by
  have honce := h.once id
  rw [if_pos hid] at honce
  exact ⟨honce, h.asked id⟩

theorem books_initial : (initial : DnsStub δ).Books where
  once id := by simp [initial]
  asked id := by simp [initial]
  unasked id _ := by simp [initial]
  waiting := nofun

/-- A query whose place in the books is open is notified or asks again. -/
theorem Books.conclude {stub : DnsStub δ} {q : Query δ} {r : RRCache δ × QueryOutcome δ}
    (honce : ∀ id, (stub.mQueries.map (·.id)).count id + stub.notified.count id +
      (if id = q.id then 1 else 0) = if id < stub.made then 1 else 0)
    (hasked : ∀ id, stub.asked.count id ≤ MAX_REQUERIES + 1)
    (hunasked : ∀ id, stub.made ≤ id → stub.asked.count id = 0) (hmade : q.id < stub.made)
    (hwaiting : ∀ q ∈ stub.mQueries, stub.asked.count q.id ≤ q.mReQuery + 1)
    (hq : ∀ target mReQuery, r.2 = .lookupRecords target mReQuery →
      stub.asked.count q.id ≤ mReQuery ∧ stub.asked.count q.id ≤ MAX_REQUERIES) :
    (stub.conclude q r).Books := by
  obtain ⟨c, outcome⟩ := r
  cases outcome with
  | notifyUser status records =>
    refine ⟨fun id => ?_, hasked, hunasked, hwaiting⟩
    rw [show stub.conclude q (c, .notifyUser status records) =
      { stub with mRRCache := c, notified := stub.notified ++ [q.id] } from rfl]
    have hid := honce id
    dsimp only
    rw [List.count_append, List.count_singleton]
    simp only [beq_iff_eq, eq_comm (a := q.id)]
    omega
  | lookupRecords target mReQuery =>
    obtain ⟨hmore, hbound⟩ := hq target mReQuery rfl
    have hcount : ∀ id, (stub.asked ++ [q.id]).count id =
        stub.asked.count id + if id = q.id then 1 else 0 := by
      intro id
      rw [List.count_append, List.count_singleton]
      simp only [beq_iff_eq, eq_comm (a := q.id)]
    -- no other query that waits has its number
    have hother : ∀ q' ∈ stub.mQueries, q'.id ≠ q.id := by
      intro q' hq' heq
      have hpos : 0 < (stub.mQueries.map (·.id)).count q'.id :=
        List.count_pos_iff.mpr (List.mem_map_of_mem hq')
      have hid := honce q'.id
      rw [if_pos heq] at hid
      split at hid <;> omega
    refine ⟨fun id => ?_, fun id => ?_, fun id hid => ?_, fun q' hq' => ?_⟩
    · have hid := honce id
      change ((stub.mQueries ++ [_]).map fun q : Query δ => q.id).count id +
        stub.notified.count id = _
      rw [List.map_append, List.count_append, List.map_singleton, List.count_singleton]
      simp only [beq_iff_eq, eq_comm (a := q.id)]
      change _ = if id < stub.made then 1 else 0
      omega
    · change (stub.asked ++ [q.id]).count id ≤ _
      rw [hcount]
      have := hasked id
      split
      case isTrue h =>
        subst h
        omega
      case isFalse => omega
    · change (stub.asked ++ [q.id]).count id = 0
      change stub.made ≤ id at hid
      rw [hcount, hunasked id hid, if_neg (by omega)]
    · change (stub.asked ++ [q.id]).count q'.id ≤ _
      rw [hcount]
      change q' ∈ stub.mQueries ++ [_] at hq'
      rcases List.mem_append.mp hq' with hq' | hq'
      · rw [if_neg (hother q' hq')]
        exact hwaiting q' hq'
      · obtain rfl := List.mem_singleton.mp hq'
        simp only [if_true]
        omega

/-! ### Steps -/

variable [LinearOrder δ] {provider : DnsProvider δ} {now : ℕ} {stub : DnsStub δ}

/-- What is asked of an event: the aliases that a new query follows come to an end, and an answer
settles the query that it is for. -/
def Admits (provider : DnsProvider δ) (now : ℕ) (stub : DnsStub δ) : StubEvent δ → Prop
  | .query target rrType followCname =>
    Query.Goes provider now ⟨stub.made, rrType, target, 0, followCname⟩ stub.mRRCache
  | .onDnsRaw i status m =>
    ∀ q, stub.mQueries[i]? = some q → q.Settles provider now status m stub.mRRCache
  | .clearDnsCache | .setDnsCacheTTL _ | .setDnsCacheSize _ => True

theorem query_books (hbooks : stub.Books) {target : δ} {rrType : ℕ} {followCname : Bool}
    (h : Query.Goes provider now ⟨stub.made, rrType, target, 0, followCname⟩ stub.mRRCache) :
    ∃ n stub', (∀ n' ≥ n, stub.query provider n' now target rrType followCname =
      some (.ok stub')) ∧ stub'.Books := by
  obtain ⟨n, r, hgo⟩ := Query.go_ok h
  let q : Query δ := ⟨stub.made, rrType, target, 0, followCname⟩
  refine ⟨n, { stub with made := stub.made + 1 }.conclude q r, fun n' hn => ?_, ?_⟩
  · unfold query
    dsimp only
    rw [hgo n' hn]
    rfl
  · refine Books.conclude (fun id => ?_) hbooks.asked (fun id hid => ?_) (Nat.lt_succ_self _)
      hbooks.waiting fun target' mReQuery _ => ?_
    · have honce := hbooks.once id
      have hid : q.id = stub.made := rfl
      dsimp only
      split at honce <;> split <;> split <;> omega
    · exact hbooks.unasked id (by change stub.made + 1 ≤ id at hid; omega)
    · dsimp only
      rw [hbooks.unasked stub.made le_rfl]
      omega

omit [LinearOrder δ] in
theorem count_eraseIdx {l : List (Query δ)} {i : ℕ} {q : Query δ} (h : l[i]? = some q) (id : ℕ) :
    ((l.eraseIdx i).map (·.id)).count id + (if id = q.id then 1 else 0) =
      (l.map (·.id)).count id := by
  obtain ⟨hi, rfl⟩ := List.getElem?_eq_some_iff.mp h
  have hperm := (List.getElem_cons_eraseIdx_perm hi).map fun q : Query δ => q.id
  rw [← hperm.count_eq, List.map_cons, List.count_cons]
  simp only [beq_iff_eq, eq_comm (a := id)]

theorem onDnsRaw_books (hbooks : stub.Books) {i : ℕ} {status : AresStatus} {m : DnsMessage δ}
    (h : ∀ q, stub.mQueries[i]? = some q → q.Settles provider now status m stub.mRRCache) :
    ∃ stub', stub.onDnsRaw provider now i status m = .ok stub' ∧ stub'.Books := by
  unfold onDnsRaw
  cases hi : stub.mQueries[i]? with
  | none => exact ⟨stub, rfl, hbooks⟩
  | some q =>
    obtain ⟨r, hr, hrequeries⟩ := Query.process_ok (h q hi)
    dsimp only
    rw [hr]
    refine ⟨_, rfl, ?_⟩
    have hmem : q ∈ stub.mQueries := List.mem_of_getElem? hi
    have hmade : q.id < stub.made := by
      have hpos : 0 < (stub.mQueries.map (·.id)).count q.id :=
        List.count_pos_iff.mpr (List.mem_map_of_mem hmem)
      have honce := hbooks.once q.id
      split at honce <;> omega
    refine Books.conclude (fun id => ?_) hbooks.asked hbooks.unasked hmade
      (fun q' hq' => hbooks.waiting q' (List.mem_of_mem_eraseIdx hq')) fun target mReQuery hout => ?_
    · have honce := hbooks.once id
      have hcount := count_eraseIdx hi id
      dsimp only
      omega
    · rw [hout] at hrequeries
      have hwaiting := hbooks.waiting q hmem
      dsimp only
      exact ⟨by have := hrequeries.1; omega, by have := hrequeries.2; omega⟩

theorem step_books (hbooks : stub.Books) {event : StubEvent δ} (h : stub.Admits provider now event) :
    ∃ n stub', (∀ n' ≥ n, stub.step provider n' now event = some (.ok stub')) ∧ stub'.Books := by
  cases event with
  | query target rrType followCname => exact query_books hbooks h
  | onDnsRaw i status m =>
    obtain ⟨stub', hstub, hbooks'⟩ := onDnsRaw_books hbooks h
    exact ⟨0, stub', fun _ _ => congrArg some hstub, hbooks'⟩
  | clearDnsCache | setDnsCacheTTL | setDnsCacheSize =>
    exact ⟨0, _, fun _ _ => rfl, ⟨hbooks.once, hbooks.asked, hbooks.unasked, hbooks.waiting⟩⟩

/-! ### Runs -/

/-- Each event is admitted where the run comes to it. -/
def Admitted (provider : DnsProvider δ) : DnsStub δ → List (ℕ × StubEvent δ) → Prop
  | _, [] => True
  | stub, (now, event) :: events =>
    stub.Admits provider now event ∧
      ∀ n stub', stub.step provider n now event = some (.ok stub') → Admitted provider stub' events

theorem run_books {events : List (ℕ × StubEvent δ)} (hbooks : stub.Books)
    (h : Admitted provider stub events) :
    ∃ n stub', (∀ n' ≥ n, stub.run provider n' events = some (.ok stub')) ∧ stub'.Books := by
  induction events generalizing stub with
  | nil => exact ⟨0, stub, fun _ _ => rfl, hbooks⟩
  | cons e events ih =>
    obtain ⟨now, event⟩ := e
    obtain ⟨hadmits, hrest⟩ := h
    obtain ⟨n, stub', hstep, hbooks'⟩ := step_books hbooks hadmits
    obtain ⟨k, last, hrun, hlast⟩ := ih hbooks' (hrest n stub' (hstep n le_rfl))
    refine ⟨max n k, last, fun n' hn => ?_, hlast⟩
    unfold run
    rw [hstep n' (le_trans (le_max_left n k) hn)]
    exact hrun n' (le_trans (le_max_right n k) hn)

/-- An answer in which the root is an alias of itself. -/
def aliasOfItself : DnsMessage ℕ :=
  Query.rootMessage [0, 0, 0, 0, 0, 0, 0, 1, 0, 0, 0, 0, 0, 0, 5, 0, 1, 0, 0, 0, 60, 0, 1, 0]
    (by decide)

/-- A failure with an SOA record of the time 60. -/
def noAlias : DnsMessage ℕ :=
  Query.rootMessage [0, 0, 0, 0, 0, 0, 0, 0, 0, 1, 0, 0, 0, 0, 6, 0, 1, 0, 0, 0, 60, 0, 22, 0, 0,
    0, 0, 0, 0, 0, 0, 0, 0, 0, 0, 0, 0, 0, 0, 0, 0, 0, 0, 0, 60] (by decide)

/-- An answer with an address. -/
def address : DnsMessage ℕ :=
  Query.rootMessage [0, 0, 0, 0, 0, 0, 0, 1, 0, 0, 0, 0, 0, 0, 1, 0, 1, 0, 0, 0, 60, 0, 4, 192, 0,
    2, 1] (by decide)

def anyProvider : DnsProvider ℕ := ⟨⟨false, false⟩, fun _ => none, fun _ _ => true⟩

/-- The root is asked for and is found. -/
def addressRun : List (ℕ × StubEvent ℕ) := [(1, .query 0 T_A true), (1, .onDnsRaw 0 .SUCCESS address)]

/-- The second query follows the alias of the root without end. -/
def cycleRun : List (ℕ × StubEvent ℕ) :=
  [(1, .query 0 T_A true), (1, .onDnsRaw 0 .SUCCESS aliasOfItself), (1, .query 0 T_A true)]

/-- The second query finds that the root has no alias. -/
def noAliasRun : List (ℕ × StubEvent ℕ) :=
  [(1, .query 0 T_CNAME true), (1, .onDnsRaw 0 .ENODATA noAlias), (1, .query 0 T_A true)]

theorem overlays_address :
    address.overlays anyProvider.toDnsConfig = .ok [⟨23, 4, 1, 60, T_A, 0⟩] := by
  have hanswers : address.createOverlays anyProvider.toDnsConfig false address.ancount 12 [] =
      .ok (27, [⟨23, 4, 1, 60, T_A, 0⟩]) := rfl
  have hquestions : address.skipQuestions address.qdcount HFIXEDSZ = .ok 12 := rfl
  unfold DnsMessage.overlays
  rw [hquestions, ok_bind, hanswers, ok_bind]
  change (if (List.mergeSort [_] RROverlay.le).isEmpty then _ else _) = _
  rw [List.mergeSort_singleton]
  rfl

theorem answerInside_address : address.AnswerInside anyProvider.toDnsConfig := by
  intro p hp
  obtain rfl : 12 = p := Option.some.inj hp
  refine ⟨⟨fun name len hname => ?_, fun _ _ _ => trivial⟩, fun p₁ answered hanswered => ?_⟩
  · obtain ⟨rfl, rfl⟩ := Prod.mk.inj (Option.some.inj hname)
    decide
  · obtain ⟨rfl, rfl⟩ := Prod.mk.inj (Option.some.inj hanswered)
    exact ⟨trivial, fun _ _ _ => ⟨trivial, fun _ _ _ => rfl⟩⟩

theorem settles_address (q : Query ℕ) (c : RRCache ℕ) :
    q.Settles anyProvider 1 .SUCCESS address c := by
  refine ⟨fun _ => answerInside_address, fun _ => ⟨fun overlays hoverlays overlay hmem => ?_,
    fun p name len c' hp hname _ _ htype => ?_⟩⟩
  · rw [overlays_address] at hoverlays
    obtain rfl := Except.ok.inj hoverlays
    obtain rfl := List.mem_singleton.mp hmem
    rfl
  · -- the first record is an address
    obtain rfl : 12 = p := Option.some.inj hp
    obtain ⟨rfl, rfl⟩ := Prod.mk.inj (Option.some.inj hname)
    exact absurd htype (by decide)

/-- The cache once the alias is known. -/
def aliasCache : RRCache ℕ := ⟨[⟨0, T_CNAME, [.cname 0 0], .SUCCESS, 61⟩], 10, 512⟩

theorem overlays_aliasOfItself :
    aliasOfItself.overlays anyProvider.toDnsConfig = .ok [⟨23, 1, 1, 60, T_CNAME, 0⟩] := by
  have hanswers : aliasOfItself.createOverlays anyProvider.toDnsConfig false
      aliasOfItself.ancount 12 [] = .ok (24, [⟨23, 1, 1, 60, T_CNAME, 0⟩]) := rfl
  have hquestions : aliasOfItself.skipQuestions aliasOfItself.qdcount HFIXEDSZ = .ok 12 := rfl
  unfold DnsMessage.overlays
  rw [hquestions, ok_bind, hanswers, ok_bind]
  change (if (List.mergeSort [_] RROverlay.le).isEmpty then _ else _) = _
  rw [List.mergeSort_singleton]
  rfl

theorem process_aliasOfItself :
    Query.process anyProvider 1 ⟨0, T_A, 0, 0, true⟩ .SUCCESS aliasOfItself .empty =
      .ok (aliasCache, .lookupRecords 0 5) := by
  have hcache : RRCache.empty.cache anyProvider 1 aliasOfItself = .ok aliasCache := by
    unfold RRCache.cache
    rw [overlays_aliasOfItself]
    rfl
  have hname : aliasOfItself.expandName 12 = some (0, 1) := rfl
  have hfollow : Query.followCname anyProvider 1 ⟨0, T_A, 0, 0, true⟩ aliasOfItself 12 .empty =
      .ok (aliasCache, .lookupRecords 0 5) := by
    unfold Query.followCname
    rw [hname]
    dsimp only
    rw [hcache]
    rfl
  exact hfollow

/-- The loop of `go` does not come to an end at an alias of itself. -/
theorem aliasLoop_itself {c : RRCache δ} {target : δ} {records : List (DnsRecord δ)}
    (h : c.aliases now target = some records) (hfirst : firstCname records = some target) (n : ℕ) :
    Query.aliasLoop now n c target = none := by
  induction n generalizing c with
  | zero => rfl
  | succ n ih =>
    rw [Query.aliasLoop_succ, h]
    dsimp only
    rw [hfirst]
    exact ih (by rw [RRCache.aliases_lookup, h])

end DnsStub
end Resiprocate.Dns
