import Resiprocate.ConnectionChanges

/-! Runs of a connection manager. -/
namespace Resiprocate.Connections
open ConnectionManager
variable {τ : Type} [DecidableEq τ] {cfg : ManagerConfig} {c c' : ConnectionManager τ}
  {p q now : ℕ} {conn : Connection τ}

/-! ### What each step keeps -/

/-- The times of the configuration have passed, and fit into their types. -/
structure Timely (cfg : ManagerConfig) (now : ℕ) : Prop where
  now_lt : now < 2 ^ 64
  minimumGcAge : cfg.MinimumGcAge ≤ now
  flowTimer_lt : (cfg.flowTimerSeconds + cfg.flowTimerGracePeriodSeconds) * 1000 < 2 ^ 32
  flowTimer : (cfg.flowTimerSeconds + cfg.flowTimerGracePeriodSeconds) * 1000 ≤ now

theorem Timely.flowTimerThreshold (h : Timely cfg now) :
    cfg.flowTimerThreshold = (cfg.flowTimerSeconds + cfg.flowTimerGracePeriodSeconds) * 1000 :=
  Nat.mod_eq_of_lt h.flowTimer_lt

/-- The result of a step that neither fails an assertion nor uses a deleted connection. -/
def Keeps (now : ℕ) (result : Except ManagerStop (ConnectionManager τ)) : Prop :=
  (∃ stop, result = .error stop ∧ (stop = .noConnection ∨ stop = .openSocket)) ∨
    ∃ c', result = .ok c' ∧ c'.Coherent ∧ c'.Ordered now

omit [DecidableEq τ] in
theorem Keeps.ok (h : c.Coherent) (hordered : c.Ordered now) : Keeps now (.ok c) :=
  .inr ⟨c, rfl, h, hordered⟩

omit [DecidableEq τ] in
theorem notMem_sockets {sock : ℕ} (h : sock ∉ c.sockets) (hp : c.Has p conn) : conn.mFlowKey ≠ sock := by
  rintro rfl
  exact h (List.mem_filterMap.mpr ⟨p, hp.1, by rw [hp.2]; rfl⟩)

omit [DecidableEq τ] in
theorem id_eq_none {key : ℕ} (h : c.Coherent) (hkey : ∀ p conn, c.Has p conn → conn.mFlowKey ≠ key) :
    c.mIdMap key = none := by
  refine Option.eq_none_iff_forall_ne_some.mpr fun p hp => ?_
  obtain ⟨conn, hconn, heq⟩ := (h.id key p).mp hp
  exact hkey p conn hconn heq

omit [DecidableEq τ] in
theorem addr_eq_none {closed : List ℕ} (h : c.Coherent) (hcloses : c.Closes c' closed) {who : τ}
    (hwho : c.mAddrMap who = none) : c'.mAddrMap who = none := by
  refine Option.eq_none_iff_forall_ne_some.mpr fun p hp => ?_
  obtain ⟨conn, hconn, heq⟩ := (hcloses.coherent.addr who p).mp hp
  rw [(h.addr who p).mpr ⟨conn, ((hcloses.has p conn).mp hconn).1, heq⟩] at hwho
  cases hwho

theorem createConnection_eq (who : τ) (sock : ℕ) (server : Bool) :
    c.createConnection cfg now who sock server =
      if sock ≠ 0 then
        (allocate c ⟨who, sock, server, now, false⟩).addConnection cfg now c.allocated
      else .ok (allocate c ⟨who, sock, server, now, false⟩) := rfl

theorem addConnection_eq (hwho : c.mAddrMap conn.mWho = none) :
    (allocate c conn).addConnection cfg now c.allocated =
      (if cfg.EnableAgressiveGc then Prod.snd <$> (created c conn).gc cfg now cfg.MinimumGcAge 0
        else .ok (created c conn)).bind fun c =>
          if (c.mAddrMap conn.mWho).isSome then .ok c else .error .addAssertion := by
  have hderef : (allocate c conn).deref c.allocated = .ok conn := by
    simp [deref, allocate, write]
  have hnone : ((allocate c conn).mAddrMap conn.mWho).isSome ≠ true := by
    simp [allocate, write, hwho]
  unfold addConnection
  simp only [hderef, bind, Except.bind]
  rw [if_neg hnone]
  cases cfg.EnableAgressiveGc
  · rfl
  · rfl

theorem createConnection_keeps (h : c.Coherent) (hordered : c.Ordered now) (ht : Timely cfg now)
    {who : τ} {sock : ℕ} (server : Bool) (hwho : c.mAddrMap who = none)
    (hsock : ∀ p conn, c.Has p conn → conn.mFlowKey ≠ sock) :
    Keeps now (c.createConnection cfg now who sock server) := by
  rw [createConnection_eq]
  generalize hconn : (⟨who, sock, server, now, false⟩ : Connection τ) = conn
  obtain ⟨rfl, rfl, hlast, hflag⟩ : conn.mWho = who ∧ conn.mFlowKey = sock ∧ conn.mLastUsed = now ∧
      conn.mFlowTimerEnabled = false := by
    rw [← hconn]
    exact ⟨rfl, rfl, rfl, rfl⟩
  split_ifs with hzero
  · have hcreated := coherent_created h hwho (id_eq_none h hsock) hzero hflag
    have hcreatedOrdered := ordered_created h hordered hlast
    have hnew : (created c conn).Has c.allocated conn := (has_created h).mpr (.inl ⟨rfl, rfl⟩)
    have hfound {c' : ConnectionManager τ} (h' : c'.Coherent) (hhas : c'.Has c.allocated conn) :
        (c'.mAddrMap conn.mWho).isSome = true := by
      rw [(h'.addr conn.mWho c.allocated).mpr ⟨conn, hhas, rfl⟩]
      rfl
    rw [addConnection_eq hwho]
    split_ifs with haggressive
    · obtain ⟨closed, c₁, hgc, hcloses, hold, -⟩ :=
        gc_spec cfg now now cfg.MinimumGcAge 0 hcreated
      have hkept : c.allocated ∉ closed := by
        intro hmem
        obtain ⟨conn', hconn', hlt⟩ := hold c.allocated hmem
        obtain rfl := hconn'.eq hnew
        rw [gcThreshold, hflag, hlast] at hlt
        have := (lt_sub64 ht.now_lt ht.minimumGcAge).mp hlt
        omega
      have hhas := (hcloses.has c.allocated conn).mpr ⟨hnew, hkept⟩
      simp only [hgc, Except.bind, Functor.map, Except.map]
      rw [if_pos (hfound hcloses.coherent hhas)]
      exact .ok hcloses.coherent (hcloses.ordered hcreatedOrdered)
    · simp only [Except.bind]
      rw [if_pos (hfound hcreated hnew)]
      exact .ok hcreated hcreatedOrdered
  · exact .ok (coherent_allocate h) (ordered_allocate h hordered)

/-- What `findConnection` finds has the address. -/
theorem findConnection_spec (h : c.Coherent) (addr : τ) (flowKey : ℕ)
    (onlyUseExistingConnection : Bool) :
    (c.findConnection addr flowKey onlyUseExistingConnection = .ok none ∧
      (c.mAddrMap addr = none ∨ onlyUseExistingConnection = true)) ∨
    ∃ p conn, c.findConnection addr flowKey onlyUseExistingConnection = .ok (some p) ∧
      c.Has p conn ∧ conn.mWho = addr := by
  have haddr : (c.mAddrMap addr = none) ∨ ∃ p conn, c.mAddrMap addr = some p ∧ c.Has p conn ∧
      conn.mWho = addr := by
    cases hfind : c.mAddrMap addr with
    | none => exact .inl rfl
    | some p =>
      obtain ⟨conn, hconn, hwho⟩ := (h.addr addr p).mp hfind
      exact .inr ⟨p, conn, rfl, hconn, hwho⟩
  unfold findConnection
  cases hid : (if flowKey ≠ 0 then c.mIdMap flowKey else none) with
  | none =>
    dsimp only
    split_ifs with honly
    · exact .inl ⟨rfl, .inr honly.2⟩
    · rcases haddr with hnone | ⟨p, conn, hsome, hconn⟩
      · exact .inl ⟨congrArg _ hnone, .inl hnone⟩
      · exact .inr ⟨p, conn, congrArg _ hsome, hconn⟩
  | some i =>
    have hsome : c.mIdMap flowKey = some i := by
      split_ifs at hid with hkey
      exact hid
    obtain ⟨conn, hconn, -⟩ := (h.id flowKey i).mp hsome
    simp only [deref_has hconn, bind, Except.bind]
    split_ifs with hwho honly
    · exact .inr ⟨i, conn, rfl, hconn, hwho⟩
    · exact .inl ⟨rfl, .inr honly⟩
    · rcases haddr with hnone | ⟨p, conn', hsome', hconn'⟩
      · exact .inl ⟨congrArg _ hnone, .inl hnone⟩
      · exact .inr ⟨p, conn', congrArg _ hsome', hconn'⟩

theorem processListen_keeps (h : c.Coherent) (hordered : c.Ordered now) (ht : Timely cfg now)
    (tuple : τ) (flowKey sock : ℕ) : Keeps now (c.processListen cfg now tuple flowKey sock) := by
  unfold processListen
  split_ifs with hsock
  · exact .inl ⟨_, rfl, .inr rfl⟩
  · have hfresh : ∀ p conn, c.Has p conn → conn.mFlowKey ≠ sock := fun p conn => notMem_sockets hsock
    rcases findConnection_spec h tuple flowKey false with ⟨hfind, hnone⟩ | ⟨p, conn, hfind, hconn, hwho⟩
    · simp only [hfind, bind, Except.bind]
      exact createConnection_keeps h hordered ht true (hnone.resolve_right Bool.false_ne_true) hfresh
    · simp only [hfind, bind, Except.bind, deref_has hconn]
      split_ifs with hserver
      · obtain ⟨hdelete, hcloses⟩ := h.delete hconn
        simp only [hdelete]
        refine createConnection_keeps hcloses.coherent (hcloses.ordered hordered) ht true ?_ ?_
        · rw [← hwho]
          exact Function.update_self _ _ _
        · exact fun q conn' hq => hfresh q conn' ((hcloses.has q conn').mp hq).1
      · exact .ok h hordered

theorem connectSocket_keeps (h : c.Coherent) (hordered : c.Ordered now) (ht : Timely cfg now)
    {dest : τ} (hdest : c.mAddrMap dest = none) (usable : Bool) (sock : ℕ) :
    Keeps now (c.connectSocket cfg now dest usable sock) := by
  unfold connectSocket
  split_ifs with hsock
  · exact .inl ⟨_, rfl, .inr rfl⟩
  · exact createConnection_keeps h hordered ht false hdest fun p conn => notMem_sockets hsock
  · exact .ok h hordered

theorem processWrite_keeps (h : c.Coherent) (hordered : c.Ordered now) (ht : Timely cfg now)
    (dest : τ) (flowKey : ℕ) (onlyUseExistingConnection : Bool) (first second : Option ℕ)
    (usable : Bool) :
    Keeps now
      (c.processWrite cfg now dest flowKey onlyUseExistingConnection first second usable) := by
  unfold processWrite
  rcases findConnection_spec h dest flowKey onlyUseExistingConnection with
    ⟨hfind, hnone⟩ | ⟨p, conn, hfind, -, -⟩
  · simp only [hfind, bind, Except.bind]
    split_ifs with honly
    · exact .ok h hordered
    · have hdest := hnone.resolve_right honly
      unfold makeOutgoingConnection
      cases first with
      | some sock => exact connectSocket_keeps h hordered ht hdest usable sock
      | none =>
        obtain ⟨closed, c₁, hgc, hcloses, -, -⟩ :=
          gc_spec cfg now now cfg.MinimumGcAge 1 h
        have hnone {c₂ : ConnectionManager τ} {closed : List ℕ} (hall : c.Closes c₂ closed) :
            Keeps now (pure c₂) := .ok hall.coherent (hall.ordered hordered)
        have hsome {c₂ : ConnectionManager τ} {closed : List ℕ} (hall : c.Closes c₂ closed) (sock : ℕ) :
            Keeps now (c₂.connectSocket cfg now dest usable sock) :=
          connectSocket_keeps hall.coherent (hall.ordered hordered) ht (addr_eq_none h hall hdest) usable sock
        simp only [hgc, bind, Except.bind]
        split_ifs with hzero
        · obtain ⟨closed₂, c₂, htarget, holdest⟩ := gcWithTarget_spec now 1 hcloses.coherent
          rw [htarget]
          cases second with
          | some sock => exact hsome (hcloses.trans holdest.closes) sock
          | none => exact hnone (hcloses.trans holdest.closes)
        · cases second with
          | some sock => exact hsome hcloses sock
          | none => exact hnone hcloses
  · simp only [hfind, bind, Except.bind]
    exact .ok h hordered

/-- A flow timer is enabled only for a connection that was used no earlier than those that have one. -/
def UsedLastIn (c : ConnectionManager τ) : Event τ → Prop
  | .enableFlowTimer p => UsedLast c p
  | _ => True

theorem perform_keeps (h : c.Coherent) (hordered : c.Ordered now) (ht : Timely cfg now)
    (event : Event τ) (hevent : UsedLastIn c event) : Keeps now (perform cfg c now event) := by
  have hmanager {p : ℕ} {call : Except ManagerStop (ConnectionManager τ)}
      (hcall : ∀ conn, c.Has p conn → Keeps now call) : Keeps now (ofManager c p call) := by
    unfold ofManager
    split_ifs with hmem
    · obtain ⟨conn, hconn⟩ := h.has hmem
      exact hcall conn hconn
    · exact .inl ⟨_, rfl, .inl rfl⟩
  cases event with
  | processListen tuple flowKey sock => exact processListen_keeps h hordered ht tuple flowKey sock
  | processWrite dest flowKey onlyUseExistingConnection first second usable =>
    exact processWrite_keeps h hordered ht dest flowKey onlyUseExistingConnection first second usable
  | removeConnection p =>
    refine hmanager fun conn hconn => ?_
    obtain ⟨hdelete, hcloses⟩ := h.delete hconn
    rw [hdelete]
    exact .ok hcloses.coherent (hcloses.ordered hordered)
  | touch p =>
    refine hmanager fun conn hconn => ?_
    obtain ⟨c', htouch, hcoherent, hordered'⟩ := touch_spec h hordered hconn
    rw [htouch]
    exact .ok hcoherent hordered'
  | enableFlowTimer p =>
    refine hmanager fun conn hconn => ?_
    obtain ⟨c', henable, hcoherent, hordered'⟩ := enableFlowTimer_coherent h hconn
    rw [henable]
    exact .ok hcoherent (hordered' hordered hevent)
  | gc relThreshold maxToRemove =>
    obtain ⟨closed, c', hgc, hcloses, -, -⟩ :=
      gc_spec cfg now now relThreshold maxToRemove h
    simp only [perform, hgc, Functor.map, Except.map]
    exact .ok hcloses.coherent (hcloses.ordered hordered)
  | gcWithTarget target =>
    obtain ⟨closed, c', htarget, holdest⟩ := gcWithTarget_spec now target h
    simp only [perform, htarget, Functor.map, Except.map]
    exact .ok holdest.closes.coherent (holdest.closes.ordered hordered)

/-! ### Every run -/

/-- The states of a manager in runs whose steps are `allowed`, with the time of the last step. -/
inductive Reaches (cfg : ManagerConfig) (allowed : ConnectionManager τ → ℕ → Event τ → Prop) :
    ℕ → ConnectionManager τ → Prop
  | start : Reaches cfg allowed 0 empty
  | step {last now : ℕ} {c c' : ConnectionManager τ} (event : Event τ) :
    Reaches cfg allowed last c → last ≤ now → allowed c now event →
      perform cfg c now event = .ok c' → Reaches cfg allowed now c'

/-- The steps that keep the lists in order. -/
def InOrder (cfg : ManagerConfig) (c : ConnectionManager τ) (now : ℕ) (event : Event τ) : Prop :=
  Timely cfg now ∧ UsedLastIn c event

/-- How long a connection may be idle. -/
def idleLimit (cfg : ManagerConfig) (relThreshold : ℕ) (conn : Connection τ) : ℕ :=
  if conn.mFlowTimerEnabled then
    (cfg.flowTimerSeconds + cfg.flowTimerGracePeriodSeconds) * 1000
  else relThreshold

/-- `gc` closes the connections that are idle longer than the threshold of their list, and no
others. -/
def ClosesIdle (cfg : ManagerConfig) (c : ConnectionManager τ) (now relThreshold : ℕ) : Prop :=
  ∃ closed c', c.gc cfg now relThreshold 0 = .ok (closed.length, c') ∧ c.Closes c' closed ∧
    ∀ p conn, c.Has p conn → (p ∈ closed ↔ idleLimit cfg relThreshold conn < now - conn.mLastUsed)

/-- `gcWithTarget` closes the connections that were used least recently. -/
def ClosesOldest (c : ConnectionManager τ) (target : ℕ) : Prop :=
  ∃ closed c', c.gcWithTarget target = .ok (target - closed.length, c') ∧ c.Closes c' closed ∧
    closed.Nodup ∧ (∀ p ∈ closed, p ∈ c.managed) ∧ closed.length = min target c.managed.length ∧
    ∀ p ∈ closed, ∀ q ∈ c.managed, q ∉ closed → c.NotLater p q

theorem closesIdle (h : c.Coherent) (hordered : c.Ordered now) (ht : Timely cfg now)
    {relThreshold : ℕ} (hrel : relThreshold ≤ now) : ClosesIdle cfg c now relThreshold := by
  obtain ⟨closed, c', hgc, hcloses, hold, hall⟩ :=
    gc_spec cfg now now relThreshold 0 h
  have hlimit (conn : Connection τ) : conn.mLastUsed < sub64 now (gcThreshold cfg relThreshold conn) ↔
      idleLimit cfg relThreshold conn < now - conn.mLastUsed := by
    unfold gcThreshold idleLimit
    rw [ht.flowTimerThreshold]
    split_ifs
    · exact lt_sub64 ht.now_lt ht.flowTimer
    · exact lt_sub64 ht.now_lt hrel
  refine ⟨closed, c', hgc, hcloses, fun p conn hp => ⟨fun hmem => ?_, fun hlt => ?_⟩⟩
  · obtain ⟨conn', hconn', hlt⟩ := hold p hmem
    obtain rfl := hconn'.eq hp
    exact (hlimit conn').mp hlt
  · exact hall rfl hordered p conn hp ((hlimit conn).mpr hlt)

theorem closesOldest (h : c.Coherent) (hordered : c.Ordered now) (target : ℕ) :
    ClosesOldest c target := by
  obtain ⟨closed, c', htarget, holdest⟩ := gcWithTarget_spec now target h
  exact ⟨closed, c', htarget, holdest.closes, holdest.nodup, holdest.subset, holdest.length,
    holdest.oldest hordered⟩

theorem reaches_keeps {last : ℕ} (h : Reaches cfg (InOrder cfg) last c) :
    c.Coherent ∧ c.Ordered last := by
  induction h with
  | start => exact ⟨coherent_empty, ordered_empty 0⟩
  | step event _ hle hallowed hperform ih =>
    rcases perform_keeps ih.1 (ih.2.later hle) hallowed.1 event hallowed.2 with
      ⟨stop, hstop, -⟩ | ⟨c₁, hok, hcoherent, hordered⟩
    · rw [hstop] at hperform
      cases hperform
    · obtain rfl := Except.ok.inj (hok.symm.trans hperform)
      exact ⟨hcoherent, hordered⟩

/-- Where flow timers are enabled in the order of use, and the thresholds are times that have passed,
the maps and the lists agree, the lists are in order, and the collectors close what they should. -/
theorem connection_lists {last : ℕ} (h : Reaches cfg (InOrder cfg) last c) :
    c.Coherent ∧ c.Ordered last ∧
    (∀ now event, last ≤ now → InOrder cfg c now event → Keeps now (perform cfg c now event)) ∧
    (∀ now relThreshold, last ≤ now → Timely cfg now → relThreshold ≤ now →
      ClosesIdle cfg c now relThreshold) ∧
    ∀ target, ClosesOldest c target := by
  obtain ⟨hcoherent, hordered⟩ := reaches_keeps h
  refine ⟨hcoherent, hordered, fun now event hle hallowed => ?_, fun now rel hle ht hrel => ?_,
    closesOldest hcoherent hordered⟩
  · exact perform_keeps hcoherent (hordered.later hle) hallowed.1 event hallowed.2
  · exact closesIdle hcoherent (hordered.later hle) ht hrel

/-- Connections with a flow timer may be idle for a second. -/
def aSecond : ManagerConfig := ⟨1, false, 0, 1⟩

theorem timely_aSecond (hnow : 1000 ≤ now) (hlt : now < 2 ^ 64) : Timely aSecond now :=
  ⟨hlt, le_trans (by decide) hnow, by decide, hnow⟩

/-- A connection is accepted, and its flow timer is enabled. -/
def accepted : ConnectionManager ℕ := created empty ⟨1, 5, true, 2000, false⟩

def timed : ConnectionManager ℕ := relisted accepted 0 ⟨1, 5, true, 2000, true⟩ [] [0]

theorem connection_lists_timed : timed.Ordered 2100 ∧ ClosesIdle aSecond timed 3050 1000 := by
  have hused : UsedLastIn accepted (.enableFlowTimer 0) := by
    intro conn hconn hflag q conn' hconn' hflag'
    rcases (has_created coherent_empty).mp hconn' with ⟨-, rfl⟩ | hnone
    · cases hflag'
    · exact absurd hnone.1 List.not_mem_nil
  have haccepted : Reaches aSecond (InOrder aSecond) 2000 accepted :=
    .step (.processListen 1 0 5) .start (by decide) ⟨timely_aSecond (by decide) (by decide), trivial⟩ rfl
  have htimed : Reaches aSecond (InOrder aSecond) 2100 timed :=
    .step (.enableFlowTimer 0) haccepted (by decide)
      ⟨timely_aSecond (by decide) (by decide), hused⟩ rfl
  have hlists := connection_lists htimed
  exact ⟨hlists.2.1, hlists.2.2.2.1 3050 1000 (by decide) (timely_aSecond (by decide) (by decide))
    (by decide)⟩

/-- The flow timer of the second connection is enabled after that of the first, which was used
later. The second is idle too long, and is not closed. -/
theorem not_connection_lists :
    ¬∀ (cfg : ManagerConfig) (last : ℕ) (c : ConnectionManager ℕ),
      Reaches cfg (fun _ now _ => Timely cfg now) last c →
        ∀ now relThreshold, last ≤ now → Timely cfg now → relThreshold ≤ now →
          ClosesIdle cfg c now relThreshold := by
  intro hall
  have hstep {last now : ℕ} {c c' : ConnectionManager ℕ} (event : Event ℕ)
      (h : Reaches aSecond (fun _ now _ => Timely aSecond now) last c) (hle : last ≤ now)
      (hnow : 1000 ≤ now ∧ now < 10000) (hperform : perform aSecond c now event = .ok c') :
      Reaches aSecond (fun _ now _ => Timely aSecond now) now c' :=
    .step event h hle (timely_aSecond hnow.1 (hnow.2.trans (by decide))) hperform
  have h₁ := hstep (.processListen 1 0 5) .start (Nat.zero_le 2000) (by decide) rfl
  have h₂ := hstep (.processListen 2 0 6) h₁ (le_refl 2000) (by decide) rfl
  have h₃ := hstep (.touch 0) h₂ (show 2000 ≤ 2100 by decide) (by decide) rfl
  have h₄ := hstep (.enableFlowTimer 0) h₃ (le_refl 2100) (by decide) rfl
  have h₅ := hstep (.enableFlowTimer 1) h₄ (le_refl 2100) (by decide) rfl
  obtain ⟨closed, c', hgc, -, hidle⟩ :=
    hall _ _ _ h₅ 3050 1000 (by decide) (timely_aSecond (by decide) (by decide)) (by decide)
  have hnone : Except.ok 0 = (.ok closed.length : Except ManagerStop ℕ) :=
    congrArg (Except.map Prod.fst) hgc
  have hclosed := (hidle 1 ⟨2, 6, true, 2000, true⟩ ⟨by decide, rfl⟩).mpr (by decide)
  rw [List.length_eq_zero_iff.mp (Except.ok.inj hnone).symm] at hclosed
  exact List.not_mem_nil hclosed

end Resiprocate.Connections
