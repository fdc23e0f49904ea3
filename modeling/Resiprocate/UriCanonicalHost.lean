import Resiprocate.DataOrder
import Resiprocate.ProgramLogic
import Resiprocate.TransitionSystem

/-! The canonical host that a `Uri` remembers. It is the one of the host as long as nothing is written
through `opaque()` while it is remembered. -/
namespace Resiprocate.Rutil.ParseBuffer.Fill
open ProgramLogic

variable {σ α β : Type} {P : σ → Prop}

/-- However `m` ends, `P` holds of what is filled. -/
def Keeps (P : σ → Prop) (m : Fill σ α) : Prop :=
  Leaves (fun s => P s.2) m (fun _ s => P s.2) fun s => P s.2

namespace Keeps

theorem pure (a : α) : Keeps P (pure a : Fill σ α) := Leaves.pure fun _ h => h

theorem throw (msg : String) : Keeps P (throw msg : Fill σ α) := Leaves.throw msg fun _ h => h

theorem bind {m : Fill σ α} {k : α → Fill σ β} (hm : Keeps P m) (hk : ∀ a, Keeps P (k a)) :
    Keeps P (m >>= k) := Leaves.bind hm hk

theorem get {k : ParseBuffer × σ → Fill σ β} (hk : ∀ s, Keeps P (k s)) : Keeps P (get >>= k) :=
  fun s hs => hk s s hs

theorem ite {c : Prop} [Decidable c] {m m' : Fill σ α} (ht : Keeps P m) (hf : Keeps P m') :
    Keeps P (if c then m else m') := Leaves.ite (fun _ => ht) fun _ => hf

/-- What only reads the buffer does not fill. -/
theorem lift (m : Parse α) : Keeps P (liftM m : Fill σ α) := by
  intro s hs
  have hlift : (liftM m : Fill σ α) s = onBuffer m s := rfl
  rw [hlift, onBuffer]
  cases m s.1 <;> exact hs

theorem fill {f : σ → σ} (h : ∀ u, P u → P (f u)) : Keeps P (fill f) :=
  Leaves.modify fun s hs => h s.2 hs

theorem whileNotEof {body : Fill σ Bool} (h : Keeps P body) (fuel : ℕ) :
    Keeps P (whileNotEof body fuel) := by
  induction fuel with
  | zero => exact pure ()
  | succ fuel ih => exact get fun _ => ite (pure ()) (bind h fun goesOn => ite ih (pure ()))

theorem untilEof {body : Fill σ Bool} (h : Keeps P body) : Keeps P (untilEof body) :=
  get fun _ => whileNotEof h _

end Keeps
end Resiprocate.Rutil.ParseBuffer.Fill

namespace Resiprocate.Stack.Uri
open Rutil DnsUtil Rutil.ParseBuffer Rutil.ParseBuffer.Fill ProgramLogic TransitionSystem

variable {M α : Type} {inet : Inet} {u other : Uri M}

/-- What is remembered is the canonical host. -/
def Coherent (inet : Inet) (u : Uri M) : Prop :=
  u.mHostCanonicalized = true → u.mCanonicalHost = canonicalHost inet u.mHost

theorem coherent_of_unknown (h : u.mHostCanonicalized = false) : Coherent inet u :=
  fun hknown => absurd hknown (by simp [h])

/-! ### Parsing -/

theorem keeps_parseParametersTurn : Keeps (Coherent inet) (parseParametersTurn : Fill (Uri M) Bool) := by
  unfold parseParametersTurn
  refine .bind (.lift _) fun start => .bind (.lift _) fun _ => .bind (.lift _) fun semicolon => .ite ?_ ?_
  · refine .bind (.lift _) fun _ => .bind (.lift _) fun _ => .bind (.lift _) fun keyStart =>
      .bind (.lift _) fun _ => .bind (.lift _) fun key => .ite ?_ (.pure _)
    cases ParameterType.getType key with
    | none => exact .bind (.lift _) fun _ => .bind (.fill fun _ h => h) fun _ => .pure _
    | some type => exact .bind (.lift _) fun _ => .bind (.fill fun _ h => h) fun _ => .pure _
  · exact .bind (.lift _) fun _ => .pure _

theorem keeps_parseParameters : Keeps (Coherent inet) (parseParameters : Fill (Uri M) Unit) :=
  .untilEof keeps_parseParametersTurn

theorem keeps_parseRelative (start : ℤ) :
    Keeps (Coherent inet) (parseRelative start : Fill (Uri M) Unit) := by
  unfold parseRelative
  refine .bind (.fill fun _ h => h) fun _ => .bind (.lift _) fun _ => .bind (.lift _) fun mPath =>
    .bind (.fill fun _ h => h) fun _ => .bind (.lift _) fun ended => .ite ?_ (.pure _)
  exact .bind (.lift _) fun c => .ite keeps_parseParameters (.pure _)

theorem keeps_parseTel : Keeps (Coherent inet) (parseTel : Fill (Uri M) Unit) := by
  unfold parseTel
  refine .bind (.lift _) fun anchor => .bind (.lift _) fun _ => .bind (.lift _) fun mUser =>
    .bind (.fill fun _ h => h) fun _ => .bind (.lift _) fun semicolon => .ite ?_ (.pure _)
  exact .bind (.lift _) fun _ => .bind (.lift _) fun anchor => .bind (.lift _) fun _ =>
    .bind (.lift _) fun mUserParameters => .fill fun _ h => h

theorem keeps_parsePassword (start : ℤ) :
    Keeps (Coherent inet) (parsePassword start : Fill (Uri M) (Option ℤ)) := by
  unfold parsePassword
  refine .bind (.lift _) fun _ => .bind (.lift _) fun afterColon => .bind (.lift _) fun _ =>
    .bind (.lift _) fun atSign => .ite ?_ ?_
  · exact .bind (.lift _) fun atSign => .bind (.lift _) fun mPassword => .bind (.fill fun _ h => h)
      fun _ => .bind (.lift _) fun _ => .pure _
  · exact .bind (.lift _) fun _ => .pure _

theorem keeps_parseAtSign (start : ℤ) (atSign : Option ℤ) : Keeps (Coherent inet) (match atSign with
    | none => pure start
    | some atSign => do
      let mUser ← dataUnescaped start
      fill fun u => { u with mUser := mUser }
      reset atSign
      skipChar
      position : Fill (Uri M) ℤ) := by
  cases atSign with
  | none => exact .pure _
  | some atSign =>
    exact .bind (.lift _) fun mUser => .bind (.fill fun _ h => h) fun _ => .bind (.lift _) fun _ =>
      .bind (.lift _) fun _ => .lift _

theorem keeps_parseUser : Keeps (Coherent inet) (parseUser : Fill (Uri M) ℤ) := by
  unfold parseUser
  refine .bind (.lift _) fun start => .bind (.lift _) fun _ => .bind (.lift _) fun ended => .ite ?_ ?_
  · exact .bind (.lift _) fun _ => .pure _
  refine .bind (.lift _) fun c => ?_
  refine .ite (.bind (keeps_parsePassword start) (keeps_parseAtSign start)) (.ite ?_ ?_)
  · exact .bind (.lift _) fun atSign => .bind (.pure _) (keeps_parseAtSign start)
  · exact .bind (.lift _) fun _ => .bind (.pure _) (keeps_parseAtSign start)

/-- What `inet_pton` takes has the form that `isIpV6Address` looks for. -/
def V6Texts (inet : Inet) : Prop := ∀ text dst, inet.pton text = some dst → isIpV6Address text = true

theorem isIpV6Address_of_isPrefix {part ip : Bytes} (hpart : part <+: ip)
    (h : isIpV6Address part = true) : isIpV6Address ip = true := by
  obtain ⟨rest, rfl⟩ := hpart
  match part with
  | [] | [_] => exact absurd h (by simp [isIpV6Address])
  | first :: second :: part =>
    simp only [isIpV6Address, List.cons_append, Bool.and_eq_true, List.any_eq_true] at h ⊢
    obtain ⟨hfirst, c, hmem, hc⟩ := h
    refine ⟨hfirst, c, ?_, hc⟩
    have htake : (first :: second :: part).take 5 <+: (first :: second :: (part ++ rest)).take 5 :=
      List.IsPrefix.take (List.prefix_append (first :: second :: part) rest) 5
    exact htake.subset hmem

/-- A host between brackets that is an address is compared as one. -/
theorem canonicalHost_of_ne_nil (hinet : V6Texts inet) {mHost : Bytes}
    (h : canonicalizeIpV6Address inet mHost ≠ []) :
    canonicalHost inet mHost = canonicalizeIpV6Address inet mHost := by
  have hv6 : isIpV6Address mHost = true := by
    unfold canonicalizeIpV6Address at h
    split at h
    · exact absurd rfl h
    · rename_i dst hdst
      exact isIpV6Address_of_isPrefix (List.takeWhile_prefix _) (hinet _ dst hdst)
  exact if_pos hv6

/-- While nothing is remembered, the buffer is read. -/
theorem leaves_unknown (m : Parse α) : Leaves (fun s : ParseBuffer × Uri M => s.2.mHostCanonicalized = false)
    (liftM m : Fill (Uri M) α) (fun _ s => s.2.mHostCanonicalized = false) fun s => Coherent inet s.2 :=
  Leaves.weaken (Keeps.lift (P := fun u : Uri M => u.mHostCanonicalized = false) m) (fun _ h => h) (fun _ _ h => h) fun _ h => coherent_of_unknown h

theorem keeps_parseHost (hinet : V6Texts inet) (start : ℤ) :
    Keeps (Coherent inet) (parseHost inet start : Fill (Uri M) Unit) := by
  unfold parseHost
  refine Leaves.bind (Leaves.modify fun s _ => rfl) fun _ => .bind (leaves_unknown _) fun c => .ite
    (fun _ => ?_) fun _ => ?_
  · refine .bind (leaves_unknown _) fun _ => .bind (leaves_unknown _) fun start =>
      .bind (leaves_unknown _) fun _ => .bind (leaves_unknown _) fun mHost => ?_
    -- Between the brackets is `mHost`, and what is stored is remembered only if it is not empty.
    let stored : ParseBuffer × Uri M → Prop := fun s => s.2.mHostCanonicalized = false ∧
      s.2.mHost = mHost ∧ s.2.mCanonicalHost = canonicalizeIpV6Address inet mHost
    have hremember : ∀ s, canonicalizeIpV6Address inet mHost ≠ [] → stored s →
        Coherent inet { s.2 with mHostCanonicalized := true } := by
      rintro s hne ⟨-, hhost, hcanonical⟩ -
      change s.2.mCanonicalHost = canonicalHost inet s.2.mHost
      rw [hcanonical, hhost, canonicalHost_of_ne_nil hinet hne]
    refine Leaves.bind (Q := fun _ => stored) (Leaves.modify fun s hs => ⟨hs, rfl, rfl⟩) fun _ => ?_
    refine .ite (fun _ => ?_) fun hne => ?_
    · exact .throw_bind _ fun s hs => coherent_of_unknown hs.1
    · refine .bind (Q := fun _ s => Coherent inet s.2)
        (Leaves.modify fun s hs => hremember s hne hs) fun _ => ?_
      exact Keeps.bind (.lift _) fun _ => .lift _
  · refine .bind (leaves_unknown _) fun _ => .bind (leaves_unknown _) fun mHost => ?_
    exact Leaves.modify fun s hs => coherent_of_unknown hs

theorem keeps_parsePort : Keeps (Coherent inet) (parsePort : Fill (Uri M) Unit) := by
  unfold parsePort
  refine .bind (.lift _) fun colon => .ite ?_ (.fill fun _ h => h)
  exact .bind (.lift _) fun _ => .bind (.lift _) fun mPort => .fill fun _ h => h

theorem keeps_parseEmbeddedHeadersText :
    Keeps (Coherent inet) (parseEmbeddedHeadersText : Fill (Uri M) Unit) := by
  unfold parseEmbeddedHeadersText
  refine .bind (.lift _) fun question => .ite ?_ (.pure _)
  exact .bind (.lift _) fun anchor => .bind (.lift _) fun _ => .bind (.fill fun _ h => h) fun _ =>
    .bind (.lift _) fun text => .fill fun _ h => h

theorem keeps_parse (hinet : V6Texts inet) : Keeps (Coherent inet) (parse inet : Fill (Uri M) Unit) := by
  unfold parse
  refine .bind (.lift _) fun _ => .bind (.lift _) fun start => .bind (.lift _) fun c =>
    .ite (keeps_parseRelative start) ?_
  refine .bind (.lift _) fun _ => .bind (.lift _) fun _ => .bind (.lift _) fun mScheme =>
    .bind (.fill fun _ h => h) fun _ => .bind (.lift _) fun _ => .bind (.fill fun _ h => h) fun _ =>
    .get fun s => .ite keeps_parseTel ?_
  refine .bind keeps_parseUser fun start => .bind (.lift _) fun ended => .ite ?_ (.pure _)
  refine .bind (keeps_parseHost hinet start) fun _ => .bind keeps_parsePort fun _ =>
    .bind keeps_parseParameters fun _ => keeps_parseEmbeddedHeadersText

theorem coherent_checkParsed (hinet : V6Texts inet) (h : Coherent inet u) :
    Coherent inet (checkParsed inet u).2 := by
  unfold checkParsed
  split
  · have hrun := keeps_parse hinet (ofText u.mHeaderField, { u with mState := .MALFORMED }) h
    unfold doParse
    cases hparse : parse inet (ofText u.mHeaderField, { u with mState := .MALFORMED }) with
    | ok a s =>
      rw [hparse] at hrun
      exact hrun
    | error msg s =>
      rw [hparse] at hrun
      exact hrun
  · exact h

/-! ### Reading -/

/-- The canonical host that the readers use. -/
def readHost (inet : Inet) (u : Uri M) : Bytes :=
  if u.mHostCanonicalized then u.mCanonicalHost else canonicalHost inet u.mHost

theorem Coherent.readHost (h : Coherent inet u) : readHost inet u = canonicalHost inet u.mHost := by
  unfold Uri.readHost
  split
  · rename_i hknown
    exact h hknown
  · rfl

theorem canonicalized_fields (inet : Inet) (u : Uri M) : canonicalized inet u =
    { u with
      mCanonicalHost := readHost inet u
      mHostCanonicalized := true } := by
  unfold canonicalized readHost
  split
  · rename_i h
    rw [← h]
  · rfl

theorem coherent_canonicalized (h : Coherent inet u) : Coherent inet (canonicalized inet u) := by
  intro _
  rw [canonicalized_fields]
  exact h.readHost

/-- `operator<` is the order of these. -/
def orderKey (inet : Inet) (u : Uri M) : List ℕ ×ₗ List ℕ ×ₗ List ℕ ×ₗ ℤ :=
  toLex (Data.order u.mUser, toLex (Data.order u.mUserParameters,
    toLex (Data.order (readHost inet u), u.mPort.toInt)))

theorem less_iff_orderKey (inet : Inet) (u other : Uri M) :
    (less inet u other).1 = true ↔ orderKey inet u < orderKey inet other := by
  have hvalue : (less inet u other).1 =
      if Data.less u.mUser other.mUser then true
      else if Data.less other.mUser u.mUser then false
      else if Data.less u.mUserParameters other.mUserParameters then true
      else if Data.less other.mUserParameters u.mUserParameters then false
      else if Data.less (readHost inet u) (readHost inet other) then true
      else if Data.less (readHost inet other) (readHost inet u) then false
      else decide (u.mPort < other.mPort) := by
    simp only [less, canonicalized_fields]
    split_ifs <;> rfl
  have hport : decide (u.mPort < other.mPort) = true ↔ u.mPort.toInt < other.mPort.toInt := by
    rw [decide_eq_true_iff, Int32.lt_iff_toInt_lt]
  rw [hvalue]
  exact Data.less_lex_iff (Data.less_lex_iff (Data.less_lex_iff hport))

theorem less_isStrictWeakOrder (inet : Inet) {ι : Type} (uri : ι → Uri M) :
    IsStrictWeakOrder ι fun i j => (less inet (uri i) (uri j)).1 = true where
  irrefl i := by
    rw [less_iff_orderKey]
    exact lt_irrefl _
  trans i j k := by
    simp only [less_iff_orderKey]
    exact lt_trans
  incomp_trans i j k := by
    simp only [less_iff_orderKey, not_lt]
    exact fun hij hjk => ⟨hjk.1.trans hij.1, hij.2.trans hjk.2⟩

/-- The same, where the canonical host is not known. -/
def forgotten (u : Uri M) : Uri M := { u with mHostCanonicalized := false }

theorem Coherent.orderKey_forgotten (h : Coherent inet u) :
    orderKey inet (forgotten u) = orderKey inet u := by
  rw [orderKey, orderKey, h.readHost]
  rfl

theorem Coherent.canonicalized_forgotten (h : Coherent inet u) :
    canonicalized inet (forgotten u) = canonicalized inet u := by
  rw [canonicalized_fields inet u, h.readHost]
  rfl

/-- The comparisons of `u` and `other` and the addresses of record of `u` are those for canonical hosts
that are computed afresh. -/
structure ReadAfresh (inet : Inet) (u other : Uri M) : Prop where
  less : (less inet u other).1 = (less inet (forgotten u) (forgotten other)).1
  aorEqual : (aorEqual inet u other).1 = (aorEqual inet (forgotten u) (forgotten other)).1
  getAor : ∀ dropScheme addPort,
    (getAorInternal inet dropScheme addPort u).1 = (getAorInternal inet dropScheme addPort (forgotten u)).1

theorem readAfresh (hu : Coherent inet u) (hother : Coherent inet other) : ReadAfresh inet u other where
  less := by
    rw [Bool.eq_iff_iff, less_iff_orderKey, less_iff_orderKey, hu.orderKey_forgotten,
      hother.orderKey_forgotten]
  aorEqual := by
    simp only [Uri.aorEqual, hu.canonicalized_forgotten, hother.canonicalized_forgotten]
  getAor dropScheme addPort := by
    simp only [getAorInternal, hu.canonicalized_forgotten]
    rfl

theorem coherent_canonicalizedV6 (hv6 : isIpV6Address u.mHost = true) (h : Coherent inet u) :
    Coherent inet (canonicalizedV6 inet u) := by
  have hsame : canonicalizedV6 inet u = canonicalized inet u := by
    rw [canonicalizedV6, canonicalized, canonicalHost, if_pos hv6]
  rw [hsame]
  exact coherent_canonicalized h

theorem coherent_equals (sort : List UnknownParameter → List UnknownParameter) (hu : Coherent inet u)
    (hother : Coherent inet other) :
    Coherent inet (equals inet sort u other).2.1 ∧ Coherent inet (equals inet sort u other).2.2 := by
  by_cases hv6 : (isIpV6Address u.mHost && isIpV6Address other.mHost) = true
  · obtain ⟨huv6, hotherv6⟩ := Bool.and_eq_true_iff.mp hv6
    simp only [equals, hv6, if_true]
    exact ⟨coherent_canonicalizedV6 huv6 hu, coherent_canonicalizedV6 hotherv6 hother⟩
  · simp only [equals, hv6]
    exact ⟨hu, hother⟩

theorem coherent_less (hu : Coherent inet u) (hother : Coherent inet other) :
    Coherent inet (less inet u other).2.1 ∧ Coherent inet (less inet u other).2.2 := by
  unfold less
  split_ifs <;> first
    | exact ⟨hu, hother⟩
    | exact ⟨coherent_canonicalized hu, coherent_canonicalized hother⟩

/-! ### Runs -/

/-- Operations on the `Uri`s of a program, which are numbered. The writes are through what `host()` and
`opaque()` return. -/
inductive Operation
  | ofHeaderField (i : ℕ) (hfv : Bytes)
  | checkParsed (i : ℕ)
  | writeHost (i : ℕ) (value : Bytes)
  | writeOpaque (i : ℕ) (value : Bytes)
  | assign (i j : ℕ)
  | copy (i j : ℕ)
  | equals (i j : ℕ)
  | less (i j : ℕ)
  | aorEqual (i j : ℕ)
  | getAor (i : ℕ) (dropScheme addPort : Bool)
  deriving DecidableEq

abbrev Program (M : Type) := EStateM String (ℕ → Uri M)

def store (i : ℕ) (u : Uri M) : Program M Unit := modify fun s => Function.update s i u

def parsedAt (inet : Inet) (i : ℕ) : Program M (Uri M) := do
  let s ← get
  store i (checkParsed inet (s i)).2
  match (checkParsed inet (s i)).1 with
  | some msg => throw msg
  | none => return (checkParsed inet (s i)).2

/-- Both are parsed, `first` before the other, and both may be changed by what is read of them. -/
def readBoth {α : Type} (inet : Inet) (i j first : ℕ) (read : Uri M → Uri M → α × Uri M × Uri M) :
    Program M Unit := do
  let _ ← parsedAt inet first
  let _ ← parsedAt inet (if first = i then j else i)
  let s ← get
  store i (read (s i) (s j)).2.1
  store j (read (s i) (s j)).2.2

def perform (inet : Inet) (sort : List UnknownParameter → List UnknownParameter) :
    Operation → Program M Unit
  | .ofHeaderField i hfv => store i (Uri.ofHeaderField hfv)
  | .checkParsed i => do let _ ← parsedAt inet i
  | .writeHost i value => do
    let u ← parsedAt inet i
    store i { u with mState := .DIRTY, mHostCanonicalized := false, mHost := value }
  | .writeOpaque i value => do
    let u ← parsedAt inet i
    store i { u with mState := .DIRTY, mHost := value }
  | .assign i j => do
    let s ← get
    if i ≠ j then store i (Uri.assign (s i) (s j))
  | .copy i j => do
    let s ← get
    store i (Uri.copy (s j))
  | .equals i j => readBoth inet i j i (Uri.equals inet sort)
  | .less i j => readBoth inet i j j (Uri.less inet)
  | .aorEqual i j => readBoth inet i j i (Uri.aorEqual inet)
  | .getAor i dropScheme addPort => do
    let u ← parsedAt inet i
    store i (getAorInternal inet dropScheme addPort u).2

/-- The state after an operation, also if it throws. -/
def after (m : Program M Unit) (s : ℕ → Uri M) : ℕ → Uri M :=
  match m s with
  | .ok _ s => s
  | .error _ s => s

def program (inet : Inet) (sort : List UnknownParameter → List UnknownParameter) :
    System (ℕ → Uri M) Operation where
  init s := ∀ i, s i = Uri.new
  enabled _ _ := True
  next s op := after (perform inet sort op) s

/-- What is written through `opaque()` while a canonical host is remembered has that canonical host. -/
def WritesCoherently (inet : Inet) (s : ℕ → Uri M) : Operation → Prop
  | .writeOpaque i value =>
    let (thrown, u) := Uri.checkParsed inet (s i)
    thrown = none → u.mHostCanonicalized = true → canonicalHost inet value = canonicalHost inet u.mHost
  | _ => True

def AllCoherent (inet : Inet) (s : ℕ → Uri M) : Prop := ∀ i, Coherent inet (s i)

theorem AllCoherent.update {s : ℕ → Uri M} (h : AllCoherent inet s) (i : ℕ) (hu : Coherent inet u) :
    AllCoherent inet (Function.update s i u) := by
  intro k
  by_cases hk : k = i
  · subst hk
    rwa [Function.update_self]
  · rw [Function.update_of_ne hk]
    exact h k

theorem leaves_store (i : ℕ) {P : (ℕ → Uri M) → Prop} (hP : ∀ s, P s → AllCoherent inet s)
    (hu : Coherent inet u) :
    Leaves P (store i u) (fun _ => AllCoherent inet) (AllCoherent inet) :=
  Leaves.modify fun s hs => (hP s hs).update i hu

/-- What is returned is what the `Uri` is parsed to. -/
theorem leaves_parsedAt_eq (hinet : V6Texts inet) (i : ℕ) {s : ℕ → Uri M} (hs : AllCoherent inet s) :
    Leaves (· = s) (parsedAt inet i) (fun u s' => AllCoherent inet s' ∧
      ((checkParsed inet (s i)).1 = none ∧ u = (checkParsed inet (s i)).2)) (AllCoherent inet) := by
  refine Leaves.get fun s' hs' => ?_
  subst hs'
  have hparsed : Coherent inet (checkParsed inet (s' i)).2 := coherent_checkParsed hinet (hs i)
  refine .bind (leaves_store i (fun _ h => h ▸ hs) hparsed) fun _ => ?_
  cases hthrown : (checkParsed inet (s' i)).1 with
  | some msg => exact .throw msg fun _ h => h
  | none => exact .pure fun _ h => ⟨h, rfl, rfl⟩

theorem leaves_parsedAt (hinet : V6Texts inet) (i : ℕ) : Leaves (AllCoherent inet) (parsedAt inet i)
    (fun (u : Uri M) s => AllCoherent inet s ∧ Coherent inet u) (AllCoherent inet) := by
  intro s hs
  refine (leaves_parsedAt_eq hinet i hs).weaken (fun _ h => h) (fun u s' h => ⟨h.1, ?_⟩) (fun _ h => h) s rfl
  rw [h.2.2]
  exact coherent_checkParsed hinet (hs i)

theorem leaves_readBoth (hinet : V6Texts inet) (i j first : ℕ)
    {read : Uri M → Uri M → α × Uri M × Uri M}
    (hread : ∀ {u other}, Coherent inet u → Coherent inet other →
      Coherent inet (read u other).2.1 ∧ Coherent inet (read u other).2.2) :
    Leaves (AllCoherent inet) (readBoth inet i j first read) (fun _ => AllCoherent inet)
      (AllCoherent inet) := by
  refine .bind (leaves_parsedAt hinet first) fun _ => ?_
  refine .bind (Leaves.weaken (leaves_parsedAt hinet _) (fun _ h => h.1) (fun _ _ h => h.1) fun _ h => h)
    fun _ => ?_
  refine .get fun s hs => ?_
  obtain ⟨hu, hother⟩ := hread (hs i) (hs j)
  exact .bind (leaves_store i (fun s' hs' => hs' ▸ hs) hu) fun _ => leaves_store j (fun _ h => h) hother

/-- One step: every operation but a write through `opaque()` keeps what is remembered coherent. -/
theorem leaves_perform (hinet : V6Texts inet) (sort : List UnknownParameter → List UnknownParameter)
    (op : Operation) {s : ℕ → Uri M} (hs : AllCoherent inet s) (hop : WritesCoherently inet s op) :
    AllCoherent inet (after (perform inet sort op) s) := by
  have hafter : ∀ {m : Program M Unit} {P : (ℕ → Uri M) → Prop}, P s →
      Leaves P m (fun _ => AllCoherent inet) (AllCoherent inet) → AllCoherent inet (after m s) := by
    intro m P hP hm
    have hend := hm s hP
    unfold after
    cases hrun : m s with
    | ok a s' =>
      rw [hrun] at hend
      exact hend
    | error msg s' =>
      rw [hrun] at hend
      exact hend
  cases op with
  | ofHeaderField i hfv => exact hafter hs (leaves_store i (fun _ h => h) (coherent_of_unknown rfl))
  | checkParsed i =>
    exact hafter hs (.bind (leaves_parsedAt hinet i) fun _ => .pure fun _ h => h.1)
  | writeHost i value =>
    refine hafter hs (.bind (leaves_parsedAt hinet i) fun u => ?_)
    exact leaves_store i (fun _ h => h.1) (coherent_of_unknown rfl)
  | writeOpaque i value =>
    refine hafter (P := (· = s)) rfl (.bind (leaves_parsedAt_eq hinet i hs) fun u => .and_pure fun hu => ?_)
    refine leaves_store i (fun _ h => h) fun hknown => ?_
    obtain ⟨hnone, rfl⟩ := hu
    have hsame : canonicalHost inet value = canonicalHost inet (Uri.checkParsed inet (s i)).2.mHost :=
      hop hnone hknown
    exact (coherent_checkParsed hinet (hs i) hknown).trans hsame.symm
  | assign i j =>
    refine hafter hs (.get fun s' hs' => .ite (fun _ => ?_) fun _ => .pure fun _ h => h ▸ hs')
    exact leaves_store i (fun _ h => h ▸ hs') (hs' j)
  | copy i j =>
    exact hafter hs (.get fun s' hs' => leaves_store i (fun _ h => h ▸ hs') (hs' j))
  | equals i j => exact hafter hs (leaves_readBoth hinet i j i (coherent_equals sort))
  | less i j => exact hafter hs (leaves_readBoth hinet i j j coherent_less)
  | aorEqual i j =>
    exact hafter hs (leaves_readBoth hinet i j i fun hu hother =>
      ⟨coherent_canonicalized hu, coherent_canonicalized hother⟩)
  | getAor i dropScheme addPort =>
    refine hafter hs (.bind (leaves_parsedAt hinet i) fun u => .and_pure fun hu => ?_)
    exact leaves_store i (fun _ h => h) (coherent_canonicalized hu)

theorem reach_coherent (hinet : V6Texts inet) {sort : List UnknownParameter → List UnknownParameter}
    {s : ℕ → Uri M} (h : Reach (program inet sort) (WritesCoherently inet) s) : AllCoherent inet s := by
  refine h.invariant (fun s hinit i => ?_) fun s op _ hs _ hop => leaves_perform hinet sort op hs hop
  rw [hinit i]
  exact coherent_of_unknown rfl

/-- After any run without such a write, what is read of the `Uri`s that it leaves is what is computed of
their hosts afresh, and `operator<` is a strict weak order of them. -/
theorem canonical_host {inet : Inet} (hinet : V6Texts inet)
    {sort : List UnknownParameter → List UnknownParameter} {s : ℕ → Uri M}
    (h : Reach (program inet sort) (WritesCoherently inet) s) :
    (∀ i j, ReadAfresh inet (checkParsed inet (s i)).2 (checkParsed inet (s j)).2) ∧
      IsStrictWeakOrder ℕ fun i j =>
        (less inet (checkParsed inet (s i)).2 (checkParsed inet (s j)).2).1 = true := by
  have hcoherent : ∀ i, Coherent inet (checkParsed inet (s i)).2 := fun i =>
    coherent_checkParsed hinet (reach_coherent hinet h i)
  exact ⟨fun i j => readAfresh (hcoherent i) (hcoherent j), less_isStrictWeakOrder inet _⟩

/-- The only address is the loopback address. -/
def loopbackOnly : Inet := ⟨fun text => if text = literal "::1" then some 1 else none, fun _ => literal "::1"⟩

def loopbackRun : List Operation :=
  [.ofHeaderField 0 (literal "sip:a@[::1]"), .getAor 0 true true, .writeHost 0 (literal "H"), .less 0 1]

theorem canonical_host_loopback :
    let s : ℕ → Uri Unit := loopbackRun.foldl (program loopbackOnly id).next fun _ => Uri.new
    ReadAfresh loopbackOnly (checkParsed loopbackOnly (s 0)).2 (checkParsed loopbackOnly (s 1)).2 := by
  have hinet : V6Texts loopbackOnly := by
    intro text dst h
    have htext : text = literal "::1" := by
      by_contra hne
      simp [loopbackOnly, hne] at h
    subst htext
    decide
  exact (canonical_host hinet ((Reach.init fun _ => rfl).run loopbackRun (by
    simp [Permitted, loopbackRun, WritesCoherently, program]))).1 0 1

/-- The address of record is read, another host is written through `opaque()`, and the address of record
is still that of the first host. -/
theorem not_canonical_host :
    let s : ℕ → Uri Unit := [Operation.ofHeaderField 0 (literal "sip:a@h1"), .getAor 0 true true,
      .writeOpaque 0 (literal "h2")].foldl (program .noAddresses id).next fun _ => Uri.new
    (s 0).mHost = literal "h2" ∧
      (getAorInternal .noAddresses true true (s 0)).1 = literal "a@h1" ∧
      (getAorInternal .noAddresses true true (forgotten (s 0))).1 = literal "a@h2" := by
  decide +kernel

end Resiprocate.Stack.Uri
