import Resiprocate.DataOrder
import Resiprocate.MergeWalk

/-! What `operator==` of a `Uri` compares, and which of the laws of an equality it has. It is symmetric.
A parameter that is there twice is compared with the first of its type, also for one `Uri`, and the path
is not compared. -/
namespace Resiprocate.Stack.Uri
open Rutil DnsUtil MergeWalk

variable {M : Type} {inet : Inet} {sort : List UnknownParameter → List UnknownParameter}
  {u other : Uri M} {p q : Parameter}

/-! ### Known parameters -/

def Compared : ParameterType → Prop
  | .data type => type ∈ comparedTypes
  | .uInt32 type => type = .ttl
  | .exists_ _ => False

instance : DecidablePred Compared := fun type => by
  cases type <;> unfold Compared <;> infer_instance

/-- Equal numbers, or strings that differ in case only. -/
def SameValue : Parameter → Parameter → Prop
  | .data _ value _, .data _ value' _ => isEqualNoCase value value' = true
  | .uInt32 _ value, .uInt32 _ value' => value = value'
  | .exists_ _ value, .exists_ _ value' => value = value'
  | _, _ => False

/-- If `p` is compared, the first parameter of its type in `other` has its value. -/
def Answered (other : Uri M) (p : Parameter) : Prop :=
  Compared p.getType → ∃ q, other.getParameterByEnum p.getType = some q ∧ SameValue p q

theorem getType_of_getParameterByEnum {type : ParameterType}
    (h : other.getParameterByEnum type = some q) : q.getType = type := by
  simpa using List.find?_some h

theorem agrees_some (hq : q.getType = p.getType) :
    agrees p (some q) = true ↔ Compared p.getType → SameValue p q := by
  cases p with
  | data type value isQuoted =>
    cases q with
    | data type' value' isQuoted' =>
      by_cases hcompared : type ∈ comparedTypes
      · simp [agrees, Parameter.getType, Compared, SameValue, hcompared]
      · simp [agrees, Parameter.getType, Compared, hcompared]
    | uInt32 type' value' => exact ParameterType.noConfusion hq
    | exists_ type' value' => exact ParameterType.noConfusion hq
  | uInt32 type value =>
    cases q with
    | data type' value' isQuoted' => exact ParameterType.noConfusion hq
    | uInt32 type' value' => cases type <;> simp [agrees, Parameter.getType, Compared, SameValue]
    | exists_ type' value' => exact ParameterType.noConfusion hq
  | exists_ type value => simp [agrees, Parameter.getType, Compared]

theorem agrees_none : agrees p none = true ↔ ¬Compared p.getType := by
  cases p with
  | data type value isQuoted =>
    by_cases hcompared : type ∈ comparedTypes <;>
      simp [agrees, Parameter.getType, Compared, hcompared]
  | uInt32 type value => cases type <;> simp [agrees, Parameter.getType, Compared]
  | exists_ type value => simp [agrees, Parameter.getType, Compared]

theorem agrees_iff : agrees p (other.getParameterByEnum p.getType) = true ↔ Answered other p := by
  unfold Answered
  cases h : other.getParameterByEnum p.getType with
  | none => simp [agrees_none]
  | some q => simp [agrees_some (getType_of_getParameterByEnum h)]

/-- Each parameter that is compared has the value of the first one of its type. -/
def RepeatsAgree (u : Uri M) : Prop := ∀ p ∈ u.mParameters, Answered u p

/-! ### Unknown parameters -/

/-- The key of an unknown parameter is its name. -/
def nameOrder (p : UnknownParameter) : List ℕ := Data.order p.mName

/-- What `std::sort` promises with `OrderUnknownParameters`. -/
def Sorts (sort : List UnknownParameter → List UnknownParameter) : Prop :=
  ∀ l, (sort l).Pairwise fun a b => Data.less b.mName a.mName = false

/-- Those with a name, in pairs: the first with the first, and so on. -/
def namesakes (name : Bytes) (as bs : List UnknownParameter) : List (UnknownParameter × UnknownParameter) :=
  (as.filter fun a => a.mName = name).zip (bs.filter fun b => b.mName = name)

theorem less_name_iff {a b : UnknownParameter} :
    Data.less a.mName b.mName = true ↔ nameOrder a < nameOrder b := Data.less_iff a.mName b.mName

theorem unknownAgree_eq_walk (as bs : List UnknownParameter) :
    unknownAgree as bs = walk nameOrder (fun a b => isEqualNoCase a.mValue b.mValue) as bs := by
  fun_induction unknownAgree as bs with
  | case1 a as b bs hless ih => rw [walk, if_pos (less_name_iff.mp hless), ih]
  | case2 a as b bs hless hgreater ih =>
    rw [walk, if_neg (mt less_name_iff.mpr hless), if_pos (less_name_iff.mp hgreater), ih]
  | case3 a as b bs hless hgreater ih =>
    rw [walk, if_neg (mt less_name_iff.mpr hless), if_neg (mt less_name_iff.mpr hgreater), ih]
  | case4 as bs h => rw [walk.eq_2 _ _ _ _ h]

theorem pairs_nameOrder (name : Bytes) (as bs : List UnknownParameter) :
    pairs nameOrder (Data.order name) as bs = namesakes name as bs := by
  have hname : ∀ p : UnknownParameter, nameOrder p = Data.order name ↔ p.mName = name := fun p =>
    Data.order_injective.eq_iff
  exact congrArg₂ List.zip (List.filter_congr fun p _ => decide_eq_decide.mpr (hname p))
    (List.filter_congr fun p _ => decide_eq_decide.mpr (hname p))

theorem unknownAgree_iff (hsort : Sorts sort) (as bs : List UnknownParameter) :
    unknownAgree (sort as) (sort bs) = true ↔ ∀ name, ∀ pair ∈ namesakes name (sort as) (sort bs),
      isEqualNoCase pair.1.mValue pair.2.mValue = true := by
  have hsorted : ∀ l, SortedBy nameOrder (sort l) := fun l =>
    (hsort l).imp fun h => (Data.less_eq_false_iff _ _).mp h
  rw [unknownAgree_eq_walk, walk_iff (hsorted as) (hsorted bs)]
  constructor
  · intro h name pair hpair
    exact h (Data.order name) pair (by rwa [pairs_nameOrder])
  · intro h k pair hpair
    have hmem := (List.of_mem_zip (a := pair.1) (b := pair.2) hpair).1
    have hkey : nameOrder pair.1 = k := by simpa using (List.mem_filter.mp hmem).2
    rw [← hkey, nameOrder, pairs_nameOrder] at hpair
    exact h _ pair hpair

/-! ### The comparison -/

/-- The canonical host that a comparison of hosts of IPv6 uses. -/
def canonicalHostV6 (inet : Inet) (u : Uri M) : Bytes :=
  if u.mHostCanonicalized then u.mCanonicalHost else canonicalizeIpV6Address inet u.mHost

def HostsAlike (inet : Inet) (u other : Uri M) : Prop :=
  if isIpV6Address u.mHost ∧ isIpV6Address other.mHost then
    canonicalHostV6 inet u = canonicalHostV6 inet other
  else isEqualNoCase u.mHost other.mHost = true

/-- The user part of a SIP address has its case. -/
def UsersAlike (u other : Uri M) : Prop :=
  if isEqualNoCase u.mScheme (literal "sip") ∨ isEqualNoCase u.mScheme (literal "sips") then
    u.mUser = other.mUser
  else isEqualNoCase u.mUser other.mUser = true

/-- All that is compared: not the paths. -/
structure Alike (inet : Inet) (sort : List UnknownParameter → List UnknownParameter)
    (u other : Uri M) : Prop where
  hosts : HostsAlike inet u other
  schemes : isEqualNoCase u.mScheme other.mScheme = true
  users : UsersAlike u other
  userParameters : isEqualNoCase u.mUserParameters other.mUserParameters = true
  passwords : u.mPassword = other.mPassword
  ports : u.mPort = other.mPort
  netNs : u.mNetNs = other.mNetNs
  known : ∀ p ∈ u.mParameters, Answered other p
  otherKnown : ∀ p ∈ other.mParameters, Answered u p
  unknown : ∀ name, ∀ pair ∈ namesakes name (sort u.mUnknownParameters) (sort other.mUnknownParameters),
    isEqualNoCase pair.1.mValue pair.2.mValue = true

theorem canonicalizedV6_fields (inet : Inet) (u : Uri M) : canonicalizedV6 inet u =
    { u with
      mCanonicalHost := canonicalHostV6 inet u
      mHostCanonicalized := true } := by
  unfold canonicalizedV6 canonicalHostV6
  split
  · rename_i h
    rw [← h]
  · rfl

theorem fieldsEqual_iff : fieldsEqual u other = true ↔ isEqualNoCase u.mScheme other.mScheme = true ∧
    UsersAlike u other ∧ isEqualNoCase u.mUserParameters other.mUserParameters = true ∧
    u.mPassword = other.mPassword ∧ u.mPort = other.mPort ∧ u.mNetNs = other.mNetNs := by
  have husers : (if isEqualNoCase u.mScheme (literal "sip") || isEqualNoCase u.mScheme (literal "sips") then
      u.mUser == other.mUser else isEqualNoCase u.mUser other.mUser) = true ↔ UsersAlike u other := by
    unfold UsersAlike
    simp only [Bool.or_eq_true]
    split <;> simp
  simp only [fieldsEqual, Bool.and_eq_true, husers, beq_iff_eq, and_true, and_assoc]

/-- The parts of the comparison, where what becomes known of the hosts changes none of the others. -/
theorem equals_parts : (equals inet sort u other).1 = true ↔ HostsAlike inet u other ∧
    fieldsEqual u other = true ∧ (∀ p ∈ u.mParameters, Answered other p) ∧
    (∀ p ∈ other.mParameters, Answered u p) ∧
    unknownAgree (sort u.mUnknownParameters) (sort other.mUnknownParameters) = true := by
  simp only [← agrees_iff]
  by_cases hv6 : isIpV6Address u.mHost ∧ isIpV6Address other.mHost
  · have hboth : (isIpV6Address u.mHost && isIpV6Address other.mHost) = true := by simpa using hv6
    simp only [equals, hboth, if_true, canonicalizedV6_fields, hostsEqual, HostsAlike, if_pos hv6,
      Bool.and_eq_true, List.all_eq_true, beq_iff_eq, and_assoc]
    rfl
  · have hboth : (isIpV6Address u.mHost && isIpV6Address other.mHost) = false := by simpa using hv6
    simp only [equals, hboth, Bool.false_eq_true, if_false, hostsEqual, HostsAlike, if_neg hv6,
      Bool.and_eq_true, List.all_eq_true, and_assoc]

theorem equals_iff (hsort : Sorts sort) : (equals inet sort u other).1 = true ↔ Alike inet sort u other := by
  rw [equals_parts, fieldsEqual_iff, unknownAgree_iff hsort]
  constructor
  · rintro ⟨hosts, ⟨schemes, users, userParameters, passwords, ports, netNs⟩, known, otherKnown, unknown⟩
    exact ⟨hosts, schemes, users, userParameters, passwords, ports, netNs, known, otherKnown, unknown⟩
  · rintro ⟨hosts, schemes, users, userParameters, passwords, ports, netNs, known, otherKnown, unknown⟩
    exact ⟨hosts, ⟨schemes, users, userParameters, passwords, ports, netNs⟩, known, otherKnown, unknown⟩

/-! ### The laws -/

theorem namesakes_swap {name : Bytes} {as bs : List UnknownParameter}
    {pair : UnknownParameter × UnknownParameter} (h : pair ∈ namesakes name as bs) :
    pair.swap ∈ namesakes name bs as := by
  rw [← pairs_nameOrder] at h ⊢
  exact swap_mem_pairs h

theorem HostsAlike.symm (h : HostsAlike inet u other) : HostsAlike inet other u := by
  unfold HostsAlike at h ⊢
  by_cases hv6 : isIpV6Address u.mHost ∧ isIpV6Address other.mHost
  · rw [if_pos hv6] at h
    rw [if_pos hv6.symm, h]
  · rw [if_neg hv6] at h
    rwa [if_neg (mt And.symm hv6), isEqualNoCase_comm]

theorem UsersAlike.symm (hschemes : isEqualNoCase u.mScheme other.mScheme = true)
    (h : UsersAlike u other) : UsersAlike other u := by
  unfold UsersAlike at h ⊢
  simp only [isEqualNoCase_congr hschemes] at h
  split at h
  · rename_i hsip
    rw [if_pos hsip, h]
  · rename_i hsip
    rwa [if_neg hsip, isEqualNoCase_comm]

theorem Alike.symm (h : Alike inet sort u other) : Alike inet sort other u where
  hosts := h.hosts.symm
  schemes := by rw [isEqualNoCase_comm, h.schemes]
  users := h.users.symm h.schemes
  userParameters := by rw [isEqualNoCase_comm, h.userParameters]
  passwords := h.passwords.symm
  ports := h.ports.symm
  netNs := h.netNs.symm
  known := h.otherKnown
  otherKnown := h.known
  unknown name pair hpair := by
    rw [isEqualNoCase_comm]
    exact h.unknown name pair.swap (namesakes_swap hpair)

/-- A `Uri` is compared with itself by its own parameters. -/
theorem alike_self_iff : Alike inet sort u u ↔ RepeatsAgree u := by
  refine ⟨fun h => h.known, fun h => ⟨?_, isEqualNoCase_refl _, ?_, isEqualNoCase_refl _, rfl, rfl, rfl,
    h, h, fun name pair hpair => ?_⟩⟩
  · simp [HostsAlike]
  · simp [UsersAlike]
  · rw [← pairs_nameOrder] at hpair
    rw [eq_of_mem_pairs hpair, isEqualNoCase_refl]

/-- The laws hold of `u` and `other` exactly if repeated parameters of `u` agree, and the paths are
the same or something else is not. -/
theorem equality (inet : Inet) {sort : List UnknownParameter → List UnknownParameter} (hsort : Sorts sort)
    (u other : Uri M) :
    ((equals inet sort u u).1 = true ∧
      ((equals inet sort u other).1 = true → (equals inet sort other u).1 = true) ∧
      ((equals inet sort u other).1 = true → u.mPath = other.mPath)) ↔
    RepeatsAgree u ∧ (u.mPath = other.mPath ∨ ¬Alike inet sort u other) := by
  simp only [equals_iff hsort, alike_self_iff]
  constructor
  · rintro ⟨hself, -, hpath⟩
    exact ⟨hself, or_iff_not_imp_right.mpr fun h => hpath (not_not.mp h)⟩
  · rintro ⟨hself, hpath⟩
    exact ⟨hself, Alike.symm, fun halike => hpath.resolve_right (not_not.mpr halike)⟩

def byName : List UnknownParameter → List UnknownParameter :=
  List.insertionSort fun a b => nameOrder a ≤ nameOrder b

theorem sorts_byName : Sorts byName := by
  intro l
  have hsorted := List.pairwise_insertionSort (fun a b => nameOrder a ≤ nameOrder b) l
  exact hsorted.imp fun h => (Data.less_eq_false_iff _ _).mpr h

theorem equality_without_parameters :
    let u : Uri Unit := parsed .noAddresses (literal "sip:a@h")
    let other : Uri Unit := parsed .noAddresses (literal "SIP:a@H;foo")
    (equals .noAddresses byName u u).1 = true ∧
      ((equals .noAddresses byName u other).1 = true → (equals .noAddresses byName other u).1 = true) ∧
      ((equals .noAddresses byName u other).1 = true → u.mPath = other.mPath) := by
  refine (equality .noAddresses sorts_byName _ _).mpr ⟨fun p hp => ?_, .inl ?_⟩
  · have hnone : (parsed .noAddresses (literal "sip:a@h") : Uri Unit).mParameters = [] := by
      decide +kernel
    rw [hnone] at hp
    exact absurd hp List.not_mem_nil
  · decide +kernel

/-- An address that differs from itself, and two references that are the same except for their paths. -/
theorem not_equality : ∃ u a b : Uri Unit,
    ofData .noAddresses (literal "sip:h;user=x;user=y") = .ok u ∧
    ofData .noAddresses (literal "/a") = .ok a ∧ ofData .noAddresses (literal "/b") = .ok b ∧
    (equals .noAddresses byName u u).1 = false ∧ (equals .noAddresses byName a b).1 = true ∧
    a.mPath ≠ b.mPath :=
  ⟨parsed .noAddresses (literal "sip:h;user=x;user=y"), parsed .noAddresses (literal "/a"),
    parsed .noAddresses (literal "/b"), by decide +kernel⟩

end Resiprocate.Stack.Uri
