import Resiprocate.IntegerParsing

/-! What is known of a value once an operation of `ParseBuffer` has returned it, and which texts a pair of
quotes encloses. -/
namespace Resiprocate.Rutil
open ProgramLogic

/-- Whenever `m` returns from `p`, the value and the position are in `Q`. -/
def Returns {α : Type} (v : View) (m : Parse α) (p : ℤ) (Q : α → ℤ → Prop) : Prop :=
  ∀ reads a pb, m (v.at_ p reads) = .ok a pb → ∃ q reads', pb = v.at_ q reads' ∧ Q a q

section
variable {α β : Type} {v : View} {p q : ℤ} {m : Parse α} {Q : α → ℤ → Prop} {R : β → ℤ → Prop}

namespace Returns

theorem pure {a : α} (h : Q a p) : Returns v (pure a) p Q := by
  intro reads b pb hrun
  cases hrun
  exact ⟨p, reads, rfl, h⟩

theorem fail (msg : String) : Returns v (ParseBuffer.fail msg : Parse α) p Q := fun _ _ _ => nofun

theorem bind {k : α → Parse β} (hm : Returns v m p Q) (hk : ∀ a q, Q a q → Returns v (k a) q R) :
    Returns v (m >>= k) p R := by
  intro reads b pb hrun
  obtain ⟨a, pb₁, hfirst, hsecond⟩ := bind_eq_ok hrun
  obtain ⟨q, reads', rfl, ha⟩ := hm reads a pb₁ hfirst
  exact hk a q ha reads' b pb hsecond

/-- What is after a failure is not run. -/
theorem fail_bind (msg : String) {k : α → Parse β} :
    Returns v (ParseBuffer.fail msg >>= k) p R := fun _ _ _ => nofun

theorem get {k : ParseBuffer → Parse β} (hk : ∀ reads, Returns v (k (v.at_ p reads)) p R) :
    Returns v (get >>= k) p R := fun reads => hk reads reads

theorem ite {c : Prop} [Decidable c] {m' : Parse α} (ht : c → Returns v m p Q)
    (hf : ¬c → Returns v m' p Q) : Returns v (if c then m else m') p Q := by
  split_ifs with hc
  · exact ht hc
  · exact hf hc

theorem weaken {Q' : α → ℤ → Prop} (h : Returns v m p Q) (hQ : ∀ a q, Q a q → Q' a q) :
    Returns v m p Q' := by
  intro reads a pb hrun
  obtain ⟨q, reads', hpb, ha⟩ := h reads a pb hrun
  exact ⟨q, reads', hpb, hQ a q ha⟩

end Returns

theorem Lands.returns {k : α → Parse β} {a : α} (hm : Lands v m p q a) (hk : Returns v (k a) q R) :
    Returns v (m >>= k) p R := by
  intro reads b pb hrun
  obtain ⟨reads', hfirst⟩ := hm reads
  rw [bind_of_ok hfirst] at hrun
  exact hk reads' b pb hrun

theorem Lands.returns_self {a : α} (hm : Lands v m p q a) (ha : Q a q) : Returns v m p Q := by
  intro reads b pb hrun
  obtain ⟨reads', hfirst⟩ := hm reads
  rw [hfirst] at hrun
  cases hrun
  exact ⟨q, reads', rfl, ha⟩

/-- What returns where something lands is what lands there. -/
theorem Lands.eq_of_run {a b : α} {reads : List ℤ} {pb : ParseBuffer} (hm : Lands v m p q a)
    (hrun : m (v.at_ p reads) = .ok b pb) : b = a := by
  obtain ⟨reads', hfirst⟩ := hm reads
  rw [hfirst] at hrun
  cases hrun
  rfl

theorem Throws.returns {k : α → Parse β} (hm : Throws v m p) : Returns v (m >>= k) p R := by
  intro reads b pb hrun
  obtain ⟨msg, pb', hthrow⟩ := hm reads
  rw [bind_of_error hthrow] at hrun
  cases hrun

theorem Ends.returns {r : Except String α} (hm : Ends v m p q r) : Returns v m p fun _ _ => True := by
  cases r with
  | ok a => exact Lands.returns_self hm trivial
  | error msg =>
    intro reads a pb hrun
    obtain ⟨msg', pb', hthrow⟩ := hm reads
    rw [hthrow] at hrun
    cases hrun

end

/-- From `p`, `m` does what `m'` does from `q`. -/
def Continues {α : Type} (v : View) (m : Parse α) (p : ℤ) (m' : Parse α) (q : ℤ) : Prop :=
  ∀ reads, ∃ reads', m (v.at_ p reads) = m' (v.at_ q reads')

section
variable {α β : Type} {v : View} {p q r : ℤ} {m m' : Parse α} {a : α}

theorem Lands.continues {k : α → Parse β} {m' : Parse β} (hm : Lands v m p q a)
    (hk : Continues v (k a) q m' r) : Continues v (m >>= k) p m' r := by
  intro reads
  obtain ⟨reads₁, hrun⟩ := hm reads
  obtain ⟨reads₂, hcontinue⟩ := hk reads₁
  exact ⟨reads₂, by rw [bind_of_ok hrun, hcontinue]⟩

theorem Lands.continues_self {k : α → Parse β} (hm : Lands v m p q a) : Continues v (m >>= k) p (k a) q :=
  hm.continues fun reads => ⟨reads, rfl⟩

namespace Continues

theorem lands (h : Continues v m p m' q) (hm' : Lands v m' q r a) : Lands v m p r a := by
  intro reads
  obtain ⟨reads₁, heq⟩ := h reads
  rw [heq]
  exact hm' reads₁

theorem throws (h : Continues v m p m' q) (hm' : Throws v m' q) : Throws v m p := by
  intro reads
  obtain ⟨reads₁, heq⟩ := h reads
  rw [heq]
  exact hm' reads₁

theorem returns {Q : α → ℤ → Prop} (h : Continues v m p m' q) (hm' : Returns v m' q Q) : Returns v m p Q := by
  intro reads
  obtain ⟨reads₁, heq⟩ := h reads
  rw [heq]
  exact hm' reads₁

end Continues

end

/-! ### Runs of bytes -/

/-- The longest run of bytes from `p` on that pass the test. -/
structure ByteRun (v : View) (test : UInt8 → Bool) (p : ℤ) (run : Bytes) : Prop where
  holds : v.Holds p run
  all : ∀ c ∈ run, test c = true
  fits : run ≠ [] → p + run.length ≤ v.mEnd
  stop : v.mEnd ≤ p + run.length ∨ test (v.memory (p + run.length)) = false

section
variable {v : View} {test : UInt8 → Bool} {p : ℤ} {run : Bytes}

theorem exists_byteRun (v : View) (test : UInt8 → Bool) (p : ℤ) : ∃ run, ByteRun v test p run := by
  have hholds := holds_range v (v.mEnd - p).toNat p
  have hlength : ((List.range (v.mEnd - p).toNat).map fun i : ℕ => v.memory (p + i)).length =
      (v.mEnd - p).toNat := by simp
  generalize (List.range (v.mEnd - p).toNat).map (fun i : ℕ => v.memory (p + i)) = text at hholds hlength
  have happend := List.takeWhile_append_dropWhile (p := test) (l := text)
  have hparts := congrArg List.length happend
  rw [List.length_append] at hparts
  rw [← happend, View.holds_append] at hholds
  refine ⟨text.takeWhile test, hholds.1, fun c hc => List.mem_takeWhile_imp hc, fun hne => ?_, ?_⟩
  · have hpos := List.length_pos_of_ne_nil hne
    omega
  · cases hrest : text.dropWhile test with
    | nil =>
      rw [hrest, List.length_nil] at hparts
      exact .inl (by omega)
    | cons c cs =>
      have hc : test c = false := by
        have hhead := List.head?_dropWhile_not test text
        rw [hrest] at hhead
        simpa using hhead
      rw [hrest, View.holds_cons] at hholds
      exact .inr (by rw [hholds.2.1, hc])

theorem ByteRun.lands_skipWhile (h : ByteRun v test p run) :
    Lands v (ParseBuffer.skipWhile test) p (p + run.length) () := by
  rcases eq_or_ne run [] with rfl | hne
  · have hstop := h.stop
    simp only [List.length_nil, Nat.cast_zero, add_zero] at hstop ⊢
    rcases lt_or_ge p v.mEnd with hlt | hge
    · have hbad := hstop.resolve_left (not_le.mpr hlt)
      have hnone : Lands v (ParseBuffer.skipWhile test) p (p + ([] : Bytes).length) () :=
        ParseBuffer.lands_skipWhile trivial (by simp) (by simpa using hlt.le) (.inr (by simpa using hbad))
      simpa using hnone
    · exact ParseBuffer.lands_untilEof (ParseBuffer.lands_whileNotEof_eof hge)
  · have hfit := h.fits hne
    exact ParseBuffer.lands_skipWhile h.holds h.all hfit (h.stop.imp_left fun hge => le_antisymm hfit hge)

theorem returns_skipWhile {β : Type} {k : Unit → Parse β} {R : β → ℤ → Prop}
    (h : ∀ run, ByteRun v test p run → Returns v (k ()) (p + run.length) R) :
    Returns v (ParseBuffer.skipWhile test >>= k) p R := by
  obtain ⟨run, hrun⟩ := exists_byteRun v test p
  exact hrun.lands_skipWhile.returns (h run hrun)

/-- A run that ends before the buffer does not start with what passes the test. -/
theorem ByteRun.eq_nil (h : ByteRun v test p run) (hp : test (v.memory p) = false) : run = [] := by
  cases run with
  | nil => rfl
  | cons c cs =>
    have hc := h.all c List.mem_cons_self
    rw [← h.holds.1, hp] at hc
    cases hc

theorem ByteRun.ne_nil (h : ByteRun v test p run) (hlt : p < v.mEnd) (hp : test (v.memory p) = true) :
    run ≠ [] := by
  rintro rfl
  have hstop := h.stop
  simp only [List.length_nil, Nat.cast_zero, add_zero] at hstop
  rcases hstop with hge | hbad
  · omega
  · rw [hp] at hbad
    cases hbad

theorem ByteRun.head? (h : ByteRun v test p run) (hne : run ≠ []) : run.head? = some (v.memory p) := by
  cases run with
  | nil => exact absurd rfl hne
  | cons c cs => rw [List.head?_cons, h.holds.1]

theorem returns_data {start : ℤ} {text : Bytes} {Q : Bytes → ℤ → Prop} (h : v.Holds start text)
    (hp : p = start + text.length) (hQ : Q text p) : Returns v (ParseBuffer.data start) p Q := by
  refine Returns.get fun reads => Returns.ite (fun _ => Returns.fail _) fun _ => ?_
  refine Returns.pure ?_
  rw [ParseBuffer.position_at, hp, ParseBuffer.textBetween_of_holds rfl h, ← hp]
  exact hQ

end

/-! ### The single operations -/

section
variable {α β σ : Type} {v : View} {p : ℤ} {c : UInt8} {R : β → ℤ → Prop}

theorem returns_position {k : ℤ → Parse β} (h : Returns v (k p) p R) :
    Returns v (ParseBuffer.position >>= k) p R := ParseBuffer.lands_position.returns h

theorem returns_assertNotEof {k : Unit → Parse β} (h : p < v.mEnd → Returns v (k ()) p R) :
    Returns v (ParseBuffer.assertNotEof >>= k) p R := by
  rcases lt_or_ge p v.mEnd with hlt | hge
  · exact (ParseBuffer.lands_assertNotEof hlt).returns (h hlt)
  · exact (throws_assertNotEof hge).returns

theorem returns_current {k : UInt8 → Parse β} (h : p < v.mEnd → Returns v (k (v.memory p)) p R) :
    Returns v (ParseBuffer.current >>= k) p R := by
  rcases lt_or_ge p v.mEnd with hlt | hge
  · exact (ParseBuffer.lands_current hlt).returns (h hlt)
  · exact (Throws.bind _ (throws_assertNotEof hge)).returns

theorem returns_skipChar {k : Unit → Parse β} (h : p < v.mEnd → Returns v (k ()) (p + 1) R) :
    Returns v (ParseBuffer.skipChar >>= k) p R := by
  rcases lt_or_ge p v.mEnd with hlt | hge
  · exact (ParseBuffer.lands_skipChar hlt).returns (h hlt)
  · refine Throws.returns (Throws.get fun _ => ?_)
    rw [if_pos (by simpa using hge)]
    exact Throws.bind _ (throws_fail _)

theorem returns_skipCharIs {k : Unit → Parse β}
    (h : p < v.mEnd → v.memory p = c → Returns v (k ()) (p + 1) R) :
    Returns v (ParseBuffer.skipCharIs c >>= k) p R := by
  rcases lt_or_ge p v.mEnd with hlt | hge
  · by_cases hc : v.memory p = c
    · exact (ParseBuffer.lands_skipCharIs hlt hc).returns (h hlt hc)
    · refine Throws.returns (Throws.get fun _ => ?_)
      rw [if_neg (by simpa using hlt)]
      refine ParseBuffer.lands_peek.throws ?_
      rw [if_pos hc]
      exact Throws.bind _ (throws_fail _)
  · refine Throws.returns (Throws.get fun _ => ?_)
    rw [if_pos (by simpa using hge)]
    exact Throws.bind _ (throws_fail _)

theorem returns_looksAt {k : Bool → Parse β} (ht : p < v.mEnd → v.memory p = c → Returns v (k true) p R)
    (hf : v.mEnd ≤ p ∨ v.memory p ≠ c → Returns v (k false) p R) :
    Returns v (ParseBuffer.looksAt c >>= k) p R := by
  rcases lt_or_ge p v.mEnd with hlt | hge
  · refine (ParseBuffer.lands_looksAt hlt).returns ?_
    by_cases hc : v.memory p = c
    · rw [beq_iff_eq.mpr hc]
      exact ht hlt hc
    · rw [beq_eq_false_iff_ne.mpr hc]
      exact hf (.inr hc)
  · exact (ParseBuffer.lands_looksAt_eof hge).returns (hf (.inl hge))

/-- What every turn keeps is kept by the loop, also when no turn is left. -/
theorem returns_whileNotEof {body : σ → Parse (ForInStep σ)} {I : σ → Prop}
    (hbody : ∀ s q, I s → Returns v (body s) q fun r _ => ∀ s', r = .yield s' ∨ r = .done s' → I s') {s : σ}
    (hs : I s) (n : ℕ) : Returns v (ParseBuffer.whileNotEof body n s) p fun s _ => I s := by
  induction n generalizing s p with
  | zero => exact Returns.pure hs
  | succ n ih =>
    refine Returns.get fun _ => Returns.ite (fun _ => Returns.pure hs) fun _ => ?_
    refine (hbody s p hs).bind fun r q hr => ?_
    cases r with
    | yield s' => exact ih (hr s' (.inl rfl))
    | done s' => exact Returns.pure (hr s' (.inr rfl))

theorem returns_untilEof {body : σ → Parse (ForInStep σ)} {I : σ → Prop}
    (hbody : ∀ s q, I s → Returns v (body s) q fun r _ => ∀ s', r = .yield s' ∨ r = .done s' → I s') {s : σ}
    (hs : I s) : Returns v (ParseBuffer.untilEof body s) p fun s _ => I s :=
  Returns.get fun _ => returns_whileNotEof hbody hs _

/-! ### Operations that stay in the buffer, also when they throw -/

/-- The buffer is that of `v`, at some position. -/
def On (v : View) (pb : ParseBuffer) : Prop := ∃ q reads, pb = v.at_ q reads

abbrev Stays (v : View) (m : Parse α) : Prop := Leaves (On v) m (fun _ => On v) (On v)

namespace Stays
variable {m : Parse α}

theorem pure (a : α) : Stays v (pure a : Parse α) := Leaves.pure fun _ h => h

theorem fail (msg : String) : Stays v (ParseBuffer.fail msg : Parse α) := Leaves.throw msg fun _ h => h

theorem get {k : ParseBuffer → Parse β} (hk : ∀ pb, Stays v (k pb)) : Stays v (get >>= k) :=
  Leaves.get fun pb hpb => (hk pb).weaken (fun _ he => he ▸ hpb) (fun _ _ h => h) fun _ h => h

theorem advance (count : ℤ) : Stays v (ParseBuffer.advance count) := Leaves.modify fun pb hpb => by
  obtain ⟨q, reads, rfl⟩ := hpb
  exact ⟨q + count, reads, rfl⟩

theorem peek : Stays v ParseBuffer.peek := fun pb hpb => by
  obtain ⟨q, reads, rfl⟩ := hpb
  exact ⟨q, q :: reads, rfl⟩

theorem assertNotEof : Stays v ParseBuffer.assertNotEof :=
  get fun _ => Leaves.ite (fun _ => fail _) fun _ => pure _

theorem digits {next : σ → UInt8 → Parse σ} (hnext : ∀ s c, Stays v (next s c)) (s : σ) :
    Stays v (ParseBuffer.digits next s) := by
  refine get fun pb => ?_
  generalize (pb.mEnd - pb.mPosition).toNat = n
  induction n generalizing s with
  | zero => exact pure s
  | succ n ih =>
    refine get fun _ => Leaves.ite (fun _ => pure s) fun _ => ?_
    refine Leaves.bind (Leaves.bind peek fun c => Leaves.ite (fun _ => ?_) fun _ => pure _) fun r => ?_
    · exact Leaves.bind (hnext s c) fun s => pure _
    · cases r with
      | yield s => exact ih s
      | done s => exact pure s

/-- The part of `integer` after the sign. -/
theorem unsigned (negative : Prop) [Decidable negative] (limit : ℕ) : Stays v (do
    if !isDigit (← ParseBuffer.peek) then
      let pb ← MonadState.get
      ParseBuffer.fail ("Expected a digit, got: " ++ quoted (pb.textBetween pb.mPosition pb.mEnd))
    let num ← ParseBuffer.digits (fun num c => do
      ParseBuffer.advance 1
      if limit / 10 < num ∨ num = limit / 10 ∧ limit % 10 < digitVal c then
        ParseBuffer.fail "Overflow detected."
      return num * 10 + digitVal c) 0
    return if negative then -(num : ℤ) else num) := by
  refine Leaves.bind peek fun c => Leaves.ite (fun _ => ?_) fun _ => ?_
  · exact get fun _ => Leaves.throw_bind _ fun _ h => h
  · refine Leaves.bind (digits (fun num c => ?_) 0) fun num => pure _
    refine Leaves.bind (advance 1) fun _ => Leaves.ite (fun _ => ?_) fun _ => pure _
    exact Leaves.throw_bind _ fun _ h => h

theorem integer : Stays v ParseBuffer.integer := by
  refine get fun _ => Leaves.ite (fun _ => Leaves.throw_bind _ fun _ h => h) fun _ => ?_
  refine Leaves.bind peek fun sign => Leaves.ite (fun _ => ?_) fun _ => unsigned (sign = 45) _
  exact Leaves.bind (advance 1) fun _ => Leaves.bind assertNotEof fun _ => unsigned (sign = 45) _

theorem returns {m : Parse α} (h : Stays v m) : Returns v m p fun _ _ => True := by
  intro reads a pb hrun
  have hon := h (v.at_ p reads) ⟨p, reads, rfl⟩
  rw [hrun] at hon
  obtain ⟨q, reads', rfl⟩ := hon
  exact ⟨q, reads', rfl, trivial⟩

end Stays

theorem returns_tryCatch {m : Parse α} {handler : String → Parse α} {Q : α → ℤ → Prop} (hstays : Stays v m)
    (hm : Returns v m p Q) (hhandler : ∀ msg q, Returns v (handler msg) q Q) :
    Returns v (tryCatch m handler) p Q := by
  intro reads a pb hrun
  change EStateM.tryCatch m handler (v.at_ p reads) = _ at hrun
  have hon := hstays (v.at_ p reads) ⟨p, reads, rfl⟩
  unfold EStateM.tryCatch at hrun
  cases hfirst : m (v.at_ p reads) with
  | ok b pb₁ =>
    rw [hfirst] at hrun
    cases hrun
    exact hm reads a pb hfirst
  | error msg pb₁ =>
    rw [hfirst] at hrun hon
    obtain ⟨q, reads', rfl⟩ := hon
    exact hhandler msg q reads' a pb hrun

end

/-! ### Texts in quotes -/

/-- Every quote inside is escaped, and no backslash is left over that would escape what is after the text. -/
def quotable : Bytes → Bool
  | [] => true
  | [c] => c ≠ 92 && c ≠ 34
  | c :: d :: rest => if c = 92 then quotable rest else c ≠ 34 && quotable (d :: rest)

theorem quotable_cons {c : UInt8} (rest : Bytes) (hescape : c ≠ 92) (hquote : c ≠ 34) :
    quotable (c :: rest) = quotable rest := by
  cases rest with
  | nil => simp [quotable, hescape, hquote]
  | cons d rest => simp [quotable, hescape, hquote]

section
variable {v : View} {p : ℤ}

/-- A turn of the loop of `skipToEndQuote`. -/
def endQuoteTurn (_ : Bool) : Parse (ForInStep Bool) := do
  let c ← ParseBuffer.peek
  if c = 92 then
    ParseBuffer.advance 2
    return .yield false
  else if c = 34 then return .done true
  else
    ParseBuffer.advance 1
    return .yield false

theorem skipToEndQuote_eq : ParseBuffer.skipToEndQuote 34 = (do
    let found ← ParseBuffer.untilEof endQuoteTurn false
    if found then ParseBuffer.position else ParseBuffer.fail ("Missing '" ++ quoted [34] ++ "'")) := rfl

theorem lands_endQuoteTurn_escape (h : v.memory p = 92) :
    Lands v (endQuoteTurn false) p (p + 2) (.yield false) :=
  ParseBuffer.lands_peek.bind (Lands.ite_pos h ((ParseBuffer.lands_advance 2).then_ (Lands.pure _)))

theorem lands_endQuoteTurn_quote (h : v.memory p = 34) :
    Lands v (endQuoteTurn false) p p (.done true) :=
  ParseBuffer.lands_peek.bind (Lands.ite_neg (by simp [h]) (Lands.ite_pos h (Lands.pure _)))

theorem lands_endQuoteTurn_other (hescape : v.memory p ≠ 92) (hquote : v.memory p ≠ 34) :
    Lands v (endQuoteTurn false) p (p + 1) (.yield false) :=
  ParseBuffer.lands_peek.bind (Lands.ite_neg hescape (Lands.ite_neg hquote
    ((ParseBuffer.lands_advance 1).then_ (Lands.pure _))))

theorem lands_endQuote {text : Bytes} (hholds : v.Holds p text) (htext : quotable text = true)
    (hfit : p + text.length < v.mEnd) (hstop : v.memory (p + text.length) = 34) {n : ℕ}
    (hn : text.length < n) : Lands v (ParseBuffer.whileNotEof endQuoteTurn n false) p (p + text.length) true := by
  induction text using quotable.induct generalizing p n with
  | case1 =>
    simp only [List.length_nil, Nat.cast_zero, add_zero] at hfit hstop ⊢
    obtain ⟨n, rfl⟩ : ∃ m, n = m + 1 := ⟨n - 1, by omega⟩
    exact ParseBuffer.lands_whileNotEof_done hfit (lands_endQuoteTurn_quote hstop)
  | case2 c =>
    simp only [quotable, ne_eq, Bool.and_eq_true, decide_eq_true_eq] at htext
    simp only [List.length_cons, List.length_nil, zero_add, Nat.cast_one] at hfit hstop hn ⊢
    obtain ⟨n, rfl⟩ : ∃ m, n = m + 2 := ⟨n - 2, by omega⟩
    have hc := hholds.1
    refine ParseBuffer.lands_whileNotEof_yield false (by omega)
      (lands_endQuoteTurn_other (hc ▸ htext.1) (hc ▸ htext.2)) ?_
    exact ParseBuffer.lands_whileNotEof_done hfit (lands_endQuoteTurn_quote hstop)
  | case3 d rest ih =>
    rw [quotable, if_pos rfl] at htext
    have hshift : p + (92 :: d :: rest).length = p + 2 + rest.length := by
      simp only [List.length_cons]
      push_cast
      ring
    rw [hshift] at hfit hstop ⊢
    simp only [List.length_cons] at hn
    obtain ⟨n, rfl⟩ : ∃ m, n = m + 1 := ⟨n - 1, by omega⟩
    have hrest : v.Holds (p + 2) rest := by
      have hrest := hholds.2.2
      rwa [add_assoc] at hrest
    exact ParseBuffer.lands_whileNotEof_yield false (by omega) (lands_endQuoteTurn_escape hholds.1)
      (ih hrest htext hfit hstop (by omega))
  | case4 c d rest hc ih =>
    rw [quotable, if_neg hc, Bool.and_eq_true, decide_eq_true_eq] at htext
    have hshift : p + (c :: d :: rest).length = p + 1 + (d :: rest).length := by
      simp only [List.length_cons]
      push_cast
      ring
    rw [hshift] at hfit hstop ⊢
    rw [List.length_cons] at hn
    obtain ⟨n, rfl⟩ : ∃ m, n = m + 1 := ⟨n - 1, by omega⟩
    exact ParseBuffer.lands_whileNotEof_yield false (by omega)
      (lands_endQuoteTurn_other (hholds.1 ▸ hc) (hholds.1 ▸ htext.1))
      (ih hholds.2 htext.2 hfit hstop (by omega))

theorem lands_skipToEndQuote {text : Bytes} (hholds : v.Holds p text) (htext : quotable text = true)
    (hfit : p + text.length < v.mEnd) (hstop : v.memory (p + text.length) = 34) :
    Lands v (ParseBuffer.skipToEndQuote 34) p (p + text.length) (p + text.length) := by
  rw [skipToEndQuote_eq]
  refine Lands.bind (ParseBuffer.lands_untilEof (lands_endQuote hholds htext hfit hstop (by omega))) ?_
  exact ParseBuffer.lands_position

/-- A quotable text from `p` on, before a quote at `q`. -/
def QuotedText (v : View) (p q : ℤ) : Prop := ∃ text,
  v.Holds p text ∧ q = p + text.length ∧ quotable text = true ∧ q < v.mEnd ∧ v.memory q = 34

theorem returns_endQuote (n : ℕ) : Returns v (ParseBuffer.whileNotEof endQuoteTurn n false) p
    fun found q => found = true → QuotedText v p q := by
  induction n generalizing p with
  | zero => exact Returns.pure nofun
  | succ n ih =>
    refine Returns.get fun reads => Returns.ite (fun _ => Returns.pure nofun) fun heof => ?_
    have hlt : p < v.mEnd := by simpa using heof
    by_cases hescape : v.memory p = 92
    · refine (lands_endQuoteTurn_escape hescape).returns (ih.weaken ?_)
      rintro found q hfound htrue
      obtain ⟨text, hholds, rfl, htext, hfit, hstop⟩ := hfound htrue
      have hp : p + 1 + 1 = p + 2 := by ring
      refine ⟨92 :: v.memory (p + 1) :: text, ⟨hescape, rfl, hp ▸ hholds⟩, ?_, htext, hfit, hstop⟩
      simp only [List.length_cons]
      push_cast
      ring
    by_cases hquote : v.memory p = 34
    · refine (lands_endQuoteTurn_quote hquote).returns (Returns.pure fun _ => ?_)
      exact ⟨[], trivial, by simp, rfl, hlt, hquote⟩
    · refine (lands_endQuoteTurn_other hescape hquote).returns (ih.weaken ?_)
      rintro found q hfound htrue
      obtain ⟨text, hholds, rfl, htext, hfit, hstop⟩ := hfound htrue
      refine ⟨v.memory p :: text, ⟨rfl, hholds⟩, ?_, ?_, hfit, hstop⟩
      · simp only [List.length_cons]
        push_cast
        ring
      · rw [quotable_cons text hescape hquote, htext]

theorem returns_skipToEndQuote :
    Returns v (ParseBuffer.skipToEndQuote 34) p fun _ q => QuotedText v p q := by
  rw [skipToEndQuote_eq]
  refine Returns.bind (Returns.get fun reads => returns_endQuote _) fun found q hfound => ?_
  refine Returns.ite (fun htrue => ?_) fun _ => Returns.fail _
  exact ParseBuffer.lands_position.returns_self (hfound htrue)

end
end Resiprocate.Rutil
