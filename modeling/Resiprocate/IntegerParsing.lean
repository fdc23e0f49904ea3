import Resiprocate.Numerals
import Resiprocate.ParseBufferRuns

/-! The integers that `ParseBuffer` reads, and the numbers that the digits at the position denote. -/
namespace Resiprocate.Rutil
open ProgramLogic Numerals

/-- From `p`, `m` throws. -/
def Throws {α : Type} (v : View) (m : Parse α) (p : ℤ) : Prop :=
  ∀ reads, ∃ msg pb, m (v.at_ p reads) = .error msg pb

/-- From `p`, `m` returns the value at `q`, or it throws. -/
def Ends {α : Type} (v : View) (m : Parse α) (p q : ℤ) : Except String α → Prop
  | .ok a => Lands v m p q a
  | .error _ => Throws v m p

section
variable {α β : Type} {v : View} {p q r : ℤ}

theorem Throws.bind {m : Parse α} (k : α → Parse β) (h : Throws v m p) : Throws v (m >>= k) p := by
  intro reads
  obtain ⟨msg, pb, hrun⟩ := h reads
  exact ⟨msg, pb, by rw [bind_of_error hrun]⟩

theorem Lands.throws {m : Parse α} {k : α → Parse β} {a : α} (hm : Lands v m p q a)
    (hk : Throws v (k a) q) : Throws v (m >>= k) p := by
  intro reads
  obtain ⟨reads', hrun⟩ := hm reads
  obtain ⟨msg, pb, hthrow⟩ := hk reads'
  exact ⟨msg, pb, by rw [bind_of_ok hrun, hthrow]⟩

theorem throws_fail (msg : String) : Throws v (ParseBuffer.fail msg : Parse α) p :=
  fun reads => ⟨msg, v.at_ p reads, rfl⟩

theorem Throws.get {k : ParseBuffer → Parse β} (hk : ∀ reads, Throws v (k (v.at_ p reads)) p) :
    Throws v (get >>= k) p := fun reads => hk reads reads

/-- After what returns, an operation ends as it does alone. -/
theorem Lands.ends {m : Parse α} {k : α → Parse β} {a : α} {b : Except String β} (hm : Lands v m p q a)
    (hk : Ends v (k a) q r b) : Ends v (m >>= k) p r b := by
  cases b with
  | error msg => exact Lands.throws hm hk
  | ok b => exact Lands.bind hm hk

theorem Ends.get {k : ParseBuffer → Parse β} {b : Except String β}
    (hk : ∀ reads, Ends v (k (v.at_ p reads)) p r b) : Ends v (get >>= k) p r b := by
  cases b with
  | error msg => exact Throws.get hk
  | ok b => exact Lands.get hk

theorem Ends.ite_pos {c : Prop} [Decidable c] {m m' : Parse α} {a : Except String α} (hc : c)
    (h : Ends v m p q a) : Ends v (if c then m else m') p q a := by rwa [if_pos hc]

theorem Ends.ite_neg {c : Prop} [Decidable c] {m m' : Parse α} {a : Except String α} (hc : ¬c)
    (h : Ends v m' p q a) : Ends v (if c then m else m') p q a := by rwa [if_neg hc]

end

/-! ### Runs of digits -/

/-- The maximal run of digits at a position. -/
structure DigitRun (v : View) (p : ℤ) (run : Bytes) : Prop where
  holds : v.Holds p run
  all : ∀ c ∈ run, isDigit c = true
  fits : run ≠ [] → p + run.length ≤ v.mEnd
  stop : v.mEnd ≤ p + run.length ∨ isDigit (v.memory (p + run.length)) = false

namespace ParseBuffer

def digitRun (pb : ParseBuffer) : Bytes := (pb.textBetween pb.mPosition pb.mEnd).takeWhile isDigit

end ParseBuffer

section
variable {v : View} {p : ℤ} {run : Bytes}

theorem holds_range (v : View) (n : ℕ) (p : ℤ) :
    v.Holds p ((List.range n).map fun i : ℕ => v.memory (p + i)) := by
  induction n generalizing p with
  | zero => trivial
  | succ n ih =>
    rw [List.range_succ_eq_map, List.map_cons, List.map_map]
    refine ⟨by simp, ?_⟩
    have htail : ((fun i : ℕ => v.memory (p + i)) ∘ Nat.succ) = fun i : ℕ => v.memory (p + 1 + i) := by
      funext i
      simp only [Function.comp, Nat.succ_eq_add_one]
      congr 1
      push_cast
      ring
    rw [htail]
    exact ih (p + 1)

theorem digitRun_spec (v : View) (p : ℤ) (reads : List ℤ) : DigitRun v p (v.at_ p reads).digitRun := by
  have hholds := holds_range v (v.mEnd - p).toNat p
  have htext : (v.at_ p reads).textBetween p v.mEnd =
      (List.range (v.mEnd - p).toNat).map fun i : ℕ => v.memory (p + i) := rfl
  have hlength : ((List.range (v.mEnd - p).toNat).map fun i : ℕ => v.memory (p + i)).length =
      (v.mEnd - p).toNat := by simp
  change DigitRun v p (((v.at_ p reads).textBetween p v.mEnd).takeWhile isDigit)
  rw [htext]
  generalize (List.range (v.mEnd - p).toNat).map (fun i : ℕ => v.memory (p + i)) = text at hholds hlength
  have happend := List.takeWhile_append_dropWhile (p := isDigit) (l := text)
  have hparts := congrArg List.length happend
  rw [List.length_append] at hparts
  rw [← happend, View.holds_append] at hholds
  refine ⟨hholds.1, fun c hc => List.mem_takeWhile_imp hc, fun hne => ?_, ?_⟩
  · have hpos := List.length_pos_of_ne_nil hne
    omega
  · cases hrest : text.dropWhile isDigit with
    | nil =>
      rw [hrest, List.length_nil] at hparts
      exact .inl (by omega)
    | cons c cs =>
      have hc : isDigit c = false := by
        have hhead := List.head?_dropWhile_not isDigit text
        rw [hrest] at hhead
        simpa using hhead
      rw [hrest, View.holds_cons] at hholds
      exact .inr (by rw [hholds.2.1, hc])

theorem DigitRun.tail {c : UInt8} (h : DigitRun v p (c :: run)) : DigitRun v (p + 1) run := by
  have hshift : p + 1 + run.length = p + (c :: run).length := by
    rw [List.length_cons]
    push_cast
    ring
  refine ⟨h.holds.2, fun d hd => h.all d (by simp [hd]), fun _ => ?_, ?_⟩
  · rw [hshift]
    exact h.fits (List.cons_ne_nil _ _)
  · rw [hshift]
    exact h.stop

section
variable {σ : Type} {next : σ → UInt8 → Parse σ} {step : σ → UInt8 → Except String σ}

/-- The loop over the digits does a step with each of them. -/
theorem ends_digits (hnext : ∀ p s c, v.memory p = c → Ends v (next s c) p (p + 1) (step s c))
    (hrun : DigitRun v p run) (s : σ) :
    Ends v (ParseBuffer.digits next s) p (p + run.length) (run.foldlM step s) := by
  refine Ends.get fun _ => ?_
  change Ends v (ParseBuffer.whileNotEof _ (v.mEnd - p).toNat s) _ _ _
  generalize hn : (v.mEnd - p).toNat = n
  induction run generalizing p s n with
  | nil =>
    simp only [List.length_nil, Nat.cast_zero, add_zero]
    change Lands v _ p p s
    rcases lt_or_ge p v.mEnd with hlt | hge
    · obtain ⟨n, rfl⟩ : ∃ m, n = m + 1 := ⟨n - 1, by omega⟩
      refine ParseBuffer.lands_whileNotEof_done hlt (ParseBuffer.lands_peek.bind ?_)
      have hstop : isDigit (v.memory p) = false := by
        have hstop := hrun.stop
        simp only [List.length_nil, Nat.cast_zero, add_zero] at hstop
        exact hstop.resolve_left (by omega)
      exact Lands.ite_neg (by simp [hstop]) (Lands.pure _)
    · exact ParseBuffer.lands_whileNotEof_eof hge
  | cons c cs ih =>
    have hfit := hrun.fits (List.cons_ne_nil _ _)
    have hshift : p + (c :: cs).length = p + 1 + cs.length := by
      rw [List.length_cons]
      push_cast
      ring
    rw [hshift] at hfit ⊢
    obtain ⟨n, rfl⟩ : ∃ m, n = m + 1 := ⟨n - 1, by omega⟩
    have hdigit : isDigit (v.memory p) = true := by
      rw [hrun.holds.1]
      exact hrun.all c (by simp)
    rw [List.foldlM_cons]
    refine Ends.get fun _ => Ends.ite_neg (by simp; omega) ?_
    have hc := hnext p s c hrun.holds.1
    cases hstep : step s c with
    | error msg =>
      rw [hstep] at hc
      refine Throws.bind _ (ParseBuffer.lands_peek.throws ?_)
      rw [if_pos hdigit, hrun.holds.1]
      exact Throws.bind _ hc
    | ok s' =>
      rw [hstep] at hc
      have hbody : Lands v (ParseBuffer.peek >>= fun c => if isDigit c = true then
          next s c >>= fun s => pure (ForInStep.yield s) else pure (ForInStep.done s)) p (p + 1)
          (ForInStep.yield s') := by
        refine ParseBuffer.lands_peek.bind (Lands.ite_pos hdigit ?_)
        rw [hrun.holds.1]
        exact Lands.bind hc (Lands.pure _)
      exact hbody.ends (ih hrun.tail s' n (by omega))

end

/-! ### Unsigned integers -/

/-- Digits that are all taken leave the number that they denote, as far as the type has it. -/
theorem foldlM_ok {σ : Type} {step : σ → UInt8 → σ} {cast : ℕ → σ}
    (hcast : ∀ n c, cast (n * 10 + digitVal c) = step (cast n) c) (run : Bytes) :
    run.foldlM (fun s c => (.ok (step s c) : Except String σ)) (cast 0) = .ok (cast (numeral run)) := by
  have hfold : run.foldl step (cast 0) = cast (numeral run) :=
    List.foldl_hom cast fun n c => (hcast n c).symm
  rw [← hfold]
  generalize cast 0 = s
  clear hfold
  induction run generalizing s with
  | nil => rfl
  | cons c cs ih => exact ih (step s c)

/-- The number that a run denotes is between those of its first digit. -/
theorem DigitRun.numeral_bounds {c : UInt8} {cs : Bytes} (h : DigitRun v p (c :: cs)) :
    ∃ d < 10, c.toNat = 48 + d ∧ v.memory p = c ∧ d * 10 ^ cs.length ≤ numeral (c :: cs) ∧
      numeral (c :: cs) < (d + 1) * 10 ^ cs.length := by
  obtain ⟨hc, hd⟩ := isDigit_toNat (h.all c (by simp))
  have hcs : numeral cs < 10 ^ cs.length := numeral_lt fun e he => h.all e (by simp [he])
  refine ⟨digitVal c, hd, hc, h.holds.1, ?_, ?_⟩
  · rw [numeral_cons]
    exact Nat.le_add_right _ _
  · rw [numeral_cons, add_one_mul]
    exact Nat.add_lt_add_left hcs _

theorem DigitRun.numeral_lt_pow (h : DigitRun v p run) {k : ℕ} (hk : run.length ≤ k) : numeral run < 10 ^ k :=
  (numeral_lt h.all).trans_le (Nat.pow_le_pow_right (by decide) hk)

theorem lands_uint32_digits (hrun : DigitRun v p run) : Lands v
    (ParseBuffer.digits (fun (num : UInt32) c => do
      ParseBuffer.advance 1
      return num * 10 + (digitVal c).toUInt32) 0) p (p + run.length) (UInt32.ofNat (numeral run)) := by
  have hstep : ∀ p (num : UInt32) c, v.memory p = c → Ends v (do
      ParseBuffer.advance 1
      return num * 10 + (digitVal c).toUInt32) p (p + 1) (.ok (num * 10 + (digitVal c).toUInt32)) :=
    fun _ _ _ _ => (ParseBuffer.lands_advance 1).then_ (Lands.pure _)
  have hdigits := ends_digits hstep hrun (UInt32.ofNat 0)
  rwa [foldlM_ok (fun n c => by simp)] at hdigits

theorem lands_uint64_digits (hrun : DigitRun v p run) : Lands v
    (ParseBuffer.digits (fun (num : UInt64) c => do
      ParseBuffer.advance 1
      return num * 10 + (digitVal c).toUInt64) 0) p (p + run.length) (UInt64.ofNat (numeral run)) := by
  have hstep : ∀ p (num : UInt64) c, v.memory p = c → Ends v (do
      ParseBuffer.advance 1
      return num * 10 + (digitVal c).toUInt64) p (p + 1) (.ok (num * 10 + (digitVal c).toUInt64)) :=
    fun _ _ _ _ => (ParseBuffer.lands_advance 1).then_ (Lands.pure _)
  have hdigits := ends_digits hstep hrun (UInt64.ofNat 0)
  rwa [foldlM_ok (fun n c => by simp)] at hdigits

theorem ends_uInt32 (hrun : DigitRun v p run) : Ends v ParseBuffer.uInt32 p (p + run.length)
    (if run = [] ∨ 10 < run.length ∨ 2 ^ 32 ≤ numeral run then .error "" else
      .ok (UInt32.ofNat (numeral run))) := by
  refine ParseBuffer.lands_position.ends ((lands_uint32_digits hrun).ends ?_)
  refine ParseBuffer.lands_position.ends ?_
  rw [show p + run.length - p = run.length by ring]
  dsimp only
  rcases run with _ | ⟨c, cs⟩
  · exact Throws.bind _ (throws_fail _)
  have hne : ((c :: cs).length : ℤ) ≠ 0 := by simp; omega
  rw [if_neg hne]
  rcases Nat.lt_trichotomy (c :: cs).length 10 with hlt | heq | hgt
  · have hnumeral := hrun.numeral_lt_pow (show (c :: cs).length ≤ 9 by omega)
    rw [if_pos (by omega), if_neg (by simp only [reduceCtorEq, false_or]; omega)]
    exact Lands.pure _
  · -- the first digit is below 4, or it is 4 and the number has not wrapped
    obtain ⟨d, hd, hc, hfirst, hge, hlt⟩ := hrun.numeral_bounds
    have hfits : (c < 52 ∨ c = 52 ∧ 4000000000 ≤ UInt32.ofNat (numeral (c :: cs))) ↔
        numeral (c :: cs) < 2 ^ 32 := by
      rw [UInt8.lt_iff_toNat_lt, ← UInt8.toNat_inj, UInt32.le_iff_toNat_le, UInt32.toNat_ofNat']
      change (c.toNat < 52 ∨ c.toNat = 52 ∧ 4000000000 ≤ _) ↔ _
      rw [List.length_cons] at heq
      rw [show cs.length = 9 by omega] at hge hlt
      omega
    rw [if_neg (by omega), if_pos (by omega)]
    refine (ParseBuffer.lands_readAt p).ends ?_
    rw [hfirst]
    by_cases hsmall : numeral (c :: cs) < 2 ^ 32
    · rw [if_pos (hfits.2 hsmall), if_neg (by simp only [reduceCtorEq, false_or]; omega)]
      exact Lands.pure _
    · rw [if_neg (mt hfits.1 hsmall), if_pos (by omega)]
      exact throws_fail _
  · rw [if_neg (by omega), if_neg (by omega), if_pos (.inr (.inl hgt))]
    exact throws_fail _

theorem ends_uInt64 (hrun : DigitRun v p run) : Ends v ParseBuffer.uInt64 p (p + run.length)
    (if run = [] ∨ 20 < run.length ∨ run.length = 20 ∧ run.head? ≠ some 49 ∨ 2 ^ 64 ≤ numeral run then
      .error "" else .ok (UInt64.ofNat (numeral run))) := by
  refine ParseBuffer.lands_position.ends ((lands_uint64_digits hrun).ends ?_)
  refine ParseBuffer.lands_position.ends ?_
  rw [show p + run.length - p = run.length by ring]
  dsimp only
  rcases run with _ | ⟨c, cs⟩
  · exact Throws.bind _ (throws_fail _)
  have hne : ((c :: cs).length : ℤ) ≠ 0 := by simp; omega
  rw [if_neg hne]
  rcases Nat.lt_trichotomy (c :: cs).length 20 with hlt | heq | hgt
  · have hnumeral := hrun.numeral_lt_pow (show (c :: cs).length ≤ 19 by omega)
    rw [if_pos (by omega), if_neg (by simp only [reduceCtorEq, false_or]; omega)]
    exact Lands.pure _
  · obtain ⟨d, hd, hc, hfirst, hge, hlt⟩ := hrun.numeral_bounds
    have hfits : (c = 49 ∧ 10000000000000000000 ≤ UInt64.ofNat (numeral (c :: cs))) ↔
        c = 49 ∧ numeral (c :: cs) < 2 ^ 64 := by
      rw [← UInt8.toNat_inj, UInt64.le_iff_toNat_le, UInt64.toNat_ofNat']
      change (c.toNat = 49 ∧ 10000000000000000000 ≤ _) ↔ (c.toNat = 49 ∧ _)
      rw [List.length_cons] at heq
      rw [show cs.length = 19 by omega] at hge hlt
      omega
    rw [if_neg (by omega), if_pos (by omega)]
    refine (ParseBuffer.lands_readAt p).ends ?_
    rw [hfirst]
    by_cases hsmall : c = 49 ∧ numeral (c :: cs) < 2 ^ 64
    · rw [if_pos (hfits.2 hsmall), if_neg]
      · exact Lands.pure _
      · rintro (hnil | hlong | ⟨-, hother⟩ | hbig)
        · exact List.cons_ne_nil _ _ hnil
        · omega
        · exact hother (by rw [hsmall.1]; rfl)
        · omega
    · rw [if_neg (mt hfits.1 hsmall), if_pos]
      · exact throws_fail _
      · by_cases hone : c = 49
        · exact .inr (.inr (.inr (not_lt.1 fun hlt => hsmall ⟨hone, hlt⟩)))
        · exact .inr (.inr (.inl ⟨heq, by simpa using hone⟩))
  · rw [if_neg (by omega), if_neg (by omega), if_pos (.inr (.inl hgt))]
    exact throws_fail _

/-! ### Signed integers -/

/-- A step of the loop of `integer`, which takes a digit if the number stays below the limit. -/
def limitedStep (limit num : ℕ) (c : UInt8) : Except String ℕ :=
  if limit / 10 < num ∨ num = limit / 10 ∧ limit % 10 < digitVal c then .error "Overflow detected."
  else .ok (num * 10 + digitVal c)

theorem foldlM_limited (limit : ℕ) (hall : ∀ c ∈ run, isDigit c = true) :
    run.foldlM (limitedStep limit) 0 =
      if limit < numeral run then .error "Overflow detected." else .ok (numeral run) := by
  induction run using List.reverseRecOn with
  | nil => simp [numeral, pure, Except.pure]
  | append_singleton run c ih =>
    have hc := digitVal_lt (hall c (by simp))
    rw [List.foldlM_append, ih fun e he => hall e (by simp [he]), numeral_append_one]
    by_cases hlarge : limit < numeral run
    · rw [if_pos hlarge, if_pos (by omega)]
      rfl
    · rw [if_neg hlarge]
      change (limitedStep limit (numeral run) c >>= pure) = _
      rw [bind_pure, limitedStep]
      exact if_congr (by omega) rfl rfl

/-- The part of `integer` after the sign. -/
theorem ends_unsigned (hrun : DigitRun v p run) (hp : p < v.mEnd) (negative : Prop) [Decidable negative]
    (limit : ℕ) : Ends v (do
      if !isDigit (← ParseBuffer.peek) then
        let pb ← get
        ParseBuffer.fail ("Expected a digit, got: " ++ quoted (pb.textBetween pb.mPosition pb.mEnd))
      let num ← ParseBuffer.digits (fun num c => do
        ParseBuffer.advance 1
        if limit / 10 < num ∨ num = limit / 10 ∧ limit % 10 < digitVal c then
          ParseBuffer.fail "Overflow detected."
        return num * 10 + digitVal c) 0
      return if negative then -(num : ℤ) else num) p (p + run.length)
      (if run = [] ∨ limit < numeral run then .error "" else
        .ok (if negative then -(numeral run : ℤ) else numeral run)) := by
  refine ParseBuffer.lands_peek.ends ?_
  rcases run with _ | ⟨c, cs⟩
  · have hstop : isDigit (v.memory p) = false := by
      have hstop := hrun.stop
      simp only [List.length_nil, Nat.cast_zero, add_zero] at hstop
      exact hstop.resolve_left (by omega)
    rw [if_pos (by simp [hstop])]
    exact Throws.get fun _ => Throws.bind _ (throws_fail _)
  have hdigit : isDigit (v.memory p) = true := by
    rw [hrun.holds.1]
    exact hrun.all c (by simp)
  have hstep : ∀ p num c, v.memory p = c → Ends v (do
      ParseBuffer.advance 1
      if limit / 10 < num ∨ num = limit / 10 ∧ limit % 10 < digitVal c then
        ParseBuffer.fail "Overflow detected."
      return num * 10 + digitVal c) p (p + 1) (limitedStep limit num c) := by
    intro p num c _
    refine (ParseBuffer.lands_advance 1).ends ?_
    rw [limitedStep]
    split
    · exact Throws.bind _ (throws_fail _)
    · exact Lands.pure _
  have hdigits := ends_digits hstep hrun 0
  rw [foldlM_limited limit hrun.all] at hdigits
  rw [if_neg (by simp [hdigit])]
  by_cases hlarge : limit < numeral (c :: cs)
  · rw [if_pos hlarge] at hdigits
    rw [if_pos (.inr hlarge)]
    exact Throws.bind _ hdigits
  · rw [if_neg hlarge] at hdigits
    rw [if_neg (by simp [hlarge])]
    exact Lands.bind hdigits (Lands.pure _)

/-- Where the digits begin. -/
def afterSign (v : View) (p : ℤ) : ℤ :=
  if p < v.mEnd ∧ (v.memory p = 45 ∨ v.memory p = 43) then p + 1 else p

/-- The number that digits at the position denote with the sign before them. -/
def signed (v : View) (p : ℤ) (run : Bytes) : ℤ :=
  if p < v.mEnd ∧ v.memory p = 45 then -(numeral run : ℤ) else numeral run

theorem DigitRun.eq_nil (h : DigitRun v p run) (hp : v.mEnd ≤ p) : run = [] := by
  by_contra hne
  have hfits := h.fits hne
  have hpos := List.length_pos_of_ne_nil hne
  omega

theorem throws_assertNotEof (hp : v.mEnd ≤ p) : Throws v ParseBuffer.assertNotEof p := by
  refine Throws.get fun _ => ?_
  rw [if_pos (by simpa using hp)]
  exact throws_fail _

theorem ends_integer (hrun : DigitRun v (afterSign v p) run) :
    Ends v ParseBuffer.integer p (afterSign v p + run.length)
      (if run = [] ∨ signed v p run < -2 ^ 31 ∨ 2 ^ 31 ≤ signed v p run then .error "" else
        .ok (signed v p run)) := by
  refine Ends.get fun _ => ?_
  rcases lt_or_ge p v.mEnd with hlt | hge
  swap
  · rw [afterSign, if_neg (by omega)] at hrun
    refine Ends.ite_pos (by simpa using hge) ?_
    rw [if_pos (show run = [] ∨ _ from .inl (hrun.eq_nil hge))]
    exact Throws.bind _ (throws_fail _)
  refine Ends.ite_neg (by simpa using hlt) (ParseBuffer.lands_peek.ends ?_)
  dsimp only
  have hsigned : signed v p run =
      if v.memory p = 45 then -(numeral run : ℤ) else numeral run := by
    rw [signed]
    exact if_congr (by simp [hlt]) rfl rfl
  have hresult : (if run = [] ∨ signed v p run < -2 ^ 31 ∨ 2 ^ 31 ≤ signed v p run then
      Except.error "" else Except.ok (signed v p run)) =
      if run = [] ∨ (if v.memory p = 45 then 2147483648 else 2147483647) < numeral run then
        Except.error "" else Except.ok (if v.memory p = 45 then -(numeral run : ℤ) else numeral run) := by
    rw [hsigned]
    refine if_congr (or_congr_right ?_) rfl rfl
    split <;> omega
  rw [hresult]
  by_cases hsign : v.memory p = 45 ∨ v.memory p = 43
  · have hafter : afterSign v p = p + 1 := if_pos ⟨hlt, hsign⟩
    rw [hafter] at hrun ⊢
    refine Ends.ite_pos hsign ((ParseBuffer.lands_advance 1).ends ?_)
    rcases lt_or_ge (p + 1) v.mEnd with hlt' | hge
    · exact (ParseBuffer.lands_assertNotEof hlt').ends (ends_unsigned hrun hlt' _ _)
    · rw [if_pos (show run = [] ∨ _ from .inl (hrun.eq_nil hge))]
      exact Throws.bind _ (throws_assertNotEof hge)
  · have hafter : afterSign v p = p := if_neg fun h => hsign h.2
    rw [hafter] at hrun ⊢
    exact Ends.ite_neg hsign (ends_unsigned hrun hlt _ _)

end

/-! ### All of them -/

/-- The operation throws exactly in the bad case. Otherwise it returns the number, with the position
after the digits. -/
def ReadsExactly {α : Type} (m : Parse α) (number : α → ℤ) (pb : ParseBuffer) (stop : ℤ) (bad : Prop)
    (value : ℤ) : Prop :=
  (bad → ∃ msg pb', m pb = .error msg pb') ∧
  (¬bad → ∃ a reads, m pb = .ok a { pb with mPosition := stop, reads := reads } ∧ number a = value)

theorem Ends.readsExactly {α : Type} {m : Parse α} {number : α → ℤ} {pb : ParseBuffer} {stop : ℤ}
    {bad : Prop} [Decidable bad] {a : α} {value : ℤ}
    (h : Ends ⟨pb.memory, pb.mBuff, pb.mEnd⟩ m pb.mPosition stop (if bad then .error "" else .ok a))
    (ha : ¬bad → number a = value) : ReadsExactly m number pb stop bad value := by
  refine ⟨fun hbad => ?_, fun hgood => ?_⟩
  · rw [if_pos hbad] at h
    exact h pb.reads
  · rw [if_neg hgood] at h
    obtain ⟨reads, hrun⟩ := h pb.reads
    exact ⟨a, reads, hrun, ha hgood⟩

namespace ParseBuffer

/-- The buffer after an optional sign. -/
def afterSign (pb : ParseBuffer) : ParseBuffer :=
  if !pb.eof ∧ (pb.memory pb.mPosition = 45 ∨ pb.memory pb.mPosition = 43) then
    { pb with mPosition := pb.mPosition + 1 }
  else pb

/-- The number that the digits after an optional sign denote. -/
def signedNumeral (pb : ParseBuffer) : ℤ :=
  if !pb.eof ∧ pb.memory pb.mPosition = 45 then -(numeral pb.afterSign.digitRun : ℤ)
  else numeral pb.afterSign.digitRun

theorem afterSign_eq (pb : ParseBuffer) : pb.afterSign =
    (⟨pb.memory, pb.mBuff, pb.mEnd⟩ : View).at_ (Rutil.afterSign ⟨pb.memory, pb.mBuff, pb.mEnd⟩ pb.mPosition)
      pb.reads := by
  by_cases h : pb.mPosition < pb.mEnd ∧ (pb.memory pb.mPosition = 45 ∨ pb.memory pb.mPosition = 43)
  · rw [afterSign, if_pos (by simpa [eof] using h), Rutil.afterSign, if_pos h]
    rfl
  · rw [afterSign, if_neg (by simpa [eof] using h), Rutil.afterSign, if_neg h]
    rfl

theorem signedNumeral_eq (pb : ParseBuffer) : pb.signedNumeral =
    signed ⟨pb.memory, pb.mBuff, pb.mEnd⟩ pb.mPosition pb.afterSign.digitRun := by
  rw [signedNumeral, signed]
  exact if_congr (by simp [eof]) rfl rfl

/-- The wide integers are read exactly. -/
theorem wide_integers (pb : ParseBuffer) :
    ReadsExactly uInt32 (fun n => (n.toNat : ℤ)) pb (pb.mPosition + pb.digitRun.length)
      (pb.digitRun = [] ∨ 10 < pb.digitRun.length ∨ 2 ^ 32 ≤ numeral pb.digitRun) (numeral pb.digitRun) ∧
    ReadsExactly uInt64 (fun n => (n.toNat : ℤ)) pb (pb.mPosition + pb.digitRun.length)
      (pb.digitRun = [] ∨ 20 < pb.digitRun.length ∨
        pb.digitRun.length = 20 ∧ pb.digitRun.head? ≠ some 49 ∨ 2 ^ 64 ≤ numeral pb.digitRun)
      (numeral pb.digitRun) ∧
    ReadsExactly integer id pb (pb.afterSign.mPosition + pb.afterSign.digitRun.length)
      (pb.afterSign.digitRun = [] ∨ pb.signedNumeral < -2 ^ 31 ∨ 2 ^ 31 ≤ pb.signedNumeral)
      pb.signedNumeral := by
  have hrun := digitRun_spec ⟨pb.memory, pb.mBuff, pb.mEnd⟩ pb.mPosition pb.reads
  refine ⟨(ends_uInt32 hrun).readsExactly fun hgood => ?_, (ends_uInt64 hrun).readsExactly fun hgood => ?_, ?_⟩
  · have hlt : numeral pb.digitRun < 2 ^ 32 := not_le.1 fun h => hgood (.inr (.inr h))
    change ((UInt32.ofNat (numeral pb.digitRun)).toNat : ℤ) = _
    rw [UInt32.toNat_ofNat', Nat.mod_eq_of_lt hlt]
  · have hlt : numeral pb.digitRun < 2 ^ 64 := not_le.1 fun h => hgood (.inr (.inr (.inr h)))
    change ((UInt64.ofNat (numeral pb.digitRun)).toNat : ℤ) = _
    rw [UInt64.toNat_ofNat', Nat.mod_eq_of_lt hlt]
  · rw [signedNumeral_eq, afterSign_eq]
    exact (ends_integer (digitRun_spec _ _ _)).readsExactly fun _ => rfl

end ParseBuffer

/-! ### Integers of eight bits -/

/-- A step of the loop of `uInt8`. -/
def wrappingStep (last c : UInt8) : Except String UInt8 :=
  if last > last * 10 + (c - 48) then .error "Overflow detected." else .ok (last * 10 + (c - 48))

/-- With some digit of the run the number that the digits denote becomes less modulo 256. -/
def Drops (run : Bytes) : Prop :=
  ∃ k < run.length, numeral (run.take (k + 1)) % 256 < numeral (run.take k) % 256

instance : DecidablePred Drops := fun _ => inferInstanceAs (Decidable (∃ _, _ ∧ _))

theorem drops_append_one {run : Bytes} {c : UInt8} : Drops (run ++ [c]) ↔
    Drops run ∨ numeral (run ++ [c]) % 256 < numeral run % 256 := by
  have htake : ∀ k ≤ run.length, (run ++ [c]).take k = run.take k := fun k hk =>
    List.take_append_of_le_length hk
  have hall : (run ++ [c]).take (run.length + 1) = run ++ [c] := List.take_of_length_le (by simp)
  constructor
  · rintro ⟨k, hk, hlt⟩
    rw [List.length_append, List.length_singleton] at hk
    rcases Nat.lt_or_ge k run.length with hlt' | hge
    · rw [htake _ hlt', htake _ hlt'.le] at hlt
      exact .inl ⟨k, hlt', hlt⟩
    · obtain rfl : k = run.length := by omega
      rw [htake _ le_rfl, hall, List.take_length] at hlt
      exact .inr hlt
  · rintro (⟨k, hk, hlt⟩ | hlt)
    · refine ⟨k, by simp; omega, ?_⟩
      rwa [htake _ hk, htake _ hk.le]
    · refine ⟨run.length, by simp, ?_⟩
      rwa [htake _ le_rfl, hall, List.take_length]

theorem foldlM_wrapping {run : Bytes} (hall : ∀ c ∈ run, isDigit c = true) :
    run.foldlM wrappingStep 0 =
      if Drops run then .error "Overflow detected." else .ok (UInt8.ofNat (numeral run)) := by
  induction run using List.reverseRecOn with
  | nil => rfl
  | append_singleton run c ih =>
    have hnext : UInt8.ofNat (numeral run) * 10 + (c - 48) = UInt8.ofNat (numeral (run ++ [c])) := by
      rw [numeral_append_one, UInt8.ofNat_add, UInt8.ofNat_mul, digitVal, UInt8.ofNat_toNat]
      rfl
    rw [List.foldlM_append, ih fun e he => hall e (by simp [he])]
    by_cases hdrops : Drops run
    · rw [if_pos hdrops, if_pos (drops_append_one.2 (.inl hdrops))]
      rfl
    · rw [if_neg hdrops]
      change (wrappingStep (UInt8.ofNat (numeral run)) c >>= pure) = _
      rw [bind_pure, wrappingStep, hnext]
      refine if_congr ?_ rfl rfl
      rw [drops_append_one, gt_iff_lt, UInt8.lt_iff_toNat_lt, UInt8.toNat_ofNat', UInt8.toNat_ofNat']
      simp [hdrops]

/-- A part of the run denotes no more than the run, so a run that denotes a byte does not wrap. -/
theorem numeral_take_le (run : Bytes) (k : ℕ) : numeral (run.take k) ≤ numeral run := by
  induction run using List.reverseRecOn with
  | nil => simp
  | append_singleton run c ih =>
    rcases Nat.lt_or_ge k (run.length + 1) with hlt | hge
    · rw [List.take_append_of_le_length (by omega), numeral_append_one]
      omega
    · rw [List.take_of_length_le (by simpa using hge)]

section
variable {v : View} {p : ℤ} {run : Bytes}

theorem ends_uInt8 (hrun : DigitRun v p run) : Ends v ParseBuffer.uInt8 p (p + run.length)
    (if run = [] ∨ Drops run then .error "" else .ok (UInt8.ofNat (numeral run))) := by
  have hstep : ∀ p (last : UInt8) c, v.memory p = c → Ends v (do
      let num := last * 10 + (c - 48)
      if last > num then ParseBuffer.fail "Overflow detected."
      ParseBuffer.advance 1
      return num) p (p + 1) (wrappingStep last c) := by
    intro p last c _
    rw [wrappingStep]
    dsimp only
    split
    · exact Throws.bind _ (throws_fail _)
    · exact (ParseBuffer.lands_advance 1).then_ (Lands.pure _)
  have hdigits := ends_digits hstep hrun 0
  rw [foldlM_wrapping hrun.all] at hdigits
  refine ParseBuffer.lands_position.ends ?_
  by_cases hdrops : Drops run
  · rw [if_pos hdrops] at hdigits
    rw [if_pos (.inr hdrops)]
    exact Throws.bind _ hdigits
  · rw [if_neg hdrops] at hdigits
    refine Lands.ends hdigits (ParseBuffer.lands_position.ends ?_)
    rcases run with _ | ⟨c, cs⟩
    · refine Ends.ite_pos (by simp) ?_
      exact Throws.bind _ (throws_fail _)
    · rw [if_neg (by simp; omega), if_neg (by simp [hdrops])]
      exact Lands.pure _

end

namespace ParseBuffer

/-- The operation returns only what the digits denote, and throws if that is no byte. -/
def Uint8Exact (pb : ParseBuffer) : Prop :=
  (∀ v pb', uInt8 pb = .ok v pb' → numeral pb.digitRun = v.toNat) ∧
  (pb.digitRun = [] ∨ 255 < numeral pb.digitRun → ∃ msg pb', uInt8 pb = .error msg pb')

/-- A number above 255 is noticed only if it becomes less modulo 256 with some digit. -/
theorem uInt8_exact_iff (pb : ParseBuffer) :
    pb.Uint8Exact ↔ numeral pb.digitRun ≤ 255 ∨ Drops pb.digitRun := by
  have hends := ends_uInt8 (digitRun_spec ⟨pb.memory, pb.mBuff, pb.mEnd⟩ pb.mPosition pb.reads)
  change Ends _ _ _ _ (if pb.digitRun = [] ∨ Drops pb.digitRun then _ else
    .ok (UInt8.ofNat (numeral pb.digitRun))) at hends
  by_cases hbad : pb.digitRun = [] ∨ Drops pb.digitRun
  · rw [if_pos hbad] at hends
    obtain ⟨msg, pb', hrun⟩ := hends pb.reads
    have hthrows : uInt8 pb = .error msg pb' := hrun
    refine ⟨fun _ => ?_, fun _ => ⟨fun v pb'' hok => ?_, fun _ => ⟨msg, pb', hthrows⟩⟩⟩
    · rcases hbad with hnil | hdrops
      · rw [hnil]
        exact .inl (Nat.zero_le _)
      · exact .inr hdrops
    · rw [hthrows] at hok
      cases hok
  · rw [if_neg hbad] at hends
    obtain ⟨reads, hrun⟩ := hends pb.reads
    have hreturns : uInt8 pb = .ok (UInt8.ofNat (numeral pb.digitRun)) _ := hrun
    rw [not_or] at hbad
    constructor
    · rintro ⟨-, hthrows⟩
      refine .inl (not_lt.1 fun hlarge => ?_)
      obtain ⟨msg, pb', herror⟩ := hthrows (.inr hlarge)
      rw [hreturns] at herror
      cases herror
    · intro h
      have hsmall := h.resolve_right hbad.2
      refine ⟨fun v pb' hok => ?_, fun h => ?_⟩
      · rw [hreturns] at hok
        cases hok
        rw [UInt8.toNat_ofNat', Nat.mod_eq_of_lt (by omega)]
      · rcases h with hnil | hlarge
        · exact absurd hnil hbad.1
        · omega

/-- Three hundred is read as 44. -/
theorem not_uInt8_exact : ¬(ofText (literal "300")).Uint8Exact := by
  rintro ⟨hvalue, -⟩
  have hrun : ∃ pb', uInt8 (ofText (literal "300")) = .ok 44 pb' := ⟨_, rfl⟩
  obtain ⟨pb', hrun⟩ := hrun
  have hnumeral := hvalue 44 pb' hrun
  revert hnumeral
  decide

end ParseBuffer

end Resiprocate.Rutil
