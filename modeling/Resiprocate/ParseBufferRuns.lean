import Resiprocate.ParseBuffer
import Resiprocate.ProgramLogic

/-! What the operations of `ParseBuffer` do on a buffer whose text is known. -/
namespace Resiprocate.Rutil
open ProgramLogic

/-- A buffer without its position. -/
structure View where
  memory : ℤ → UInt8
  mBuff : ℤ
  mEnd : ℤ

namespace View

def at_ (v : View) (p : ℤ) (reads : List ℤ) : ParseBuffer := ⟨v.memory, v.mBuff, p, v.mEnd, reads⟩

/-- The part of the same memory from `start` to `stop`. -/
def part (v : View) (start stop : ℤ) : View := ⟨v.memory, start, stop⟩

/-- The bytes from `p` on are `text`. -/
def Holds (v : View) : ℤ → Bytes → Prop
  | _, [] => True
  | p, c :: cs => v.memory p = c ∧ v.Holds (p + 1) cs

instance (v : View) (p : ℤ) (text : Bytes) : Decidable (v.Holds p text) := by
  induction text generalizing p with
  | nil => exact isTrue trivial
  | cons c cs ih => exact @instDecidableAnd _ _ _ (ih (p + 1))

section Holds
variable {v : View} {p : ℤ}

@[simp] theorem holds_nil : v.Holds p [] := trivial

@[simp] theorem holds_cons {c : UInt8} {cs : Bytes} :
    v.Holds p (c :: cs) ↔ v.memory p = c ∧ v.Holds (p + 1) cs := Iff.rfl

theorem holds_append {xs ys : Bytes} :
    v.Holds p (xs ++ ys) ↔ v.Holds p xs ∧ v.Holds (p + xs.length) ys := by
  induction xs generalizing p with
  | nil => simp
  | cons x xs ih =>
    simp only [List.cons_append, holds_cons, ih, List.length_cons, Nat.cast_add, Nat.cast_one,
      and_assoc]
    rw [add_assoc, add_comm (1 : ℤ)]

/-- Inside of a text that is held, another text is held where it is a prefix of what is left. -/
theorem holds_iff_prefix {text sub : Bytes} (h : v.Holds p text) {i : ℕ}
    (hi : i + sub.length ≤ text.length) :
    v.Holds (p + i) sub ↔ sub <+: text.drop i := by
  have hdrop : v.Holds (p + i) (text.drop i) := by
    rw [← List.take_append_drop i text, holds_append] at h
    rw [List.length_take, min_eq_left (by omega)] at h
    exact h.2
  have hlen : sub.length ≤ (text.drop i).length := by rw [List.length_drop]; omega
  generalize p + (i : ℤ) = q at hdrop ⊢
  generalize text.drop i = rest at hdrop hlen ⊢
  clear h hi
  induction sub generalizing q rest with
  | nil => simp
  | cons c cs ih =>
    cases rest with
    | nil => simp at hlen
    | cons d ds =>
      rw [holds_cons] at hdrop ⊢
      have hcs : cs.length ≤ ds.length := by simpa using hlen
      rw [List.cons_prefix_cons, hdrop.1]
      exact and_congr eq_comm (ih (q + 1) ds hdrop.2 hcs)

end Holds
end View

/-- From `p`, `m` returns `a` at `q`. -/
def Lands {α : Type} (v : View) (m : Parse α) (p q : ℤ) (a : α) : Prop :=
  ∀ reads, ∃ reads', m (v.at_ p reads) = .ok a (v.at_ q reads')

namespace Lands
variable {α β : Type} {v : View} {p q r : ℤ}

theorem pure (a : α) : Lands v (pure a) p p a := fun reads => ⟨reads, rfl⟩

theorem bind {m : Parse α} {k : α → Parse β} {a : α} {b : β} (hm : Lands v m p q a)
    (hk : Lands v (k a) q r b) : Lands v (m >>= k) p r b := by
  intro reads
  obtain ⟨reads₁, h₁⟩ := hm reads
  obtain ⟨reads₂, h₂⟩ := hk reads₁
  exact ⟨reads₂, by rw [bind_of_ok h₁, h₂]⟩

/-- What reads the state and goes on goes on from each way in which the state may have been
reached. -/
theorem get {k : ParseBuffer → Parse β} {b : β} (hk : ∀ reads, Lands v (k (v.at_ p reads)) p r b) :
    Lands v (get >>= k) p r b := fun reads => hk reads reads

theorem then_ {m : Parse α} {k : Parse β} {a : α} {b : β} (hm : Lands v m p q a)
    (hk : Lands v k q r b) : Lands v (m >>= fun _ => k) p r b := hm.bind hk

theorem ite_pos {c : Prop} [Decidable c] {m m' : Parse α} {a : α} (hc : c)
    (h : Lands v m p q a) : Lands v (if c then m else m') p q a := by rwa [if_pos hc]

theorem ite_neg {c : Prop} [Decidable c] {m m' : Parse α} {a : α} (hc : ¬ c)
    (h : Lands v m' p q a) : Lands v (if c then m else m') p q a := by rwa [if_neg hc]

theorem tryCatch {m : Parse α} {h : String → Parse α} {a : α} (hm : Lands v m p q a) :
    Lands v (tryCatch m h) p q a := by
  intro reads
  obtain ⟨reads', hrun⟩ := hm reads
  refine ⟨reads', ?_⟩
  change EStateM.tryCatch m h (v.at_ p reads) = _
  rw [EStateM.tryCatch, hrun]

end Lands

namespace ParseBuffer
variable {v : View} {p q : ℤ}

@[simp] theorem eof_at {reads : List ℤ} : (v.at_ p reads).eof = decide (v.mEnd ≤ p) := rfl

@[simp] theorem position_at {reads : List ℤ} : (v.at_ p reads).mPosition = p := rfl

@[simp] theorem end_at {reads : List ℤ} : (v.at_ p reads).mEnd = v.mEnd := rfl

@[simp] theorem buff_at {reads : List ℤ} : (v.at_ p reads).mBuff = v.mBuff := rfl

theorem lands_readAt (a : ℤ) : Lands v (readAt a) p p (v.memory a) :=
  fun reads => ⟨a :: reads, rfl⟩

theorem lands_peek : Lands v peek p p (v.memory p) := fun reads => ⟨p :: reads, rfl⟩

theorem lands_advance (n : ℤ) : Lands v (advance n) p (p + n) () := fun reads => ⟨reads, rfl⟩

theorem lands_position : Lands v position p p p := fun reads => ⟨reads, rfl⟩

theorem lands_toEnd :
    Lands v (modify fun pb => { pb with mPosition := pb.mEnd }) p v.mEnd PUnit.unit :=
  fun reads => ⟨reads, rfl⟩

theorem lands_assertNotEof (h : p < v.mEnd) : Lands v assertNotEof p p () := by
  apply Lands.get
  intro reads
  exact Lands.ite_neg (by simpa using h) (Lands.pure ())

theorem lands_skipChar (h : p < v.mEnd) : Lands v skipChar p (p + 1) () := by
  apply Lands.get
  intro reads
  exact Lands.ite_neg (by simpa using h) (lands_advance 1)

theorem lands_skipCharIs {c : UInt8} (h : p < v.mEnd) (hc : v.memory p = c) :
    Lands v (skipCharIs c) p (p + 1) () := by
  apply Lands.get
  intro reads
  apply Lands.ite_neg (by simpa using h)
  apply Lands.bind lands_peek
  exact Lands.ite_neg (by simpa using hc) (lands_advance 1)

theorem lands_skipN {n : ℤ} (h : p + n ≤ v.mEnd) : Lands v (skipN n) p (p + n) () := by
  apply Lands.then_ (lands_advance n)
  apply Lands.get
  intro reads
  exact Lands.ite_neg (by simpa using h) (Lands.pure ())

theorem lands_current (h : p < v.mEnd) : Lands v current p p (v.memory p) :=
  (lands_assertNotEof h).then_ lands_peek

theorem lands_looksAt {c : UInt8} (h : p < v.mEnd) :
    Lands v (looksAt c) p p (v.memory p == c) := by
  apply Lands.get
  intro reads
  apply Lands.ite_neg (by simpa using h)
  exact lands_peek.bind (Lands.pure _)

theorem lands_looksAt_eof {c : UInt8} (h : v.mEnd ≤ p) : Lands v (looksAt c) p p false := by
  apply Lands.get
  intro reads
  exact Lands.ite_pos (by simpa using h) (Lands.pure false)

theorem lands_reset (a : ℤ) : Lands v (reset a) p a () := fun reads => ⟨reads, rfl⟩

theorem textBetween_of_holds {pb : ParseBuffer} {text : Bytes} {start : ℤ}
    (hmem : pb.memory = v.memory) (h : v.Holds start text) :
    pb.textBetween start (start + text.length) = text := by
  unfold textBetween
  rw [show (start + (text.length : ℤ) - start).toNat = text.length by omega, hmem]
  induction text generalizing start with
  | nil => rfl
  | cons c cs ih =>
    rw [View.holds_cons] at h
    rw [List.length_cons, List.range_succ_eq_map, List.map_cons, List.map_map]
    congr 1
    · simpa using h.1
    · refine Eq.trans ?_ (ih h.2)
      apply List.map_congr_left
      intro i _
      simp only [Function.comp_apply]
      congr 1
      push_cast
      ring

theorem lands_data {text : Bytes} {start : ℤ} (hbuff : v.mBuff ≤ start) (h : v.Holds start text)
    (hp : p = start + text.length) : Lands v (data start) p p text := by
  apply Lands.get
  intro reads
  apply Lands.ite_neg
  · simp only [position_at, buff_at, hp]
    omega
  · rw [position_at, hp, textBetween_of_holds rfl h]
    exact Lands.pure text

theorem lands_within {α : Type} {m : Parse α} {start stop r : ℤ} {a : α}
    (h : Lands (v.part start stop) m start r a) : Lands v (within start stop m) p p a := by
  intro reads
  obtain ⟨reads', hrun⟩ := h reads
  refine ⟨reads', ?_⟩
  simp only [within]
  rw [show ({ v.at_ p reads with mBuff := start, mPosition := start, mEnd := stop } : ParseBuffer) =
    (v.part start stop).at_ start reads from rfl, hrun]
  rfl

section While

theorem lands_whileNotEof_done {σ : Type} {body : σ → Parse (ForInStep σ)} {n : ℕ} {s s' : σ}
    (hp : p < v.mEnd) (h : Lands v (body s) p q (.done s')) :
    Lands v (whileNotEof body (n + 1) s) p q s' := by
  apply Lands.get
  intro reads
  apply Lands.ite_neg (by simpa using hp)
  exact h.bind (Lands.pure s')

theorem lands_whileNotEof_yield {σ : Type} {body : σ → Parse (ForInStep σ)} {n : ℕ} {s a : σ}
    (s' : σ) {r : ℤ} (hp : p < v.mEnd) (h : Lands v (body s) p q (.yield s'))
    (hrest : Lands v (whileNotEof body n s') q r a) :
    Lands v (whileNotEof body (n + 1) s) p r a := by
  apply Lands.get
  intro reads
  apply Lands.ite_neg (by simpa using hp)
  exact h.bind hrest

theorem lands_whileNotEof_eof {σ : Type} {body : σ → Parse (ForInStep σ)} {n : ℕ} {s : σ}
    (hp : v.mEnd ≤ p) : Lands v (whileNotEof body n s) p p s := by
  cases n with
  | zero => exact Lands.pure s
  | succ n =>
    apply Lands.get
    intro reads
    exact Lands.ite_pos (by simpa using hp) (Lands.pure s)

theorem lands_untilEof {σ : Type} {body : σ → Parse (ForInStep σ)} {s a : σ}
    (h : Lands v (whileNotEof body (v.mEnd - p).toNat s) p q a) :
    Lands v (untilEof body s) p q a := Lands.get fun _ => h

/-- `skipWhile` goes over all bytes of the test. -/
theorem lands_skipWhile {test : UInt8 → Bool} {text : Bytes} (htext : v.Holds p text)
    (hall : ∀ c ∈ text, test c = true) (hfit : p + text.length ≤ v.mEnd)
    (hstop : p + text.length = v.mEnd ∨ test (v.memory (p + text.length)) = false) :
    Lands v (skipWhile test) p (p + text.length) () := by
  apply lands_untilEof
  generalize hn : (v.mEnd - p).toNat = n
  induction text generalizing p n with
  | nil =>
    simp only [List.length_nil, Nat.cast_zero, add_zero] at hfit hstop ⊢
    rcases hfit.lt_or_eq with hlt | heq
    · obtain ⟨n, rfl⟩ : ∃ m, n = m + 1 := ⟨n - 1, by omega⟩
      apply lands_whileNotEof_done hlt
      apply lands_peek.bind
      have hbad : test (v.memory p) = false := hstop.resolve_left (by omega)
      exact Lands.ite_neg (by simp [hbad]) (Lands.pure _)
    · exact lands_whileNotEof_eof heq.ge
  | cons c cs ih =>
    rw [View.holds_cons] at htext
    simp only [List.length_cons, Nat.cast_add, Nat.cast_one] at hfit hstop ⊢
    have hshift : p + ((cs.length : ℤ) + 1) = p + 1 + cs.length := by ring
    rw [hshift] at hfit hstop ⊢
    obtain ⟨n, rfl⟩ : ∃ m, n = m + 1 := ⟨n - 1, by omega⟩
    have hgood : test (v.memory p) = true := by
      rw [htext.1]
      exact hall c List.mem_cons_self
    apply lands_whileNotEof_yield () (q := p + 1) (by omega)
    · apply lands_peek.bind
      exact Lands.ite_pos hgood ((lands_advance 1).then_ (Lands.pure _))
    · exact ih htext.2 (fun d hd => hall d (List.mem_cons_of_mem c hd)) hfit hstop n (by omega)

end While

section Search

theorem lands_matchFrom (cs : Bytes) (a : ℤ) :
    Lands v (matchFrom cs a) p p (decide (v.Holds a cs)) := by
  induction cs generalizing a with
  | nil => exact Lands.pure true
  | cons c cs ih =>
    apply (lands_readAt a).bind
    by_cases hc : v.memory a = c
    · apply Lands.ite_neg (by simpa using hc.symm)
      simpa [hc] using ih (a + 1)
    · apply Lands.ite_pos (Ne.symm hc)
      simpa [hc] using Lands.pure (v := v) (p := p) false

/-- Where the buffer does not end before it is known, `matchInside` says whether the bytes match. -/
theorem lands_matchInside {cs : Bytes} {a : ℤ} (hfit : a + cs.length ≤ v.mEnd) :
    Lands v (matchInside cs a) p p (some (decide (v.Holds a cs))) := by
  induction cs generalizing a with
  | nil => exact Lands.pure (some true)
  | cons c cs ih =>
    simp only [List.length_cons, Nat.cast_add, Nat.cast_one] at hfit
    apply Lands.get
    intro reads
    apply Lands.ite_neg (by simp only [end_at]; omega)
    apply (lands_readAt a).bind
    by_cases hc : v.memory a = c
    · apply Lands.ite_neg (by simpa using hc.symm)
      simpa [hc] using ih (a := a + 1) (by omega)
    · apply Lands.ite_pos (Ne.symm hc)
      simpa [hc] using Lands.pure (v := v) (p := p) (some false)

/-- Near the end of the buffer `matchInside` finds no match. -/
theorem lands_matchInside_short {cs : Bytes} {a : ℤ} (ha : a ≤ v.mEnd)
    (hfit : v.mEnd < a + cs.length) :
    Lands v (matchInside cs a) p p none ∨ Lands v (matchInside cs a) p p (some false) := by
  induction cs generalizing a with
  | nil => simp only [List.length_nil, Nat.cast_zero] at hfit; omega
  | cons c cs ih =>
    simp only [List.length_cons, Nat.cast_add, Nat.cast_one] at hfit
    by_cases hend : a = v.mEnd
    · left
      exact Lands.get fun reads => Lands.ite_pos hend (Lands.pure none)
    · by_cases hc : v.memory a = c
      · rcases ih (a := a + 1) (by omega) (by omega) with h | h
        · left
          exact Lands.get fun reads => Lands.ite_neg hend
            ((lands_readAt a).bind (Lands.ite_neg (by simpa using hc.symm) h))
        · right
          exact Lands.get fun reads => Lands.ite_neg hend
            ((lands_readAt a).bind (Lands.ite_neg (by simpa using hc.symm) h))
      · right
        exact Lands.get fun reads => Lands.ite_neg hend
          ((lands_readAt a).bind (Lands.ite_pos (Ne.symm hc) (Lands.pure _)))

/-- `q` is the first place from `p` on where `sub` is held. -/
structure First (v : View) (sub : Bytes) (p q : ℤ) : Prop where
  le : p ≤ q
  fits : q + sub.length ≤ v.mEnd
  holds : v.Holds q sub
  before : ∀ k, p ≤ k → k < q → ¬ v.Holds k sub

theorem First.next {sub : Bytes} (h : First v sub p q) (hlt : p < q) : First v sub (p + 1) q :=
  ⟨hlt, h.fits, h.holds, fun k hk => h.before k (by omega)⟩

theorem lands_skipToDataLoop {sub : Bytes} {n : ℕ} (h : First v sub p q) (hn : q - p < n) :
    Lands v (skipToDataLoop sub n) p q () := by
  induction n generalizing p with
  | zero => have := h.le; simp only [Nat.cast_zero] at hn; omega
  | succ n ih =>
    apply Lands.get
    intro reads
    apply (lands_matchInside (by have := h.le; have := h.fits; simp only [position_at]; omega)).bind
    simp only [position_at]
    rcases h.le.lt_or_eq with hlt | rfl
    · simp only [h.before p le_rfl hlt, decide_false]
      apply (lands_advance 1).then_
      exact ih (h.next hlt) (by push_cast at hn; omega)
    · simp only [h.holds, decide_true]
      exact Lands.pure ()

theorem lands_skipToData {sub : Bytes} (hsub : sub ≠ []) (h : First v sub p q) :
    Lands v (skipToData sub) p q () := by
  have hlen : 0 < sub.length := List.length_pos_iff.mpr hsub
  apply Lands.ite_neg hsub
  apply Lands.get
  intro reads
  apply lands_skipToDataLoop h
  have := h.fits
  simp only [end_at, position_at]
  omega

/-- Without a match `skipToChars` goes to the end of the buffer. -/
theorem lands_skipToDataLoop_none {sub : Bytes} {n : ℕ} (hp : p ≤ v.mEnd) (hsub : sub ≠ [])
    (hnone : ∀ k, p ≤ k → k + sub.length ≤ v.mEnd → ¬ v.Holds k sub) (hn : v.mEnd - p < n) :
    Lands v (skipToDataLoop sub n) p v.mEnd () := by
  induction n generalizing p with
  | zero => simp only [Nat.cast_zero] at hn; omega
  | succ n ih =>
    apply Lands.get
    intro reads
    simp only [position_at]
    rcases hp.lt_or_eq with hlt | rfl
    · have hstep : Lands v (skipToDataLoop sub n) (p + 1) v.mEnd () :=
        ih hlt (fun k hk => hnone k (by omega)) (by push_cast at hn; omega)
      by_cases hfit : p + sub.length ≤ v.mEnd
      · apply (lands_matchInside hfit).bind
        simp only [hnone p le_rfl hfit, decide_false]
        exact (lands_advance 1).then_ hstep
      · rcases lands_matchInside_short hp (not_le.mp hfit) with h | h
        · exact h.bind lands_toEnd
        · exact h.bind ((lands_advance 1).then_ hstep)
    · obtain ⟨c, cs, rfl⟩ := List.exists_cons_of_ne_nil hsub
      have hstop : Lands v (matchInside (c :: cs) v.mEnd) v.mEnd v.mEnd none :=
        Lands.get fun reads => Lands.ite_pos rfl (Lands.pure none)
      exact hstop.bind lands_toEnd

theorem lands_skipToData_none {sub : Bytes} (hp : p ≤ v.mEnd) (hsub : sub ≠ [])
    (hnone : ∀ k, p ≤ k → k + sub.length ≤ v.mEnd → ¬ v.Holds k sub) :
    Lands v (skipToData sub) p v.mEnd () := by
  apply Lands.ite_neg hsub
  apply Lands.get
  intro reads
  apply lands_skipToDataLoop_none hp hsub hnone
  simp only [end_at, position_at]
  omega

theorem lands_skipToCharsLoop {cs : Bytes} {n : ℕ} (h : First v cs p q) (hn : q - p < n) :
    Lands v (skipToCharsLoop cs n) p q () := by
  induction n generalizing p with
  | zero => have := h.le; simp only [Nat.cast_zero] at hn; omega
  | succ n ih =>
    apply Lands.get
    intro reads
    simp only [position_at, end_at]
    apply Lands.ite_pos (by have := h.le; have := h.fits; omega)
    apply (lands_matchFrom cs p).bind
    rcases h.le.lt_or_eq with hlt | rfl
    · apply Lands.ite_neg (by simpa using h.before p le_rfl hlt)
      apply (lands_advance 1).then_
      exact ih (h.next hlt) (by push_cast at hn; omega)
    · exact Lands.ite_pos (by simpa using h.holds) (Lands.pure ())

theorem lands_skipToChars {cs : Bytes} (h : First v cs p q) : Lands v (skipToChars cs) p q () := by
  apply Lands.get
  intro reads
  apply lands_skipToCharsLoop h
  have := h.fits
  simp only [end_at, position_at]
  omega

/-- A line that does not end with a backslash and is not folded ends at its CRLF, or at the end of
the buffer if it has none. -/
theorem lands_skipToTermCRLF (hskip : Lands v (skipToData [13, 10]) p q ()) (hp : p < v.mEnd)
    (hspace : v.memory (q + 2) ≠ 32) (htab : v.memory (q + 2) ≠ 9)
    (hslash : v.memory (q - 1) ≠ 92) : Lands v skipToTermCRLF p q () := by
  have hterm : Lands v terminates (q + 2) (q + 2) true := by
    apply Lands.get
    intro reads
    simp only [position_at, buff_at]
    by_cases hstart : q + 2 - 3 < v.mBuff
    · exact Lands.ite_pos hstart (Lands.pure true)
    · apply Lands.ite_neg hstart
      have hread : Lands v (backslashAt (q + 2 - 3)) (q + 2) (q + 2) false := by
        apply (lands_readAt _).bind
        have hne : (v.memory (q + 2 - 3) == 92) = false := by
          rw [show q + 2 - 3 = q - 1 by ring]
          simpa using hslash
        rw [hne]
        exact Lands.pure false
      exact hread.bind (Lands.ite_pos rfl (Lands.pure true))
  have hturn : Lands v skipToTermCRLFTurn p q (.done ()) := by
    apply hskip.then_
    apply (lands_advance 2).then_
    apply lands_peek.bind
    apply Lands.ite_neg (by simp [hspace, htab])
    apply hterm.bind
    apply Lands.ite_pos rfl
    have hback := (lands_advance (v := v) (p := q + 2) (-2)).then_ (Lands.pure (ForInStep.done ()))
    rwa [show q + 2 + -2 = q by ring] at hback
  apply lands_untilEof
  obtain ⟨n, hn⟩ : ∃ n, (v.mEnd - p).toNat = n + 1 := ⟨(v.mEnd - p).toNat - 1, by omega⟩
  rw [hn]
  exact lands_whileNotEof_done hp hturn

end Search
end ParseBuffer
end Resiprocate.Rutil
