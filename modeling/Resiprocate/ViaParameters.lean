import Resiprocate.DecimalTexts
import Resiprocate.ViaParsed

/-! How the parameters that a `Via` writes are read back. -/
namespace Resiprocate.Stack
open Rutil Rutil.ParseBuffer DnsUtil
open Uri (UnknownParameter dataOf uInt32Parameter)

/-- The buffer ends or another parameter begins. -/
def AtParameter (v : View) (p : ℤ) : Prop := p = v.mEnd ∨ p < v.mEnd ∧ v.memory p = 59

section
variable {v : View} {p q : ℤ} {test : UInt8 → Bool}

theorem AtParameter.le (h : AtParameter v p) : p ≤ v.mEnd := h.elim le_of_eq fun h => h.1.le

theorem AtParameter.stop (h : AtParameter v p) (htest : test 59 = false) :
    p = v.mEnd ∨ test (v.memory p) = false := h.imp_right fun h => by rw [h.2, htest]

theorem lands_skipNone (hp : p ≤ v.mEnd) (hstop : p = v.mEnd ∨ test (v.memory p) = false) :
    Lands v (skipWhile test) p p () := by
  have hnone : Lands v (skipWhile test) p (p + ([] : Bytes).length) () :=
    lands_skipWhile trivial (by simp) (by simpa using hp) (by simpa using hstop)
  simpa using hnone

theorem AtParameter.lands_skipNone (h : AtParameter v p) (htest : test 59 = false) :
    Lands v (skipWhile test) p p () := Stack.lands_skipNone h.le (h.stop htest)

theorem lands_looksAt_true {c : UInt8} (hp : p < v.mEnd) (hc : v.memory p = c) :
    Lands v (looksAt c) p p true := by
  simpa [hc] using lands_looksAt (c := c) hp

theorem lands_looksAt_false {c : UInt8} (hc : v.mEnd ≤ p ∨ v.memory p ≠ c) :
    Lands v (looksAt c) p p false := by
  rcases lt_or_ge p v.mEnd with hlt | hge
  · have hland := lands_looksAt (c := c) hlt
    rwa [beq_eq_false_iff_ne.mpr (hc.resolve_left (not_le.mpr hlt))] at hland
  · exact lands_looksAt_eof hge

theorem AtParameter.lands_looksAt {c : UInt8} (h : AtParameter v p) (hc : c ≠ 59) :
    Lands v (looksAt c) p p false := by
  rcases h with he | ⟨-, hsemi⟩
  · exact lands_looksAt_false (.inl he.ge)
  · exact lands_looksAt_false (.inr (hsemi.trans_ne hc.symm))

end

namespace ParserCategory
variable {v : View} {p : ℤ} {value : Bytes} {isQuoted : Bool}

/-- What stands after the equals sign. -/
def encodeValue (value : Bytes) (isQuoted : Bool) : Bytes :=
  if isQuoted then 34 :: value ++ [34] else value

theorem isWhitespace_eq_false {c : UInt8} {cs : Bytes} (h : oneOf cs c = false)
    (hcs : ∀ d ∈ [(32 : UInt8), 9, 13, 10], d ∈ cs) : isWhitespace c = false := by
  by_contra hspace
  simp only [isWhitespace, Bool.not_eq_false, Bool.or_eq_true, beq_iff_eq] at hspace
  have hmem : c ∈ cs := hcs c (by simp; tauto)
  rw [oneOf, List.contains_eq_mem, decide_eq_false_iff_not] at h
  exact h hmem

/-- White space is among the terminators. -/
theorem white_terminators2 : ∀ d ∈ [(32 : UInt8), 9, 13, 10], d ∈ terminators2 := by
  simp only [List.forall_mem_cons, List.not_mem_nil, false_imp_iff, implies_true, and_true]
  decide

theorem white_terminators1 : ∀ d ∈ [(32 : UInt8), 9, 13, 10], d ∈ terminators1 := by
  simp only [List.forall_mem_cons, List.not_mem_nil, false_imp_iff, implies_true, and_true]
  decide

/-- A value begins with a byte that ends nothing. -/
theorem exists_encodeValue (h : DataRead (.data value isQuoted)) :
    ∃ c rest, encodeValue value isQuoted = c :: rest ∧ oneOf terminators2 c = false := by
  cases isQuoted with
  | true => exact ⟨34, value ++ [34], rfl, by decide⟩
  | false =>
    cases value with
    | nil => exact absurd rfl h.2
    | cons c rest => exact ⟨c, rest, rfl, h.1.free c List.mem_cons_self⟩

theorem lands_parseValue (h : DataRead (.data value isQuoted)) (hbuff : v.mBuff ≤ p)
    (hholds : v.Holds p (encodeValue value isQuoted))
    (hend : AtParameter v (p + (encodeValue value isQuoted).length)) :
    Lands v parseValue p (p + (encodeValue value isQuoted).length) (.data value isQuoted) := by
  have hfit := hend.le
  cases isQuoted with
  | true =>
    have hlength : p + (encodeValue value true).length = p + 1 + value.length + 1 := by
      simp only [encodeValue, if_pos, List.length_append, List.length_cons, List.length_nil]
      push_cast
      ring
    rw [hlength] at hfit ⊢
    obtain ⟨hquote, hrest⟩ := hholds
    obtain ⟨hvalue, hclose⟩ := View.holds_append.mp hrest
    have hlt : p < v.mEnd := by omega
    refine (lands_current hlt).bind (Lands.ite_pos hquote ?_)
    refine (lands_skipChar hlt).bind (lands_position.bind ?_)
    refine (lands_skipToEndQuote hvalue h.1 (by omega) hclose.1).bind ?_
    refine (lands_data (by omega) hvalue rfl).bind ?_
    exact (lands_skipChar (by omega)).bind (Lands.pure _)
  | false =>
    have hplain : Plain value := h.1
    change v.Holds p value at hholds
    change AtParameter v (p + value.length) at hend
    change p + value.length ≤ v.mEnd at hfit
    change Lands v parseValue p (p + value.length) _
    obtain ⟨c, rest, rfl⟩ := List.exists_cons_of_ne_nil fun hnil : value = [] => h.2 (hnil ▸ rfl)
    have hlt : p < v.mEnd := by
      rw [List.length_cons] at hfit
      omega
    have hhead : v.memory p ≠ 34 := by
      rw [hholds.1]
      exact fun hc => hplain.unquoted (congrArg some hc)
    refine (lands_current hlt).bind (Lands.ite_neg hhead (lands_position.bind ?_))
    refine (lands_skipWhile hholds (fun d hd => ?_) hfit (hend.stop (by decide))).bind ?_
    · rw [hplain.free d hd]
      rfl
    · exact (lands_data hbuff hholds rfl).bind (Lands.pure _)

section
variable (h : DataRead (.data value isQuoted)) (hbuff : v.mBuff ≤ p)
  (hholds : v.Holds p (61 :: encodeValue value isQuoted))
  (hend : AtParameter v (p + (61 :: encodeValue value isQuoted).length))
include h hbuff hholds hend

/-- Between the equals sign and the value there is nothing to skip. -/
theorem lands_afterEquals : p + 1 < v.mEnd ∧ v.memory p = 61 ∧ oneOf terminators2 (v.memory (p + 1)) = false ∧
    Lands v parseValue (p + 1) (p + (61 :: encodeValue value isQuoted).length) (.data value isQuoted) := by
  have hlength : p + (61 :: encodeValue value isQuoted).length = p + 1 + (encodeValue value isQuoted).length := by
    rw [List.length_cons]
    push_cast
    ring
  rw [hlength] at hend ⊢
  obtain ⟨c, rest, hcons, hc⟩ := exists_encodeValue h
  have hfit := hend.le
  have hfirst : v.memory (p + 1) = c := by
    have hvalue := hholds.2
    rw [hcons] at hvalue
    exact hvalue.1
  refine ⟨?_, hholds.1, hfirst ▸ hc, lands_parseValue h (by omega) hholds.2 hend⟩
  rw [hcons, List.length_cons] at hfit
  omega

theorem lands_dataParameter :
    Lands v dataParameter p (p + (61 :: encodeValue value isQuoted).length) (.data value isQuoted) := by
  obtain ⟨hlt, hequals, hfirst, hvalue⟩ := lands_afterEquals h hbuff hholds hend
  have hspace := isWhitespace_eq_false hfirst white_terminators2
  refine (lands_skipNone (by omega) (.inr (by rw [hequals]; rfl))).bind ?_
  refine (lands_skipCharIs (by omega) hequals).bind ?_
  refine (lands_skipNone hlt.le (.inr hspace)).bind ?_
  exact (lands_current hlt).bind (Lands.ite_neg (by simp [hfirst]) hvalue)

theorem lands_unknownParameter :
    Lands v unknownParameter p (p + (61 :: encodeValue value isQuoted).length) (.data value isQuoted) := by
  obtain ⟨hlt, hequals, hfirst, hvalue⟩ := lands_afterEquals h hbuff hholds hend
  have hspace := isWhitespace_eq_false hfirst white_terminators2
  refine (lands_skipNone (by omega) (.inr (by rw [hequals]; rfl))).bind ?_
  refine (lands_looksAt_true (by omega) hequals).bind (Lands.ite_pos rfl ?_)
  refine (lands_skipCharIs (by omega) hequals).bind ?_
  exact (lands_skipNone hlt.le (.inr hspace)).bind hvalue

end

theorem lands_unknownParameter_flag (hend : AtParameter v p) : Lands v unknownParameter p p .flag :=
  (hend.lands_skipNone (by decide)).bind
    ((hend.lands_looksAt (by decide)).bind (Lands.ite_neg Bool.false_ne_true (Lands.pure _)))

end ParserCategory

namespace Via
open ParserCategory
variable {β : Type} {v : View} {p : ℤ} {read : β → Prop} {parseBranch : Parse β} {encodeBranch : β → Bytes}

/-- A branch that has been read is written after an equals sign and is read back. -/
structure BranchReads (parseBranch : Parse β) (encodeBranch : β → Bytes) (read : β → Prop) : Prop where
  returns : ∀ v p, Returns v parseBranch p fun b _ => read b
  starts : ∀ b, read b → (encodeBranch b).head? = some 61
  lands : ∀ b, read b → ∀ v p, v.mBuff ≤ p → v.Holds p (encodeBranch b) →
    AtParameter v (p + (encodeBranch b).length) → Lands v parseBranch p (p + (encodeBranch b).length) b

namespace Parameter

/-- What stands after the name. -/
def encodeTail (encodeBranch : β → Bytes) : Parameter β → Bytes
  | data _ mValue mQuoted => 61 :: encodeValue mValue mQuoted
  | ttl mValue => 61 :: literal (toString mValue.toNat)
  | rport mValue mHasValue =>
    if mHasValue = true ∨ 0 < mValue then 61 :: literal (toString mValue.toInt) else []
  | branch b => encodeBranch b

theorem encode_eq (q : Parameter β) :
    q.encode encodeBranch = q.getType.getName ++ q.encodeTail encodeBranch := by
  cases q with
  | data type mValue mQuoted => cases mQuoted <;> rfl
  | _ => rfl

/-- The value of a `sigcomp-id` is put into quotes whatever it contains. -/
def Closed : Parameter β → Prop
  | data .sigcompId mValue _ => quotable mValue = true
  | _ => True

theorem Read.data {q : Parameter β} (h : q.Read read) (hclosed : q.Closed) {type : DataParameterType}
    {mValue : Bytes} {mQuoted : Bool} (hq : q = .data type mValue mQuoted) : DataRead (.data mValue mQuoted) := by
  subst hq
  cases type with
  | sigcompId =>
    cases (show mQuoted = true from h)
    exact ⟨hclosed, nofun⟩
  | _ => exact h

end Parameter

namespace ParameterType

theorem getName_ne_nil (type : ParameterType) : type.getName ≠ [] := by
  rcases type with (_ | _ | _ | _) | _ | _ | _ <;> decide

theorem getName_free (type : ParameterType) : ∀ c ∈ type.getName, oneOf terminators1 c = false := by
  have hall : type.getName.all fun c => !oneOf terminators1 c := by
    rcases type with (_ | _ | _ | _) | _ | _ | _ <;> decide
  intro c hc
  simpa using List.all_eq_true.mp hall c hc

theorem getType_getName (type : ParameterType) : getType type.getName = some type := by
  rcases type with (_ | _ | _ | _) | _ | _ | _ <;> decide

end ParameterType

theorem isDigit_59 : isDigit 59 = false := rfl

/-- After an equals sign, the text of a number is not skipped over. -/
theorem digits_afterEquals {text : Bytes} (hholds : v.Holds p (61 :: text)) (hne : text ≠ [])
    (hdigits : ∀ c ∈ text, isWhitespace c = false) : isWhitespace (v.memory (p + 1)) = false := by
  obtain ⟨c, rest, rfl⟩ := List.exists_cons_of_ne_nil hne
  rw [hholds.2.1]
  exact hdigits c List.mem_cons_self

theorem isWhitespace_of_isDigit {c : UInt8} (h : isDigit c = true) : isWhitespace c = false := by
  by_contra hspace
  simp only [isWhitespace, Bool.not_eq_false, Bool.or_eq_true, beq_iff_eq] at hspace
  rcases hspace with ((rfl | rfl) | rfl) | rfl <;> exact absurd h (by decide)

theorem lands_uInt32Parameter {n : UInt32} (hholds : v.Holds p (61 :: literal (toString n.toNat)))
    (hend : AtParameter v (p + (61 :: literal (toString n.toNat)).length)) :
    Lands v uInt32Parameter p (p + (61 :: literal (toString n.toNat)).length) n := by
  obtain ⟨hne, hdigits, -⟩ := Numerals.digits_repr n.toNat
  have hlength : p + (61 :: literal (toString n.toNat)).length = p + 1 + (literal (toString n.toNat)).length := by
    rw [List.length_cons]
    push_cast
    ring
  have hpos : 0 < (literal (toString n.toNat)).length := List.length_pos_of_ne_nil hne
  have hspace := digits_afterEquals hholds hne fun c hc => isWhitespace_of_isDigit (hdigits c hc)
  rw [hlength] at hend ⊢
  have hfit := hend.le
  refine (lands_skipNone (by omega) (.inr (by rw [hholds.1]; rfl))).bind ?_
  refine (lands_skipCharIs (by omega) hholds.1).bind ?_
  refine (lands_skipNone (by omega) (.inr hspace)).bind ?_
  exact lands_uInt32 hholds.2 hfit (hend.stop isDigit_59)

theorem integer_text (n : Int32) : literal (toString n.toInt) ≠ [] ∧
    ∀ c ∈ literal (toString n.toInt), isWhitespace c = false := by
  obtain ⟨hne, hdigits, -⟩ := Numerals.digits_repr n.toInt.natAbs
  rw [Int.toString_eq_repr]
  rcases lt_or_ge n.toInt 0 with hneg | hnonneg
  · rw [Numerals.literal_neg_repr hneg]
    refine ⟨List.cons_ne_nil _ _, fun c hc => ?_⟩
    rcases List.mem_cons.mp hc with rfl | hc
    · rfl
    · exact isWhitespace_of_isDigit (hdigits c hc)
  · rw [Numerals.literal_nonneg_repr hnonneg]
    exact ⟨hne, fun c hc => isWhitespace_of_isDigit (hdigits c hc)⟩

theorem lands_rportParameter {mValue : Int32} {mHasValue : Bool}
    (hread : (Parameter.rport mValue mHasValue : Parameter β).Read read)
    (hholds : v.Holds p ((Parameter.rport mValue mHasValue).encodeTail encodeBranch))
    (hend : AtParameter v (p + ((Parameter.rport mValue mHasValue).encodeTail encodeBranch).length)) :
    Lands v (rportParameter : Parse (Parameter β)) p
      (p + ((Parameter.rport mValue mHasValue).encodeTail encodeBranch).length) (.rport mValue mHasValue) := by
  cases mHasValue with
  | false =>
    have hzero : mValue = 0 := hread rfl
    subst hzero
    have htail : (Parameter.rport 0 false : Parameter β).encodeTail encodeBranch = [] := by
      simp [Parameter.encodeTail]
    rw [htail] at hend ⊢
    simp only [List.length_nil, Nat.cast_zero, add_zero] at hend ⊢
    exact (hend.lands_skipNone (by decide)).bind
      ((hend.lands_looksAt (by decide)).bind (Lands.ite_neg Bool.false_ne_true (Lands.pure _)))
  | true =>
    have htail : (Parameter.rport mValue true : Parameter β).encodeTail encodeBranch =
        61 :: literal (toString mValue.toInt) := by simp [Parameter.encodeTail]
    have hlength : p + (61 :: literal (toString mValue.toInt)).length =
        p + 1 + (literal (toString mValue.toInt)).length := by
      rw [List.length_cons]
      push_cast
      ring
    obtain ⟨hne, hwhite⟩ := integer_text mValue
    have hpos := List.length_pos_of_ne_nil hne
    rw [htail] at hholds hend ⊢
    have hspace := digits_afterEquals hholds hne hwhite
    rw [hlength] at hend ⊢
    have hfit := hend.le
    refine (lands_skipNone (by omega) (.inr (by rw [hholds.1]; rfl))).bind ?_
    refine (lands_looksAt_true (by omega) hholds.1).bind (Lands.ite_pos rfl ?_)
    refine (lands_skipChar (by omega)).bind ((lands_skipNone (by omega) (.inr hspace)).bind ?_)
    refine Lands.tryCatch ((lands_integer hholds.2 hfit (hend.stop isDigit_59)).bind ?_)
    rw [Int32.ofInt_toInt]
    exact Lands.pure _

theorem lands_createParam (hbranch : BranchReads parseBranch encodeBranch read) {q : Parameter β}
    (hread : q.Read read) (hclosed : q.Closed) (hbuff : v.mBuff ≤ p)
    (hholds : v.Holds p (q.encodeTail encodeBranch))
    (hend : AtParameter v (p + (q.encodeTail encodeBranch).length)) :
    Lands v (createParam parseBranch q.getType) p (p + (q.encodeTail encodeBranch).length) q := by
  cases q with
  | data type mValue mQuoted =>
    have hdata := lands_dataParameter (hread.data hclosed rfl) hbuff hholds hend
    cases type with
    | sigcompId =>
      cases (show mQuoted = true from hread)
      have hquoted : Lands v quotedDataParameter p _ (.data mValue true) := hdata.bind (Lands.pure _)
      exact hquoted.bind (Lands.pure _)
    | _ => exact hdata.bind (Lands.pure _)
  | ttl mValue => exact (lands_uInt32Parameter hholds hend).bind (Lands.pure _)
  | rport mValue mHasValue => exact lands_rportParameter hread hholds hend
  | branch b => exact (hbranch.lands b hread v p hbuff hholds hend).bind (Lands.pure _)

/-! ### The loop -/

variable {via : Via β}

def withParameters (via : Via β) (known : List (Parameter β)) (unknown : List UnknownParameter) : Via β :=
  { via with
    mParameters := via.mParameters ++ known
    mUnknownParameters := via.mUnknownParameters ++ unknown }

theorem lands_parseParameter_known (hbranch : BranchReads parseBranch encodeBranch read) {q : Parameter β}
    (hread : q.Read read) (hclosed : q.Closed) (hbuff : v.mBuff ≤ p)
    (hholds : v.Holds p (q.encodeTail encodeBranch))
    (hend : AtParameter v (p + (q.encodeTail encodeBranch).length)) :
    Lands v (parseParameter parseBranch q.getType.getName via) p (p + (q.encodeTail encodeBranch).length)
      (via.withParameters [q] []) := by
  unfold parseParameter
  rw [ParameterType.getType_getName, withParameters, List.append_nil]
  exact (lands_createParam hbranch hread hclosed hbuff hholds hend).bind (Lands.pure _)

/-- What stands after the name of an unknown parameter. -/
def unknownTail (u : UnknownParameter) : Bytes :=
  if u.mIsQuoted = false ∧ u.mValue = [] then [] else 61 :: encodeValue u.mValue u.mIsQuoted

theorem unknown_encode_eq (u : UnknownParameter) : u.encode = u.mName ++ unknownTail u := by
  obtain ⟨mName, mValue, mIsQuoted⟩ := u
  cases mIsQuoted with
  | true => simp [UnknownParameter.encode, unknownTail, encodeValue]
  | false =>
    cases mValue with
    | nil => exact (List.append_nil mName).symm
    | cons c rest => rfl

theorem lands_parseParameter_unknown {u : UnknownParameter} (hread : UnknownRead u) (hbuff : v.mBuff ≤ p)
    (hholds : v.Holds p (unknownTail u)) (hend : AtParameter v (p + (unknownTail u).length)) :
    Lands v (parseParameter parseBranch u.mName via) p (p + (unknownTail u).length)
      (via.withParameters [] [u]) := by
  unfold parseParameter
  rw [hread.unknown, withParameters, List.append_nil]
  by_cases hflag : u.mIsQuoted = false ∧ u.mValue = []
  · have htail : unknownTail u = [] := if_pos hflag
    have hu : u = ⟨u.mName, [], false⟩ := by rw [← hflag.1, ← hflag.2]
    rw [htail] at hend ⊢
    simp only [List.length_nil, Nat.cast_zero, add_zero] at hend ⊢
    refine (lands_unknownParameter_flag hend).bind ?_
    rw [hu]
    exact Lands.pure _
  · have htail : unknownTail u = 61 :: encodeValue u.mValue u.mIsQuoted := if_neg hflag
    have hdata : DataRead (.data u.mValue u.mIsQuoted) := by
      refine ⟨hread.value, fun hnil => hflag ?_⟩
      exact ⟨(ParameterValue.data.inj hnil).2, (ParameterValue.data.inj hnil).1⟩
    rw [htail] at hholds hend ⊢
    exact (lands_unknownParameter hdata hbuff hholds hend).bind (Lands.pure _)

/-- The rest of the buffer. -/
structure Rest (v : View) (p : ℤ) (text : Bytes) : Prop where
  buff : v.mBuff ≤ p
  holds : v.Holds p text
  ends : p + text.length = v.mEnd

theorem Rest.append {left right : Bytes} (h : Rest v p (left ++ right)) : Rest v (p + left.length) right := by
  have hends := h.ends
  rw [List.length_append, Nat.cast_add, ← add_assoc] at hends
  exact ⟨h.buff.trans (by omega), (View.holds_append.mp h.holds).2, hends⟩

theorem Rest.left {left right : Bytes} (h : Rest v p (left ++ right)) : v.Holds p left :=
  (View.holds_append.mp h.holds).1

theorem Rest.atParameter {text : Bytes} (h : Rest v p text) (htext : ∀ c ∈ text.head?, c = 59) :
    AtParameter v p := by
  have hends := h.ends
  cases text with
  | nil => exact .inl (by simpa using hends)
  | cons c rest =>
    refine .inr ⟨?_, h.holds.1.trans (htext c rfl)⟩
    rw [List.length_cons] at hends
    omega

/-- A turn reads one parameter, with the spaces between the semicolon and its name. -/
theorem continues_turn {space name : Bytes} (hbuff : v.mBuff ≤ p)
    (hholds : v.Holds p (59 :: space ++ name)) (hspace : ∀ c ∈ space, isWhitespace c = true)
    (hne : name ≠ []) (hname : ∀ c ∈ name, oneOf terminators1 c = false)
    (hfit : p + 1 + space.length + name.length ≤ v.mEnd)
    (hstop : p + 1 + space.length + name.length = v.mEnd ∨
      oneOf terminators1 (v.memory (p + 1 + space.length + name.length)) = true) :
    Continues v (parseParametersTurn parseBranch via) p
      (do return .yield (← parseParameter parseBranch name via)) (p + 1 + space.length + name.length) := by
  obtain ⟨hsemi, hrest⟩ := hholds
  obtain ⟨hspaces, hkey⟩ := View.holds_append.mp hrest
  have hfirst : isWhitespace (v.memory (p + 1 + space.length)) = false := by
    obtain ⟨c, rest, rfl⟩ := List.exists_cons_of_ne_nil hne
    rw [hkey.1]
    exact isWhitespace_eq_false (hname c List.mem_cons_self) white_terminators1
  refine lands_position.continues ((lands_skipNone (by omega) (.inr (by rw [hsemi]; rfl))).continues ?_)
  refine (lands_looksAt_true (by omega) hsemi).continues ?_
  rw [if_pos rfl]
  refine (lands_skipChar (by omega)).continues ?_
  refine (lands_skipWhile hspaces hspace (by omega) (.inr hfirst)).continues (lands_position.continues ?_)
  refine (lands_skipWhile hkey (fun c hc => by rw [hname c hc]; rfl) hfit (hstop.imp_right ?_)).continues ?_
  · exact fun hterminator => by rw [hterminator]; rfl
  have hdata : Lands v (data (p + 1 + space.length)) _ _ name := lands_data (by omega) hkey rfl
  refine hdata.continues ?_
  rw [if_neg hne]
  exact fun reads => ⟨reads, rfl⟩

/-- From `p` the loop reaches the end of the buffer with `via'`. -/
def LoopLands (parseBranch : Parse β) (v : View) (p : ℤ) (via via' : Via β) : Prop :=
  ∀ n, (v.mEnd - p).toNat ≤ n → Lands v (whileNotEof (parseParametersTurn parseBranch) n via) p v.mEnd via'

theorem loopLands_end (hp : p = v.mEnd) : LoopLands parseBranch v p via via := by
  intro n _
  rw [hp]
  exact lands_whileNotEof_eof le_rfl

theorem LoopLands.turn {q : ℤ} {via₁ via' : Via β} (hpq : p < q) (hq : q ≤ v.mEnd)
    (hturn : Lands v (parseParametersTurn parseBranch via) p q (.yield via₁))
    (hrest : LoopLands parseBranch v q via₁ via') : LoopLands parseBranch v p via via' := by
  intro n hn
  obtain ⟨n, rfl⟩ : ∃ m, n = m + 1 := ⟨n - 1, by omega⟩
  exact lands_whileNotEof_yield via₁ (by omega) hturn (hrest n (by omega))

theorem withParameters_append (known known' : List (Parameter β)) (unknown unknown' : List UnknownParameter) :
    (via.withParameters known unknown).withParameters known' unknown' =
      via.withParameters (known ++ known') (unknown ++ unknown') := by
  simp [withParameters]

/-- The head of what is written for parameters is a semicolon. -/
theorem head_flatMap {α : Type} {encode : α → Bytes} {l : List α} :
    ∀ c ∈ (l.flatMap fun a => 59 :: encode a).head?, c = 59 := by
  cases l with
  | nil => exact nofun
  | cons a l =>
    intro c hc
    cases hc
    rfl

/-- A name ends at an equals sign or at the next parameter. -/
theorem name_stop {tail : Bytes} {q : ℤ} (hholds : v.Holds p tail) (htail : ∀ c ∈ tail.head?, c = 61)
    (hend : AtParameter v (p + tail.length)) (hq : q = p) :
    q = v.mEnd ∨ oneOf terminators1 (v.memory q) = true := by
  subst hq
  cases tail with
  | nil =>
    simp only [List.length_nil, Nat.cast_zero, add_zero] at hend
    exact hend.imp_right fun h => by rw [h.2]; rfl
  | cons c rest =>
    rw [hholds.1, htail c rfl]
    exact .inr rfl

section
variable {space name tail text : Bytes} {via₁ via' : Via β}
  (hrest : Rest v p ((59 :: space ++ name ++ tail) ++ text)) (htext : ∀ c ∈ text.head?, c = 59)
  (hspace : ∀ c ∈ space, isWhitespace c = true) (hne : name ≠ [])
  (hname : ∀ c ∈ name, oneOf terminators1 c = false) (htail : ∀ c ∈ tail.head?, c = 61)
include hrest htext hspace hne hname htail

/-- A parameter with the spaces before it takes one turn. -/
theorem continues_parameter (parseBranch : Parse β) (via : Via β) : ∃ q, p < q ∧ v.mBuff ≤ q ∧ v.Holds q tail ∧
    AtParameter v (q + tail.length) ∧ Rest v (q + tail.length) text ∧
    Continues v (parseParametersTurn parseBranch via) p
      (do return .yield (← parseParameter parseBranch name via)) q := by
  have hbuff := hrest.buff
  obtain ⟨hstart, htailHolds⟩ := View.holds_append.mp hrest.left
  have hafter := hrest.append
  have hnameEnd : p + (59 :: space ++ name).length = p + 1 + space.length + name.length := by
    simp only [List.length_append, List.length_cons]
    push_cast
    ring
  have hchunkEnd : p + (59 :: space ++ name ++ tail).length = p + 1 + space.length + name.length + tail.length := by
    rw [List.length_append, Nat.cast_add, ← add_assoc, hnameEnd]
  rw [hnameEnd] at htailHolds
  rw [hchunkEnd] at hafter
  have hend := hafter.atParameter htext
  have hfit := hend.le
  exact ⟨_, by omega, by omega, htailHolds, hend, hafter, continues_turn hbuff hstart hspace hne hname
    (by omega) (name_stop htailHolds htail hend rfl)⟩

theorem LoopLands.parameter
    (hparameter : ∀ q, v.mBuff ≤ q → v.Holds q tail → AtParameter v (q + tail.length) →
      Lands v (parseParameter parseBranch name via) q (q + tail.length) via₁)
    (hloop : ∀ q, Rest v q text → LoopLands parseBranch v q via₁ via') : LoopLands parseBranch v p via via' := by
  obtain ⟨q, hlt, hbuff, hholds, hend, hafter, hturn⟩ :=
    continues_parameter hrest htext hspace hne hname htail parseBranch via
  exact LoopLands.turn (by omega) hend.le
    (hturn.lands ((hparameter q hbuff hholds hend).bind (Lands.pure _))) (hloop _ hafter)

end

theorem white_nil : ∀ c ∈ ([] : Bytes), isWhitespace c = true := nofun

theorem head_unknownTail (u : UnknownParameter) : ∀ c ∈ (unknownTail u).head?, c = 61 := by
  unfold unknownTail
  split_ifs
  · exact nofun
  · intro c hc
    cases hc
    rfl

theorem loopLands_unknown {us : List UnknownParameter} (hread : ∀ u ∈ us, UnknownRead u)
    (hrest : Rest v p (us.flatMap fun u => 59 :: u.encode)) :
    LoopLands parseBranch v p via (via.withParameters [] us) := by
  induction us generalizing p via with
  | nil =>
    have hwith : via.withParameters [] [] = via := by simp [withParameters]
    rw [hwith]
    exact loopLands_end (by simpa using hrest.ends)
  | cons u us ih =>
    have hu := hread u List.mem_cons_self
    rw [List.flatMap_cons, unknown_encode_eq, ← List.cons_append] at hrest
    have happend : (via.withParameters [] [u]).withParameters [] us = via.withParameters [] (u :: us) :=
      withParameters_append [] [] [u] us
    rw [← happend]
    exact LoopLands.parameter hrest head_flatMap white_nil hu.name_ne hu.name_free (head_unknownTail u)
      (fun q hbuff hholds hend => lands_parseParameter_unknown hu hbuff hholds hend)
      fun q hq => ih (fun u hu => hread u (List.mem_cons_of_mem _ hu)) hq

/-- The known parameters, with spaces before the first. -/
def knownText (encodeBranch : β → Bytes) (space : Bytes) : List (Parameter β) → Bytes
  | [] => []
  | q :: rest => 59 :: space ++ q.encode encodeBranch ++ rest.flatMap fun q => 59 :: q.encode encodeBranch

theorem knownText_nil (qs : List (Parameter β)) :
    knownText encodeBranch [] qs = qs.flatMap fun q => 59 :: q.encode encodeBranch := by
  cases qs <;> rfl

theorem head_knownText {space : Bytes} {qs : List (Parameter β)} {us : List UnknownParameter} :
    ∀ c ∈ (knownText encodeBranch space qs ++ us.flatMap fun u => 59 :: u.encode).head?, c = 59 := by
  cases qs with
  | nil => exact head_flatMap
  | cons q rest =>
    intro c hc
    cases hc
    rfl

theorem head_encodeTail (hbranch : BranchReads parseBranch encodeBranch read) {q : Parameter β}
    (hread : q.Read read) : ∀ c ∈ (q.encodeTail encodeBranch).head?, c = 61 := by
  have hequals : ∀ text : Bytes, ∀ c ∈ (61 :: text).head?, c = 61 := by
    intro text c hc
    cases hc
    rfl
  cases q with
  | data type mValue mQuoted => exact hequals _
  | ttl mValue => exact hequals _
  | rport mValue mHasValue =>
    simp only [Parameter.encodeTail]
    split_ifs
    · exact hequals _
    · exact nofun
  | branch b =>
    intro c hc
    exact Option.some.inj (hc.symm.trans (hbranch.starts b hread))

theorem loopLands_known (hbranch : BranchReads parseBranch encodeBranch read) {space : Bytes}
    (hspace : ∀ c ∈ space, isWhitespace c = true) {qs : List (Parameter β)} {us : List UnknownParameter}
    (hread : ∀ q ∈ qs, q.Read read) (hclosed : ∀ q ∈ qs, q.Closed) (hunknown : ∀ u ∈ us, UnknownRead u)
    (hrest : Rest v p (knownText encodeBranch space qs ++ us.flatMap fun u => 59 :: u.encode)) :
    LoopLands parseBranch v p via (via.withParameters qs us) := by
  induction qs generalizing p via space with
  | nil => exact loopLands_unknown hunknown hrest
  | cons q qs ih =>
    have hq := hread q List.mem_cons_self
    have hclosedq := hclosed q List.mem_cons_self
    rw [knownText, Parameter.encode_eq, ← List.append_assoc (59 :: space), List.append_assoc _ _ (us.flatMap _)] at hrest
    have happend : (via.withParameters [q] []).withParameters qs us = via.withParameters (q :: qs) us :=
      withParameters_append [q] qs [] us
    rw [← happend]
    rw [← knownText_nil] at hrest
    exact LoopLands.parameter hrest head_knownText hspace q.getType.getName_ne_nil q.getType.getName_free
      (head_encodeTail hbranch hq)
      (fun r hbuff hholds hend => lands_parseParameter_known hbranch hq hclosedq hbuff hholds hend)
      fun r hr => ih white_nil (fun q hq => hread q (List.mem_cons_of_mem _ hq))
        (fun q hq => hclosed q (List.mem_cons_of_mem _ hq)) hr

end Via
end Resiprocate.Stack
