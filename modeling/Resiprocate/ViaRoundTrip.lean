import Resiprocate.ViaParameters

/-! A `Via` that has been parsed is written and parsed again. What is lost is a `sigcomp-id` whose value does
not survive the quotes that it is given, and a header without host, port and parameters. -/
namespace Resiprocate.Stack
open Rutil Rutil.ParseBuffer DnsUtil
open Uri (V6Texts isIpV6Address_of_isPrefix)

namespace Via
open ParserCategory
variable {β : Type} {v : View} {p : ℤ} {read : β → Prop} {parseBranch : Parse β} {encodeBranch : β → Bytes}
  {inet : Inet} {via : Via β} {text : Bytes}

theorem Rest.tail {c : UInt8} (h : Rest v p (c :: text)) : Rest v (p + 1) text := by
  have hends := h.ends
  rw [List.length_cons, Nat.cast_add, Nat.cast_one] at hends
  exact ⟨by have := h.buff; omega, h.holds.2, by omega⟩

theorem Rest.lt {c : UInt8} (h : Rest v p (c :: text)) : p < v.mEnd := by
  have hends := h.ends
  rw [List.length_cons, Nat.cast_add, Nat.cast_one] at hends
  omega

theorem white_wos : ∀ d ∈ [(32 : UInt8), 9, 13, 10], d ∈ wos := by
  simp only [List.forall_mem_cons, List.not_mem_nil, false_imp_iff, implies_true, and_true]
  decide

/-- The first byte of a part, or what is after an empty part. -/
theorem memory_first {part : Bytes} {c : UInt8} (hrest : Rest v p (part ++ c :: text)) :
    (∃ d ∈ part, v.memory p = d) ∨ v.memory p = c := by
  cases part with
  | nil => exact .inr hrest.holds.1
  | cons d part => exact .inl ⟨d, List.mem_cons_self, hrest.holds.1⟩

theorem lands_parseProtocolPart {part : Bytes} (hfree : ∀ c ∈ part, oneOf wos c = false)
    (hrest : Rest v p (part ++ 47 :: text)) : Lands v parseProtocolPart p (p + part.length + 1) part := by
  have hslash := hrest.append
  have hlt := hslash.lt
  have hwhite : isWhitespace (v.memory p) = false := by
    rcases memory_first hrest with ⟨d, hd, hp⟩ | hp
    · rw [hp]
      exact isWhitespace_eq_false (hfree d hd) white_wos
    · rw [hp]
      rfl
  refine (lands_skipNone (by omega) (.inr hwhite)).bind (lands_position.bind ?_)
  refine (lands_skipWhile hrest.left (fun c hc => by rw [hfree c hc]; rfl) hlt.le (.inr ?_)).bind ?_
  · rw [hslash.holds.1]
    rfl
  refine (lands_data hrest.buff hrest.left rfl).bind ?_
  refine (lands_skipNone hlt.le (.inr (by rw [hslash.holds.1]; rfl))).bind ?_
  exact (lands_skipChar hlt).bind (Lands.pure _)

theorem lands_parseTransport {transport : Bytes} (hne : transport ≠ [])
    (hwhite : ∀ c ∈ transport, isWhitespace c = false) (hrest : Rest v p (transport ++ 32 :: text)) :
    Lands v parseTransport p (p + transport.length) transport := by
  have hspace := hrest.append
  have hlt := hspace.lt
  have hfirst : isWhitespace (v.memory p) = false := by
    obtain ⟨c, rest, rfl⟩ := List.exists_cons_of_ne_nil hne
    rw [hrest.holds.1]
    exact hwhite c List.mem_cons_self
  refine (lands_skipNone (by omega) (.inr hfirst)).bind (lands_position.bind ?_)
  refine Lands.bind ((lands_assertNotEof (by have := List.length_pos_of_ne_nil hne; omega)).bind
    (lands_skipWhile hrest.left (fun c hc => by rw [hwhite c hc]; rfl) hlt.le (.inr ?_))) ?_
  · rw [hspace.holds.1]
    rfl
  · exact lands_data hrest.buff hrest.left rfl

/-! ### The host and the port -/

/-- A host as it is written. -/
def hostText (mSentHost : Bytes) : Bytes :=
  if isIpV6Address mSentHost then 91 :: mSentHost ++ [93] else mSentHost

def portText (mSentPort : Int32) : Bytes :=
  if mSentPort ≠ 0 then 58 :: literal (toString mSentPort.toInt) else []

/-- A host up to a colon is no address of version 6. -/
theorem isIpV6Address_plain {mSentHost : Bytes}
    (hfree : ∀ c ∈ mSentHost, oneOf (literal ";: \t\r\n") c = false) : isIpV6Address mSentHost = false := by
  by_contra hv6
  rw [Bool.not_eq_false] at hv6
  match mSentHost, hv6 with
  | first :: second :: rest, hv6 =>
    simp only [isIpV6Address, Bool.and_eq_true, List.any_eq_true] at hv6
    obtain ⟨-, c, hmem, hc⟩ := hv6
    rw [beq_iff_eq] at hc
    subst hc
    exact absurd (hfree 58 (List.mem_of_mem_take hmem)) (by decide)

/-- What is after the host begins with a colon or a semicolon. -/
def AfterHost (text : Bytes) : Prop := ∀ c ∈ text.head?, c = 58 ∨ c = 59

theorem AfterHost.stop (h : AfterHost text) (hrest : Rest v p text) {test : UInt8 → Bool}
    (hcolon : test 58 = false) (hsemi : test 59 = false) : p = v.mEnd ∨ test (v.memory p) = false := by
  have hends := hrest.ends
  cases text with
  | nil => exact .inl (by simpa using hends)
  | cons c rest =>
    rw [hrest.holds.1]
    rcases h c rfl with rfl | rfl
    · exact .inr hcolon
    · exact .inr hsemi

theorem lands_parseSentHost (hinet : V6Texts inet) {mSentHost : Bytes} (hhost : HostRead inet mSentHost)
    (hafter : AfterHost text) (hrest : Rest v p (32 :: (hostText mSentHost ++ text)))
    (hne : hostText mSentHost ++ text ≠ []) :
    Lands v (parseSentHost inet) p (p + 1 + (hostText mSentHost).length) mSentHost := by
  have hbuff := hrest.buff
  have htail := hrest.tail
  have hlt : p + 1 < v.mEnd := by
    have hends := htail.ends
    have hpos := List.length_pos_of_ne_nil hne
    omega
  have hspace : v.Holds p [32] := ⟨hrest.holds.1, trivial⟩
  have hskip : isWhitespace (v.memory (p + 1)) = false → Lands v skipWhitespace p (p + 1) () := by
    intro hwhite
    have hone : p + ([(32 : UInt8)].length : ℤ) = p + 1 := rfl
    have hlands : Lands v skipWhitespace p (p + ([(32 : UInt8)].length : ℤ)) () := lands_skipWhile hspace
      (fun c hc => by rw [List.mem_singleton.mp hc]; rfl) (hone ▸ hlt.le) (.inr (hone ▸ hwhite))
    rwa [hone] at hlands
  have hstop := htail.append
  cases hhost with
  | bracketed hfree hcanonical =>
    have hv6 : isIpV6Address mSentHost = true := by
      unfold canonicalizeIpV6Address at hcanonical
      split at hcanonical
      · exact absurd rfl hcanonical
      · next dst hdst =>
        exact isIpV6Address_of_isPrefix (List.takeWhile_prefix _) (hinet _ dst hdst)
    have htext : hostText mSentHost = 91 :: mSentHost ++ [93] := if_pos hv6
    rw [htext] at htail hstop ⊢
    obtain ⟨hopen, hinside⟩ := htail.left
    obtain ⟨hholds, hclose⟩ := View.holds_append.mp hinside
    have hend : p + 1 + ((91 :: mSentHost ++ [93]).length : ℤ) = p + 1 + 1 + mSentHost.length + 1 := by
      simp only [List.length_append, List.length_cons, List.length_nil]
      push_cast
      ring
    rw [hend] at hstop ⊢
    have hfit : p + 1 + 1 + mSentHost.length + 1 ≤ v.mEnd := by
      have hends := hstop.ends
      omega
    refine (hskip (by rw [hopen]; rfl)).bind (lands_position.bind ((lands_assertNotEof hlt).bind ?_))
    refine (lands_readAt _).bind (Lands.ite_pos hopen ?_)
    refine (lands_skipChar hlt).bind (lands_position.bind ?_)
    refine (lands_skipWhile hholds (fun c hc => by simpa using hfree c hc) (by omega) (.inr ?_)).bind ?_
    · rw [hclose.1]
      rfl
    refine (lands_data (by omega) hholds rfl).bind (Lands.ite_neg hcanonical ?_)
    exact (lands_skipChar (by omega)).bind (Lands.pure _)
  | plain hfree hhead =>
    have htext : hostText mSentHost = mSentHost := if_neg (by rw [isIpV6Address_plain hfree]; exact Bool.false_ne_true)
    rw [htext] at htail hstop hne ⊢
    have hfit : p + 1 + mSentHost.length ≤ v.mEnd := by
      have hends := hstop.ends
      omega
    have hfirst : isWhitespace (v.memory (p + 1)) = false ∧ v.memory (p + 1) ≠ 91 := by
      cases mSentHost with
      | nil =>
        obtain ⟨c, rest, rfl⟩ := List.exists_cons_of_ne_nil hne
        rw [htail.holds.1]
        rcases hafter c rfl with rfl | rfl
        · exact ⟨rfl, by decide⟩
        · exact ⟨rfl, by decide⟩
      | cons c rest =>
        rw [htail.holds.1]
        refine ⟨isWhitespace_eq_false (hfree c List.mem_cons_self) ?_, fun hc => hhead (congrArg some hc)⟩
        simp only [List.forall_mem_cons, List.not_mem_nil, false_imp_iff, implies_true, and_true]
        decide
    refine (hskip hfirst.1).bind (lands_position.bind ((lands_assertNotEof hlt).bind ?_))
    refine (lands_readAt _).bind (Lands.ite_neg hfirst.2 ?_)
    refine (lands_skipWhile htail.left (fun c hc => by rw [hfree c hc]; rfl) hfit
      (hafter.stop hstop (by decide) (by decide))).bind ?_
    exact lands_data (by omega) htail.left rfl

theorem lands_parseSentPort {mSentPort : Int32} (htext : ∀ c ∈ text.head?, c = 59)
    (hrest : Rest v p (portText mSentPort ++ text)) :
    Lands v parseSentPort p (p + (portText mSentPort).length) mSentPort := by
  have hend := hrest.append.atParameter htext
  by_cases hport : mSentPort = 0
  · subst hport
    have hnil : portText 0 = [] := rfl
    rw [hnil] at hend ⊢
    simp only [List.length_nil, Nat.cast_zero, add_zero] at hend ⊢
    refine (hend.lands_skipNone (by decide)).bind ?_
    exact (hend.lands_looksAt (by decide)).bind (Lands.ite_neg Bool.false_ne_true (Lands.pure _))
  · have hcolon : portText mSentPort = 58 :: literal (toString mSentPort.toInt) := if_pos hport
    rw [hcolon] at hrest hend ⊢
    have hlength : p + ((58 :: literal (toString mSentPort.toInt)).length : ℤ) =
        p + 1 + (literal (toString mSentPort.toInt)).length := by
      rw [List.length_cons]
      push_cast
      ring
    rw [hlength] at hend ⊢
    obtain ⟨hfirst, hdigits⟩ := hrest.left
    have hfit := hend.le
    have hlt : p < v.mEnd := by omega
    refine (lands_skipNone hlt.le (.inr (by rw [hfirst]; rfl))).bind ?_
    refine (lands_looksAt_true hlt hfirst).bind (Lands.ite_pos rfl ?_)
    refine (lands_skipCharIs hlt hfirst).bind ?_
    refine (lands_integer hdigits hfit (hend.stop isDigit_59)).bind ?_
    refine (hend.lands_skipNone (by decide)).bind ?_
    rw [Int32.ofInt_toInt]
    exact Lands.pure _

/-! ### The whole header -/

/-- What stands after the host. -/
def afterHostText (encodeBranch : β → Bytes) (via : Via β) : Bytes :=
  portText via.mSentPort ++ encodeParameters encodeBranch via

theorem encodeParsed_eq (via : Via β) : via.encodeParsed encodeBranch =
    via.mProtocolName ++ 47 :: (via.mProtocolVersion ++ 47 :: (via.mTransport ++ 32 ::
      (hostText via.mSentHost ++ afterHostText encodeBranch via))) := by
  simp only [encodeParsed, hostText, portText, afterHostText, List.append_assoc, List.cons_append]

/-- The space in front of the first parameter. -/
def msgrSpace (via : Via β) : Bytes :=
  if via.mUnknownParameters.any fun p => isEqualNoCase p.mName (literal "msgr") then [32] else []

theorem white_msgrSpace : ∀ c ∈ msgrSpace via, isWhitespace c = true := by
  unfold msgrSpace
  split_ifs
  · intro c hc
    rw [List.mem_singleton.mp hc]
    rfl
  · exact white_nil

theorem encodeParameters_eq (via : Via β) : encodeParameters encodeBranch via =
    knownText encodeBranch (msgrSpace via) via.mParameters ++
      via.mUnknownParameters.flatMap fun u => 59 :: u.encode := by
  unfold encodeParameters knownText msgrSpace
  cases via.mParameters <;> rfl

theorem afterHost_afterHostText : AfterHost (afterHostText encodeBranch via) := by
  intro c hc
  unfold afterHostText portText at hc
  split_ifs at hc with hport
  · cases hc
    exact .inl rfl
  · rw [encodeParameters_eq] at hc
    exact .inr (head_knownText c hc)

/-- The parser gets to the parameters. -/
theorem continues_parse (hinet : V6Texts inet) (hread : via.Read inet read)
    (hne : hostText via.mSentHost ++ afterHostText encodeBranch via ≠ [])
    (hrest : Rest v p (via.encodeParsed encodeBranch)) :
    ∃ q, Rest v q (encodeParameters encodeBranch via) ∧ Continues v (parse inet parseBranch) p
      (parseParameters parseBranch { via with mParameters := [], mUnknownParameters := [] }) q := by
  rw [encodeParsed_eq] at hrest
  have hversion := hrest.append.tail
  have htransport := hversion.append.tail
  have hhost := htransport.append
  have hport := hhost.tail.append
  refine ⟨_, hport.append, ?_⟩
  have hsemi : ∀ c ∈ (encodeParameters encodeBranch via).head?, c = 59 := by
    rw [encodeParameters_eq]
    exact head_knownText
  refine (lands_parseProtocolPart hread.name hrest).continues ?_
  refine (lands_parseProtocolPart hread.version hversion).continues ?_
  refine (lands_parseTransport hread.transport_ne hread.transport htransport).continues ?_
  refine (lands_parseSentHost hinet hread.host afterHost_afterHostText hhost hne).continues ?_
  exact (lands_parseSentPort hsemi hport).continues_self

/-- What has to hold of what was read. -/
structure ReadsBack (via : Via β) : Prop where
  something : via.mSentHost ≠ [] ∨ via.mSentPort ≠ 0 ∨ via.mParameters ≠ [] ∨ via.mUnknownParameters ≠ []
  closed : ∀ q ∈ via.mParameters, q.Closed

theorem something_iff : hostText via.mSentHost ++ afterHostText encodeBranch via ≠ [] ↔
    via.mSentHost ≠ [] ∨ via.mSentPort ≠ 0 ∨ via.mParameters ≠ [] ∨ via.mUnknownParameters ≠ [] := by
  have hhost : hostText via.mSentHost = [] ↔ via.mSentHost = [] := by
    unfold hostText
    split_ifs with hv6
    · simp only [List.cons_append, reduceCtorEq, false_iff]
      rintro hnil
      rw [hnil] at hv6
      exact absurd hv6 (by decide)
    · exact Iff.rfl
  have hport : portText via.mSentPort = [] ↔ via.mSentPort = 0 := by
    unfold portText
    split_ifs with hport
    · simp [hport]
    · simp [not_not.mp hport]
  have hknown : ∀ space : Bytes, knownText encodeBranch space via.mParameters = [] ↔ via.mParameters = [] := by
    intro space
    cases via.mParameters <;> simp [knownText]
  have hunknown : (via.mUnknownParameters.flatMap fun u => 59 :: u.encode) = [] ↔ via.mUnknownParameters = [] := by
    cases via.mUnknownParameters <;> simp
  rw [afterHostText, encodeParameters_eq, Ne, List.append_eq_nil_iff, List.append_eq_nil_iff,
    List.append_eq_nil_iff, hhost, hport, hknown, hunknown]
  tauto

theorem lands_parse (hinet : V6Texts inet) (hbranch : BranchReads parseBranch encodeBranch read)
    (hread : via.Read inet read) (hback : via.ReadsBack) (hrest : Rest v p (via.encodeParsed encodeBranch)) :
    Lands v (parse inet parseBranch) p v.mEnd via := by
  obtain ⟨q, hparameters, hcontinues⟩ := continues_parse hinet hread (something_iff.mpr hback.something) hrest
  rw [encodeParameters_eq] at hparameters
  have hloop : LoopLands parseBranch v q { via with mParameters := [], mUnknownParameters := [] } via :=
    loopLands_known hbranch white_msgrSpace hread.known hback.closed hread.unknown hparameters
  exact hcontinues.lands (lands_untilEof (hloop _ le_rfl))

/-! ### What is not read back -/

theorem returns_loop_extends (hbranch : BranchReads parseBranch encodeBranch read) (n : ℕ) :
    Returns v (whileNotEof (parseParametersTurn parseBranch) n via) p
      fun via' _ => via.mParameters <+: via'.mParameters := by
  have hkept : KeptByAppending read fun via' => via.mParameters <+: via'.mParameters :=
    ⟨fun via' q h _ => h.trans (List.prefix_append _ _), fun via' u h _ => h⟩
  exact returns_whileNotEof (fun _ _ h => returns_parseParametersTurn (hbranch.returns v) hkept h)
    List.prefix_rfl n

/-- What is read between quotes can be read between quotes. -/
theorem returns_parseParameter_sigcompId {mValue : Bytes}
    (hholds : v.Holds p (61 :: encodeValue mValue true))
    (hend : AtParameter v (p + (61 :: encodeValue mValue true).length)) :
    Returns v (parseParameter parseBranch (ParameterType.data .sigcompId).getName via) p fun via' _ =>
      ∃ text, quotable text = true ∧ via' = via.withParameters [.data .sigcompId text true] [] := by
  have hfit := hend.le
  have hlength : p + ((61 :: encodeValue mValue true).length : ℤ) = p + 1 + 1 + mValue.length + 1 := by
    simp only [encodeValue, if_pos, List.length_append, List.length_cons, List.length_nil]
    push_cast
    ring
  have hquote : v.memory (p + 1) = 34 := hholds.2.1
  have hdata : Returns v dataParameter p fun value _ => ∃ text, value = .data text true ∧ quotable text = true := by
    refine (lands_skipNone (by omega) (.inr (by rw [hholds.1]; rfl))).returns ?_
    refine (lands_skipCharIs (by omega) hholds.1).returns ?_
    refine (lands_skipNone (by omega) (.inr (by rw [hquote]; rfl))).returns ?_
    refine (lands_current (by omega)).returns (Returns.ite (fun _ => Returns.fail_bind _) fun _ => ?_)
    exact returns_parseValue_quote hquote
  unfold parseParameter
  rw [ParameterType.getType_getName]
  have hcreate : Returns v (createParam parseBranch (.data .sigcompId)) p fun q _ =>
      ∃ text, quotable text = true ∧ q = .data .sigcompId text true := by
    have hquoted : Returns v quotedDataParameter p fun value _ =>
        ∃ text, value = .data text true ∧ quotable text = true := by
      refine hdata.bind fun value q hvalue => ?_
      obtain ⟨text, rfl, htext⟩ := hvalue
      exact Returns.pure ⟨text, rfl, htext⟩
    refine hquoted.bind fun value q hvalue => ?_
    obtain ⟨text, rfl, htext⟩ := hvalue
    exact Returns.pure ⟨text, htext, rfl⟩
  refine hcreate.bind fun q r hq => ?_
  obtain ⟨text, htext, rfl⟩ := hq
  exact Returns.pure ⟨text, htext, by rw [withParameters, List.append_nil]⟩

theorem not_closed {q : Parameter β} (hread : q.Read read) (hclosed : ¬ q.Closed) :
    ∃ mValue, q = .data .sigcompId mValue true ∧ quotable mValue = false := by
  cases q with
  | data type mValue mQuoted =>
    cases type with
    | sigcompId =>
      cases (show mQuoted = true from hread)
      exact ⟨mValue, rfl, by simpa [Parameter.Closed] using hclosed⟩
    | _ => exact absurd trivial hclosed
  | _ => exact absurd trivial hclosed

/-- If all parameters are read back, the values of `sigcomp-id` can be put into quotes. -/
theorem returns_loop_closed (hbranch : BranchReads parseBranch encodeBranch read) {space : Bytes}
    (hspace : ∀ c ∈ space, isWhitespace c = true) {qs : List (Parameter β)} {us : List Uri.UnknownParameter}
    (hread : ∀ q ∈ qs, q.Read read)
    (hrest : Rest v p (knownText encodeBranch space qs ++ us.flatMap fun u => 59 :: u.encode)) {n : ℕ}
    (hn : (v.mEnd - p).toNat ≤ n) : Returns v (whileNotEof (parseParametersTurn parseBranch) n via) p
      fun via' _ => via'.mParameters = via.mParameters ++ qs → ∀ q ∈ qs, q.Closed := by
  induction qs generalizing p via space n with
  | nil => exact (returns_loop_extends hbranch n).weaken fun _ _ _ _ => nofun
  | cons q qs ih =>
    have hq := hread q List.mem_cons_self
    rw [knownText, Parameter.encode_eq, ← List.append_assoc (59 :: space), List.append_assoc _ _ (us.flatMap _),
      ← knownText_nil] at hrest
    obtain ⟨r, hlt, hbuff, hholds, hend, hafter, hturn⟩ := continues_parameter hrest head_knownText hspace
      q.getType.getName_ne_nil q.getType.getName_free (head_encodeTail hbranch hq) parseBranch via
    have hfit := hend.le
    obtain ⟨n, rfl⟩ : ∃ m, n = m + 1 := ⟨n - 1, by omega⟩
    refine Returns.get fun _ => Returns.ite (fun heof => ?_) fun _ => ?_
    · simp only [eof_at, decide_eq_true_eq] at heof
      omega
    by_cases hclosed : q.Closed
    · have hlands : Lands v (parseParameter parseBranch q.getType.getName via) r _ (via.withParameters [q] []) :=
        lands_parseParameter_known hbranch hq hclosed hbuff hholds hend
      refine (hturn.lands (hlands.bind (Lands.pure _))).returns ?_
      refine (ih white_nil (fun q hq => hread q (List.mem_cons_of_mem _ hq)) hafter (by omega)).weaken ?_
      intro via' s hrest heq q' hq'
      rcases List.mem_cons.mp hq' with rfl | hq'
      · exact hclosed
      · refine hrest ?_ q' hq'
        rw [heq, withParameters, List.append_assoc, List.singleton_append]
    · obtain ⟨mValue, rfl, hvalue⟩ := not_closed hq hclosed
      have hbody : Returns v (parseParametersTurn parseBranch via) p fun turn _ => ∃ text,
          quotable text = true ∧ turn = ForInStep.yield (via.withParameters [.data .sigcompId text true] []) := by
        refine hturn.returns ((returns_parseParameter_sigcompId hholds hend).bind fun via₁ s h => Returns.pure ?_)
        obtain ⟨text, htext, rfl⟩ := h
        exact ⟨text, htext, rfl⟩
      refine hbody.bind fun turn s hturn => ?_
      obtain ⟨text, htext, rfl⟩ := hturn
      have hextends : Returns v (whileNotEof (parseParametersTurn parseBranch) n
          (via.withParameters [.data .sigcompId text true] [])) s _ := returns_loop_extends hbranch n
      refine hextends.weaken fun via' s hprefix heq => ?_
      rw [heq, withParameters] at hprefix
      obtain ⟨hhead, -⟩ := List.cons_prefix_cons.mp ((List.prefix_append_right_inj _).mp hprefix)
      cases hhead
      rw [htext] at hvalue
      cases hvalue

/-- Without host, port and parameters nothing is after the space. -/
theorem throws_parse_nothing (hread : via.Read inet read)
    (hnil : hostText via.mSentHost ++ afterHostText encodeBranch via = [])
    (hrest : Rest v p (via.encodeParsed encodeBranch)) : Throws v (parse inet parseBranch) p := by
  rw [encodeParsed_eq, hnil] at hrest
  have hversion := hrest.append.tail
  have htransport := hversion.append.tail
  have hhost := htransport.append
  have hends := hhost.tail.ends
  rw [List.length_nil, Nat.cast_zero, add_zero] at hends
  refine (lands_parseProtocolPart hread.name hrest).throws ?_
  refine (lands_parseProtocolPart hread.version hversion).throws ?_
  refine (lands_parseTransport hread.transport_ne hread.transport htransport).throws ?_
  refine Throws.bind _ ?_
  have hskip : ∀ q, Rest v q [32] → Lands v skipWhitespace q v.mEnd () := by
    intro q hq
    have hrun : Lands v skipWhitespace q (q + ([(32 : UInt8)].length : ℤ)) () := lands_skipWhile hq.holds
      (fun c hc => by rw [List.mem_singleton.mp hc]; rfl) (le_of_eq hq.ends) (.inl hq.ends)
    rwa [hq.ends] at hrun
  exact (hskip _ hhost).throws (lands_position.throws (Throws.bind _ (throws_assertNotEof le_rfl)))

/-! ### The round trip -/

/-- A buffer over a text. -/
def viewOf (text : Bytes) : View := ⟨(ofText text).memory, 0, text.length⟩

theorem rest_viewOf (text : Bytes) : Rest (viewOf text) 0 text := by
  refine ⟨le_rfl, ?_, zero_add _⟩
  have hget : ∀ rest k, text.drop k = rest → (viewOf text).Holds k rest := by
    intro rest
    induction rest with
    | nil => exact fun _ _ => trivial
    | cons c rest ih =>
      intro k hk
      have hc : text[k]? = some c := by
        rw [← List.head?_drop, hk, List.head?_cons]
      refine ⟨?_, ?_⟩
      · simp [viewOf, ofText, List.getD_eq_getElem?_getD, hc]
      · have htail := congrArg List.tail hk
        rw [List.tail_drop, List.tail_cons] at htail
        exact_mod_cast ih (k + 1) htail
  exact hget text 0 rfl

/-- What `parse` makes of a text that it accepts. -/
def parsed (inet : Inet) (parseBranch : Parse β) (text : Bytes) : Option (Via β) :=
  match parse inet parseBranch (ofText text) with
  | .ok via _ => some via
  | .error _ _ => none

theorem parsed_eq_some : parsed inet parseBranch text = some via ↔
    ∃ pb, parse inet parseBranch (ofText text) = .ok via pb := by
  unfold parsed
  cases parse inet parseBranch (ofText text) with
  | ok via' pb => simp
  | error msg pb => simp

/-- A header that has been parsed is written and parsed again exactly when something is after the transport
and every `sigcomp-id` can be put into quotes. -/
theorem parse_encodeParsed_iff (hinet : V6Texts inet) (hbranch : BranchReads parseBranch encodeBranch read)
    (hparsed : parsed inet parseBranch text = some via) :
    parsed inet parseBranch (via.encodeParsed encodeBranch) = some via ↔ via.ReadsBack := by
  have hread : via.Read inet read := by
    obtain ⟨pb, hrun⟩ := parsed_eq_some.mp hparsed
    obtain ⟨-, -, -, hread⟩ := returns_parse inet (hbranch.returns (viewOf text)) [] via pb hrun
    exact hread
  have hrest := rest_viewOf (via.encodeParsed encodeBranch)
  rw [parsed_eq_some]
  constructor
  · rintro ⟨pb, hrun⟩
    have hsomething : hostText via.mSentHost ++ afterHostText encodeBranch via ≠ [] := by
      intro hnil
      have hthrows : Throws _ (parse inet parseBranch) 0 := throws_parse_nothing hread hnil hrest
      obtain ⟨msg, pb', hthrow⟩ := hthrows []
      exact absurd (hthrow.symm.trans hrun) nofun
    obtain ⟨q, hparameters, hcontinues⟩ := continues_parse hinet hread hsomething hrest
    rw [encodeParameters_eq] at hparameters
    have hclosed := hcontinues.returns (Returns.get fun _ =>
      returns_loop_closed hbranch white_msgrSpace hread.known hparameters le_rfl)
    obtain ⟨-, -, -, hall⟩ := hclosed [] via pb hrun
    exact ⟨something_iff.mp hsomething, hall rfl⟩
  · intro hback
    obtain ⟨reads, hrun⟩ := lands_parse hinet hbranch hread hback hrest []
    exact ⟨_, hrun⟩

/-! A branch as `BranchParameter` reads it when it has no magic cookie. -/

/-- The text of the branch. -/
def textBranch : Parse Bytes := do
  skipWhitespace
  skipCharIs 61
  skipWhitespace
  let start ← position
  skipToOneOf terminators1
  data start

def encodeTextBranch (b : Bytes) : Bytes := 61 :: b

theorem textBranch_reads : BranchReads textBranch encodeTextBranch fun b => ∀ c ∈ b, oneOf terminators1 c = false where
  returns v p := by
    refine returns_skipWhile fun _ _ => returns_skipCharIs fun _ _ => returns_skipWhile fun _ _ => ?_
    refine returns_position (returns_skipWhile fun run hrun => returns_data hrun.holds rfl fun c hc => ?_)
    simpa using hrun.all c hc
  starts b _ := rfl
  lands b hb v p hbuff hholds hend := by
    have hlength : p + ((encodeTextBranch b).length : ℤ) = p + 1 + b.length := by
      simp only [encodeTextBranch, List.length_cons]
      push_cast
      ring
    rw [hlength] at hend ⊢
    have hfit := hend.le
    have hwhite : p + 1 = v.mEnd ∨ isWhitespace (v.memory (p + 1)) = false := by
      cases b with
      | nil =>
        simp only [List.length_nil, Nat.cast_zero, add_zero] at hend
        exact hend.stop (by decide)
      | cons c b =>
        rw [hholds.2.1]
        exact .inr (isWhitespace_eq_false (hb c List.mem_cons_self) white_terminators1)
    refine (lands_skipNone (by omega) (.inr (by rw [hholds.1]; rfl))).bind ?_
    refine (lands_skipCharIs (by omega) hholds.1).bind ((lands_skipNone (by omega) hwhite).bind (lands_position.bind ?_))
    refine (lands_skipWhile hholds.2 (fun c hc => by rw [hb c hc]; rfl) hfit (hend.stop (by decide))).bind ?_
    exact lands_data (by omega) hholds.2 rfl

/-- `SIP/2.0/UDP h:5070;branch=77;rport;x="a b"` -/
def quotedVia : Via Bytes where
  mProtocolName := literal "SIP"
  mProtocolVersion := literal "2.0"
  mTransport := literal "UDP"
  mSentHost := literal "h"
  mSentPort := 5070
  mParameters := [.branch (literal "77"), .rport 0 false]
  mUnknownParameters := [⟨literal "x", literal "a b", true⟩]

theorem parse_encodeParsed_quotedVia :
    parsed .noAddresses textBranch (quotedVia.encodeParsed encodeTextBranch) = some quotedVia ↔
      quotedVia.ReadsBack :=
  have hparsed : parsed .noAddresses textBranch
      (literal "SIP / 2.0/UDP h:5070 ;branch=77;x = \"a b\";rport") = some quotedVia := by decide +kernel
  parse_encodeParsed_iff (fun _ _ => nofun) textBranch_reads hparsed

/-- The quotes that are added end at the quote inside of the value. -/
theorem not_parse_encodeParsed : ∃ via : Via Bytes,
    parsed .noAddresses textBranch (literal "SIP/2.0/UDP h;sigcomp-id=a\"b") = some via ∧
      parsed .noAddresses textBranch (via.encodeParsed encodeTextBranch) ≠ some via :=
  ⟨⟨literal "SIP", literal "2.0", literal "UDP", literal "h", 0, [.data .sigcompId (literal "a\"b") true], []⟩,
    by decide +kernel, by decide +kernel⟩

end Via
end Resiprocate.Stack
