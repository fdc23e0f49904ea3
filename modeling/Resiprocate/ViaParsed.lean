import Resiprocate.ParseReturns
import Resiprocate.UriCanonicalHost
import Resiprocate.Via

/-! What is known of a `Via` that has been parsed. -/
namespace Resiprocate.Stack
open Rutil Rutil.ParseBuffer DnsUtil
open Uri (UnknownParameter dataOf uInt32Parameter)

namespace ParserCategory

/-- A value that is read back without quotes. -/
structure Plain (value : Bytes) : Prop where
  free : ∀ c ∈ value, oneOf terminators2 c = false
  unquoted : value.head? ≠ some 34

/-- Values that `parseValue` returns. -/
def ValueRead : ParameterValue → Prop
  | .data value true => quotable value = true
  | .data value false => Plain value
  | _ => False

/-- Values of a `DataParameter`. -/
def DataRead (value : ParameterValue) : Prop := ValueRead value ∧ value ≠ .data [] false

variable {v : View} {p : ℤ}

/-- In front of a quote there is only a value in quotes. -/
theorem returns_parseValue_quote (hquote : v.memory p = 34) :
    Returns v parseValue p fun value _ => ∃ text, value = .data text true ∧ quotable text = true := by
  refine returns_current fun _ => Returns.ite (fun _ => ?_) fun hne => absurd hquote hne
  refine returns_skipChar fun _ => returns_position (returns_skipToEndQuote.bind fun _ q hq => ?_)
  obtain ⟨text, hholds, hq, htext, -, -⟩ := hq
  refine (returns_data (Q := fun value _ => value = text) hholds hq rfl).bind fun value r hvalue => ?_
  subst hvalue
  exact returns_skipChar fun _ => Returns.pure ⟨value, rfl, htext⟩

theorem returns_parseValue : Returns v parseValue p fun value _ =>
    ValueRead value ∧ (oneOf terminators2 (v.memory p) = false → value ≠ .data [] false) := by
  by_cases hquote : v.memory p = 34
  · refine (returns_parseValue_quote hquote).weaken fun value _ hvalue => ?_
    obtain ⟨text, rfl, htext⟩ := hvalue
    exact ⟨htext, fun _ => nofun⟩
  refine returns_current fun hlt => Returns.ite (fun h => absurd h hquote) fun _ => ?_
  refine returns_position (returns_skipWhile fun run hrun => ?_)
  refine (returns_data (Q := fun value _ => value = run) hrun.holds rfl rfl).bind fun value r hvalue => ?_
  subst hvalue
  refine Returns.pure ⟨⟨fun c hc => by simpa using hrun.all c hc, ?_⟩, fun hfree hnil => ?_⟩
  · rcases eq_or_ne value [] with rfl | hne
    · exact nofun
    · rw [hrun.head? hne]
      exact fun h => hquote (Option.some.inj h)
  · exact hrun.ne_nil hlt (by simp [hfree]) (ParameterValue.data.inj hnil).1

theorem returns_dataParameter : Returns v dataParameter p fun value _ => DataRead value := by
  refine returns_skipWhile fun _ _ => returns_skipCharIs fun _ _ => returns_skipWhile fun _ _ => ?_
  refine returns_current fun _ => Returns.ite (fun _ => Returns.fail_bind _) fun hfree => ?_
  exact returns_parseValue.weaken fun value _ h => ⟨h.1, h.2 (by simpa using hfree)⟩

theorem returns_quotedDataParameter :
    Returns v quotedDataParameter p fun value _ => ∃ text, value = .data text true := by
  refine returns_dataParameter.bind fun value q hvalue => ?_
  cases value with
  | data text isQuoted => exact Returns.pure ⟨text, rfl⟩
  | flag => exact absurd hvalue.1 id
  | qvalue => exact absurd hvalue.1 id

theorem returns_unknownParameter :
    Returns v unknownParameter p fun value _ => value = .flag ∨ ValueRead value := by
  refine returns_skipWhile fun _ _ => returns_looksAt (fun _ _ => ?_) fun _ => Returns.pure (.inl rfl)
  refine returns_skipCharIs fun _ _ => returns_skipWhile fun _ _ => ?_
  exact returns_parseValue.weaken fun value _ h => .inr h.1

end ParserCategory

namespace Via
open ParserCategory
variable {β : Type} {v : View} {p : ℤ} {read : β → Prop} {parseBranch : Parse β}

/-- What is known of a parameter that has been read. The quotes of a `sigcomp-id` may have been added. -/
def Parameter.Read (read : β → Prop) : Parameter β → Prop
  | data .sigcompId _ mQuoted => mQuoted = true
  | data _ mValue mQuoted => DataRead (.data mValue mQuoted)
  | ttl _ => True
  | rport mValue mHasValue => mHasValue = false → mValue = 0
  | branch b => read b

structure UnknownRead (u : UnknownParameter) : Prop where
  name_ne : u.mName ≠ []
  name_free : ∀ c ∈ u.mName, oneOf terminators1 c = false
  unknown : ParameterType.getType u.mName = none
  value : ValueRead (.data u.mValue u.mIsQuoted)

/-- A host in brackets, which are not part of it, or one up to a delimiter. -/
inductive HostRead (inet : Inet) (mSentHost : Bytes) : Prop
  | bracketed (hfree : ∀ c ∈ mSentHost, c ≠ 93) (hv6 : canonicalizeIpV6Address inet mSentHost ≠ [])
  | plain (hfree : ∀ c ∈ mSentHost, oneOf (literal ";: \t\r\n") c = false) (hhead : mSentHost.head? ≠ some 91)

structure Read (inet : Inet) (read : β → Prop) (via : Via β) : Prop where
  known : ∀ q ∈ via.mParameters, q.Read read
  unknown : ∀ u ∈ via.mUnknownParameters, UnknownRead u
  name : ∀ c ∈ via.mProtocolName, oneOf wos c = false
  version : ∀ c ∈ via.mProtocolVersion, oneOf wos c = false
  transport_ne : via.mTransport ≠ []
  transport : ∀ c ∈ via.mTransport, isWhitespace c = false
  host : HostRead inet via.mSentHost

theorem returns_rportParameter :
    Returns v (rportParameter : Parse (Parameter β)) p fun q _ => q.Read read := by
  refine returns_skipWhile fun _ _ => returns_looksAt (fun _ _ => ?_) fun _ => Returns.pure fun _ => rfl
  refine returns_skipChar fun _ => returns_skipWhile fun run _ => ?_
  refine returns_tryCatch ?_ ?_ fun msg q => Returns.pure fun _ => rfl
  · exact ProgramLogic.Leaves.bind Stays.integer fun _ => Stays.pure _
  · exact Stays.integer.returns.bind fun _ _ _ => Returns.pure nofun

theorem returns_uInt32Parameter : Returns v uInt32Parameter p fun _ _ => True := by
  refine returns_skipWhile fun _ _ => returns_skipCharIs fun _ _ => returns_skipWhile fun _ _ => ?_
  exact (ends_uInt32 (digitRun_spec v _ [])).returns

theorem returns_createParam (hbranch : ∀ p, Returns v parseBranch p fun b _ => read b) (type : ParameterType) :
    Returns v (createParam parseBranch type) p fun q _ => q.Read read := by
  have hdata : ∀ type ≠ DataParameterType.sigcompId, Returns v (do
      let value ← dataParameter
      return Parameter.data type (dataOf value).1 (dataOf value).2 : Parse (Parameter β)) p
        fun q _ => q.Read read := by
    intro type htype
    refine returns_dataParameter.bind fun value q hvalue => ?_
    cases value with
    | data text isQuoted =>
      cases type with
      | sigcompId => exact absurd rfl htype
      | _ => exact Returns.pure hvalue
    | flag => exact absurd hvalue.1 id
    | qvalue => exact absurd hvalue.1 id
  cases type with
  | data type =>
    cases type with
    | sigcompId =>
      refine returns_quotedDataParameter.bind fun value q hvalue => ?_
      obtain ⟨text, rfl⟩ := hvalue
      exact Returns.pure rfl
    | _ => exact hdata _ (by simp)
  | ttl => exact returns_uInt32Parameter.bind fun _ _ _ => Returns.pure trivial
  | rport => exact returns_rportParameter
  | branch => exact (hbranch p).bind fun b q hb => Returns.pure hb

/-- What is kept when parameters that have been read are appended. -/
structure KeptByAppending (read : β → Prop) (I : Via β → Prop) : Prop where
  known : ∀ via q, I via → q.Read read → I { via with mParameters := via.mParameters ++ [q] }
  unknown : ∀ via u, I via → UnknownRead u →
    I { via with mUnknownParameters := via.mUnknownParameters ++ [u] }

variable {I : Via β → Prop}

theorem returns_parseParameter (hbranch : ∀ p, Returns v parseBranch p fun b _ => read b) (hkept : KeptByAppending read I) {key : Bytes}
    (hne : key ≠ []) (hkey : ∀ c ∈ key, oneOf terminators1 c = false) {via : Via β} (hvia : I via) :
    Returns v (parseParameter parseBranch key via) p fun via' _ => I via' := by
  unfold parseParameter
  cases htype : ParameterType.getType key with
  | some type =>
    exact (returns_createParam hbranch type).bind fun q _ hq => Returns.pure (hkept.known _ _ hvia hq)
  | none =>
    refine returns_unknownParameter.bind fun value q hvalue => ?_
    rcases hvalue with rfl | hvalue
    · exact Returns.pure (hkept.unknown _ _ hvia ⟨hne, hkey, htype, nofun, nofun⟩)
    · cases value with
      | data text isQuoted => exact Returns.pure (hkept.unknown _ _ hvia ⟨hne, hkey, htype, hvalue⟩)
      | flag => exact absurd hvalue id
      | qvalue => exact absurd hvalue id

/-- Whatever a turn of the loop makes is kept. -/
def TurnKeeps (I : Via β → Prop) (r : ForInStep (Via β)) : Prop :=
  ∀ via, r = .yield via ∨ r = .done via → I via

theorem turnKeeps_yield {via : Via β} (h : I via) : TurnKeeps I (.yield via) := by
  rintro via' (he | he)
  · cases he
    exact h
  · cases he

theorem turnKeeps_done {via : Via β} (h : I via) : TurnKeeps I (.done via) := by
  rintro via' (he | he)
  · cases he
  · cases he
    exact h

theorem returns_parseParametersTurn (hbranch : ∀ p, Returns v parseBranch p fun b _ => read b) (hkept : KeptByAppending read I) {via : Via β}
    (hvia : I via) :
    Returns v (parseParametersTurn parseBranch via) p fun r _ => TurnKeeps I r := by
  refine returns_position (returns_skipWhile fun _ _ => returns_looksAt (fun _ _ => ?_) fun _ => ?_)
  · refine returns_skipChar fun _ => returns_skipWhile fun _ _ => returns_position (returns_skipWhile fun key hkey => ?_)
    refine (returns_data (Q := fun text _ => text = key) hkey.holds rfl rfl).bind fun text q htext => ?_
    subst htext
    refine Returns.ite (fun _ => Returns.pure (turnKeeps_yield hvia)) fun hne => ?_
    have hfree : ∀ c ∈ text, oneOf terminators1 c = false := fun c hc => by simpa using hkey.all c hc
    exact (returns_parseParameter hbranch hkept hne hfree hvia).bind fun via' _ hvia' =>
      Returns.pure (turnKeeps_yield hvia')
  · exact (lands_reset _).returns (Returns.pure (turnKeeps_done hvia))

theorem returns_parseParameters (hbranch : ∀ p, Returns v parseBranch p fun b _ => read b) (hkept : KeptByAppending read I) {via : Via β}
    (hvia : I via) :
    Returns v (parseParameters parseBranch via) p fun via' _ => I via' :=
  returns_untilEof (fun _ _ hvia => returns_parseParametersTurn hbranch hkept hvia) hvia

theorem returns_parseProtocolPart :
    Returns v parseProtocolPart p fun part _ => ∀ c ∈ part, oneOf wos c = false := by
  refine returns_skipWhile fun _ _ => returns_position (returns_skipWhile fun run hrun => ?_)
  refine (returns_data (Q := fun text _ => text = run) hrun.holds rfl rfl).bind fun text q htext => ?_
  subst htext
  refine returns_skipWhile fun _ _ => returns_skipChar fun _ => Returns.pure fun c hc => ?_
  simpa using hrun.all c hc

theorem returns_parseTransport : Returns v parseTransport p fun transport _ =>
    transport ≠ [] ∧ ∀ c ∈ transport, isWhitespace c = false := by
  refine returns_skipWhile fun space hspace => returns_position ?_
  have hskip : ∀ k : Unit → Parse Bytes, (skipNonWhitespace >>= k) =
      (assertNotEof >>= fun _ => skipWhile (fun c => !isWhitespace c) >>= k) := fun _ => bind_assoc _ _ _
  rw [hskip]
  refine returns_assertNotEof fun hlt => returns_skipWhile fun run hrun => ?_
  refine returns_data hrun.holds rfl ⟨hrun.ne_nil hlt ?_, fun c hc => by simpa using hrun.all c hc⟩
  have hstop := hspace.stop.resolve_left (not_le.mpr hlt)
  simpa using hstop

theorem returns_parseSentHost (inet : Inet) :
    Returns v (parseSentHost inet) p fun host _ => HostRead inet host := by
  refine returns_skipWhile fun _ _ => returns_position (returns_assertNotEof fun hlt => ?_)
  refine (lands_readAt _).returns (Returns.ite (fun _ => ?_) fun hbracket => ?_)
  · refine returns_skipChar fun _ => returns_position (returns_skipWhile fun run hrun => ?_)
    refine (returns_data (Q := fun text _ => text = run) hrun.holds rfl rfl).bind fun text q htext => ?_
    subst htext
    refine Returns.ite (fun _ => Returns.fail_bind _) fun hv6 => ?_
    exact returns_skipChar fun _ => Returns.pure (.bracketed (fun c hc => by simpa using hrun.all c hc) hv6)
  · refine returns_skipWhile fun run hrun => returns_data hrun.holds rfl ?_
    refine .plain (fun c hc => by simpa using hrun.all c hc) ?_
    rcases eq_or_ne run [] with rfl | hne
    · exact nofun
    · rw [hrun.head? hne]
      exact fun h => hbracket (Option.some.inj h)

theorem returns_parseSentPort : Returns v parseSentPort p fun _ _ => True := by
  refine returns_skipWhile fun _ _ => returns_looksAt (fun _ _ => ?_) fun _ => Returns.pure trivial
  refine returns_skipCharIs fun _ _ => Stays.integer.returns.bind fun _ _ _ => ?_
  exact returns_skipWhile fun _ _ => Returns.pure trivial

/-- Whatever has been parsed, the values are of the kinds that are read back. -/
theorem returns_parse (inet : Inet) (hbranch : ∀ p, Returns v parseBranch p fun b _ => read b) :
    Returns v (parse inet parseBranch) p fun via _ => Read inet read via := by
  refine returns_parseProtocolPart.bind fun name _ hname => ?_
  refine returns_parseProtocolPart.bind fun version _ hversion => ?_
  refine returns_parseTransport.bind fun transport _ htransport => ?_
  refine (returns_parseSentHost inet).bind fun host _ hhost => ?_
  refine returns_parseSentPort.bind fun port _ _ => ?_
  refine returns_parseParameters hbranch ⟨fun via q hvia hq => ?_, fun via u hvia hu => ?_⟩
    ⟨nofun, nofun, hname, hversion, htransport.1, htransport.2, hhost⟩
  · refine { hvia with known := fun q' hq' => ?_ }
    obtain hq' | hq' := List.mem_append.mp hq'
    · exact hvia.known q' hq'
    · rw [List.mem_singleton.mp hq']
      exact hq
  · refine { hvia with unknown := fun u' hu' => ?_ }
    obtain hu' | hu' := List.mem_append.mp hu'
    · exact hvia.unknown u' hu'
    · rw [List.mem_singleton.mp hu']
      exact hu

end Via
end Resiprocate.Stack
