import Resiprocate.DataOrder

/-! Parameters of a header value that are named by a text. They are looked up without regard to case, and
removed where the name is the same. -/
namespace Resiprocate.Stack
open Rutil
open Uri (UnknownParameter)

/-- The constructor refuses an empty name. -/
structure ExtensionParameter where
  mName : Bytes
  nonempty : mName ≠ []

namespace ParserCategory

/-- `mUnknownParameters` of a header value that has been parsed. -/
abbrev UnknownParameters := List UnknownParameter

def getParameterByData (params : UnknownParameters) (data : Bytes) : Option UnknownParameter :=
  params.find? fun p => isEqualNoCase p.mName data

/-- Remove all instances. -/
def removeParameterByData (params : UnknownParameters) (data : Bytes) : UnknownParameters :=
  params.filter fun p => p.mName != data

/-- `exists(const ExtensionParameter&)`. -/
def existsExtension (params : UnknownParameters) (param : ExtensionParameter) : Bool :=
  (getParameterByData params param.mName).isSome

/-- `param(const ExtensionParameter&) const`; `none` is the exception. -/
def extension (params : UnknownParameters) (param : ExtensionParameter) : Option Bytes :=
  (getParameterByData params param.mName).map UnknownParameter.mValue

def removeExtension (params : UnknownParameters) (param : ExtensionParameter) : UnknownParameters :=
  removeParameterByData params param.mName

/-- A value is written through the reference to the parameter that is found. -/
def writeValue (data value : Bytes) : UnknownParameters → UnknownParameters
  | [] => []
  | p :: params =>
    if isEqualNoCase p.mName data then { p with mValue := value } :: params
    else p :: writeValue data value params

/-- `param(const ExtensionParameter&) = value`. A parameter that is not there is added. -/
def setExtension (params : UnknownParameters) (param : ExtensionParameter) (value : Bytes) :
    UnknownParameters :=
  match getParameterByData params param.mName with
  | none => writeValue param.mName value (params ++ [⟨param.mName, [], false⟩])
  | some _ => writeValue param.mName value params

variable {params : UnknownParameters} {param : ExtensionParameter} {value : Bytes}

/-- A parameter of the name is there after the removal if one of another spelling was there. -/
theorem existsExtension_remove : existsExtension (removeExtension params param) param = false ↔
    ∀ p ∈ params, isEqualNoCase p.mName param.mName = true → p.mName = param.mName := by
  have hnone : existsExtension (removeExtension params param) param = false ↔
      ∀ p ∈ removeExtension params param, ¬isEqualNoCase p.mName param.mName = true := by
    rw [existsExtension, Option.isSome_eq_false_iff, Option.isNone_iff_eq_none, getParameterByData,
      List.find?_eq_none]
  rw [hnone]
  constructor
  · intro h p hp hsame
    by_contra hne
    exact h p (List.mem_filter.mpr ⟨hp, bne_iff_ne.mpr hne⟩) hsame
  · intro h p hp hsame
    obtain ⟨hmem, hne⟩ := List.mem_filter.mp hp
    exact bne_iff_ne.mp hne (h p hmem hsame)

/-- The parameters whose names differ otherwise than in case stay, in their order. -/
theorem removeExtension_others :
    (removeExtension params param).filter (fun p => p.mName.map toLower != param.mName.map toLower) =
      params.filter fun p => p.mName.map toLower != param.mName.map toLower := by
  rw [removeExtension, removeParameterByData, List.filter_filter]
  refine List.filter_congr fun p _ => ?_
  by_cases hname : p.mName = param.mName
  · simp [hname]
  · simp [hname]

theorem getParameterByData_writeValue {data : Bytes} {q : UnknownParameter}
    (h : getParameterByData params data = some q) :
    getParameterByData (writeValue data value params) data = some { q with mValue := value } := by
  induction params with
  | nil => cases h
  | cons p params ih =>
    unfold getParameterByData at h ih ⊢
    rw [List.find?_cons] at h
    by_cases hp : isEqualNoCase p.mName data = true
    · simp only [hp, Option.some.injEq] at h
      subst h
      simp [writeValue, hp]
    · simp only [hp] at h
      simp only [writeValue, hp, Bool.false_eq_true, if_false, List.find?_cons]
      exact ih h

/-- A value that is set is there. -/
theorem extension_setExtension :
    existsExtension (setExtension params param value) param = true ∧
      extension (setExtension params param value) param = some value := by
  obtain ⟨q, hq⟩ : ∃ q, getParameterByData (setExtension params param value) param.mName = some q ∧
      q.mValue = value := by
    unfold setExtension
    split
    next hnone =>
      have hadded : getParameterByData (params ++ [⟨param.mName, [], false⟩]) param.mName =
          some ⟨param.mName, [], false⟩ := by
        unfold getParameterByData at hnone ⊢
        simp [hnone]
      exact ⟨_, getParameterByData_writeValue hadded, rfl⟩
    next q hsome => exact ⟨_, getParameterByData_writeValue hsome, rfl⟩
  rw [existsExtension, extension, hq.1]
  exact ⟨rfl, congrArg some hq.2⟩

/-- Removing and setting are those of a map exactly if every parameter that has the name but for case
has it in the same spelling. -/
theorem extension_parameters (params : UnknownParameters) (param : ExtensionParameter) (value : Bytes) :
    (existsExtension (removeExtension params param) param = false ∧
      (removeExtension params param).filter (fun p => p.mName.map toLower != param.mName.map toLower) =
        params.filter (fun p => p.mName.map toLower != param.mName.map toLower) ∧
      existsExtension (setExtension params param value) param = true ∧
      extension (setExtension params param value) param = some value) ↔
    ∀ p ∈ params, isEqualNoCase p.mName param.mName = true → p.mName = param.mName := by
  rw [existsExtension_remove]
  exact and_iff_left ⟨removeExtension_others, extension_setExtension⟩

/-- `Foo` is still there after the removal of `foo`. -/
theorem not_extension_parameters :
    existsExtension (removeExtension [⟨literal "Foo", literal "1", false⟩] ⟨literal "foo", by decide⟩)
      ⟨literal "foo", by decide⟩ = true := by
  decide

end ParserCategory
end Resiprocate.Stack
