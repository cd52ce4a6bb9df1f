import PresetPipeline.Settings.Document

/-!
# Checks of raw settings

What is wrong with settings as they are written, field by field.

* `faultOf` — the error of a result. `faultOf_bind`: of steps in a row it is the first.
* `CheckedField` — the fields whose values are checked, and the order of the flags among them.
* `OverrideFlags.fault?` — what is wrong with one flag, whatever the others are.
* `OverrideFlags.faultOf_overrides` — the flags are refused for the first of them that is wrong.
-/

set_option autoImplicit false

namespace PresetPipeline

section Except

variable {ε ε' α β : Type}

/-- The error of a result, if it is one. -/
def faultOf : Except ε α → Option ε
  | .ok _ => none
  | .error e => some e

@[simp] theorem faultOf_ok (a : α) : faultOf (.ok a : Except ε α) = none := rfl

@[simp] theorem faultOf_error (e : ε) : faultOf (.error e : Except ε α) = some e := rfl

@[simp] theorem faultOf_map (x : Except ε α) (f : α → β) : faultOf (x.map f) = faultOf x := by
  cases x <;> rfl

theorem mapError_ok (a : α) (f : ε → ε') : (.ok a : Except ε α).mapError f = .ok a := rfl

theorem faultOf_eq_none_iff {x : Except ε α} : faultOf x = none ↔ ∃ a, x = .ok a := by
  cases x <;> simp

theorem faultOf_eq_some_iff {x : Except ε α} {e : ε} : faultOf x = some e ↔ x = .error e := by
  cases x <;> simp

/-- Of two steps in a row the first error counts. -/
theorem faultOf_bind {x : Except ε α} {f : α → Except ε β} {rest : Option ε}
    (h : ∀ a, x = .ok a → faultOf (f a) = rest) : faultOf (x.bind f) = (faultOf x).or rest := by
  cases x with
  | error e => rfl
  | ok a => exact h a rfl

/-- Of two steps in a row both have a result, if the last one has. -/
theorem bind_eq_ok_iff {x : Except ε α} {f : α → Except ε β} {b : β} :
    (x >>= f) = .ok b ↔ ∃ a, x = .ok a ∧ f a = .ok b := by
  constructor
  · intro h
    cases x with
    | error e => cases h
    | ok a => exact ⟨a, rfl, h⟩
  · rintro ⟨a, rfl, h⟩
    exact h

theorem findSome?_cons_or (f : α → Option β) (a : α) (l : List α) :
    (a :: l).findSome? f = (f a).or (l.findSome? f) := by
  rw [List.findSome?_cons]
  cases f a <;> rfl

end Except

/-! ## Flags -/

/-- The fields whose values are checked. -/
inductive CheckedField where
  | layoutMethod
  | routingMethod
  | translationMethod
  | schedulingMethod
  | synthesisMethod
  | initialLayout
  | degree
  deriving DecidableEq, Repr

/-- The order in which the flags of a command line are checked. -/
def CheckedField.flagOrder : List CheckedField :=
  [layoutMethod, routingMethod, translationMethod, schedulingMethod, synthesisMethod, initialLayout,
    degree]

/-- A value that is absent is never wrong. -/
theorem faultOf_checkOption {α β : Type} (check : α → Except CompileError β) (o : Option α) :
    faultOf (checkOption check o) = o.bind fun a => faultOf (check a) := by
  cases o with
  | none => rfl
  | some a => exact faultOf_map _ _

/-- What is wrong with one of the flags. -/
def OverrideFlags.fault? (f : OverrideFlags) : CheckedField → Option CompileError
  | .layoutMethod => f.layoutMethod.bind fun name => faultOf (checkMethod LayoutMethod.parse name)
  | .routingMethod => f.routingMethod.bind fun name => faultOf (checkMethod RoutingMethod.parse name)
  | .translationMethod =>
    f.translationMethod.bind fun name => faultOf (checkMethod TranslationMethod.parse name)
  | .schedulingMethod =>
    f.schedulingMethod.bind fun name => faultOf (checkMethod SchedulingMethod.parse name)
  | .synthesisMethod =>
    f.synthesisMethod.bind fun name => faultOf (checkMethod SynthesisMethod.parse name)
  | .initialLayout => f.initialLayout.bind fun physical => faultOf (checkPhysical physical)
  | .degree => f.degree.bind fun x => faultOf (checkDegree x)

/-- The flags are refused for the first of them that is wrong. -/
theorem OverrideFlags.faultOf_overrides (f : OverrideFlags) :
    faultOf f.overrides = CheckedField.flagOrder.findSome? f.fault? := by
  simp only [CheckedField.flagOrder, findSome?_cons_or, List.findSome?_nil, OverrideFlags.fault?,
    ← faultOf_checkOption]
  unfold OverrideFlags.overrides
  refine faultOf_bind fun layoutMethod _ => ?_
  refine faultOf_bind fun routingMethod _ => ?_
  refine faultOf_bind fun translationMethod _ => ?_
  refine faultOf_bind fun schedulingMethod _ => ?_
  refine faultOf_bind fun synthesisMethod _ => ?_
  refine faultOf_bind fun initialLayout _ => ?_
  exact faultOf_bind fun degree _ => rfl

end PresetPipeline
