import PresetPipeline.Json.Value
import PresetPipeline.Pipeline.Level

/-!
# Pipelines

A pipeline lists the passes that compile a circuit, in stages. It describes a run and touches no
circuit.

* `Pass`, `Stage`, `Pipeline` — the three levels of the list.
* `Pass.withArg`, `Pass.guardedBy`, `Stage.repeatedUntil` — how they are put together.
* `Pipeline.passes`, `Pipeline.stage?`, `Pipeline.pass?` — views of a pipeline.
-/

set_option autoImplicit false

namespace PresetPipeline

/-- The part of compilation that a stage belongs to. -/
inductive StageKind where
  | init
  | layout
  | routing
  | translation
  | optimization
  | scheduling
  deriving DecidableEq, Repr

namespace StageKind

/-- Every kind, in the order of compilation. -/
def all : List StageKind := [init, layout, routing, translation, optimization, scheduling]

def name : StageKind → String
  | init => "init"
  | layout => "layout"
  | routing => "routing"
  | translation => "translation"
  | optimization => "optimization"
  | scheduling => "scheduling"

/-- The place of a kind in the order of compilation. -/
def rank : StageKind → Nat
  | init => 0
  | layout => 1
  | routing => 2
  | translation => 3
  | optimization => 4
  | scheduling => 5

end StageKind

inductive PassKind where
  /-- Reads the circuit and records properties. -/
  | analysis
  /-- Rewrites the circuit. -/
  | transformation
  deriving DecidableEq, Repr

def PassKind.name : PassKind → String
  | .analysis => "analysis"
  | .transformation => "transformation"

/-- A guard that is tested when the pipeline runs. -/
inductive Condition where
  /-- No layout has been chosen. -/
  | layoutUnset
  /-- The trivial layout needs a swap. -/
  | trivialLayoutImperfect
  /-- A two-qubit gate acts on qubits that are not adjacent. -/
  | notMapped
  /-- A two-qubit gate runs against the direction of its edge. -/
  | directionMismatch
  deriving DecidableEq, Repr

namespace Condition

def all : List Condition := [layoutUnset, trivialLayoutImperfect, notMapped, directionMismatch]

def name : Condition → String
  | layoutUnset => "layout_unset"
  | trivialLayoutImperfect => "trivial_layout_imperfect"
  | notMapped => "not_mapped"
  | directionMismatch => "direction_mismatch"

end Condition

/-- When a repeated stage ends. -/
inductive Repeat where
  | untilDepthFixed
  | untilDepthAndSizeFixed
  deriving DecidableEq, Repr

namespace Repeat

def all : List Repeat := [untilDepthFixed, untilDepthAndSizeFixed]

def name : Repeat → String
  | untilDepthFixed => "until_depth_fixed"
  | untilDepthAndSizeFixed => "until_depth_and_size_fixed"

end Repeat

/-- A pass and its configuration. -/
structure Pass where
  name : String
  kind : PassKind
  condition : Option Condition
  args : SortedMap String Json
  deriving BEq

namespace Pass

def analysis (name : String) : Pass := ⟨name, .analysis, none, .empty⟩

def transformation (name : String) : Pass := ⟨name, .transformation, none, .empty⟩

/-- Sets an argument; an earlier value of the key is replaced. -/
def withArg (p : Pass) (key : String) (value : Json) : Pass :=
  { p with args := p.args.insert key value }

/-- Sets an argument if it has a value. -/
def withArg? (p : Pass) (key : String) (value : Option Json) : Pass :=
  match value with
  | none => p
  | some v => p.withArg key v

/-- Sets the guard; an earlier guard is replaced. -/
def guardedBy (p : Pass) (c : Condition) : Pass := { p with condition := some c }

def arg? (p : Pass) (key : String) : Option Json := p.args.find? key

section Lemmas

variable {p : Pass} {name key key' : String} {value : Json} {value? : Option Json} {c : Condition}

@[simp] theorem name_analysis : (analysis name).name = name := rfl

@[simp] theorem name_transformation : (transformation name).name = name := rfl

@[simp] theorem name_withArg : (p.withArg key value).name = p.name := rfl

@[simp] theorem name_withArg? : (p.withArg? key value?).name = p.name := by
  cases value? <;> rfl

@[simp] theorem name_guardedBy : (p.guardedBy c).name = p.name := rfl

@[simp] theorem kind_analysis : (analysis name).kind = .analysis := rfl

@[simp] theorem kind_withArg : (p.withArg key value).kind = p.kind := rfl

@[simp] theorem kind_withArg? : (p.withArg? key value?).kind = p.kind := by
  cases value? <;> rfl

@[simp] theorem condition_analysis : (analysis name).condition = none := rfl

@[simp] theorem condition_transformation : (transformation name).condition = none := rfl

@[simp] theorem condition_withArg : (p.withArg key value).condition = p.condition := rfl

@[simp] theorem condition_withArg? : (p.withArg? key value?).condition = p.condition := by
  cases value? <;> rfl

@[simp] theorem condition_guardedBy : (p.guardedBy c).condition = some c := rfl

@[simp] theorem arg?_analysis : (analysis name).arg? key = none := rfl

@[simp] theorem arg?_transformation : (transformation name).arg? key = none := rfl

@[simp] theorem arg?_guardedBy : (p.guardedBy c).arg? key = p.arg? key := rfl

/-- Setting an argument changes no other. -/
@[simp] theorem arg?_withArg :
    (p.withArg key value).arg? key' = if key' = key then some value else p.arg? key' :=
  SortedMap.find?_insert p.args key key' value

@[simp] theorem arg?_withArg? :
    (p.withArg? key value?).arg? key' =
      if key' = key then value?.or (p.arg? key) else p.arg? key' := by
  cases value? with
  | none =>
    rw [withArg?, Option.none_or]
    split
    · rename_i h
      rw [h]
    · rfl
  | some v => exact arg?_withArg

end Lemmas

end Pass

/-- Passes of one kind of stage, in order. -/
structure Stage where
  kind : StageKind
  passes : List Pass
  repeats : Option Repeat
  deriving BEq

namespace Stage

/-- A stage that runs once. -/
def once (kind : StageKind) (passes : List Pass) : Stage := ⟨kind, passes, none⟩

def repeatedUntil (s : Stage) (r : Repeat) : Stage := { s with repeats := some r }

/-- The first pass of a name. -/
def pass? (s : Stage) (name : String) : Option Pass := s.passes.find? (·.name == name)

end Stage

/-- The stages of a level, in order. -/
structure Pipeline where
  level : Level
  stages : List Stage
  deriving BEq

namespace Pipeline

/-- The first stage of a kind. -/
def stage? (p : Pipeline) (kind : StageKind) : Option Stage := p.stages.find? (·.kind == kind)

def hasStage (p : Pipeline) (kind : StageKind) : Bool := (p.stage? kind).isSome

def stageKinds (p : Pipeline) : List StageKind := p.stages.map (·.kind)

/-- Every pass, stage after stage. -/
def passes (p : Pipeline) : List Pass := p.stages.flatMap (·.passes)

/-- The first pass of a name, in any stage. -/
def pass? (p : Pipeline) (name : String) : Option Pass := p.passes.find? (·.name == name)

end Pipeline

end PresetPipeline
