import PresetPipeline.Pipeline.Basic

/-!
# Writing pipelines

* `Pipeline.toJson` — a pipeline as a JSON value. Guards, repetitions and arguments are left out
  where there are none.
-/

set_option autoImplicit false

namespace PresetPipeline

def Pass.toJson (p : Pass) : Json :=
  .ofMembers [Json.required "name" (.string p.name), Json.required "kind" (.string p.kind.name),
    Json.omitted "condition" (p.condition.map fun c => .string c.name),
    Json.omitted "args" (if p.args.isEmpty then none else some (.ofMap p.args))]

def Stage.toJson (s : Stage) : Json :=
  .ofMembers [Json.required "kind" (.string s.kind.name),
    Json.required "passes" (.array (s.passes.map Pass.toJson)),
    Json.omitted "repeat" (s.repeats.map fun r => .string r.name)]

def Pipeline.toJson (p : Pipeline) : Json :=
  .object [("level", .ofNat p.level.toNat), ("stages", .array (p.stages.map Stage.toJson))]

end PresetPipeline
