import PresetPipeline.CommandLine.Run
import PresetPipeline.Proofs.Preset.Vocabulary
import PresetPipeline.Proofs.Yaml.Printing

/-!
# Pipelines on the page

What a command shows of a pipeline, in each format.

* `Spelling` — the names of what a pipeline consists of, and the numbers of the levels.
* `Pipeline.listing` — a pipeline as a value, with every stage and every pass. `toJson_eq_listing`.
* `outputWords` — the words of a pipeline that stand for themselves.
  `Pipeline.name_mem_outputWords` — the name of every pass is one.
* `tint` — a text between the codes of a terminal.
* `tableListing` — the lines of a table: the source of every derived field, then every stage with every
  pass. `pipelineReport_eq_tableListing`.
* `Shows` — a text shows a pipeline in a format. `shows_render` — what is rendered does.
-/

set_option autoImplicit false

namespace PresetPipeline

/-! ## Names -/

/-- The names of what a pipeline consists of. -/
structure Spelling : Prop where
  level : ∀ level : Level, (level, level.toNat) ∈
    [(Level.level0, 0), (.level1, 1), (.level2, 2), (.level3, 3)]
  stage : ∀ kind : StageKind, (kind, kind.name) ∈
    [(StageKind.init, "init"), (.layout, "layout"), (.routing, "routing"),
      (.translation, "translation"), (.optimization, "optimization"), (.scheduling, "scheduling")]
  pass : ∀ kind : PassKind, (kind, kind.name) ∈
    [(PassKind.analysis, "analysis"), (.transformation, "transformation")]
  condition : ∀ c : Condition, (c, c.name) ∈
    [(Condition.layoutUnset, "layout_unset"),
      (.trivialLayoutImperfect, "trivial_layout_imperfect"), (.notMapped, "not_mapped"),
      (.directionMismatch, "direction_mismatch")]
  repeats : ∀ r : Repeat, (r, r.name) ∈
    [(Repeat.untilDepthFixed, "until_depth_fixed"),
      (.untilDepthAndSizeFixed, "until_depth_and_size_fixed")]
  source : ∀ source : Source, (source, source.name) ∈
    [(Source.explicit, "explicit"), (.target, "target"), (.backend, "backend"), (.unset, "unset")]

theorem spelling : Spelling where
  level level := by cases level <;> decide
  stage kind := by cases kind <;> decide
  pass kind := by cases kind <;> decide
  condition c := by cases c <;> decide
  repeats r := by cases r <;> decide
  source source := by cases source <;> decide

/-! ## Values -/

/-- A pass as a value. Without a guard or arguments there is no entry for them. -/
def Pass.listing (p : Pass) : Json :=
  .object ([("name", .string p.name), ("kind", .string p.kind.name)] ++
    p.condition.toList.map (fun c => ("condition", .string c.name)) ++
    if p.args.entries = [] then [] else [("args", .object p.args.entries)])

/-- A stage as a value. -/
def Stage.listing (s : Stage) : Json :=
  .object ([("kind", .string s.kind.name), ("passes", .array (s.passes.map Pass.listing))] ++
    s.repeats.toList.map fun r => ("repeat", .string r.name))

/-- A pipeline as a value. -/
def Pipeline.listing (p : Pipeline) : Json :=
  .object [("level", .number (.integer p.level.toNat)), ("stages", .array (p.stages.map Stage.listing))]

theorem Pass.toJson_eq_listing (p : Pass) : p.toJson = p.listing := by
  have hempty : p.args.isEmpty = true ↔ p.args.entries = [] := List.isEmpty_iff
  unfold Pass.toJson Pass.listing
  by_cases h : p.args.entries = []
  · rw [if_pos (hempty.2 h), if_pos h]
    cases p.condition <;> rfl
  · rw [if_neg (mt hempty.1 h), if_neg h]
    cases p.condition <;> rfl

theorem Stage.toJson_eq_listing (s : Stage) : s.toJson = s.listing := by
  have hpasses : s.passes.map Pass.toJson = s.passes.map Pass.listing :=
    List.map_congr_left fun p _ => p.toJson_eq_listing
  unfold Stage.toJson Stage.listing
  rw [hpasses]
  cases s.repeats <;> rfl

theorem Pipeline.toJson_eq_listing (p : Pipeline) : p.toJson = p.listing := by
  have hstages : p.stages.map Stage.toJson = p.stages.map Stage.listing :=
    List.map_congr_left fun s _ => s.toJson_eq_listing
  unfold Pipeline.toJson Pipeline.listing
  rw [hstages]
  rfl

/-! ## Words -/

/-- The words of a pipeline that stand for themselves: its keys, its names, and those of its passes. -/
def outputWords : List String :=
  ["level", "stages", "kind", "passes", "repeat", "name", "condition", "args"] ++
    StageKind.all.map StageKind.name ++ ["analysis", "transformation"] ++
    Condition.all.map Condition.name ++ Repeat.all.map Repeat.name ++
    StageKind.all.flatMap StageKind.vocabulary

theorem isWord_of_mem : ∀ s ∈ outputWords, Yaml.IsWord s := by
  decide +kernel

/-- The name of every pass is such a word. -/
theorem Pipeline.name_mem_outputWords {n : Int} {s : Settings} {p : Pipeline}
    (h : (dispatch n s).outcome = .ok p) : ∀ q ∈ p.passes, q.name ∈ outputWords := by
  intro q hq
  obtain ⟨stage, hstage, hq⟩ := List.mem_flatMap.1 hq
  have hname := (makes_of_dispatch h hstage).name_mem q hq
  have hall : stage.kind ∈ StageKind.all := by cases stage.kind <;> decide
  exact List.mem_append_right _ (List.mem_flatMap.2 ⟨stage.kind, hall, hname⟩)

/-! ## Tables -/

namespace CommandLine

/-- A text between the codes of a terminal. -/
def tint (coloured : Bool) (codes : List String) (text : String) : String :=
  if coloured then String.join (codes.map fun code => "\x1b[" ++ code ++ "m") ++ text ++ "\x1b[0m"
  else text

/-- The lines of a stage: its number and kind, when it ends if it is repeated, and its passes with their
guards. -/
def stageListing (coloured : Bool) (s : Stage) (number : Nat) : List String :=
  ["",
    "  " ++ tint coloured ["2"] ("[" ++ toString number ++ "]") ++ " " ++
      tint coloured ["1"] s.kind.name ++
      (match s.repeats with
      | none => ""
      | some r => " (repeat " ++ r.name ++ ")")] ++
    s.passes.map fun p =>
      "    " ++
        (match p.kind with
        | .analysis => tint coloured ["34"] "○"
        | .transformation => tint coloured ["32"] "●") ++ " " ++ p.name ++
        tint coloured ["2"]
          (match p.condition with
          | none => ""
          | some c => " if " ++ c.name)

/-- The start of the line of each derived field, in the order of the lines. -/
def fieldHeads : List (DerivedField × String) :=
  [(.connectivity, "    connectivity         "),
    (.basisGates, "    basis_gates          "),
    (.durations, "    durations            "),
    (.calibrationMap, "    calibration_map      "),
    (.timingConstraints, "    timing_constraints   "),
    (.deviceProperties, "    device_properties    ")]

/-- The lines of a table. -/
def tableListing (coloured : Bool) (device : String) (source : DerivedField → Source) (p : Pipeline) :
    List String :=
  [tint coloured ["36", "1"] "→" ++ " Pipeline for " ++ tint coloured ["32"] device ++ " (level " ++
      tint coloured ["33"] (toString p.level.toNat) ++ ")",
    "",
    "  Resolved fields:"] ++
    fieldHeads.map (fun e => e.2 ++ tint coloured ["2"] (source e.1).name) ++
    ((p.stages.zipIdx 1).flatMap fun e => stageListing coloured e.1 e.2) ++
    ["",
      tint coloured ["32", "1"] "✓" ++ " " ++ toString p.stages.length ++ " stages, " ++
        toString (p.stages.flatMap (·.passes)).length ++ " passes"]

theorem paint_eq_tint (ink : Ink) (coloured : Bool) (text : String) :
    ink.paint coloured text = tint coloured (ink.codes.map toString) text := by
  unfold Ink.paint tint
  rw [List.map_map]
  rfl

theorem stageLines_eq_stageListing (coloured : Bool) (s : Stage) (number : Nat) :
    stageLines coloured number s = stageListing coloured s number := by
  have hpass : ∀ p : Pass, passLine coloured p = "    " ++
        (match p.kind with
        | .analysis => tint coloured ["34"] "○"
        | .transformation => tint coloured ["32"] "●") ++ " " ++ p.name ++
        tint coloured ["2"]
          (match p.condition with
          | none => ""
          | some c => " if " ++ c.name) := by
    intro p
    unfold passLine passMark
    cases p.kind <;> cases p.condition <;> simp only [paint_eq_tint] <;> rfl
  unfold stageLines stageListing
  simp only [paint_eq_tint]
  congr 1
  · cases s.repeats <;> rfl
  · exact List.map_congr_left fun p _ => hpass p

theorem pipelineReport_eq_tableListing (coloured : Bool) (device : String) (provenance : Provenance)
    (p : Pipeline) :
    pipelineReport coloured device provenance p = tableListing coloured device provenance.source p := by
  have hheads : ∀ e ∈ fieldHeads, "    " ++ padded 20 e.1.name ++ " " = e.2 := by decide +kernel
  have hfields : provenance.pairs.map (fun e => fieldLine coloured e.1 e.2) =
      fieldHeads.map fun e => e.2 ++ tint coloured ["2"] (provenance.source e.1).name := by
    have hpairs : provenance.pairs = fieldHeads.map fun e => (e.1, provenance.source e.1) := rfl
    rw [hpairs, List.map_map]
    refine List.map_congr_left fun e he => ?_
    show fieldLine coloured e.1 (provenance.source e.1) = _
    rw [fieldLine, hheads e he, paint_eq_tint]
    rfl
  unfold pipelineReport tableListing
  rw [← hfields]
  simp only [paint_eq_tint, stageLines_eq_stageListing]
  rfl

/-! ## Formats -/

/-- A text shows a pipeline: as JSON, as YAML, or as a table with the sources of the settings. -/
inductive Shows (coloured : Bool) (device : String) (source : DerivedField → Source) (p : Pipeline) :
    OutputFormat → String → Prop where
  | table :
      Shows coloured device source p .table
        (String.join ((tableListing coloured device source p).map (· ++ "\n")))
  | json {print : Nat → Json → String} : Json.IsPrinter print →
      Shows coloured device source p .json (print 0 p.listing ++ "\n")
  | yaml {print : Nat → Json → String} {entry : Nat → String × Json → String} :
      (∀ q ∈ p.passes, q.name ∈ outputWords) → (∀ s ∈ outputWords, Yaml.IsWord s) →
      Yaml.IsPrinter print entry →
      Shows coloured device source p .yaml (print 0 p.listing)

theorem shows_render {n : Int} (prepared : PipelineRequest.Prepared)
    (h : (dispatch n prepared.settings).outcome = .ok prepared.pipeline) (coloured : Bool)
    (format : OutputFormat) :
    Shows coloured prepared.device.name prepared.settings.provenance.source prepared.pipeline format
      (render coloured format prepared) := by
  cases format with
  | table =>
    rw [render, pipelineReport_eq_tableListing]
    exact .table
  | json =>
    rw [render, Pipeline.toJson_eq_listing]
    exact .json Json.isPrinter_prettyAt
  | yaml =>
    rw [render, Pipeline.toJson_eq_listing]
    exact .yaml (Pipeline.name_mem_outputWords h) isWord_of_mem Yaml.isPrinter_nodeText

end CommandLine

end PresetPipeline
