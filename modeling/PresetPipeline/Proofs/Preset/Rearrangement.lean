import PresetPipeline.Preset.Generate
import PresetPipeline.Proofs.Device.Relisting
import PresetPipeline.Proofs.Settings.Placement

/-!
# Inputs in another order

A pipeline does not depend on the order in which its inputs are listed, nor on their repetitions.

* `TargetListing`, `DeviceListing`, `GraphListing` — the inputs, with the lists that they are made from.
  `TargetListing.Same`, `DeviceListing.Same`, `GraphListing.Same` — the lists differ in their order or
  their repetitions only.
* `Description` — all that is given for a pipeline. `Description.inputs?` — what is made of it, if every
  list is accepted. `Description.Same` — part by part.
* `Same.target?_eq`, `Same.descriptor?_eq`, `Same.graph?_eq`, `Same.inputs?_eq` — the same is made of each
  part, and so of the whole.
* `generate_rearranged` — so the pipeline, or the error, is the same.
-/

set_option autoImplicit false

namespace PresetPipeline

/-- What is made of related values is the same, or made of neither. -/
theorem mapM_congr_rel {α β : Type} {r : α → α → Prop} {f : α → Option β} {o o' : Option α}
    (h : Option.Rel r o o') (hf : ∀ a a', r a a' → f a = f a') : o.mapM f = o'.mapM f := by
  cases h with
  | some h => exact congrArg (some <$> ·) (hf _ _ h)
  | none => rfl

/-! ## Targets -/

/-- What a target is built from. -/
inductive TargetStart where
  | new (name : String) (numQubits : Qubit)
  | ofBackend (records : DeviceRecords)

def TargetStart.target? : TargetStart → Option Target
  | .new name n => some (.new name n)
  | .ofBackend r => r.backend?.map .ofBackend

/-- The same start, but for the order of the lists in the records. -/
inductive TargetStart.Same : TargetStart → TargetStart → Prop where
  | new (name : String) (n : Qubit) : Same (.new name n) (.new name n)
  | ofBackend {r r' : DeviceRecords} : r.Relisted r' → Same (.ofBackend r) (.ofBackend r')

theorem TargetStart.Same.target?_eq {s s' : TargetStart} (h : s.Same s') : s.target? = s'.target? := by
  cases h with
  | new name n => rfl
  | ofBackend h => exact map_congr_rel h.backend? fun _ _ => Target.ofBackend_relisted

/-- A target, as the steps that it is built in. -/
structure TargetListing where
  start : TargetStart
  steps : List Target.Step

namespace TargetListing

variable {l l' : TargetListing}

def target? (l : TargetListing) : Option Target := l.start.target?.map (·.after l.steps)

/-- The same steps from the same start. -/
structure Same (l l' : TargetListing) : Prop where
  start : l.start.Same l'.start
  steps : Target.SameSteps l.steps l'.steps

theorem Same.target?_eq (h : l.Same l') : l.target? = l'.target? := by
  have hafter : (fun t : Target => t.after l.steps) = fun t => t.after l'.steps :=
    funext fun t => Target.after_congr h.steps t
  rw [target?, target?, h.start.target?_eq, hafter]

end TargetListing

/-! ## Devices and graphs -/

/-- A device: published records, a target, or anything else that can be described. -/
inductive DeviceListing where
  | records (records : DeviceRecords)
  | target (target : TargetListing)
  | other (descriptor : Descriptor)

namespace DeviceListing

variable {l l' : DeviceListing}

def descriptor? : DeviceListing → Option Descriptor
  | .records r => r.backend?.map Backend.descriptor
  | .target l => l.target?.map Target.descriptor
  | .other d => some d

/-- The same records, the same target, or the same descriptor. -/
inductive Same : DeviceListing → DeviceListing → Prop where
  | records {r r' : DeviceRecords} : r.Relisted r' → Same (.records r) (.records r')
  | target {l l' : TargetListing} : l.Same l' → Same (.target l) (.target l')
  | other (d : Descriptor) : Same (.other d) (.other d)

theorem Same.descriptor?_eq (h : l.Same l') : l.descriptor? = l'.descriptor? := by
  cases h with
  | records h => exact map_congr_rel h.backend? fun _ _ => Backend.descriptor_relisted
  | target h => exact congrArg (Option.map Target.descriptor) h.target?_eq
  | other d => rfl

end DeviceListing

/-- A graph, as the edges that it is made of. -/
structure GraphListing where
  construct : GraphConstructor
  edges : List Edge

namespace GraphListing

variable {l l' : GraphListing}

def graph? (l : GraphListing) : Option CouplingMap := l.construct.graph? l.edges

/-- The same constructor, with the same edges. -/
structure Same (l l' : GraphListing) : Prop where
  construct : l.construct = l'.construct
  edges : SameMembers l.edges l'.edges

theorem Same.graph?_eq (h : l.Same l') : l.graph? = l'.graph? := by
  rw [graph?, graph?, ← h.construct]
  exact GraphConstructor.graph?_congr h.edges l.construct

end GraphListing

/-! ## Pipelines -/

/-- What a pipeline is generated from. -/
structure Inputs where
  target : Option Target
  backend : Option Descriptor
  overrides : Overrides

/-- All that is given for a pipeline: the devices, three overrides as the lists that they are made of, and
the other overrides. -/
structure Description where
  target : Option TargetListing := none
  backend : Option DeviceListing := none
  graph : Option GraphListing := none
  basisGates : Option (List String) := none
  layout : Option (List (Qubit × Qubit)) := none
  others : Overrides := .empty

namespace Description

variable {d d' : Description}

/-- The overrides with what the lists make. -/
def overrides (d : Description) (graph : Option CouplingMap) (layout : Option Layout) : Overrides :=
  { d.others with
    couplingMap := graph.or d.others.couplingMap
    basisGates := (d.basisGates.map .ofList).or d.others.basisGates
    initialLayout := layout.or d.others.initialLayout }

/-- What is made of a description, if every list is accepted. -/
def inputs? (d : Description) : Option Inputs := do
  let target ← d.target.mapM TargetListing.target?
  let backend ← d.backend.mapM DeviceListing.descriptor?
  let graph ← d.graph.mapM GraphListing.graph?
  let layout ← d.layout.mapM fun pairs => (Layout.ofPairs pairs).toOption
  some ⟨target, backend, d.overrides graph layout⟩

/-- The descriptions differ in the order or the repetitions of their lists only. -/
structure Same (d d' : Description) : Prop where
  target : Option.Rel TargetListing.Same d.target d'.target
  backend : Option.Rel DeviceListing.Same d.backend d'.backend
  graph : Option.Rel GraphListing.Same d.graph d'.graph
  basisGates : Option.Rel SameMembers d.basisGates d'.basisGates
  layout : Option.Rel List.Perm d.layout d'.layout
  others : d.others = d'.others

theorem Same.overrides_eq (h : d.Same d') (graph : Option CouplingMap) (layout : Option Layout) :
    d.overrides graph layout = d'.overrides graph layout := by
  have hbasis : d.basisGates.map SortedSet.ofList = d'.basisGates.map SortedSet.ofList :=
    map_congr_rel h.basisGates fun _ _ => SameMembers.ofList_eq
  rw [overrides, overrides, hbasis, h.others]

theorem Same.inputs?_eq (h : d.Same d') : d.inputs? = d'.inputs? := by
  unfold inputs?
  rw [mapM_congr_rel h.target fun _ _ => TargetListing.Same.target?_eq,
    mapM_congr_rel h.backend fun _ _ => DeviceListing.Same.descriptor?_eq,
    mapM_congr_rel h.graph fun _ _ => GraphListing.Same.graph?_eq,
    mapM_congr_rel h.layout fun _ _ => Layout.ofPairs_perm]
  simp only [h.overrides_eq]

/-- **Neither the order of the inputs nor their repetitions count.** Two descriptions that differ in
nothing else are both accepted or both refused, and the runs that they lead to are the same: the pipeline
or the error, and the log. -/
theorem generate_rearranged (n : Int) (h : d.Same d') :
    (d.inputs?.isSome = true ↔ d'.inputs?.isSome = true) ∧
      ∀ i i', d.inputs? = some i → d'.inputs? = some i' →
        generate n i.backend i.target i.overrides = generate n i'.backend i'.target i'.overrides := by
  rw [h.inputs?_eq]
  refine ⟨Iff.rfl, fun i i' hi hi' => ?_⟩
  rw [hi] at hi'
  cases hi'
  rfl

/-- A line of three qubits in place of the published records of a pair. -/
def line : Description where
  target := some ⟨.new "line" 3,
    [.register ⟨"cx", [0, 1]⟩ ⟨none, some 0.01, none⟩, .sampleTime 1e-9,
      .register ⟨"sx", [0]⟩ ⟨some 1e-7, none, none⟩]⟩
  backend := some (.records ⟨Target.barePair.configuration, none, none⟩)
  graph := some ⟨.tryOfEdges 3, [⟨0, 1⟩, ⟨1, 2⟩]⟩
  basisGates := some ["sx", "cx"]
  layout := some [(0, 2), (1, 0)]

/-- The same line, listed backwards. -/
def lineBackwards : Description where
  target := some ⟨.new "line" 3,
    [.register ⟨"sx", [0]⟩ ⟨some 1e-7, none, none⟩, .sampleTime 1e-9,
      .register ⟨"cx", [0, 1]⟩ ⟨none, some 0.01, none⟩]⟩
  backend := some (.records ⟨⟨"pair", "", 2, ["cx", "sx", "cx"], some [⟨0, 1⟩, ⟨0, 1⟩], false, false,
    none, none⟩, none, none⟩)
  graph := some ⟨.tryOfEdges 3, [⟨1, 2⟩, ⟨0, 1⟩, ⟨1, 2⟩]⟩
  basisGates := some ["cx", "sx", "sx"]
  layout := some [(1, 0), (0, 2)]

theorem line_same_lineBackwards : line.Same lineBackwards where
  target := by
    refine .some ⟨.new _ _, rfl, ?_, ?_⟩
    · exact fun registration => (List.Perm.swap _ _ []).mem_iff
    · intro i data data' hdata hdata'
      grind
  backend := .some (.records (.mk (.mk (by decide) (.some (by decide)))))
  graph := .some ⟨rfl, by decide⟩
  basisGates := .some (by decide)
  layout := .some (.swap _ _ _)
  others := rfl

theorem generate_rearranged_line :
    line.Same lineBackwards ∧ ∃ i i', line.inputs? = some i ∧ lineBackwards.inputs? = some i' ∧
      generate 1 i.backend i.target i.overrides = generate 1 i'.backend i'.target i'.overrides := by
  obtain ⟨haccepted, hrun⟩ := generate_rearranged 1 line_same_lineBackwards
  have hline : line.inputs?.isSome = true := rfl
  obtain ⟨i, hi⟩ := Option.isSome_iff_exists.1 hline
  obtain ⟨i', hi'⟩ := Option.isSome_iff_exists.1 (haccepted.1 hline)
  exact ⟨line_same_lineBackwards, i, i', hi, hi', hrun i i' hi hi'⟩

end Description

end PresetPipeline
