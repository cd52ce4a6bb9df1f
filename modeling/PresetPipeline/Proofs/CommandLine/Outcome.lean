import PresetPipeline.Proofs.CommandLine.Rendering
import PresetPipeline.Proofs.Device.CatalogNames
import PresetPipeline.Proofs.Preset.Log
import PresetPipeline.Proofs.Settings.FlagsAndDocuments
import PresetPipeline.Proofs.Settings.Wording

/-!
# Outcomes of the pipeline command

A request can be wrong in many places at once, and one error is reported.

* `Step` — the steps of a request, in order.
* `PipelineRequest.Reads` — the overrides of the file of a request.
* `PipelineRequest.Gathers` — what a request comes to the construction with.
* `PipelineRequest.Fails` — a step fails, and what is said of it. `PipelineRequest.FailsFirst` — no step
  before it fails.
* `PipelineRequest.Loads` — what comes of the file of a request. `loads_fileOverrides`.
* `PipelineRequest.fault?`, `PipelineRequest.firstFault?` — the checks of the steps before the
  construction, and the first that finds something. `fails_of_fault?`, `not_fails_of_fault?` — a step
  fails exactly if its check finds something.
* `prepare_of_fault`, `prepare_of_gathers` — a request is refused for it, and otherwise comes to the
  construction.
* `WrittenAt`, `Logs` — the entries of the log that are written, and the warning among them.
* `Refuses`, `Answers` — the two ways that a command ends.
* `run_pipeline` — the outcome of the command.
-/

set_option autoImplicit false

namespace PresetPipeline.CommandLine

variable {r : PipelineRequest} {files : String → FileState} {env : Environment} {lib : Library}

/-! ## The steps of a request -/

/-- A step on the way to a pipeline. -/
inductive Step where
  /-- The device is looked up. -/
  | device
  /-- The file of overrides is read, and its fields are checked. -/
  | file
  /-- A flag is checked. -/
  | flag (field : CheckedField)
  /-- The pipeline is constructed. -/
  | construction
  deriving DecidableEq, Repr

namespace Step

/-- The steps before the construction, in order. -/
def preparations : List Step := .device :: .file :: CheckedField.flagOrder.map .flag

/-- Every step, in order. -/
def order : List Step := preparations ++ [.construction]

end Step

/-! ## Devices -/

/-- A device that is loaded is read, and the log tells of it. -/
theorem outcome_loadBackend (device : DeviceRecord) :
    (loadBackend device).outcome = device.backend := by
  unfold loadBackend
  simp only [Run.outcome_bind, Run.outcome_lift, Run.outcome_emit]
  rfl

/-- Every device of the catalog can be read. -/
theorem exists_backend {device : DeviceRecord} (h : device ∈ Catalog.devices) :
    ∃ b, device.backend = .ok b := by
  have hall : ∀ device ∈ Catalog.devices, (faultOf device.backend).isNone := by decide +kernel
  exact faultOf_eq_none_iff.1 (Option.isNone_iff_eq_none.1 (hall device h))

/-! ## What a step needs -/

namespace PipelineRequest

/-- What the file of a request sets, if it names one. -/
inductive Reads (r : PipelineRequest) (files : String → FileState) : Overrides → Prop where
  | nothing : r.config = none → Reads r files .empty
  | document {path content : String} {d : OverrideDocument} {o : Overrides} : r.config = some path →
      files path = .text content → Yaml.consume OverrideDocument.shape.read content = .ok d →
      d.Sets o → Reads r files o

/-- The run that makes the pipeline of a request: the device stands in the places that are chosen. -/
def construct (r : PipelineRequest) (b : Backend) (e : Overrides) : Run CompileError Pipeline :=
  match r.descriptors with
  | .target => generate r.level none (some (.ofBackend b)) e
  | .backend => generate r.level (some b.descriptor) none e
  | .both => generate r.level (some b.descriptor) (some (.ofBackend b)) e

/-- The settings that the construction resolves. -/
def settings (r : PipelineRequest) (b : Backend) (e : Overrides) : Settings :=
  match r.descriptors with
  | .target => .resolve (some (.ofBackend b)) none e
  | .backend => .resolve none (some b.descriptor) e
  | .both => .resolve (some (.ofBackend b)) (some b.descriptor) e

/-- What a request comes to the construction with: a device of the catalog, its records, and the
overrides of the file under those of the flags. -/
structure Gathers (r : PipelineRequest) (files : String → FileState) (device : DeviceRecord)
    (b : Backend) (e : Overrides) : Prop where
  called : device ∈ Catalog.devices ∧ device.IsCalled r.device
  records : Backend.ofRecords device.configuration (some device.properties) device.defaults = .ok b
  overrides : ∃ file flags, r.Reads files file ∧ r.flags.Sets flags ∧ e = file.overlay flags

/-- A step fails, and this is said of it. -/
inductive Fails (r : PipelineRequest) (words : Fault → String) (files : String → FileState) :
    Step → String → Prop where
  | device : (∀ device ∈ Catalog.devices, ¬device.IsCalled r.device) →
      Fails r words files .device
        ("Unknown device '" ++ r.device ++ "'. Available: fake_london, fake_montreal")
  | missing {path : String} : r.config = some path → files path = .missing →
      Fails r words files .file ("File not found: " ++ path)
  | unreadable {path reason : String} : r.config = some path → files path = .unreadable reason →
      Fails r words files .file ("Failed to read file: " ++ path ++ ": " ++ reason)
  | unparsed {path content : String} {fault : Fault} : r.config = some path →
      files path = .text content →
      Yaml.consume OverrideDocument.shape.read content = .error fault →
      Fails r words files .file
        ("Invalid override file: " ++ path ++ ": " ++ ("Invalid overrides: " ++ words fault))
  | refused {path content text : String} {d : OverrideDocument} {e : CompileError} :
      r.config = some path → files path = .text content →
      Yaml.consume OverrideDocument.shape.read content = .ok d →
      d.flags.FirstWrong CheckedField.documentOrder e → e.Says words text →
      Fails r words files .file ("Invalid override file: " ++ path ++ ": " ++ text)
  | flag {field : CheckedField} {e : CompileError} {text : String} : r.flags.Wrong field e →
      e.Says words text → Fails r words files (.flag field) text
  | construction {device : DeviceRecord} {b : Backend} {overrides : Overrides} {e : CompileError}
      {text : String} : r.Gathers files device b overrides →
      (r.construct b overrides).outcome = .error e → e.Says words text →
      Fails r words files .construction
        ("Failed to build pipeline for " ++ device.name ++ ": " ++ text)

/-- A step fails, and none before it. -/
def FailsFirst (r : PipelineRequest) (words : Fault → String) (files : String → FileState)
    (step : Step) (text : String) : Prop :=
  ∃ before after, Step.order = before ++ step :: after ∧
    (∀ earlier ∈ before, ∀ text', ¬r.Fails words files earlier text') ∧ r.Fails words files step text

/-! ## The checks before the construction -/

/-- What is wrong with one of the steps before the construction. -/
def fault? (r : PipelineRequest) (files : String → FileState) : Step → Option CommandError
  | .device => (faultOf (Catalog.lookup r.device)).map .device
  | .file => faultOf (r.fileOverrides files).outcome
  | .flag field => (r.flags.fault? field).map .invalidFlags
  | .construction => none

/-- The first of the steps before the construction that is wrong. -/
def firstFault? (r : PipelineRequest) (files : String → FileState) : Option CommandError :=
  Step.preparations.findSome? (r.fault? files)

variable {words : Fault → String} {step : Step} {text path content : String} {o : Overrides}
  {e : CommandError}

/-- What comes of the file of a request. -/
inductive Loads (r : PipelineRequest) (files : String → FileState) :
    Except CommandError Overrides → Prop where
  | nothing : r.config = none → Loads r files (.ok .empty)
  | missing {path : String} : r.config = some path → files path = .missing →
      Loads r files (.error (.missingFile path))
  | unreadable {path reason : String} : r.config = some path → files path = .unreadable reason →
      Loads r files (.error (.unreadableFile path reason))
  | unparsed {path content : String} {fault : Fault} : r.config = some path →
      files path = .text content →
      Yaml.consume OverrideDocument.shape.read content = .error fault →
      Loads r files (.error (.invalidFile path (.overrides fault)))
  | document {path content : String} {d : OverrideDocument} : r.config = some path →
      files path = .text content → Yaml.consume OverrideDocument.shape.read content = .ok d →
      Loads r files (d.overrides.mapError (.invalidFile path))

/-- A text is refused by the reader of documents, or has the overrides of its document. -/
theorem parse_cases (content : String) :
    (∃ fault, Yaml.consume OverrideDocument.shape.read content = .error fault ∧
        Overrides.parse content = .error (.overrides fault)) ∨
      ∃ d, Yaml.consume OverrideDocument.shape.read content = .ok d ∧
        Overrides.parse content = d.overrides := by
  unfold Overrides.parse
  cases Yaml.consume OverrideDocument.shape.read content with
  | error fault => exact .inl ⟨fault, rfl, rfl⟩
  | ok d => exact .inr ⟨d, rfl, rfl⟩

/-- The overrides of a file with some text in it. -/
theorem outcome_fileOverrides_of_text (hconfig : r.config = some path)
    (hfile : files path = .text content) :
    (r.fileOverrides files).outcome = (Overrides.parse content).mapError (.invalidFile path) := by
  rw [fileOverrides, hconfig]
  simp only [loadOverrides, hfile, Run.outcome_bind, Run.outcome_lift, Run.outcome_emit]
  cases Overrides.parse content <;> rfl

theorem loads_fileOverrides (r : PipelineRequest) (files : String → FileState) :
    r.Loads files (r.fileOverrides files).outcome := by
  cases hconfig : r.config with
  | none =>
    rw [fileOverrides, hconfig]
    exact .nothing hconfig
  | some path =>
    cases hfile : files path with
    | missing =>
      simp only [fileOverrides, hconfig, loadOverrides, hfile]
      exact .missing hconfig hfile
    | unreadable reason =>
      simp only [fileOverrides, hconfig, loadOverrides, hfile]
      exact .unreadable hconfig hfile
    | text content =>
      rw [outcome_fileOverrides_of_text hconfig hfile]
      obtain ⟨fault, hread, hparse⟩ | ⟨d, hread, hparse⟩ := parse_cases content
      · rw [hparse]
        exact .unparsed hconfig hfile hread
      · rw [hparse]
        exact .document hconfig hfile hread

/-- What comes of a file depends on nothing else. -/
theorem Loads.unique {x y : Except CommandError Overrides} (h : r.Loads files x)
    (h' : r.Loads files y) : x = y := by
  cases h <;> cases h' <;> simp_all

theorem reads_of_outcome (h : (r.fileOverrides files).outcome = .ok o) : r.Reads files o := by
  have hloads := loads_fileOverrides r files
  generalize (r.fileOverrides files).outcome = loaded at h hloads
  cases hloads with
  | nothing hconfig =>
    cases h
    exact .nothing hconfig
  | document hconfig hfile hread =>
    exact .document hconfig hfile hread (OverrideDocument.overrides_eq_ok_iff.1 (mapError_eq_ok h))
  | missing | unreadable | unparsed => cases h

theorem outcome_of_reads (h : r.Reads files o) : (r.fileOverrides files).outcome = .ok o := by
  have hloads := loads_fileOverrides r files
  cases h with
  | nothing hconfig => exact hloads.unique (.nothing hconfig)
  | document hconfig hfile hread hsets =>
    rw [hloads.unique (.document hconfig hfile hread), OverrideDocument.overrides_eq_ok_iff.2 hsets,
      mapError_ok]

/-- A file that cannot be used fails with the words for it. -/
theorem fails_file (h : (r.fileOverrides files).outcome = .error e) :
    r.Fails words files .file (e.message words) := by
  have hloads := loads_fileOverrides r files
  generalize (r.fileOverrides files).outcome = loaded at h hloads
  cases hloads with
  | nothing hconfig => cases h
  | missing hconfig hfile =>
    cases h
    exact .missing hconfig hfile
  | unreadable hconfig hfile =>
    cases h
    exact .unreadable hconfig hfile
  | unparsed hconfig hfile hread =>
    cases h
    exact .unparsed hconfig hfile hread
  | @document path content d hconfig hfile hread =>
    cases hd : d.overrides with
    | error fault =>
      rw [hd] at h
      cases h
      exact .refused hconfig hfile hread (OverrideDocument.overrides_eq_error_iff.1 hd)
        (fault.says_message words)
    | ok o =>
      rw [hd] at h
      cases h

/-- A file that can be used does not fail. -/
theorem not_fails_file (h : (r.fileOverrides files).outcome = .ok o) :
    ¬r.Fails words files .file text := by
  have hloads := loads_fileOverrides r files
  rw [h] at hloads
  intro hfails
  cases hfails with
  | missing hconfig hfile => cases hloads.unique (.missing hconfig hfile)
  | unreadable hconfig hfile => cases hloads.unique (.unreadable hconfig hfile)
  | unparsed hconfig hfile hread => cases hloads.unique (.unparsed hconfig hfile hread)
  | refused hconfig hfile hread hwrong hsays =>
    have hrefused := hloads.unique (.document hconfig hfile hread)
    rw [OverrideDocument.overrides_eq_error_iff.2 hwrong] at hrefused
    cases hrefused

/-- A step that is wrong fails with the words for it. -/
theorem fails_of_fault? (h : r.fault? files step = some e) :
    r.Fails words files step (e.message words) := by
  cases step with
  | device =>
    rw [fault?, Option.map_eq_some_iff] at h
    obtain ⟨fault, hfault, rfl⟩ := h
    obtain ⟨hnone, rfl⟩ := Catalog.lookup_eq_error_iff.1 (faultOf_eq_some_iff.1 hfault)
    have hnames : "'. Available: " ++ ", ".intercalate (Catalog.devices.map (·.name)) =
        "'. Available: fake_london, fake_montreal" := by decide +kernel
    have hmessage : (CommandError.device (.unknownDevice r.device
        (Catalog.devices.map (·.name)))).message words =
          "Unknown device '" ++ r.device ++ "'. Available: fake_london, fake_montreal" := by
      rw [← hnames, ← String.append_assoc]
      rfl
    rw [hmessage]
    exact .device hnone
  | file => exact fails_file (faultOf_eq_some_iff.1 h)
  | flag field =>
    obtain ⟨fault, hfault, rfl⟩ := Option.map_eq_some_iff.1 h
    exact .flag (OverrideFlags.fault?_eq_some_iff.1 hfault) (fault.says_message words)
  | construction => cases h

theorem not_fails_of_fault? (hstep : step ≠ .construction) (h : r.fault? files step = none) :
    ¬r.Fails words files step text := by
  cases step with
  | device =>
    rw [fault?, Option.map_eq_none_iff, faultOf_eq_none_iff] at h
    obtain ⟨device, hdevice⟩ := h
    obtain ⟨hmem, hcalled⟩ := Catalog.lookup_eq_ok_iff.1 hdevice
    rintro ⟨hnone⟩
    exact hnone device hmem hcalled
  | file =>
    obtain ⟨o, ho⟩ := faultOf_eq_none_iff.1 h
    exact not_fails_file ho
  | flag field =>
    rintro (_ | _ | _ | _ | _ | ⟨hwrong, -⟩)
    exact OverrideFlags.fault?_eq_none_iff.1 (Option.map_eq_none_iff.1 h) _ hwrong
  | construction => exact absurd rfl hstep

/-! ## What a request comes to the construction with -/

theorem outcome_overrides (r : PipelineRequest) (files : String → FileState) :
    (r.overrides files).outcome = (r.fileOverrides files).outcome.bind fun file =>
      (r.flags.overrides.mapError .invalidFlags).bind fun flags => .ok (file.overlay flags) := by
  unfold overrides
  simp only [Run.outcome_bind, Run.outcome_lift]
  rfl

theorem faultOf_overrides (r : PipelineRequest) (files : String → FileState) :
    faultOf (r.overrides files).outcome = (faultOf (r.fileOverrides files).outcome).or
      ((faultOf r.flags.overrides).map .invalidFlags) := by
  rw [outcome_overrides]
  cases (r.fileOverrides files).outcome with
  | error e => rfl
  | ok file => cases r.flags.overrides <;> rfl

theorem firstFault?_eq (r : PipelineRequest) (files : String → FileState) :
    r.firstFault? files = ((faultOf (Catalog.lookup r.device)).map .device).or
      (faultOf (r.overrides files).outcome) := by
  rw [faultOf_overrides, OverrideFlags.faultOf_overrides, List.map_findSome?, firstFault?,
    Step.preparations, findSome?_cons_or, findSome?_cons_or, List.findSome?_map]
  rfl

/-- If no step is wrong, a request comes to the construction. -/
theorem exists_gathers (h : r.firstFault? files = none) :
    ∃ device b o, r.Gathers files device b o := by
  rw [firstFault?_eq, faultOf_overrides] at h
  simp only [Option.or_eq_none_iff, Option.map_eq_none_iff, faultOf_eq_none_iff] at h
  obtain ⟨⟨device, hdevice⟩, ⟨file, hfile⟩, flags, hflags⟩ := h
  have hcalled := Catalog.lookup_eq_ok_iff.1 hdevice
  obtain ⟨b, hb⟩ := exists_backend hcalled.1
  exact ⟨device, b, file.overlay flags, hcalled, (DeviceRecord.backend_eq_ok_iff.1 hb).2, file, flags,
    reads_of_outcome hfile, OverrideFlags.overrides_eq_ok_iff.1 hflags, rfl⟩

variable {device : DeviceRecord} {b : Backend}

theorem Gathers.outcome_overrides (h : r.Gathers files device b o) :
    (r.overrides files).outcome = .ok o := by
  obtain ⟨file, flags, hreads, hsets, rfl⟩ := h.overrides
  rw [PipelineRequest.outcome_overrides, outcome_of_reads hreads,
    OverrideFlags.overrides_eq_ok_iff.2 hsets]
  rfl

theorem Gathers.outcome_loadBackend (h : r.Gathers files device b o) :
    (loadBackend device).outcome = .ok b := by
  obtain ⟨b', hb⟩ := exists_backend h.called.1
  obtain rfl := Except.ok.inj ((DeviceRecord.backend_eq_ok_iff.1 hb).2.symm.trans h.records)
  rw [CommandLine.outcome_loadBackend, hb]

/-- What a request comes to the construction with is the only thing it can. -/
theorem Gathers.unique {device' : DeviceRecord} {b' : Backend} {o' : Overrides}
    (h : r.Gathers files device b o) (h' : r.Gathers files device' b' o') :
    device = device' ∧ b = b' ∧ o = o' := by
  have hdevice := (Catalog.lookup_eq_ok_iff.2 h.called).symm.trans (Catalog.lookup_eq_ok_iff.2 h'.called)
  obtain rfl := Except.ok.inj hdevice
  exact ⟨rfl, Except.ok.inj (h.records.symm.trans h'.records),
    Except.ok.inj (h.outcome_overrides.symm.trans h'.outcome_overrides)⟩

/-- A request is refused for the first step that is wrong. -/
theorem prepare_of_fault (h : r.firstFault? files = some e) :
    (r.prepare files).outcome = .error e := by
  rw [firstFault?_eq] at h
  unfold prepare
  rw [Run.outcome_bind, Run.outcome_lift]
  cases hdevice : Catalog.lookup r.device with
  | error fault =>
    rw [hdevice] at h
    cases h
    rfl
  | ok device =>
    rw [hdevice, faultOf_ok, Option.map_none, Option.none_or, faultOf_eq_some_iff] at h
    show Except.bind (Except.ok device) _ = _
    rw [Except.bind, Run.outcome_bind, h]
    rfl

theorem Gathers.outcome_backend (h : r.Gathers files device b o) :
    (r.backend device).outcome = .ok (if r.descriptors.hasBackend then some b else none) := by
  unfold backend
  split
  · rw [Run.outcome_bind, h.outcome_loadBackend]
    rfl
  · rfl

theorem Gathers.outcome_target (h : r.Gathers files device b o) :
    (r.target device).outcome = .ok (if r.descriptors.hasTarget then some (.ofBackend b) else none) := by
  unfold target
  split
  · rw [Run.outcome_bind, h.outcome_loadBackend]
    rfl
  · rfl

theorem outcome_resolveLogged (target : Option Target) (backend : Option Descriptor) (o : Overrides) :
    (resolveLogged target backend o).outcome = .ok (.resolve target backend o) := rfl

theorem outcome_construct (r : PipelineRequest) (b : Backend) (o : Overrides) :
    (r.construct b o).outcome = (dispatch r.level (r.settings b o)).outcome := by
  unfold construct settings
  cases r.descriptors <;> exact outcome_generate _ _ _ _

theorem resolve_eq_settings (r : PipelineRequest) (b : Backend) (o : Overrides) :
    Settings.resolve (if r.descriptors.hasTarget then some (.ofBackend b) else none)
      ((if r.descriptors.hasBackend then some b else none).map Backend.descriptor) o =
        r.settings b o := by
  unfold settings
  cases r.descriptors <;> rfl

/-- A request that comes to the construction is refused only there. -/
theorem prepare_of_gathers (h : r.Gathers files device b o) :
    (r.prepare files).outcome = ((r.construct b o).outcome.mapError (.build device.name)).map
      (⟨device, r.settings b o, ·⟩) := by
  rw [outcome_construct, ← resolve_eq_settings]
  unfold prepare
  simp only [Run.outcome_bind, Run.outcome_lift, Run.outcome_mapError, outcome_resolveLogged,
    Catalog.lookup_eq_ok_iff.2 h.called, h.outcome_overrides, h.outcome_backend, h.outcome_target,
    mapError_ok, Except.bind]
  rfl

/-! ## The warning -/

theorem not_warned_fileOverrides (r : PipelineRequest) (files : String → FileState) :
    .pluginConfigIgnored ∉ (r.fileOverrides files).events := by
  unfold fileOverrides
  split
  · simp
  · unfold loadOverrides
    split <;> simp [Run.mem_events_bind]

theorem not_warned_overrides (r : PipelineRequest) (files : String → FileState) :
    .pluginConfigIgnored ∉ (r.overrides files).events := by
  unfold overrides
  simp [Run.mem_events_bind, not_warned_fileOverrides]

theorem not_warned_loadBackend (device : DeviceRecord) :
    .pluginConfigIgnored ∉ (loadBackend device).events := by
  unfold loadBackend
  simp [Run.mem_events_bind]

theorem not_warned_backend (r : PipelineRequest) (device : DeviceRecord) :
    .pluginConfigIgnored ∉ (r.backend device).events := by
  unfold backend
  split
  · simp [Run.mem_events_bind, not_warned_loadBackend]
  · simp

theorem not_warned_target (r : PipelineRequest) (device : DeviceRecord) :
    .pluginConfigIgnored ∉ (r.target device).events := by
  unfold target
  split
  · simp [Run.mem_events_bind, not_warned_loadBackend]
  · simp

/-- Before the construction nothing is warned of. -/
theorem firstFault?_of_warned (h : .pluginConfigIgnored ∈ (r.prepare files).events) :
    r.firstFault? files = none := by
  simp only [prepare, Run.mem_events_bind, Run.events_lift, Run.outcome_lift, List.not_mem_nil,
    not_warned_overrides, false_or] at h
  obtain ⟨device, hdevice, o, ho, -⟩ := h
  have hlookup : faultOf (Catalog.lookup r.device) = none :=
    faultOf_eq_none_iff.2 ⟨device, mapError_eq_ok hdevice⟩
  rw [firstFault?_eq, hlookup, Option.map_none, Option.none_or, faultOf_eq_none_iff]
  exact ⟨o, ho⟩

theorem Gathers.warns_prepare_iff (h : r.Gathers files device b o) :
    .pluginConfigIgnored ∈ (r.prepare files).events ↔ (r.settings b o).WarnsAt r.level := by
  rw [← warns_dispatch_iff, ← resolve_eq_settings]
  unfold prepare
  simp only [Run.mem_events_bind, Run.events_lift, Run.events_mapError, Run.events_pure,
    Run.outcome_lift, Run.outcome_mapError, Catalog.lookup_eq_ok_iff.2 h.called, h.outcome_overrides,
    h.outcome_backend, h.outcome_target, outcome_resolveLogged, mapError_ok, not_warned_overrides,
    not_warned_backend, not_warned_target, not_warned_resolveLogged, List.not_mem_nil, false_or,
    or_false, and_false, exists_false, Except.ok.injEq, exists_eq_left']

/-- There is a warning exactly if the construction is come to and has a reason for it. -/
theorem warns_prepare_iff (r : PipelineRequest) (files : String → FileState) :
    .pluginConfigIgnored ∈ (r.prepare files).events ↔
      ∃ device b o, r.Gathers files device b o ∧ (r.settings b o).WarnsAt r.level := by
  constructor
  · intro h
    obtain ⟨device, b, o, hgathers⟩ := exists_gathers (firstFault?_of_warned h)
    exact ⟨device, b, o, hgathers, hgathers.warns_prepare_iff.1 h⟩
  · rintro ⟨device, b, o, hgathers, hwarns⟩
    exact hgathers.warns_prepare_iff.2 hwarns

/-! ## The first step that fails -/

/-- A step that is wrong before the construction fails, and so does none before it. -/
theorem failsFirst_of_fault (h : r.firstFault? files = some e) :
    ∃ step, r.FailsFirst words files step (e.message words) := by
  obtain ⟨before, step, after, hsplit, hstep, hbefore⟩ := List.findSome?_eq_some_iff.1 h
  refine ⟨step, before, after ++ [.construction], ?_, fun earlier hearlier text => ?_,
    fails_of_fault? hstep⟩
  · rw [Step.order, hsplit, List.append_assoc, List.cons_append]
  · refine not_fails_of_fault? ?_ (hbefore earlier hearlier)
    rintro rfl
    have hmem : Step.construction ∈ Step.preparations := by
      rw [hsplit]
      exact List.mem_append_left _ hearlier
    exact absurd hmem (by decide)

/-- Where nothing is wrong before the construction, no step before it fails. -/
theorem not_fails_of_no_fault (h : r.firstFault? files = none) :
    ∀ step ∈ Step.preparations, ∀ text, ¬r.Fails words files step text := by
  intro step hstep text
  refine not_fails_of_fault? ?_ (List.findSome?_eq_none_iff.1 h step hstep)
  rintro rfl
  exact absurd hstep (by decide)

theorem not_fails_construction {p : Pipeline} (h : r.Gathers files device b o)
    (hp : (r.construct b o).outcome = .ok p) : ¬r.Fails words files .construction text := by
  rintro (_ | _ | _ | _ | _ | _ | ⟨hgathers, herror, -⟩)
  obtain ⟨rfl, rfl, rfl⟩ := h.unique hgathers
  cases hp.symm.trans herror

end PipelineRequest

/-! ## The outcome -/

/-- An entry of the log is written after more of them were asked for so often: a warning always. -/
inductive WrittenAt (verbosity : Nat) : Event → Prop where
  | warning : WrittenAt verbosity .pluginConfigIgnored
  | info {e : Event} : 1 ≤ verbosity → e.severity = .info → WrittenAt verbosity e
  | debug {e : Event} : 2 ≤ verbosity → e.severity = .debug → WrittenAt verbosity e

theorem writtenAt_of_admits {verbosity : Nat} {e : Event}
    (h : (LogFilter.ofVerbosity verbosity).admits e = true) : WrittenAt verbosity e := by
  have hrank : (LogFilter.ofVerbosity verbosity).least ≤ e.severity.rank := of_decide_eq_true h
  have hwarning : e.severity = .warn → e = .pluginConfigIgnored := by
    cases e <;> simp [Event.severity]
  cases hseverity : e.severity with
  | warn =>
    rw [hwarning hseverity]
    exact .warning
  | info =>
    refine .info ?_ hseverity
    rcases verbosity with _ | verbosity
    · rw [hseverity] at hrank
      exact absurd hrank (by decide)
    · omega
  | debug =>
    refine .debug ?_ hseverity
    rcases verbosity with _ | _ | verbosity
    · rw [hseverity] at hrank
      exact absurd hrank (by decide)
    · rw [hseverity] at hrank
      exact absurd hrank (by decide)
    · omega

/-- What is logged of a request: only entries that are written after so much was asked for, and the
warning exactly if the construction is come to and has a reason for it. -/
structure Logs (r : PipelineRequest) (files : String → FileState) (verbosity : Nat)
    (log : List Event) : Prop where
  written : ∀ event ∈ log, WrittenAt verbosity event
  warned : .pluginConfigIgnored ∈ log ↔
    ∃ device b overrides, r.Gathers files device b overrides ∧
      (r.settings b overrides).WarnsAt r.level

theorem admits_warning (verbosity : Nat) :
    (LogFilter.ofVerbosity verbosity).admits .pluginConfigIgnored = true := by
  cases LogFilter.ofVerbosity verbosity <;> decide

theorem logs_filter (env : Environment) (verbosity : Nat) (r : PipelineRequest) :
    Logs r env.files verbosity
      (((Request.pipeline r).output env).events.filter (LogFilter.ofVerbosity verbosity).admits) where
  written _ hevent := writtenAt_of_admits (List.mem_filter.1 hevent).2
  warned := by
    rw [List.mem_filter, and_iff_left (admits_warning verbosity), ← r.warns_prepare_iff]
    simp [Request.output, Run.mem_events_bind]

/-- What a failing command writes after the log. -/
theorem run_of_error {e : CommandError} (lib : Library) (verbosity : Nat)
    (h : (r.prepare env.files).outcome = .error e) :
    ∃ log, Logs r env.files verbosity log ∧
      Invocation.run lib env ⟨verbosity, .pipeline r⟩ =
        ⟨1, "", lib.log log ++ tint env.coloured ["31", "1"] "Error:" ++ " " ++
          e.message lib.documentFault ++ "\n"⟩ := by
  have houtput : ((Request.pipeline r).output env).outcome = .error e := by
    rw [Request.output, Run.outcome_bind, h]
    rfl
  refine ⟨_, logs_filter env verbosity r, ?_⟩
  unfold Invocation.run
  simp only [houtput, paint_eq_tint]
  rfl

/-- What a command writes that comes to a pipeline. -/
theorem run_of_ok {prepared : PipelineRequest.Prepared} (lib : Library) (verbosity : Nat)
    (h : (r.prepare env.files).outcome = .ok prepared) :
    ∃ log, Logs r env.files verbosity log ∧
      Invocation.run lib env ⟨verbosity, .pipeline r⟩ =
        ⟨0, render env.coloured r.format prepared, lib.log log⟩ := by
  have houtput : ((Request.pipeline r).output env).outcome =
      .ok (render env.coloured r.format prepared) := by
    rw [Request.output, Run.outcome_bind, h]
    rfl
  refine ⟨_, logs_filter env verbosity r, ?_⟩
  unfold Invocation.run
  simp only [houtput]

/-- The command succeeds exactly if there is a pipeline. -/
theorem exitCode_run (verbosity : Nat) :
    (Invocation.run lib env ⟨verbosity, .pipeline r⟩).exitCode =
      if (faultOf (r.prepare env.files).outcome).isSome then 1 else 0 := by
  cases hprepare : (r.prepare env.files).outcome with
  | error e =>
    obtain ⟨log, -, hrun⟩ := run_of_error lib verbosity hprepare
    rw [hrun]
    rfl
  | ok prepared =>
    obtain ⟨log, -, hrun⟩ := run_of_ok lib verbosity hprepare
    rw [hrun]
    rfl

/-- A request is refused: the first step that fails is told after the log, and nothing is shown. -/
structure Refuses (lib : Library) (env : Environment) (r : PipelineRequest) (log : List Event)
    (outcome : Outcome) : Prop where
  told : ∃ step text, r.FailsFirst lib.documentFault env.files step text ∧
    outcome.stderr = lib.log log ++ tint env.coloured ["31", "1"] "Error:" ++ " " ++ text ++ "\n"
  stdout : outcome.stdout = ""
  exitCode : outcome.exitCode = 1

/-- A request is answered: no step fails, and the pipeline that is generated is shown. -/
structure Answers (lib : Library) (env : Environment) (r : PipelineRequest) (log : List Event)
    (outcome : Outcome) : Prop where
  sound : ∀ step ∈ Step.order, ∀ text, ¬r.Fails lib.documentFault env.files step text
  shown : ∃ device b overrides p, r.Gathers env.files device b overrides ∧
    (r.construct b overrides).outcome = .ok p ∧ Int.ofNat p.level.toNat = r.level ∧
    Shows env.coloured device.name (r.settings b overrides).provenance.source p r.format outcome.stdout
  stderr : outcome.stderr = lib.log log
  exitCode : outcome.exitCode = 0

theorem refuses_of_failsFirst {e : CommandError} {step : Step} {log : List Event}
    (h : r.FailsFirst lib.documentFault env.files step (e.message lib.documentFault)) :
    Refuses lib env r log
      ⟨1, "", lib.log log ++ tint env.coloured ["31", "1"] "Error:" ++ " " ++
        e.message lib.documentFault ++ "\n"⟩ :=
  ⟨⟨step, _, h, rfl⟩, rfl, rfl⟩

namespace PipelineRequest.Gathers

variable {device : DeviceRecord} {b : Backend} {o : Overrides}

/-- Where the construction fails, it is the first step that does. -/
theorem failsFirst {e : CompileError} {words : Fault → String} (h : r.Gathers files device b o)
    (hfault : r.firstFault? files = none) (he : (r.construct b o).outcome = .error e) :
    r.FailsFirst words files .construction ((CommandError.build device.name e).message words) :=
  ⟨Step.preparations, [], rfl, not_fails_of_no_fault hfault,
    .construction h he (e.says_message words)⟩

theorem answers {p : Pipeline} {log : List Event} (h : r.Gathers env.files device b o)
    (hfault : r.firstFault? env.files = none) (hp : (r.construct b o).outcome = .ok p) :
    Answers lib env r log
      ⟨0, render env.coloured r.format ⟨device, r.settings b o, p⟩, lib.log log⟩ where
  sound step hstep text := by
    rcases List.mem_append.1 hstep with hstep | hstep
    · exact not_fails_of_no_fault hfault step hstep text
    · obtain rfl := List.mem_singleton.1 hstep
      exact not_fails_construction h hp
  shown := by
    have hdispatch : (dispatch r.level (r.settings b o)).outcome = .ok p := by
      rw [← outcome_construct, hp]
    exact ⟨device, b, o, p, h, hp, (dispatch_eq_ok hdispatch).1,
      shows_render ⟨device, r.settings b o, p⟩ hdispatch env.coloured r.format⟩
  stderr := rfl
  exitCode := rfl

end PipelineRequest.Gathers

/-- A request is refused or answered. -/
theorem refuses_or_answers (lib : Library) (env : Environment) (verbosity : Nat)
    (r : PipelineRequest) :
    ∃ log, Logs r env.files verbosity log ∧
      (Refuses lib env r log (Invocation.run lib env ⟨verbosity, .pipeline r⟩) ∨
        Answers lib env r log (Invocation.run lib env ⟨verbosity, .pipeline r⟩)) := by
  cases hfault : r.firstFault? env.files with
  | some e =>
    obtain ⟨log, hlog, hrun⟩ :=
      run_of_error lib verbosity (PipelineRequest.prepare_of_fault hfault)
    obtain ⟨step, hfails⟩ := PipelineRequest.failsFirst_of_fault hfault
    rw [hrun]
    exact ⟨log, hlog, .inl (refuses_of_failsFirst hfails)⟩
  | none =>
    obtain ⟨device, b, overrides, hgathers⟩ := PipelineRequest.exists_gathers hfault
    have hprepare := PipelineRequest.prepare_of_gathers hgathers
    cases hp : (r.construct b overrides).outcome with
    | error e =>
      rw [hp] at hprepare
      obtain ⟨log, hlog, hrun⟩ := run_of_error lib verbosity hprepare
      rw [hrun]
      exact ⟨log, hlog, .inl (refuses_of_failsFirst (hgathers.failsFirst hfault hp))⟩
    | ok p =>
      rw [hp] at hprepare
      obtain ⟨log, hlog, hrun⟩ := run_of_ok lib verbosity hprepare
      rw [hrun]
      exact ⟨log, hlog, .inr (hgathers.answers hfault hp)⟩

/-- No path leads to a file. -/
def Environment.astray : Environment := ⟨none, false, fun _ => .missing⟩

/-- An unknown device is reported before a wrong flag. -/
example :
    Invocation.run .plain .astray
        ⟨0, .pipeline ⟨"fake_oslo", .target, 1, none, { routingMethod := some "x" }, .table⟩⟩ =
      ⟨1, "", "Error: Unknown device 'fake_oslo'. Available: fake_london, fake_montreal\n"⟩ := by
  decide +kernel

end PresetPipeline.CommandLine
