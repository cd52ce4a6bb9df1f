import PresetPipeline.Json.Value
import PresetPipeline.Pipeline.Basic
import PresetPipeline.Settings.Error

/-!
# The log of a run

What is logged while a pipeline is made, and runs that carry their log.

* `Event` — one entry of the log, by its meaning. `Event.severity` — how much it matters.
* `Event.toJson` — the entry with its fields.
* `LogFilter` — which entries are written.
* `Run` — a result or an error, after the events that led to it.
-/

set_option autoImplicit false

namespace PresetPipeline

inductive Event where
  /-- A device of the catalog has been read. -/
  | loaded (device : String) (pulseDefaults : Bool)
  /-- The overrides of a file have been read. -/
  | overridesLoaded (path : String)
  /-- The making of a pipeline begins. -/
  | generating (level : Int)
  /-- The resolution of the settings begins. -/
  | resolving (target backend : Option String)
  | resolved (field : DerivedField) (source : Source)
  /-- The choice of a level begins. -/
  | dispatching (level : Int)
  | pluginConfigIgnored
  | built (level : Level) (stages passes : Nat)
  | dispatched (level : Level) (kinds : List StageKind)
  deriving DecidableEq, Repr

/-- The name of a kind of stage with a capital. -/
def StageKind.title : StageKind → String
  | .init => "Init"
  | .layout => "Layout"
  | .routing => "Routing"
  | .translation => "Translation"
  | .optimization => "Optimization"
  | .scheduling => "Scheduling"

/-- How much an entry matters. -/
inductive Severity where
  | debug
  | info
  | warn
  deriving DecidableEq, Repr

namespace Severity

def name : Severity → String
  | debug => "DEBUG"
  | info => "INFO"
  | warn => "WARN"

/-- The place of a severity, the least first. -/
def rank : Severity → Nat
  | debug => 1
  | info => 2
  | warn => 3

end Severity

namespace Event

/-- The parts of a run that begin are told of like what has been done for the user. -/
def severity : Event → Severity
  | pluginConfigIgnored => .warn
  | generating _ | resolving _ _ | dispatching _ | dispatched _ _ => .info
  | loaded _ _ | overridesLoaded _ | resolved _ _ | built _ _ _ => .debug

/-- The entry of a part of the run that begins. -/
def spanJson (name : String) (fields : List (String × Json)) : Json :=
  .object [("span", .string name), ("fields", .object fields)]

/-- The entry of something that has happened. -/
def messageJson (e : Event) (message : String) (fields : List (String × Json)) : Json :=
  .object [("level", .string e.severity.name),
    ("fields", .object (("message", .string message) :: fields))]

def toJson (e : Event) : Json :=
  match e with
  | loaded device pulseDefaults =>
    e.messageJson "Loaded fake backend records"
      [("device", .string device), ("pulse_defaults", .bool pulseDefaults)]
  | overridesLoaded path => e.messageJson "Loaded override file" [("path", .string path)]
  | generating level => spanJson "generate_pipeline" [("optimization_level", .ofInt level)]
  | resolving target backend =>
    spanJson "resolve" ([target.map fun s => ("target", Json.string s),
      backend.map fun s => ("backend", Json.string s)].filterMap id)
  | resolved field source =>
    e.messageJson "Resolved derived field"
      [("field", .string field.name), ("source", .string source.name)]
  | dispatching level => spanJson "dispatch" [("level", .ofInt level)]
  | pluginConfigIgnored =>
    e.messageJson "unitary_synthesis_plugin_config is ignored by the default synthesis method" []
  | built level stages passes =>
    e.messageJson "Built preset pipeline"
      [("level", .string (toString level)), ("stages", .ofNat stages), ("passes", .ofNat passes)]
  | dispatched level kinds =>
    e.messageJson "Dispatched preset pipeline"
      [("level", .string (toString level)),
        ("stages", .string ("[" ++ ", ".intercalate (kinds.map StageKind.title) ++ "]"))]

end Event

/-- Which entries are written: those of a severity and all that matter more. -/
inductive LogFilter where
  | warn
  | info
  | debug
  | trace
  deriving DecidableEq, Repr

namespace LogFilter

/-- The filter after asking a number of times for more. -/
def ofVerbosity : Nat → LogFilter
  | 0 => .warn
  | 1 => .info
  | 2 => .debug
  | _ => .trace

/-- The rank from which entries are written. -/
def least : LogFilter → Nat
  | trace => 0
  | debug => 1
  | info => 2
  | warn => 3

def admits (filter : LogFilter) (e : Event) : Bool := filter.least ≤ e.severity.rank

end LogFilter

/-- A result or an error, and the events on the way to it. -/
structure Run (ε α : Type) where
  events : List Event
  outcome : Except ε α

namespace Run

variable {ε α β : Type}

/-- A result without events. -/
def done (a : α) : Run ε α := ⟨[], .ok a⟩

/-- An error without events. -/
def fail (e : ε) : Run ε α := ⟨[], .error e⟩

def lift (outcome : Except ε α) : Run ε α := ⟨[], outcome⟩

def emit (events : List Event) : Run ε Unit := ⟨events, .ok ()⟩

/-- The same run with its error in other terms. -/
def mapError {ε' : Type} (f : ε → ε') (r : Run ε α) : Run ε' α := ⟨r.events, r.outcome.mapError f⟩

/-- Goes on with the result, if there is one. -/
def bind (r : Run ε α) (f : α → Run ε β) : Run ε β :=
  match r.outcome with
  | .error e => ⟨r.events, .error e⟩
  | .ok a => ⟨r.events ++ (f a).events, (f a).outcome⟩

instance : Monad (Run ε) where
  pure := done
  bind := bind

theorem outcome_bind (r : Run ε α) (f : α → Run ε β) :
    (r >>= f).outcome = r.outcome.bind fun a => (f a).outcome := by
  cases r with
  | mk events outcome => cases outcome <;> rfl

@[simp] theorem outcome_lift (outcome : Except ε α) : (lift outcome).outcome = outcome := rfl

@[simp] theorem outcome_emit (events : List Event) :
    (emit events : Run ε Unit).outcome = .ok () := rfl

@[simp] theorem outcome_fail (e : ε) : (fail e : Run ε α).outcome = .error e := rfl

@[simp] theorem outcome_mapError {ε' : Type} (f : ε → ε') (r : Run ε α) :
    (r.mapError f).outcome = r.outcome.mapError f := rfl

@[simp] theorem outcome_done (a : α) : (done a : Run ε α).outcome = .ok a := rfl

end Run

end PresetPipeline
