import PresetPipeline.Decimal.Literal
import PresetPipeline.Settings.Document

/-!
# Command line arguments

The first argument that is no option names a command. Options are written with their name after two
dashes, or with a letter after one; a value follows as the next argument, or is attached.

* `Request`, `Invocation` — what a command line asks for, and how much is logged meanwhile.
* `Ending` — why a command line asks for nothing: it is wrong, or only text is to be shown.
* `Invocation.parse` — reads a command line, from left to right, up to the first error.
-/

set_option autoImplicit false

namespace PresetPipeline.CommandLine

/-- Which descriptions of a device are handed over. -/
inductive DescriptorChoice where
  | target
  | backend
  | both
  deriving DecidableEq, Repr

namespace DescriptorChoice

def ofName? (s : String) : Option DescriptorChoice :=
  [("target", target), ("backend", backend), ("both", both)].lookup s

def hasTarget : DescriptorChoice → Bool
  | target | both => true
  | backend => false

def hasBackend : DescriptorChoice → Bool
  | backend | both => true
  | target => false

end DescriptorChoice

/-- How a pipeline is shown. -/
inductive OutputFormat where
  | table
  | json
  | yaml
  deriving DecidableEq, Repr

def OutputFormat.ofName? (s : String) : Option OutputFormat :=
  [("table", OutputFormat.table), ("json", .json), ("yaml", .yaml)].lookup s

/-- The request for a pipeline. -/
structure PipelineRequest where
  device : String
  descriptors : DescriptorChoice
  level : Int
  /-- The path of a document of overrides. -/
  config : Option String
  flags : OverrideFlags
  format : OutputFormat

inductive Request where
  | pipeline (request : PipelineRequest)
  | devices
  | version

/-- A request, and how often more entries of the log were asked for. -/
structure Invocation where
  verbosity : Nat
  request : Request

/-- The options that take a value. -/
inductive OptionKey where
  | device
  | descriptor
  | level
  | config
  | layoutMethod
  | routingMethod
  | translationMethod
  | schedulingMethod
  | synthesisMethod
  | initialLayout
  | degree
  | seed
  | format
  deriving DecidableEq, Repr

namespace OptionKey

def all : List OptionKey :=
  [device, descriptor, level, config, layoutMethod, routingMethod, translationMethod,
    schedulingMethod, synthesisMethod, initialLayout, degree, seed, format]

def name : OptionKey → String
  | device => "device"
  | descriptor => "descriptor"
  | level => "optimization-level"
  | config => "config"
  | layoutMethod => "layout-method"
  | routingMethod => "routing-method"
  | translationMethod => "translation-method"
  | schedulingMethod => "scheduling-method"
  | synthesisMethod => "unitary-synthesis-method"
  | initialLayout => "initial-layout"
  | degree => "approximation-degree"
  | seed => "seed"
  | format => "format"

/-- The letter of an option that has one. -/
def letter? : OptionKey → Option Char
  | device => some 'd'
  | level => some 'O'
  | config => some 'c'
  | format => some 'f'
  | _ => none

end OptionKey

inductive UsageError where
  | missingCommand
  | unknownCommand (name : String)
  | unexpectedArgument (argument : String)
  | missingValue (key : OptionKey)
  | invalidValue (key : OptionKey)
  /-- An option that can be given once is given again. -/
  | repeatedOption (key : OptionKey)
  | missingDevice
  deriving DecidableEq, Repr

def UsageError.message : UsageError → String
  | .missingCommand => "a command is required: pipeline, devices, version or help"
  | .unknownCommand name => "unknown command '" ++ name ++ "'"
  | .unexpectedArgument argument => "unexpected argument '" ++ argument ++ "'"
  | .missingValue key => "a value is required for '--" ++ key.name ++ "'"
  | .invalidValue key => "invalid value for '--" ++ key.name ++ "'"
  | .repeatedOption key => "'--" ++ key.name ++ "' cannot be given more than once"
  | .missingDevice => "'--device' is required"

/-- Why nothing is left to do after the arguments. -/
inductive Ending where
  | usage (error : UsageError)
  | help
  /-- The name and the version on one line. -/
  | banner
  deriving DecidableEq, Repr

/-! ## Values of options -/

/-- A signed number of 64 bits. -/
def level? (s : String) : Option Int :=
  (Decimal.parseWhole? s).filter fun n => -Int.pow 2 63 ≤ n && n < Int.pow 2 63

/-- An unsigned number of 64 bits, without a minus sign. -/
def seed? (s : String) : Option UInt64 :=
  if s.startsWith "-" then none
  else ((Decimal.parseWhole? s).filter fun n => n < Int.pow 2 64).map fun n => n.toNat.toUInt64

def qubit? (s : String) : Option Qubit :=
  ((Decimal.parseWhole? s).filter fun n => 0 ≤ n && n < Int.pow 2 32).map fun n => n.toNat.toUInt32

/-- Qubits between commas. -/
def qubits? (s : String) : Option (List Qubit) := (s.splitOn ",").mapM qubit?

/-- A path is not empty. -/
def path? (s : String) : Option String := if s.isEmpty then none else some s

/-! ## The options of a command line -/

/-- The options that have been read. -/
structure Draft where
  verbosity : Nat := 0
  device : Option String := none
  descriptors : Option DescriptorChoice := none
  level : Option Int := none
  config : Option String := none
  flags : OverrideFlags := {}
  format : Option OutputFormat := none

/-- The value of an option that can be given once. -/
def once {α : Type} (key : OptionKey) (before : Option α) (value : Option α) :
    Except UsageError (Option α) :=
  match before, value with
  | some _, _ => .error (.repeatedOption key)
  | none, none => .error (.invalidValue key)
  | none, some a => .ok (some a)

/-- The value of an option that adds to its earlier values. -/
def more {α : Type} (key : OptionKey) (before : Option (List α)) (value : Option (List α)) :
    Except UsageError (Option (List α)) :=
  match value with
  | none => .error (.invalidValue key)
  | some l => .ok (some (before.getD [] ++ l))

/-- Stores the value of an option. -/
def Draft.set (d : Draft) (key : OptionKey) (text : String) : Except UsageError Draft :=
  match key with
  | .device => (once key d.device (some text)).map fun v => { d with device := v }
  | .descriptor =>
    (once key d.descriptors (DescriptorChoice.ofName? text)).map fun v => { d with descriptors := v }
  | .level => (once key d.level (level? text)).map fun v => { d with level := v }
  | .config => (once key d.config (path? text)).map fun v => { d with config := v }
  | .layoutMethod =>
    (once key d.flags.layoutMethod (some text)).map fun v =>
      { d with flags := { d.flags with layoutMethod := v } }
  | .routingMethod =>
    (once key d.flags.routingMethod (some text)).map fun v =>
      { d with flags := { d.flags with routingMethod := v } }
  | .translationMethod =>
    (once key d.flags.translationMethod (some text)).map fun v =>
      { d with flags := { d.flags with translationMethod := v } }
  | .schedulingMethod =>
    (once key d.flags.schedulingMethod (some text)).map fun v =>
      { d with flags := { d.flags with schedulingMethod := v } }
  | .synthesisMethod =>
    (once key d.flags.synthesisMethod (some text)).map fun v =>
      { d with flags := { d.flags with synthesisMethod := v } }
  | .initialLayout =>
    (more key d.flags.initialLayout (qubits? text)).map fun v =>
      { d with flags := { d.flags with initialLayout := v } }
  | .degree =>
    (once key d.flags.degree (Decimal.parseReal? text)).map fun v =>
      { d with flags := { d.flags with degree := v } }
  | .seed =>
    (once key d.flags.seed (seed? text)).map fun v => { d with flags := { d.flags with seed := v } }
  | .format =>
    (once key d.format (OutputFormat.ofName? text)).map fun v => { d with format := v }

/-- The request of all options. The device may also be named by the environment. -/
def Draft.request (d : Draft) (defaultDevice : Option String) : Except UsageError PipelineRequest :=
  match d.device.or defaultDevice with
  | none => .error .missingDevice
  | some device =>
    .ok ⟨device, d.descriptors.getD .target, d.level.getD 1, d.config, d.flags,
      d.format.getD .table⟩

/-! ## Cutting arguments into options -/

/-- What an argument consists of. -/
inductive Piece where
  | option (key : OptionKey) (value : String)
  | verbose
  | help
  | banner
  | fault (error : UsageError)

/-- The pieces of an argument, and the option whose value is the next argument. -/
abbrev Pieces := List Piece × Option OptionKey

/-- The options that a command takes. Every command can be asked for help and for more of the log. -/
structure Grammar where
  keys : List OptionKey
  /-- Whether the version can be asked for. -/
  banner : Bool

def isOption (argument : String) : Bool := argument.startsWith "-" && argument != "-"

/-- A single piece without a value to come. -/
def onePiece (p : Piece) : Pieces := ([p], none)

/-- An option by its name, after the two dashes. -/
def Grammar.longOption (g : Grammar) (argument : String) (body : List Char) : Pieces :=
  let name := String.ofList (body.takeWhile (· != '='))
  let attached : Option String :=
    match body.dropWhile (· != '=') with
    | [] => none
    | _ :: value => some (String.ofList value)
  match g.keys.find? (·.name == name), attached with
  | some key, some value => onePiece (.option key value)
  | some key, none => ([], some key)
  | none, some _ => onePiece (.fault (.unexpectedArgument argument))
  | none, none =>
    if name = "verbose" then onePiece .verbose
    else if name = "help" then onePiece .help
    else if name = "version" ∧ g.banner then onePiece .banner
    else onePiece (.fault (.unexpectedArgument argument))

/-- Options by their letters, after the dash. The value of an option may follow its letter. -/
def Grammar.letters (g : Grammar) (argument : String) : List Char → Pieces
  | [] => ([], none)
  | c :: rest =>
    match g.keys.find? (·.letter? == some c) with
    | some key =>
      match rest with
      | [] => ([], some key)
      | '=' :: value => onePiece (.option key (String.ofList value))
      | value => onePiece (.option key (String.ofList value))
    | none =>
      if c = 'v' then
        let (read, pending) := g.letters argument rest
        (.verbose :: read, pending)
      else if c = 'h' then onePiece .help
      else if c = 'V' ∧ g.banner then onePiece .banner
      else onePiece (.fault (.unexpectedArgument argument))

/-- The pieces of an argument that is an option. -/
def Grammar.option (g : Grammar) (argument : String) : Pieces :=
  match argument.toList with
  | '-' :: '-' :: body => g.longOption argument body
  | _ :: body => g.letters argument body
  | [] => onePiece (.fault (.unexpectedArgument argument))

/-- Whether an argument can be the value of an option. Only a level may start with a dash. -/
def mayBeValue (key : OptionKey) (argument : String) : Bool :=
  !isOption argument || (key = .level && (level? argument).isSome)

/-- The pieces of the arguments after a command. `pending` is the option that waits for a value. -/
def Grammar.pieces (g : Grammar) : (pending : Option OptionKey) → List String → List Piece
  | none, [] => []
  | some key, [] => [.fault (.missingValue key)]
  | some key, a :: rest =>
    if mayBeValue key a then .option key a :: g.pieces none rest else [.fault (.missingValue key)]
  | none, a :: rest =>
    if a = "--" then rest.head?.toList.map fun b => .fault (.unexpectedArgument b)
    else if isOption a then
      let (read, pending) := g.option a
      read ++ g.pieces pending rest
    else [.fault (.unexpectedArgument a)]

/-- Stores options up to the first error, or up to where text is asked for. -/
def Draft.fill : Draft → List Piece → Except Ending Draft
  | d, [] => .ok d
  | d, .option key value :: rest =>
    match d.set key value with
    | .error e => .error (.usage e)
    | .ok d => Draft.fill d rest
  | d, .verbose :: rest => Draft.fill { d with verbosity := d.verbosity + 1 } rest
  | _, .fault e :: _ => .error (.usage e)
  | _, .help :: _ => .error .help
  | _, .banner :: _ => .error .banner

/-! ## Commands -/

/-- The names of the commands. -/
def commandNames : List String := ["pipeline", "devices", "version", "help"]

/-- A command that takes no options of its own. -/
def plainCommand (request : Request) (arguments : List String) : Except Ending Invocation :=
  (Draft.fill {} (Grammar.pieces ⟨[], false⟩ none arguments)).map fun d => ⟨d.verbosity, request⟩

def pipelineCommand (defaultDevice : Option String) (arguments : List String) :
    Except Ending Invocation :=
  match Draft.fill {} (Grammar.pieces ⟨OptionKey.all, false⟩ none arguments) with
  | .error e => .error e
  | .ok d =>
    match d.request defaultDevice with
    | .error e => .error (.usage e)
    | .ok r => .ok ⟨d.verbosity, .pipeline r⟩

/-- Help on at most one command. -/
def helpCommand : List String → Ending
  | [] => .help
  | [name] => if commandNames.contains name then .help else .usage (.unknownCommand name)
  | _ :: argument :: _ => .usage (.unexpectedArgument argument)

/-- A command with its arguments. -/
def command (defaultDevice : Option String) (name : String) (arguments : List String) :
    Except Ending Invocation :=
  if name = "pipeline" then pipelineCommand defaultDevice arguments
  else if name = "devices" then plainCommand .devices arguments
  else if name = "version" then plainCommand .version arguments
  else if name = "help" then .error (helpCommand arguments)
  else .error (.usage (.unknownCommand name))

/-- Reads a command line after options that asked `verbosity` times for more entries of the log. What
the options of the command ask for counts instead. `defaultDevice` is the device that the environment
names. -/
def Invocation.parse (defaultDevice : Option String) (verbosity : Nat) :
    List String → Except Ending Invocation
  | [] => .error (.usage .missingCommand)
  | a :: rest =>
    if a = "--" then .error (.usage .missingCommand)
    else if isOption a then
      match Draft.fill { verbosity } (Grammar.option ⟨[], true⟩ a).1 with
      | .error e => .error e
      | .ok d => Invocation.parse defaultDevice d.verbosity rest
    else
      (command defaultDevice a rest).map fun i =>
        if i.verbosity = 0 then { i with verbosity } else i

end PresetPipeline.CommandLine
