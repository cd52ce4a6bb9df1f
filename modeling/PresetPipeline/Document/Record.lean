import PresetPipeline.Document.View

/-!
# Records in documents

A record is read field by field in the order of the text, starting from its default values.

* `Field` — a field: its name, whether it must be present, and how it is read.
* `RecordShape` — the fields of a kind of record, and its default values.
* `RecordShape.read` — reads a mapping, or a list of the fields where the format allows it.
-/

set_option autoImplicit false

namespace PresetPipeline

/-- A field of the records `ρ`. -/
structure Field (δ ρ : Type) where
  name : String
  required : Bool
  fill : δ → ρ → Nat → Counted ρ

variable {δ ρ α : Type} [Document δ]

/-- A field that is read by `read` and stored by `put`. -/
def Field.of (name : String) (required : Bool) (read : Reader δ α) (put : α → ρ → ρ) :
    Field δ ρ :=
  ⟨name, required, fun d r n =>
    match read d n with
    | .error e => .error e
    | .ok (a, n) => .ok (put a r, n)⟩

/-- A field that must be present. -/
def Field.must (name : String) (read : Reader δ α) (put : α → ρ → ρ) : Field δ ρ :=
  .of name true read put

/-- A field that keeps its default value when it is absent. -/
def Field.may (name : String) (read : Reader δ α) (put : α → ρ → ρ) : Field δ ρ :=
  .of name false read put

/-- A kind of record. -/
structure RecordShape (δ ρ : Type) where
  fields : List (Field δ ρ)
  defaults : ρ
  /-- Whether a field of another name is a fault; otherwise it is skipped. -/
  strict : Bool

namespace RecordShape

/-- The first field that must be present and is not among those seen. -/
def missing? (shape : RecordShape δ ρ) (seen : List String) : Option String :=
  (shape.fields.find? fun f => f.required && !seen.contains f.name).map (·.name)

/-- Fills in the entries of a mapping, in their order. -/
def fillEntries (shape : RecordShape δ ρ) (closed : Bool) :
    List String → ρ → List (δ × δ) → Nat → Counted ρ
  | seen, r, [], n =>
    match atEnd closed r with
    | .error e => .error e
    | .ok r =>
      match shape.missing? seen with
      | some name => .error (.missingField name)
      | none => .ok (r, n)
  | seen, r, (k, d) :: rest, n =>
    match readText k n with
    | .error e => .error e
    | .ok (name, n) =>
      match shape.fields.find? fun f => f.name == name with
      | none =>
        if shape.strict then .error (.unknownField name)
        else fillEntries shape closed seen r rest n
      | some field =>
        if seen.contains name then .error (.duplicateField name)
        else
          match field.fill d r n with
          | .error e => .error e
          | .ok (r, n) => fillEntries shape closed (name :: seen) r rest n

/-- Fills in a list of fields in the order of declaration. -/
def fillItems (closed : Bool) : List (Field δ ρ) → List δ → ρ → Nat → Counted ρ
  | [], [], r, n => atEnd closed (r, n)
  | [], _ :: _, _, _ => .error (tooLong δ closed)
  | f :: fields, [], r, n =>
    if !closed then .error .malformed
    else if f.required then .error .invalidLength
    else fillItems closed fields [] r n
  | f :: fields, d :: rest, r, n =>
    match f.fill d r n with
    | .error e => .error e
    | .ok (r, n) => fillItems closed fields rest r n

/-- Reads a record. -/
def read (shape : RecordShape δ ρ) : Reader δ ρ := fun d n =>
  match Document.resolve d n with
  | .error e => .error e
  | .ok (d, n) =>
    match Document.view d with
    | .mapping entries closed => shape.fillEntries closed [] shape.defaults entries n
    | .list items closed =>
      if Document.positional δ then fillItems closed shape.fields items shape.defaults n
      else .error .invalidType
    | .scalar =>
      if Document.isBlank d then shape.fillEntries true [] shape.defaults [] n
      else .error (Document.mismatch d)
    | .broken => .error .malformed

end RecordShape

end PresetPipeline
