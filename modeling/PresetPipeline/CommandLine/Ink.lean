/-!
# Coloured text

* `Ink` — a colour and an emphasis, each of them optional.
* `Ink.paint` — a text between the codes that a terminal reads as its ink.
-/

set_option autoImplicit false

namespace PresetPipeline.CommandLine

inductive Colour where
  | red
  | green
  | yellow
  | blue
  | cyan
  deriving DecidableEq, Repr

def Colour.code : Colour → Nat
  | .red => 31
  | .green => 32
  | .yellow => 33
  | .blue => 34
  | .cyan => 36

inductive Emphasis where
  | bold
  | dim
  deriving DecidableEq, Repr

def Emphasis.code : Emphasis → Nat
  | .bold => 1
  | .dim => 2

structure Ink where
  colour : Option Colour
  emphasis : Option Emphasis
  deriving DecidableEq, Repr

namespace Ink

def ofColour (c : Colour) : Ink := ⟨some c, none⟩

def boldOf (c : Colour) : Ink := ⟨some c, some .bold⟩

def bold : Ink := ⟨none, some .bold⟩

def dim : Ink := ⟨none, some .dim⟩

/-- The codes of an ink, the colour first. -/
def codes (ink : Ink) : List Nat :=
  (ink.colour.map Colour.code).toList ++ (ink.emphasis.map Emphasis.code).toList

def escape (code : Nat) : String := "\x1b[" ++ toString code ++ "m"

/-- A text in an ink, if text is coloured at all. The empty text gets its codes too. -/
def paint (ink : Ink) (coloured : Bool) (text : String) : String :=
  if coloured then String.join (ink.codes.map escape) ++ text ++ escape 0 else text

end Ink

end PresetPipeline.CommandLine
