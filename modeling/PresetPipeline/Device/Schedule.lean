import PresetPipeline.Device.Qubits

/-!
# Pulse schedules

The timed pulses that implement an operation on a tuple of qubits. Times are in units of the sample
time of the device.

* `Pulse`, `Schedule` — a pulse on a channel, and a sequence of pulses.
* `ScheduleMap` — the schedule of each calibrated instruction.
-/

set_option autoImplicit false

namespace PresetPipeline

/-- A pulse, a frame change or an acquisition on a channel. -/
structure Pulse where
  name : String
  channel : String
  start : UInt64
  /-- Zero for a frame change. -/
  length : UInt64
  deriving DecidableEq, Repr

/-- The time at which a pulse has ended. -/
def Pulse.stop (p : Pulse) : Nat := p.start.toNat + p.length.toNat

structure Schedule where
  pulses : List Pulse
  deriving DecidableEq, Repr

namespace Schedule

/-- The time at which the last pulse has ended. -/
def duration (s : Schedule) : Nat := s.pulses.foldl (fun t p => max t p.stop) 0

/-- The channels that have a pulse, in increasing order. -/
def channels (s : Schedule) : List String := sortUnique (s.pulses.map (·.channel))

end Schedule

abbrev ScheduleMap := SortedMap Instruction Schedule

end PresetPipeline
