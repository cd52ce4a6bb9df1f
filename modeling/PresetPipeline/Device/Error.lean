import PresetPipeline.Device.Backend

/-!
# Errors of devices

* `DeviceError` — why a device cannot be described, and the message that says so.
-/

set_option autoImplicit false

namespace PresetPipeline

inductive DeviceError where
  /-- No device of the catalog has this name. -/
  | unknownDevice (name : String) (available : List String)
  /-- The records of a device disagree. -/
  | invalidRecord (device : String) (fault : RecordFault)
  | invalidCouplingMap (fault : CouplingFault)
  deriving DecidableEq, Repr

def DeviceError.message : DeviceError → String
  | .unknownDevice name available =>
    "Unknown device '" ++ name ++ "'. Available: " ++ ", ".intercalate available
  | .invalidRecord device fault => "Invalid record for device '" ++ device ++ "': " ++ fault.message
  | .invalidCouplingMap fault => "Invalid coupling map: " ++ fault.message

end PresetPipeline
