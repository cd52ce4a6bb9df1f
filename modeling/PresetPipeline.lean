import PresetPipeline.Collection.SortedMap
import PresetPipeline.Decimal.Style
import PresetPipeline.Decimal.Literal
import PresetPipeline.Text.Blank
import PresetPipeline.Text.LetterCase
import PresetPipeline.Text.Hexadecimal
import PresetPipeline.Json.Printer
import PresetPipeline.Json.Reader
import PresetPipeline.Document.Record
import PresetPipeline.Json.Document
import PresetPipeline.Device.Catalog
import PresetPipeline.Device.Reading
import PresetPipeline.Device.Writing
import PresetPipeline.Pipeline.Writing
import PresetPipeline.Settings.Method
import PresetPipeline.Settings.Degree
import PresetPipeline.Settings.Layout
import PresetPipeline.Settings.Resolve
import PresetPipeline.Settings.Reading
import PresetPipeline.Preset.Generate
import PresetPipeline.Yaml.Token
import PresetPipeline.Yaml.Token.Scalar
import PresetPipeline.Yaml.Untyped
import PresetPipeline.Yaml.Printer
import PresetPipeline.CommandLine.Run
import PresetPipeline.Main
import PresetPipeline.Proofs.Device.Projection
import PresetPipeline.Proofs.Device.Conversion
import PresetPipeline.Proofs.Preset.Failure
import PresetPipeline.Proofs.Settings.Precedence
import PresetPipeline.Proofs.Device.Durations
import PresetPipeline.Proofs.Device.Calibration
import PresetPipeline.Proofs.Preset.Composition
import PresetPipeline.Proofs.Preset.Skeleton
import PresetPipeline.Proofs.Preset.DeviceData
import PresetPipeline.Proofs.Preset.Feeding
import PresetPipeline.Proofs.Preset.Basis
import PresetPipeline.Proofs.Preset.Sources
import PresetPipeline.Proofs.Settings.Placement
import PresetPipeline.Proofs.Settings.Layering
import PresetPipeline.Proofs.Device.Connectivity
import PresetPipeline.Proofs.Device.Properties
import PresetPipeline.Proofs.Device.Readout
import PresetPipeline.Proofs.Preset.Levels
import PresetPipeline.Proofs.Preset.Influence
import PresetPipeline.Proofs.Device.Relisting
import PresetPipeline.Proofs.Preset.Rearrangement
import PresetPipeline.Proofs.Settings.PairLists
import PresetPipeline.Proofs.Device.Record
import PresetPipeline.Proofs.Settings.Fitting
import PresetPipeline.Proofs.Device.Symmetry
import PresetPipeline.Proofs.Preset.Vocabulary
import PresetPipeline.Proofs.Preset.Direction
import PresetPipeline.Proofs.Device.Acceptance
import PresetPipeline.Proofs.Device.DurationRecords
import PresetPipeline.Proofs.Settings.FlagsAndDocuments
import PresetPipeline.Proofs.Preset.Log
import PresetPipeline.Proofs.Pipeline.Lossless
import PresetPipeline.Proofs.Device.CatalogNames
import PresetPipeline.Proofs.Settings.SynthesisNames
import PresetPipeline.Proofs.Settings.Wording
import PresetPipeline.Proofs.Json.Printing
import PresetPipeline.Proofs.Yaml.Printing
import PresetPipeline.Proofs.CommandLine.Outcome
import PresetPipeline.Proofs.Device.Nesting
