import TwinNode.Text.Blank
import TwinNode.Text.Letter
import TwinNode.Text.LowerCase
import TwinNode.Text.Digit
import TwinNode.Script.Segment
import TwinNode.Markup.Block
import TwinNode.Scan.Phrase
import TwinNode.Text.Utf8
import TwinNode.Json.Reader
import TwinNode.Json.Printer
import TwinNode.Path.Reference
import TwinNode.Path.Location
import TwinNode.Glob
import TwinNode.Package.Discovery
import TwinNode.Settings.Decode
import TwinNode.Settings.File
import TwinNode.Diagnostic.Order
import TwinNode.Declaration.Extraction
import TwinNode.Validation
import TwinNode.Report.Document
import TwinNode.Report.Text
import TwinNode.CommandLine
import TwinNode.Main
import TwinNode.Proofs.Text.Absence
import TwinNode.Proofs.Text.Encoding
import TwinNode.Proofs.Text.LowerCase
import TwinNode.Proofs.Text.PlainName
import TwinNode.Proofs.Text.Utf8
import TwinNode.Proofs.Path.Ending
import TwinNode.Proofs.Path.Join
import TwinNode.Proofs.Path.Name
import TwinNode.Proofs.Path.Segments
import TwinNode.Proofs.Path.Spelling
import TwinNode.Proofs.Path.Suffix
import TwinNode.Proofs.Path.Winding
import TwinNode.Proofs.Json.Calls
import TwinNode.Proofs.Json.DistinctKeys
import TwinNode.Proofs.Json.Excess
import TwinNode.Proofs.Json.ReadBack
import TwinNode.Proofs.Script.Continued
import TwinNode.Proofs.Script.Inside
import TwinNode.Proofs.Script.Line
import TwinNode.Proofs.Script.ReadBack
import TwinNode.Proofs.Script.Shows
import TwinNode.Proofs.Script.Uncommented
import TwinNode.Proofs.Markup.Attribute
import TwinNode.Proofs.Markup.Block
import TwinNode.Proofs.Markup.Registration
import TwinNode.Proofs.Markup.Rescan
import TwinNode.Proofs.Scan.Brace
import TwinNode.Proofs.Scan.Masking
import TwinNode.Proofs.Scan.Occurrence
import TwinNode.Proofs.Scan.Phrase
import TwinNode.Proofs.Scan.Search
import TwinNode.Proofs.Scan.Window
import TwinNode.Proofs.Diagnostic.Order
import TwinNode.Proofs.Diagnostic.Place
import TwinNode.Proofs.Diagnostic.StableSort
import TwinNode.Proofs.FileSystem.Addition
import TwinNode.Proofs.FileSystem.Reordered
import TwinNode.Proofs.FileSystem.Replacement
import TwinNode.Proofs.Settings.Accepted
import TwinNode.Proofs.Settings.File
import TwinNode.Proofs.Declaration.Argument
import TwinNode.Proofs.Declaration.Facts
import TwinNode.Proofs.Declaration.Identity
import TwinNode.Proofs.Declaration.Inside
import TwinNode.Proofs.Declaration.Layout
import TwinNode.Proofs.Declaration.Location
import TwinNode.Proofs.Declaration.StaticBlock
import TwinNode.Proofs.Package.Addition
import TwinNode.Proofs.Package.Contents
import TwinNode.Proofs.Package.Counterparts
import TwinNode.Proofs.Package.Damaged
import TwinNode.Proofs.Package.DamagedUnits
import TwinNode.Proofs.Package.Faithful
import TwinNode.Proofs.Package.Found
import TwinNode.Proofs.Package.Grouping
import TwinNode.Proofs.Package.JsonFile
import TwinNode.Proofs.Package.Kind
import TwinNode.Proofs.Package.Loading
import TwinNode.Proofs.Package.LocaleOwner
import TwinNode.Proofs.Package.Narrowing
import TwinNode.Proofs.Package.Outline
import TwinNode.Proofs.Package.Pairing
import TwinNode.Proofs.Package.Partners
import TwinNode.Proofs.Package.Pruning
import TwinNode.Proofs.Package.Respelled
import TwinNode.Proofs.Package.Search
import TwinNode.Proofs.Package.Sized
import TwinNode.Proofs.Package.Slots
import TwinNode.Proofs.Package.Uncommented
import TwinNode.Proofs.Package.Units
import TwinNode.Proofs.Package.Unreferenced
import TwinNode.Proofs.Rule.Advice
import TwinNode.Proofs.Rule.Damaged
import TwinNode.Proofs.Rule.Descriptor
import TwinNode.Proofs.Rule.Identity
import TwinNode.Proofs.Rule.LocaleBundles
import TwinNode.Proofs.Rule.Mandatory
import TwinNode.Proofs.Rule.Manifest
import TwinNode.Proofs.Rule.Mismatch
import TwinNode.Proofs.Rule.NodeMap
import TwinNode.Proofs.Rule.Outline
import TwinNode.Proofs.Rule.Places
import TwinNode.Proofs.Rule.Presence
import TwinNode.Proofs.Rule.Quiet
import TwinNode.Proofs.Rule.Reference
import TwinNode.Proofs.Rule.Registration
import TwinNode.Proofs.Rule.Reordered
import TwinNode.Proofs.Rule.ReorderedNames
import TwinNode.Proofs.Rule.Reported
import TwinNode.Proofs.Rule.Respelled
import TwinNode.Proofs.Rule.Settings
import TwinNode.Proofs.Validation.Advice
import TwinNode.Proofs.Validation.Batch
import TwinNode.Proofs.Validation.Contribution
import TwinNode.Proofs.Validation.Damaged
import TwinNode.Proofs.Validation.Disabled
import TwinNode.Proofs.Validation.LeftOut
import TwinNode.Proofs.Validation.Reordered
import TwinNode.Proofs.Validation.Strict
import TwinNode.Proofs.Validation.Uncommented
import TwinNode.Proofs.CommandLine.Roots
import TwinNode.Proofs.TwinPackage.Artifacts
import TwinNode.Proofs.TwinPackage.DeviceScript
import TwinNode.Proofs.TwinPackage.Discovery
import TwinNode.Proofs.TwinPackage.Files
import TwinNode.Proofs.TwinPackage.MarkupText
import TwinNode.Proofs.TwinPackage.Paths
import TwinNode.Proofs.TwinPackage.Rules
import TwinNode.Proofs.TwinPackage.Verdict
