import DataSection.Section.Cursor
import DataSection.Section.Lookup
import DataSection.Settings.Basic
import DataSection.Value.Access
import DataSection.Value.Equality
import DataSection.Value.Inspect
import DataSection.Value.Json
import DataSection.Value.Measure
import DataSection.Value.Path
import DataSection.Value.Strings
import DataSection.Writer
import DataSection.Proofs.Section.Item
import DataSection.Proofs.Section.Extent
import DataSection.Proofs.Section.Lookup
import DataSection.Proofs.Encoding.Header
import DataSection.Proofs.Encoding.Parts
import DataSection.Proofs.Encoding.RoundTrip
import DataSection.Proofs.Dictionary
import DataSection.Proofs.Section.Grammar
import DataSection.Proofs.Encoding.Size
import DataSection.Proofs.Encoding.WriteBack
import DataSection.Proofs.Section.Relocation
import DataSection.Proofs.Encoding.Pointer
import DataSection.Proofs.Section.Items
import DataSection.Proofs.Writer.Log
import DataSection.Proofs.Writer.Reading
import DataSection.Proofs.Section.Extension
import DataSection.Proofs.Section.Limit
import DataSection.Proofs.Section.PointerChain
import DataSection.Proofs.Section.Cycle
import DataSection.Proofs.Section.Cause
import DataSection.Proofs.Machine.Checked
import DataSection.Proofs.Dictionary.Indexed
import DataSection.Proofs.Dictionary.History
import DataSection.Proofs.Machine.Reader
import DataSection.Proofs.Machine.Parts
import DataSection.Proofs.Machine.Loops
import DataSection.Proofs.Machine.Agreement
import DataSection.Proofs.Binary
import DataSection.Proofs.Value.Equality
import DataSection.Proofs.Section.Below
import DataSection.Proofs.Encoding.Shortest
import DataSection.Proofs.Encoding.Canonical
import DataSection.Proofs.Writer.Refusal
import DataSection.Proofs.Section.Tiling
import DataSection.Proofs.Section.Composition
import DataSection.Proofs.Text.Numeral
import DataSection.Proofs.Section.TextPath
import DataSection.Proofs.Text.Utf8
import DataSection.Proofs.Value.Strings
import DataSection.Proofs.Traversal.Routine
import DataSection.Proofs.Traversal.Skipping
import DataSection.Proofs.Traversal.Levels
import DataSection.Proofs.Traversal.Termination
import DataSection.Proofs.Encoding.HeaderForms
import DataSection.Proofs.Encoding.PointerForms
import DataSection.Proofs.Value.Nodes
import DataSection.Proofs.Section.Nodes
import DataSection.Proofs.Section.Amplification
import DataSection.Proofs.Traversal.Limit
import DataSection.Proofs.Traversal.Composition
