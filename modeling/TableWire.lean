import TableWire.CommandLine.Folder
import TableWire.Main
import TableWire.Proofs.Buffer
import TableWire.Proofs.Catalog
import TableWire.Proofs.Codecs
import TableWire.Proofs.Decoded
import TableWire.Proofs.Encoding
import TableWire.Proofs.Extension
import TableWire.Proofs.Grammar
import TableWire.Proofs.Growth
import TableWire.Proofs.Header
import TableWire.Proofs.Inflation
import TableWire.Proofs.Names
import TableWire.Proofs.Partition
import TableWire.Proofs.Reading
import TableWire.Proofs.Record
import TableWire.Proofs.Reencoding
import TableWire.Proofs.Registry
import TableWire.Proofs.Resolution
import TableWire.Proofs.RoundTrip
import TableWire.Proofs.Safety
import TableWire.Proofs.Scanning
import TableWire.Proofs.Session
import TableWire.Proofs.Steps
import TableWire.Proofs.Targets
import TableWire.Proofs.Totality
import TableWire.Proofs.Truncation
import TableWire.Proofs.Writing
import TableWire.Samples
import TableWire.Session
import TableWire.Wire.OneLine
import TableWire.Wire.Read
import TableWire.Wire.RecordJson
import TableWire.Proofs.Bindings
import TableWire.Proofs.History
import TableWire.Proofs.References
import TableWire.Proofs.Uniqueness
import TableWire.Proofs.Tiling
import TableWire.Proofs.Formatting
import TableWire.Proofs.Placement
import TableWire.Proofs.Offsets
import TableWire.Proofs.Faults
import TableWire.Proofs.Spelling
import TableWire.Proofs.Numbering
import TableWire.Proofs.ModuleLiteral
import TableWire.Proofs.IntegerStore
