import Relocation.AddressConstant
import Relocation.AddressingMode
import Relocation.Adjustment
import Relocation.CommandLine.Execute
import Relocation.CommandLine.Files
import Relocation.CommandLine.Options
import Relocation.CommandLine.Report
import Relocation.CommandLine.Scan
import Relocation.CommandLine.UsageError
import Relocation.Doubleword
import Relocation.Field
import Relocation.Image
import Relocation.Journal
import Relocation.Journal.Building
import Relocation.Journal.Filter
import Relocation.Journal.Running
import Relocation.Listing
import Relocation.Main
import Relocation.Pattern
import Relocation.Pattern.Bracket
import Relocation.Pattern.Escape
import Relocation.Pattern.Fault
import Relocation.Pattern.Group
import Relocation.Pattern.Nesting
import Relocation.Pattern.Position
import Relocation.Pattern.Reader
import Relocation.Pattern.Survey
import Relocation.Pattern.Tree
import Relocation.ProgramCheck
import Relocation.Proofs.Acceptance
import Relocation.Proofs.AddressArithmetic
import Relocation.Proofs.AddressMoves
import Relocation.Proofs.AddressText
import Relocation.Proofs.Atomicity
import Relocation.Proofs.Bounds
import Relocation.Proofs.Building
import Relocation.Proofs.ConstantText
import Relocation.Proofs.DisjointFields
import Relocation.Proofs.DraftCalls
import Relocation.Proofs.EndToEnd
import Relocation.Proofs.EntryCodec
import Relocation.Proofs.FieldAccess
import Relocation.Proofs.HeaderLayout
import Relocation.Proofs.HeaderSnapshot
import Relocation.Proofs.ListedEntries
import Relocation.Proofs.ListingText
import Relocation.Proofs.LocatedHeader
import Relocation.Proofs.MaskSelection
import Relocation.Proofs.ModeBit
import Relocation.Proofs.NarrowReading
import Relocation.Proofs.Narrowing
import Relocation.Proofs.NullRelocation
import Relocation.Proofs.Numerals
import Relocation.Proofs.PatchOrder
import Relocation.Proofs.Patching
import Relocation.Proofs.Registers
import Relocation.Proofs.Relocate
import Relocation.Proofs.RepeatedFields
import Relocation.Proofs.Replay
import Relocation.Proofs.RoundTrip
import Relocation.Proofs.SingleUse
import Relocation.Proofs.Storage
import Relocation.Proofs.Survey
import Relocation.Proofs.TablePlacement
import Relocation.Proofs.WidthCeiling
import Relocation.Region
import Relocation.Registers
import Relocation.Run.Disposition
import Relocation.Run.Patch
import Relocation.Run.Refusal
import Relocation.Run.Relocate
import Relocation.Run.Survey
import Relocation.Storage
import Relocation.Table.BuildError
import Relocation.Table.Draft
import Relocation.Table.Entry
import Relocation.Table.Header
import Relocation.Table.Status
import Relocation.Text.Address
import Relocation.Text.Alphanumeric
import Relocation.Text.Blank
import Relocation.Text.Bytes
import Relocation.Text.Numeral
import Relocation.Text.Real
import Relocation.Text.Split
