import FirmwareKit.Main
import FirmwareKit.Proofs.Check.Exact
import FirmwareKit.Proofs.Patch.Forecast
import FirmwareKit.Proofs.Patch.Once
import FirmwareKit.Proofs.Patch.Builds
import FirmwareKit.Proofs.Patch.Resumption
import FirmwareKit.Proofs.Config.Loading
import FirmwareKit.Proofs.Check.Priority
import FirmwareKit.Proofs.Check.Silence
import FirmwareKit.Proofs.Files.Lexical
import FirmwareKit.Proofs.Config.Nearest
import FirmwareKit.Proofs.Files.Rewritten
import FirmwareKit.Proofs.Check.Repair
import FirmwareKit.Proofs.Json.Layout
import FirmwareKit.Proofs.Config.Written
import FirmwareKit.Proofs.Files.Directories
import FirmwareKit.Proofs.Check.Irrelevant
import FirmwareKit.Proofs.Init.Neutral
import FirmwareKit.Proofs.Text.ByteOrder
import FirmwareKit.Proofs.Files.Descent
import FirmwareKit.Proofs.Sources.Order
import FirmwareKit.Proofs.Usage.Written
import FirmwareKit.Proofs.Usage.Plain
import FirmwareKit.Proofs.Json.Record
import FirmwareKit.Proofs.Config.Spellings
import FirmwareKit.Proofs.Table.Order
import FirmwareKit.Proofs.Usage.Linewise
import FirmwareKit.Proofs.Issue.Exemption
import FirmwareKit.Proofs.Report.Excerpt
import FirmwareKit.Proofs.Table.Keys
import FirmwareKit.Proofs.Report.Colours
import FirmwareKit.Proofs.Config.Search
