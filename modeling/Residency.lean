import Residency.Session
import Residency.Main
import Residency.Proofs.Buckets.Partition
import Residency.Proofs.Buckets.Minima
import Residency.Proofs.Conservation
import Residency.Proofs.Isolation
import Residency.Proofs.Sessions
import Residency.Proofs.Records
import Residency.Proofs.SettingsFile
import Residency.Proofs.Settings.Refusals
import Residency.Proofs.CheckedParameters
import Residency.Proofs.Buckets.Linearity
import Residency.Proofs.Totals
import Residency.Proofs.Log.Growth
import Residency.Proofs.Json.Indented
import Residency.Proofs.Json.Printable
import Residency.Proofs.Log.Lines
import Residency.Proofs.Console.Markup
import Residency.Proofs.Console.Paths
import Residency.Proofs.Console.Notices
import Residency.Proofs.CommandLine.JsonReport
import Residency.Proofs.EscapeSequences
import Residency.Proofs.Csv.Reader
import Residency.Proofs.Csv.Rows
import Residency.Proofs.CommandLine.CsvReport
import Residency.Proofs.CommandLine.Endings
import Residency.Proofs.CommandLine.Footprint
import Residency.Proofs.Buckets.Safety
import Residency.Proofs.Buckets.Saturation
import Residency.Proofs.NumeralGrammar
import Residency.Proofs.Words
import Residency.Proofs.TimeInState
import Residency.Proofs.CommandLine.ThreadNames
import Residency.Proofs.ListingOrder
import Residency.Proofs.ScanEvents
import Residency.Proofs.Settings.Saving
import Residency.Proofs.Startup
import Residency.Proofs.NameFiles
import Residency.Proofs.Labels.Durations
import Residency.Proofs.CommandLine.Tables
import Residency.Proofs.Labels.Canonicity
import Residency.Proofs.Labels.Frequencies
import Residency.Proofs.Labels.Widths
import Residency.Proofs.CommandLine.Alignment
import Residency.Proofs.Signs
