import DeployForge.Artifact
import DeployForge.Batch
import DeployForge.Bench
import DeployForge.CommandLine.Arguments
import DeployForge.CommandLine.Console
import DeployForge.CommandLine.Session
import DeployForge.CommandLine.Style
import DeployForge.Config
import DeployForge.Config.Decode
import DeployForge.Config.Default
import DeployForge.Config.Load
import DeployForge.Constants
import DeployForge.Decimal.Binary
import DeployForge.Decimal.Places
import DeployForge.Decimal.Shortest
import DeployForge.Disk
import DeployForge.Disk.Fault
import DeployForge.Disk.Tree
import DeployForge.Dotenv
import DeployForge.Error
import DeployForge.Json.Member
import DeployForge.Json.Token
import DeployForge.Listing.Extraction
import DeployForge.Main
import DeployForge.Path
import DeployForge.Pipeline
import DeployForge.Probe
import DeployForge.Profile
import DeployForge.Program
import DeployForge.Progress
import DeployForge.Registry
import DeployForge.Replacement
import DeployForge.Sandbox
import DeployForge.Shell.Arithmetic
import DeployForge.Shell.Builtin.Print
import DeployForge.Shell.Builtin.Variables
import DeployForge.Shell.Channel
import DeployForge.Shell.CharSet
import DeployForge.Shell.Command
import DeployForge.Shell.Condition
import DeployForge.Shell.Escape
import DeployForge.Shell.Field
import DeployForge.Shell.Format
import DeployForge.Shell.Installed
import DeployForge.Shell.Launch
import DeployForge.Shell.Machine
import DeployForge.Shell.Octets
import DeployForge.Shell.Parser
import DeployForge.Shell.Pattern
import DeployForge.Shell.Signal
import DeployForge.Shell.Storage
import DeployForge.Site
import DeployForge.Stage
import DeployForge.Text.Blank
import DeployForge.Text.Hex
import DeployForge.Text.Lines
import DeployForge.Text.Quoted
import DeployForge.Text.Ranges
import DeployForge.Text.Search
import DeployForge.Text.Split
import DeployForge.Text.Unshown
import DeployForge.Text.Utf8
import DeployForge.Text.WordCharacters
import DeployForge.Toml.Assembly
import DeployForge.Toml.Document
import DeployForge.Toml.Scalar
import DeployForge.Toml.Text
import DeployForge.Toml.Value
import DeployForge.Tool
import DeployForge.Transaction
import DeployForge.Variables
import DeployForge.Proofs.Disk.Places
import DeployForge.Proofs.Disk.ReadBack
import DeployForge.Proofs.Transaction.Atomicity
import DeployForge.Proofs.Batch.Course
import DeployForge.Proofs.Batch.View
import DeployForge.Proofs.Batch.ConstantsKept
import DeployForge.Proofs.Batch.OneByOne
import DeployForge.Proofs.Batch.Endings
import DeployForge.Proofs.Text.Lines
import DeployForge.Proofs.Text.Pieces
import DeployForge.Proofs.Text.Search
import DeployForge.Proofs.Text.Trimming
import DeployForge.Proofs.Listing.Closing
import DeployForge.Proofs.Listing.Start
import DeployForge.Proofs.Listing.Window
import DeployForge.Proofs.Listing.Rendering
import DeployForge.Proofs.Listing.Balance
import DeployForge.Proofs.Listing.Declarations
import DeployForge.Proofs.Listing.Procedures
import DeployForge.Proofs.Replacement.Claims
import DeployForge.Proofs.Replacement.Decomposition
import DeployForge.Proofs.Replacement.Untouched
import DeployForge.Proofs.Replacement.Repeats
import DeployForge.Proofs.Replacement.Override
import DeployForge.Proofs.Replacement.Order
import DeployForge.Proofs.Replacement.Locality
import DeployForge.Proofs.Replacement.Literals
import DeployForge.Proofs.Bench.Log
import DeployForge.Proofs.Pipeline.Stages
import DeployForge.Proofs.Text.Hex
import DeployForge.Proofs.Artifact.Naming
import DeployForge.Proofs.Artifact.Printed
import DeployForge.Proofs.Artifact.Storing
import DeployForge.Proofs.Pipeline.Provenance
import DeployForge.Proofs.Disk.Twins
import DeployForge.Proofs.Disk.Joining
import DeployForge.Proofs.Bench.SideBySide
import DeployForge.Proofs.Bench.View
import DeployForge.Proofs.Pipeline.Freshness
import DeployForge.Proofs.Pipeline.Leftovers
import DeployForge.Proofs.Pipeline.Protocol
import DeployForge.Proofs.Pipeline.Frame
import DeployForge.Proofs.Pipeline.Confinement
import DeployForge.Proofs.Batch.Reports
import DeployForge.Proofs.Batch.Turns
import DeployForge.Proofs.CommandLine.ExitStatus
import DeployForge.Proofs.CommandLine.Console
import DeployForge.Proofs.Artifact.Store
import DeployForge.Proofs.Registry
import DeployForge.Proofs.Listing.Edits
import DeployForge.Proofs.Probe
import DeployForge.Proofs.CommandLine.Network
