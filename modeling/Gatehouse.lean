import Gatehouse.Audit.Event
import Gatehouse.Audit.Measurement
import Gatehouse.Claims
import Gatehouse.Command
import Gatehouse.CommandLine.Arguments
import Gatehouse.CommandLine.Deployment
import Gatehouse.CommandLine.Error
import Gatehouse.CommandLine.Station
import Gatehouse.CommandLine.Verbs
import Gatehouse.Ed25519.Curve
import Gatehouse.Ed25519.Signature
import Gatehouse.EnvFile.Entry
import Gatehouse.EnvFile.Line
import Gatehouse.Environment
import Gatehouse.Execution.Capture
import Gatehouse.Execution.Executor
import Gatehouse.Execution.Outcome
import Gatehouse.Hash.Hmac
import Gatehouse.Hash.Sha256
import Gatehouse.Hash.Sha512
import Gatehouse.Host.FileSystem
import Gatehouse.Host.Launch
import Gatehouse.Host.Program
import Gatehouse.Host.Signal
import Gatehouse.Instant
import Gatehouse.Journal
import Gatehouse.Journal.Filter
import Gatehouse.Journal.Line
import Gatehouse.Journal.Pattern
import Gatehouse.Json.Fault
import Gatehouse.Json.Lexeme
import Gatehouse.Json.Numeral
import Gatehouse.Json.Reader
import Gatehouse.Json.Schema
import Gatehouse.Json.Value
import Gatehouse.Json.Writer
import Gatehouse.KeyFile.Der
import Gatehouse.KeyFile.Ed25519
import Gatehouse.KeyFile.Pem
import Gatehouse.Main
import Gatehouse.Number.Binary64
import Gatehouse.Number.Shortest
import Gatehouse.Registry
import Gatehouse.Run.Error
import Gatehouse.Run.Gate
import Gatehouse.Run.Runner
import Gatehouse.Sandbox.Builder
import Gatehouse.Sandbox.Identifier
import Gatehouse.Secrets
import Gatehouse.Settings.Basic
import Gatehouse.Settings.File
import Gatehouse.Settings.Override
import Gatehouse.Shell.Builtin
import Gatehouse.Shell.Evaluation
import Gatehouse.Shell.Expansion
import Gatehouse.Shell.Fields
import Gatehouse.Shell.Formula
import Gatehouse.Shell.Grammar
import Gatehouse.Shell.Pattern
import Gatehouse.Shell.Process
import Gatehouse.Shell.Reader
import Gatehouse.Shell.Session
import Gatehouse.Shell.Tree
import Gatehouse.Text.Alphanumeric
import Gatehouse.Text.Base64
import Gatehouse.Text.Blank
import Gatehouse.Text.Decimal
import Gatehouse.Text.Hex
import Gatehouse.Text.Octets
import Gatehouse.Text.Quoted
import Gatehouse.Text.Unprintable
import Gatehouse.Text.Utf8
import Gatehouse.Token.Basic
import Gatehouse.Token.Issue
import Gatehouse.Token.Verifier
import Gatehouse.Toml.Item
import Gatehouse.Toml.Quoted
import Gatehouse.Toml.Reader
import Gatehouse.Toml.Scalar
import Gatehouse.Tool.Basic
import Gatehouse.Tool.Catalogue
import Gatehouse.Tool.Condition
import Gatehouse.Tool.Escape
import Gatehouse.Tool.Exchange
import Gatehouse.Tool.Files
import Gatehouse.Tool.Format
import Gatehouse.Tool.Options
import Gatehouse.Tool.Pause
import Gatehouse.Tool.Quoted
import Gatehouse.Proofs.Result
import Gatehouse.Proofs.Text.Base64
import Gatehouse.Proofs.Text.Blank
import Gatehouse.Proofs.Text.Hex
import Gatehouse.Proofs.Text.Utf8
import Gatehouse.Proofs.Text.Lossy
import Gatehouse.Proofs.Json.Canonical
import Gatehouse.Proofs.Json.Numeral
import Gatehouse.Proofs.Json.Lexeme
import Gatehouse.Proofs.Json.ReadBack
import Gatehouse.Proofs.Json.Form
import Gatehouse.Proofs.Json.Range
import Gatehouse.Proofs.Json.ReadForm
import Gatehouse.Proofs.Token.Compact
import Gatehouse.Proofs.Claims
import Gatehouse.Proofs.Token.RoundTrip
import Gatehouse.Proofs.Registry.Resolution
import Gatehouse.Proofs.Run.Admission
import Gatehouse.Proofs.Token.Malleability
import Gatehouse.Proofs.Run.Attestation
import Gatehouse.Proofs.Run.Removal
import Gatehouse.Proofs.Run.Interference
import Gatehouse.Proofs.Json.Spelling
import Gatehouse.Proofs.Json.Unambiguous
import Gatehouse.Proofs.Json.Acceptance
import Gatehouse.Proofs.Json.Record
import Gatehouse.Proofs.Json.Decoding
import Gatehouse.Proofs.Json.Document
import Gatehouse.Proofs.Manifest
import Gatehouse.Proofs.Token.Verdict
import Gatehouse.Proofs.Audit.Measurement
import Gatehouse.Proofs.Audit.Event
import Gatehouse.Proofs.Registry.RoundTrip
import Gatehouse.Proofs.Registry.Authorization
import Gatehouse.Proofs.Json.OneLine
import Gatehouse.Proofs.Run.Draws
import Gatehouse.Proofs.Run.Opacity
import Gatehouse.Proofs.Journal.Filter
import Gatehouse.Proofs.CommandLine.Preparation
import Gatehouse.Proofs.CommandLine.Authentication
import Gatehouse.Proofs.Token.Line
import Gatehouse.Proofs.CommandLine.Output
import Gatehouse.Proofs.Sandbox.Guard
import Gatehouse.Proofs.Sandbox.Identifier
import Gatehouse.Proofs.Sandbox.ContainerName
import Gatehouse.Proofs.Sandbox.Validation
import Gatehouse.Proofs.Sandbox.Container
import Gatehouse.Proofs.Sandbox.Agreement
import Gatehouse.Proofs.CommandLine.Arguments
import Gatehouse.Proofs.CommandLine.Redemption
import Gatehouse.Proofs.Execution.Capture
import Gatehouse.Proofs.Secrets
import Gatehouse.Proofs.Text.Decimal
import Gatehouse.Proofs.Settings.Override
import Gatehouse.Proofs.Settings.Loading
