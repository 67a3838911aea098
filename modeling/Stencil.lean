import Stencil.Batch.Basic
import Stencil.Disk.Tree
import Stencil.Main
import Stencil.Report
import Stencil.Settings.File
import Stencil.Yaml.Document
import Stencil.Proofs.Marker.Scan
import Stencil.Proofs.Node.Symbols
import Stencil.Proofs.Parse.Lossless
import Stencil.Proofs.Lexer.Tokens
import Stencil.Proofs.Evaluation
import Stencil.Proofs.Rendering.Pass
import Stencil.Proofs.Lexer.Symbols
import Stencil.Proofs.Node.Source
import Stencil.Proofs.RoundTrip
import Stencil.Proofs.Parse.Strict
import Stencil.Proofs.Rendering.Strict
import Stencil.Proofs.Lexer.Seam
import Stencil.Proofs.Rendering.Concat
import Stencil.Proofs.Mapping
import Stencil.Proofs.Environment
import Stencil.Proofs.FirstFault
import Stencil.Proofs.Batch.History
import Stencil.Proofs.Batch.Schedule
import Stencil.Proofs.Settings.Faults
import Stencil.Proofs.CommandLine.Complaint
import Stencil.Proofs.CommandLine.Templates
import Stencil.Proofs.CommandLine.ExitCode
import Stencil.Proofs.Batch.Queue
import Stencil.Proofs.Variables
import Stencil.Proofs.Rendering.Soundness
import Stencil.Proofs.CommandLine.Output
import Stencil.Proofs.CommandLine.Sources
import Stencil.Proofs.CommandLine.Precedence
import Stencil.Proofs.CommandLine.FaultOrder
import Stencil.Proofs.CommandLine.Session
import Stencil.Proofs.Marker.Rounds
import Stencil.Proofs.Lexer.Session
import Stencil.Proofs.Key
import Stencil.Proofs.Names
import Stencil.Proofs.Lexer.Classification
import Stencil.Proofs.Rendering.Guard
import Stencil.Proofs.Lexer.Partition
import Stencil.Proofs.Dependence
import Stencil.Proofs.Node.Outline
import Stencil.Proofs.Text.Hexadecimal
import Stencil.Proofs.Text.Quoted
import Stencil.Proofs.Node.Abridged
import Stencil.Proofs.Settings.Typing
import Stencil.Proofs.Json.Grammar
import Stencil.Proofs.Json.Reader
import Stencil.Proofs.Json.Writer
import Stencil.Proofs.Report
