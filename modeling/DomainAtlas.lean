import DomainAtlas.Config.Merge
import DomainAtlas.Config.Models
import DomainAtlas.Console.Wording
import DomainAtlas.Datum
import DomainAtlas.Dialect
import DomainAtlas.Digest.Sha256
import DomainAtlas.Discovery.Enumeration
import DomainAtlas.Discovery.Ignore
import DomainAtlas.Discovery.Pruning
import DomainAtlas.Discovery.Tree
import DomainAtlas.Extraction.ClassDefinition
import DomainAtlas.Extraction.Markers
import DomainAtlas.Extraction.ScriptDefinition
import DomainAtlas.Extraction.SourceFile
import DomainAtlas.FileSystem
import DomainAtlas.Glob.Pattern
import DomainAtlas.Glob.Ruleset
import DomainAtlas.Index.CacheKey
import DomainAtlas.Index.Definition
import DomainAtlas.Index.Store
import DomainAtlas.Index.Views
import DomainAtlas.Json.Reader
import DomainAtlas.Json.Value
import DomainAtlas.Json.Writer
import DomainAtlas.Log.Event
import DomainAtlas.Number.Double
import DomainAtlas.Path
import DomainAtlas.Php.Parser
import DomainAtlas.Php.Token
import DomainAtlas.Problem
import DomainAtlas.Regex.Matcher
import DomainAtlas.Regex.Parser
import DomainAtlas.Regex.Syntax
import DomainAtlas.Report.Slug
import DomainAtlas.Schema
import DomainAtlas.Script.Parser
import DomainAtlas.Script.Token
import DomainAtlas.Syntax.Capture
import DomainAtlas.Syntax.Source
import DomainAtlas.Syntax.Tree
import DomainAtlas.Text.Basic
import DomainAtlas.Text.Casing
import DomainAtlas.Text.CharSet
import DomainAtlas.Text.Literal
import DomainAtlas.Text.Utf8
import DomainAtlas.CommandLine.Clear
import DomainAtlas.CommandLine.Help
import DomainAtlas.CommandLine.Program
import DomainAtlas.FileSystem.Difference
import DomainAtlas.Main
import DomainAtlas.Proofs.Scan.History
import DomainAtlas.Proofs.Report.Page
import DomainAtlas.Proofs.Scan.Damage
import DomainAtlas.Proofs.Discovery.Enumeration
import DomainAtlas.Proofs.Discovery.Scoping
import DomainAtlas.Proofs.Discovery.Hierarchy
import DomainAtlas.Proofs.FileSystem.Places
import DomainAtlas.Proofs.Index.Writers
import DomainAtlas.Proofs.Index.Whole
import DomainAtlas.Proofs.Index.Atomicity
import DomainAtlas.Proofs.Dialect
import DomainAtlas.Proofs.Scan.Counting
import DomainAtlas.Proofs.Config.Merge
import DomainAtlas.Proofs.Config.Layers
import DomainAtlas.Proofs.Config.Precedence
import DomainAtlas.Proofs.Config.Issues
import DomainAtlas.Proofs.FileSystem.Prolonged
import DomainAtlas.Proofs.CommandLine.Actions
import DomainAtlas.Proofs.Scan.Failing
import DomainAtlas.Proofs.Scan.Obtaining
import DomainAtlas.Proofs.CommandLine.FailedScan
import DomainAtlas.Proofs.Index.Acceptance
import DomainAtlas.Proofs.Json.Room
import DomainAtlas.Proofs.Index.Saving
import DomainAtlas.Proofs.Config.Failures
import DomainAtlas.Proofs.Report.Injection
import DomainAtlas.Proofs.Extraction.Namespace
import DomainAtlas.Proofs.Extraction.Appending
import DomainAtlas.Proofs.Extraction.Ownership
import DomainAtlas.Proofs.Discovery.Agreement
import DomainAtlas.Proofs.Discovery.Relisting
import DomainAtlas.Proofs.Index.Listing
import DomainAtlas.Proofs.Index.Ranking
import DomainAtlas.Proofs.Discovery.Growth
import DomainAtlas.Proofs.Regex.Search
import DomainAtlas.Proofs.Extraction.ScriptDefinition
import DomainAtlas.Log.Session
import DomainAtlas.Proofs.Log.Outlets
import DomainAtlas.Proofs.Log.Delivery
import DomainAtlas.Proofs.Console.Wrapping
import DomainAtlas.Proofs.Console.Showing
import DomainAtlas.Proofs.Index.Insertion
import DomainAtlas.Proofs.Config.Keys
import DomainAtlas.Proofs.Config.Pathwise
import DomainAtlas.Proofs.Syntax.Faults
