import ClassHarvest.CSharp.Grammar.Arguments
import ClassHarvest.CSharp.Grammar.Declarations
import ClassHarvest.CSharp.Grammar.Expressions
import ClassHarvest.CSharp.Grammar.Names
import ClassHarvest.CSharp.Grammar.Patterns
import ClassHarvest.CSharp.Grammar.Phrase
import ClassHarvest.CSharp.Grammar.Statements
import ClassHarvest.CSharp.Literal
import ClassHarvest.CSharp.Parse
import ClassHarvest.CSharp.SourceUnit
import ClassHarvest.CSharp.Token
import ClassHarvest.CSharp.Tree
import ClassHarvest.Cache.HashCache
import ClassHarvest.Cache.ScanCache
import ClassHarvest.Cache.Stored
import ClassHarvest.ClassSet
import ClassHarvest.CommandLine.Arguments
import ClassHarvest.CommandLine.Session
import ClassHarvest.CommandLine.Switch
import ClassHarvest.Dictionary
import ClassHarvest.Digest.Sha256
import ClassHarvest.Emission.Artifact
import ClassHarvest.Emission.Emitter
import ClassHarvest.Emission.Source
import ClassHarvest.Files.Disk
import ClassHarvest.Files.Glob
import ClassHarvest.Files.Ignore
import ClassHarvest.Files.Kind
import ClassHarvest.Files.Manifest
import ClassHarvest.Files.Path
import ClassHarvest.Files.Tree
import ClassHarvest.Files.Walk
import ClassHarvest.Generation
import ClassHarvest.Json.Reader
import ClassHarvest.Json.Value
import ClassHarvest.Json.Writer
import ClassHarvest.Log
import ClassHarvest.Main
import ClassHarvest.Marker
import ClassHarvest.Number.Binary64
import ClassHarvest.Number.Notation
import ClassHarvest.Number.Numeral
import ClassHarvest.Number.Shortest
import ClassHarvest.Pattern.CharSet
import ClassHarvest.Pattern.ClassPattern
import ClassHarvest.Pattern.Expression
import ClassHarvest.Pattern.Fault
import ClassHarvest.Pattern.GroupName
import ClassHarvest.Pattern.Matcher
import ClassHarvest.Pattern.Reader
import ClassHarvest.Project.Failure
import ClassHarvest.Project.Output
import ClassHarvest.Project.Run
import ClassHarvest.Project.Search
import ClassHarvest.Recognition
import ClassHarvest.Reporting
import ClassHarvest.Scan.Discovery
import ClassHarvest.Scan.Scanner
import ClassHarvest.Settings.ConfigError
import ClassHarvest.Settings.Mode
import ClassHarvest.Settings.Options
import ClassHarvest.Settings.Project
import ClassHarvest.Settings.ProjectFile
import ClassHarvest.Settings.Run
import ClassHarvest.Text.Basic
import ClassHarvest.Text.Case
import ClassHarvest.Text.CharacterName
import ClassHarvest.Text.CodePoint
import ClassHarvest.Text.Identifier
import ClassHarvest.Text.Property
import ClassHarvest.Text.Quoted
import ClassHarvest.Text.Utf8
import ClassHarvest.Yaml.Cursor
import ClassHarvest.Yaml.LoadError
import ClassHarvest.Yaml.Node
import ClassHarvest.Yaml.Scalar
import ClassHarvest.Yaml.Tag
import ClassHarvest.Yaml.Timestamp
import ClassHarvest.Yaml.Token
import ClassHarvest.Yaml.Value
import ClassHarvest.Proofs.Text.Hexadecimal
import ClassHarvest.Proofs.Json.RoundTrip
import ClassHarvest.Proofs.Dictionary
import ClassHarvest.Proofs.Files.View
import ClassHarvest.Proofs.Text.Utf8
import ClassHarvest.Proofs.Files.Disk
import ClassHarvest.Proofs.Json.Objects
import ClassHarvest.Proofs.Cache.Stored
import ClassHarvest.Proofs.Cache.Records
import ClassHarvest.Proofs.Cache.File
import ClassHarvest.Proofs.Files.Making
import ClassHarvest.Proofs.Cache.Ledger
import ClassHarvest.Proofs.ClassSet
import ClassHarvest.Proofs.Recognition
import ClassHarvest.Proofs.Generation
import ClassHarvest.Proofs.Steps
import ClassHarvest.Proofs.CSharp.Units
import ClassHarvest.Proofs.Digest
import ClassHarvest.Proofs.Pattern.Extract
import ClassHarvest.Proofs.Project.Fresh
import ClassHarvest.Proofs.Project.Evidence
import ClassHarvest.Proofs.Project.Search
import ClassHarvest.Proofs.Cache.Hashes
import ClassHarvest.Proofs.Files.Walk
import ClassHarvest.Proofs.Project.Plan
import ClassHarvest.Proofs.Files.Unique
import ClassHarvest.Proofs.Project.Output
import ClassHarvest.Proofs.Project.Run
import ClassHarvest.Proofs.Project.Regeneration
import ClassHarvest.Proofs.Pattern.CharTest
import ClassHarvest.Proofs.Pattern.DefaultPattern
import ClassHarvest.Proofs.CSharp.Escapes
import ClassHarvest.Proofs.CSharp.Setting
import ClassHarvest.Proofs.CSharp.Literal
import ClassHarvest.Proofs.Emission.Preservation
import ClassHarvest.Proofs.Emission.Texts
import ClassHarvest.Proofs.Project.Failures
import ClassHarvest.Proofs.Project.Recomputation
import ClassHarvest.Proofs.Project.Repetition
import ClassHarvest.Proofs.Lockstep
import ClassHarvest.Proofs.Project.Together
import ClassHarvest.Proofs.Project.Cancellation
import ClassHarvest.Proofs.Project.Observation
import ClassHarvest.Proofs.Project.Provenance
import ClassHarvest.Proofs.Project.Authenticity
import ClassHarvest.Proofs.Project.Listing
import ClassHarvest.Proofs.Project.Convergence
import ClassHarvest.Proofs.CSharp.RegularLiteral
import ClassHarvest.Proofs.Project.Manifests
import ClassHarvest.Proofs.CSharp.Reading
import ClassHarvest.Proofs.CSharp.Names
import ClassHarvest.Proofs.CSharp.Expressions
import ClassHarvest.Proofs.CSharp.Calls
import ClassHarvest.Proofs.CSharp.Silence
import ClassHarvest.Proofs.CSharp.Statements
import ClassHarvest.Proofs.CSharp.Declarations
import ClassHarvest.Proofs.CSharp.Pieces
import ClassHarvest.Proofs.Emission.Members
import ClassHarvest.Proofs.Emission.Targets
import ClassHarvest.Proofs.Emission.Redeclaration
import ClassHarvest.Proofs.CSharp.Spelling
import ClassHarvest.Proofs.CSharp.Refusal
import ClassHarvest.Proofs.CSharp.RawLiteral
import ClassHarvest.Proofs.Pattern.Tags
import ClassHarvest.Proofs.Pattern.GroupNames
import ClassHarvest.Proofs.CSharp.CallOrder
import ClassHarvest.Proofs.Pattern.Independence
import ClassHarvest.Proofs.Aggregation
import ClassHarvest.Proofs.Settings.Fingerprint
import ClassHarvest.Proofs.Project.Selection
import ClassHarvest.Proofs.Files.Glob
import ClassHarvest.Proofs.Cache.Typing
import ClassHarvest.Proofs.Scan.Discovery
import ClassHarvest.Proofs.Emission.Naming
import ClassHarvest.Proofs.CommandLine.Session
import ClassHarvest.Proofs.CSharp.Preorder
import ClassHarvest.Proofs.Project.Ownership
import ClassHarvest.Proofs.Project.Feedback
import ClassHarvest.Proofs.Project.Unreadable
