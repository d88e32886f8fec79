import Registrar.CSharp.Item
import Registrar.CSharp.Outline
import Registrar.CSharp.Token
import Registrar.CSharp.TypeTree
import Registrar.Command
import Registrar.CommandLine.Arguments
import Registrar.CommandLine.Flag
import Registrar.CommandLine.Help
import Registrar.CommandLine.Word
import Registrar.Config
import Registrar.Contracts
import Registrar.Declaration
import Registrar.Files.Lookup
import Registrar.Files.Path
import Registrar.Files.Tree
import Registrar.Generation
import Registrar.Handler.Contract
import Registrar.Handler.Module
import Registrar.ImportSet
import Registrar.Job
import Registrar.Log
import Registrar.Machine
import Registrar.Main
import Registrar.Note
import Registrar.Number.Binary64
import Registrar.Proofs.Agreement
import Registrar.Proofs.AliasMeaning
import Registrar.Proofs.BaseChain
import Registrar.Proofs.BaseParts
import Registrar.Proofs.Candidates
import Registrar.Proofs.ChainEnds
import Registrar.Proofs.Classification
import Registrar.Proofs.ClosedChains
import Registrar.Proofs.Composition
import Registrar.Proofs.DirectiveForms
import Registrar.Proofs.DirectiveReadings
import Registrar.Proofs.DirectiveWords
import Registrar.Proofs.DocumentOrder
import Registrar.Proofs.Endings
import Registrar.Proofs.Expansion
import Registrar.Proofs.FileLookup
import Registrar.Proofs.Handlers
import Registrar.Proofs.Identity
import Registrar.Proofs.ImportOrder
import Registrar.Proofs.Imports
import Registrar.Proofs.Lexemes
import Registrar.Proofs.Lookup
import Registrar.Proofs.ModuleText
import Registrar.Proofs.NamespaceForms
import Registrar.Proofs.NamespaceLevels
import Registrar.Proofs.NamespaceNames
import Registrar.Proofs.NearerNames
import Registrar.Proofs.NestedHandlers
import Registrar.Proofs.Openness
import Registrar.Proofs.OutputNames
import Registrar.Proofs.ParentPositions
import Registrar.Proofs.PathArguments
import Registrar.Proofs.PathLookup
import Registrar.Proofs.Places
import Registrar.Proofs.Registrations
import Registrar.Proofs.Reordering
import Registrar.Proofs.Rerun
import Registrar.Proofs.ResolvedTypes
import Registrar.Proofs.RunEffects
import Registrar.Proofs.RunReadings
import Registrar.Proofs.ScannedFiles
import Registrar.Proofs.Scopes
import Registrar.Proofs.Sessions
import Registrar.Proofs.SettingsFaults
import Registrar.Proofs.Shadowing
import Registrar.Proofs.Substitution
import Registrar.Proofs.Table
import Registrar.Proofs.TypeShapes
import Registrar.Proofs.UnitOrder
import Registrar.Proofs.UsingOrder
import Registrar.Proofs.Walk
import Registrar.Proofs.WrittenTypes
import Registrar.Raised
import Registrar.Run
import Registrar.Semantics.BaseChain
import Registrar.Semantics.Environment
import Registrar.Semantics.Lookup
import Registrar.Semantics.Resolve
import Registrar.Semantics.Symbol
import Registrar.Semantics.SymbolTable
import Registrar.Semantics.Ty
import Registrar.Session
import Registrar.SourceUnit
import Registrar.Sources.Exclude
import Registrar.Sources.Glob
import Registrar.Sources.Scan
import Registrar.Standard
import Registrar.Text.Blank
import Registrar.Text.Digit
import Registrar.Text.Dotted
import Registrar.Text.Identifier
import Registrar.Text.LowerCase
import Registrar.Text.Printable
import Registrar.Text.Quoted
import Registrar.Text.Ranges
import Registrar.Text.Utf8
import Registrar.Text.Word
import Registrar.Tree.Kind
import Registrar.Tree.Node
import Registrar.TypeExpr
import Registrar.Using
import Registrar.Value
import Registrar.Yaml.Cursor
import Registrar.Yaml.Fault
import Registrar.Yaml.Implicit
import Registrar.Yaml.Load
import Registrar.Yaml.Node
import Registrar.Yaml.Parser
import Registrar.Yaml.Scalar
import Registrar.Yaml.Scanner
import Registrar.Yaml.Token
import Registrar.Yaml.Value
