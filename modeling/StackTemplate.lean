import StackTemplate.Addressing
import StackTemplate.Assembly
import StackTemplate.Binary64
import StackTemplate.Binary64.Nearest
import StackTemplate.Binary64.Shortest
import StackTemplate.Command
import StackTemplate.Command.Arguments
import StackTemplate.Declaration
import StackTemplate.Document
import StackTemplate.DocumentError
import StackTemplate.EditDistance
import StackTemplate.Entries
import StackTemplate.FileError
import StackTemplate.Files
import StackTemplate.Json
import StackTemplate.Lint
import StackTemplate.LogicalId
import StackTemplate.Main
import StackTemplate.Package
import StackTemplate.Proofs.Drafting
import StackTemplate.Proofs.Registry
import StackTemplate.Proofs.Turn
import StackTemplate.Reference
import StackTemplate.Resolution
import StackTemplate.Settings
import StackTemplate.Settings.Schema
import StackTemplate.Stack
import StackTemplate.Stack.Cluster
import StackTemplate.Stack.Cms
import StackTemplate.Stack.Consul
import StackTemplate.Stack.Gateway
import StackTemplate.Stack.Gateway.WebAcl
import StackTemplate.Stack.Lambda
import StackTemplate.Stack.Policy
import StackTemplate.Stack.RdsBackup
import StackTemplate.Stack.Vault
import StackTemplate.Stack.Vpc
import StackTemplate.Stack.Vpc.Access
import StackTemplate.Stack.Vpc.Database
import StackTemplate.Stack.Vpc.Firewall
import StackTemplate.Stack.Vpc.Network
import StackTemplate.Stack.Vpc.Storage
import StackTemplate.Suggestion
import StackTemplate.Tagging
import StackTemplate.Template
import StackTemplate.Text.Hidden
import StackTemplate.Text.Visible
import StackTemplate.Toml
import StackTemplate.Toml.Branch
import StackTemplate.Toml.Document
import StackTemplate.Toml.Reader
import StackTemplate.Toml.Scalar
import StackTemplate.Toml.Statement
import StackTemplate.Toml.Text
import StackTemplate.Value
import StackTemplate.Value.Same
import StackTemplate.Proofs.Edge
import StackTemplate.Proofs.Verdict
import StackTemplate.Proofs.Precedence
import StackTemplate.Proofs.Backing
import StackTemplate.Proofs.Numbering
import StackTemplate.Proofs.Growth
import StackTemplate.Proofs.Completeness
import StackTemplate.Proofs.Addressing
import StackTemplate.Proofs.Stack.Registration
import StackTemplate.Proofs.Stack.Cluster
import StackTemplate.Proofs.Stack.Clusters
import StackTemplate.Proofs.Stack.Network
import StackTemplate.Proofs.Stack.Vpc
import StackTemplate.Proofs.Stack.Outcome
import StackTemplate.Proofs.Occurrence
import StackTemplate.Proofs.Building
import StackTemplate.Proofs.Dependency
import StackTemplate.Proofs.Idle
import StackTemplate.Proofs.Layout
import StackTemplate.Proofs.Decoding
import StackTemplate.Proofs.Origin
import StackTemplate.Proofs.Integrity
import StackTemplate.Proofs.Discipline
import StackTemplate.Proofs.Delivery
import StackTemplate.Proofs.Json.Lexeme
import StackTemplate.Proofs.Json.Reading
import StackTemplate.Proofs.Json.Text
import StackTemplate.Proofs.Fidelity
import StackTemplate.Proofs.Typing
import StackTemplate.Proofs.Stack.Tuning
import StackTemplate.Proofs.Stack.Interface
import StackTemplate.Proofs.Succession
import StackTemplate.Proofs.Locality
import StackTemplate.Proofs.Extension
import StackTemplate.Proofs.Reordering
import StackTemplate.Proofs.Places
import StackTemplate.Proofs.Finiteness
import StackTemplate.Proofs.Removal
import StackTemplate.Proofs.Packaging
import StackTemplate.Proofs.Stack.Zones
import StackTemplate.Proofs.Spelling
import StackTemplate.Proofs.Sameness
import StackTemplate.Proofs.Agreement
import StackTemplate.Proofs.Toml.Reading
import StackTemplate.Proofs.Settings
import StackTemplate.Proofs.EditDistance
