import Scaffold.Archive.Decoding
import Scaffold.Archive.Encoding
import Scaffold.Archive.Inflate
import Scaffold.Association.Relations
import Scaffold.Command.Arguments
import Scaffold.Command.Run
import Scaffold.Decimal
import Scaffold.Diagram.Basic
import Scaffold.Diagram.Document
import Scaffold.Diagram.Index
import Scaffold.Disk.FileSystem
import Scaffold.Disk.Storage
import Scaffold.Entity.JavaType
import Scaffold.Entity.Layers
import Scaffold.Failure
import Scaffold.Json.Judge
import Scaffold.Json.Node
import Scaffold.Json.Object
import Scaffold.Json.Reader
import Scaffold.Json.Value
import Scaffold.Main
import Scaffold.Naming.Identifier
import Scaffold.Packaging.Basic
import Scaffold.Path.Basic
import Scaffold.Project.Files
import Scaffold.Project.Generation
import Scaffold.Project.Run
import Scaffold.Proofs.Association.Collections
import Scaffold.Proofs.Association.Declared
import Scaffold.Proofs.Association.Inverse
import Scaffold.Proofs.Association.JoinTables
import Scaffold.Proofs.Command.Spellings
import Scaffold.Proofs.Diagram.Lookup
import Scaffold.Proofs.Diagram.Rearranged
import Scaffold.Proofs.Diagram.Repeated
import Scaffold.Proofs.Diagram.RoundTrip
import Scaffold.Proofs.Disk.Directories
import Scaffold.Proofs.Disk.Places
import Scaffold.Proofs.Disk.Trees
import Scaffold.Proofs.Disk.Ways
import Scaffold.Proofs.Entity.Correspondence
import Scaffold.Proofs.Entity.Fields
import Scaffold.Proofs.Entity.Hierarchy
import Scaffold.Proofs.Entity.Imports
import Scaffold.Proofs.Entity.Independence
import Scaffold.Proofs.Entity.Inherited
import Scaffold.Proofs.Entity.Members
import Scaffold.Proofs.Entity.References
import Scaffold.Proofs.Entity.SharedKey
import Scaffold.Proofs.Entity.Spacing
import Scaffold.Proofs.Entity.Tags
import Scaffold.Proofs.Entity.Walk
import Scaffold.Proofs.Json.Reading
import Scaffold.Proofs.Json.Rearranged
import Scaffold.Proofs.Json.Records
import Scaffold.Proofs.Json.RoundTrip
import Scaffold.Proofs.Json.Spelling
import Scaffold.Proofs.Naming.Accessors
import Scaffold.Proofs.Naming.Ascii
import Scaffold.Proofs.Naming.Characters
import Scaffold.Proofs.Naming.Initials
import Scaffold.Proofs.Naming.Packages
import Scaffold.Proofs.Naming.Plurals
import Scaffold.Proofs.Naming.Separators
import Scaffold.Proofs.Naming.Words
import Scaffold.Proofs.Packaging.Beside
import Scaffold.Proofs.Packaging.Building
import Scaffold.Proofs.Packaging.Confinement
import Scaffold.Proofs.Packaging.Contents
import Scaffold.Proofs.Packaging.Failure
import Scaffold.Proofs.Packaging.Plain
import Scaffold.Proofs.Packaging.ReadBack
import Scaffold.Proofs.Packaging.Stages
import Scaffold.Proofs.Packaging.Steps
import Scaffold.Proofs.Packaging.Success
import Scaffold.Proofs.Path.Names
import Scaffold.Proofs.Path.Segments
import Scaffold.Proofs.Path.Spelling
import Scaffold.Proofs.Project.Adding
import Scaffold.Proofs.Project.Entries
import Scaffold.Proofs.Project.Forms
import Scaffold.Proofs.Project.Generated
import Scaffold.Proofs.Project.Inert
import Scaffold.Proofs.Project.Order
import Scaffold.Proofs.Project.Outcome
import Scaffold.Proofs.Project.Packages
import Scaffold.Proofs.Project.Places
import Scaffold.Proofs.Project.Preparation
import Scaffold.Proofs.Project.Resources
import Scaffold.Proofs.Project.Sequence
import Scaffold.Proofs.Settings.RoundTrip
import Scaffold.Proofs.Text.Basic
import Scaffold.Proofs.Text.Lowercase
import Scaffold.Proofs.Toml.Document
import Scaffold.Proofs.Toml.Quoted
import Scaffold.Proofs.Toml.Table
import Scaffold.Proofs.Unicode.Solid
import Scaffold.Record.Basic
import Scaffold.Settings.Basic
import Scaffold.Settings.Document
import Scaffold.Source.Entity
import Scaffold.Source.Layers
import Scaffold.Source.Project
import Scaffold.Template.Context
import Scaffold.Text.Basic
import Scaffold.Text.Quoted
import Scaffold.Toml.Quoted
import Scaffold.Toml.Reader
import Scaffold.Toml.Scalar
import Scaffold.Toml.Value
import Scaffold.Toml.Writer
import Scaffold.Unicode.Case
import Scaffold.Unicode.Classes
