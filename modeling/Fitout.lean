import Fitout.Car
import Fitout.Car.Brand
import Fitout.Car.Draft
import Fitout.Car.Edit
import Fitout.Car.Equipment
import Fitout.Car.Id
import Fitout.Car.Overrides
import Fitout.Command.Arguments
import Fitout.Command.Assignment
import Fitout.Command.Completion
import Fitout.Command.Failure
import Fitout.Command.Run
import Fitout.Command.Usage
import Fitout.Command.Wording
import Fitout.Document
import Fitout.Document.Fault
import Fitout.Document.Format
import Fitout.Document.Outline
import Fitout.Document.Scalar
import Fitout.Document.Shape
import Fitout.Document.Sheet
import Fitout.Environment
import Fitout.Error
import Fitout.Field
import Fitout.Files.Car
import Fitout.Files.Path
import Fitout.Files.Tree
import Fitout.Host
import Fitout.Journal
import Fitout.Json.Number
import Fitout.Json.Reader
import Fitout.Json.Text
import Fitout.Json.Writer
import Fitout.Log
import Fitout.Main
import Fitout.Profile
import Fitout.Program
import Fitout.Rejection
import Fitout.Session
import Fitout.Steps
import Fitout.Text.Blank
import Fitout.Text.Bytes
import Fitout.Text.Decimal
import Fitout.Text.Hidden
import Fitout.Text.Lowercase
import Fitout.Text.Quoted
import Fitout.Yaml.BlockScalar
import Fitout.Yaml.Core
import Fitout.Yaml.Cursor
import Fitout.Yaml.Document
import Fitout.Yaml.FlowScalar
import Fitout.Yaml.Lexer
import Fitout.Yaml.Node
import Fitout.Yaml.Outline
import Fitout.Yaml.Page
import Fitout.Yaml.Part
import Fitout.Yaml.Tag
import Fitout.Yaml.Token
import Fitout.Yaml.Writer
import Fitout.Proofs.Car.Members
import Fitout.Proofs.Text.Lowercase
import Fitout.Proofs.Car.Spelling
import Fitout.Proofs.Document.Shown
import Fitout.Proofs.Text.Numeral
import Fitout.Proofs.Text.Blank
import Fitout.Proofs.Text.Decimal
import Fitout.Proofs.Json.Scalar
import Fitout.Proofs.Json.Record
import Fitout.Proofs.Yaml.DoubleQuoted
import Fitout.Proofs.Yaml.SingleQuoted
import Fitout.Proofs.Yaml.Plain
import Fitout.Proofs.Yaml.Lexer
import Fitout.Proofs.Yaml.Value
import Fitout.Proofs.Yaml.Printable
import Fitout.Proofs.Yaml.Record
import Fitout.Proofs.Yaml.Lines
import Fitout.Proofs.Document.RoundTrip
import Fitout.Proofs.Document.Agreement
import Fitout.Proofs.Document.Profile
import Fitout.Proofs.Car.Layers
import Fitout.Proofs.Files.Path
import Fitout.Proofs.Files.Write
import Fitout.Proofs.Command.InOut
import Fitout.Proofs.Command.Merge
import Fitout.Proofs.Command.Set
import Fitout.Proofs.Command.Staging
import Fitout.Proofs.Command.Arguments
import Fitout.Proofs.Command.Confinement
import Fitout.Proofs.Car.Values
import Fitout.Proofs.Car.Id
import Fitout.Proofs.Car.Display
import Fitout.Proofs.Session
import Fitout.Proofs.Command.Validate
import Fitout.Proofs.Layering
import Fitout.Proofs.Command.Flags
import Fitout.Proofs.Command.Verbosity
import Fitout.Proofs.Document.Told
import Fitout.Proofs.Document.Statement
import Fitout.Proofs.Document.Verdict
import Fitout.Proofs.Car.Overrides
import Fitout.Proofs.Json.Grammar
import Fitout.Proofs.Json.Document
import Fitout.Proofs.Document.Entries
import Fitout.Proofs.Document.Acceptance
import Fitout.Proofs.Document.Format
import Fitout.Proofs.Profile.Calls
import Fitout.Proofs.Log
import Fitout.Proofs.Command.Parts
