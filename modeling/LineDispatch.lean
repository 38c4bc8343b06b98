import LineDispatch.Argument
import LineDispatch.Binary
import LineDispatch.Binary.Hypotenuse
import LineDispatch.Binary.Numeral
import LineDispatch.Binary.Shortest
import LineDispatch.Command
import LineDispatch.CommandError
import LineDispatch.CommandLine
import LineDispatch.Config
import LineDispatch.Context
import LineDispatch.Controller
import LineDispatch.Controller.Path
import LineDispatch.Demo
import LineDispatch.Detail
import LineDispatch.FileTree
import LineDispatch.Flags
import LineDispatch.Handler
import LineDispatch.Interface
import LineDispatch.Loop
import LineDispatch.Main
import LineDispatch.Operation
import LineDispatch.Painter
import LineDispatch.ParseError
import LineDispatch.ReadPlan
import LineDispatch.ReadStep
import LineDispatch.Reader
import LineDispatch.Registry
import LineDispatch.Scalar
import LineDispatch.Session
import LineDispatch.Suggestion
import LineDispatch.Table
import LineDispatch.Text
import LineDispatch.Text.Alphanumeric
import LineDispatch.Text.Blank
import LineDispatch.Text.Lowercase
import LineDispatch.Text.Printable
import LineDispatch.Text.Quoted
import LineDispatch.Text.Ranges
import LineDispatch.Text.Utf8
import LineDispatch.Tokens
import LineDispatch.Toml
import LineDispatch.Toml.Document
import LineDispatch.Toml.Literal
import LineDispatch.Toml.Moment
import LineDispatch.Toml.Number
import LineDispatch.Toml.Tree
import LineDispatch.TypeName
import LineDispatch.Proofs.Results
import LineDispatch.Proofs.Tokens.Grouping
import LineDispatch.Proofs.Tokens.Spelling
import LineDispatch.Proofs.Context.Items
import LineDispatch.Proofs.Context.Reparse
import LineDispatch.Proofs.Context.FlagValues
import LineDispatch.Proofs.Reader.Errors
import LineDispatch.Proofs.Registry.Faults
import LineDispatch.Proofs.Registry.Columns
import LineDispatch.Proofs.Controller.Walk
import LineDispatch.Proofs.Text.ByteOrder
import LineDispatch.Proofs.Controller.Completion
import LineDispatch.Proofs.Controller.Build
import LineDispatch.Proofs.Controller.Usage
import LineDispatch.Proofs.Interface.Help
import LineDispatch.Proofs.Text.Trim
import LineDispatch.Proofs.Tokens.First
import LineDispatch.Proofs.Interface.Precedence
import LineDispatch.Proofs.Loop.Cut
import LineDispatch.Proofs.Loop.Transcript
import LineDispatch.Proofs.Registry.Acceptance
import LineDispatch.Proofs.Demo.Runs
import LineDispatch.Proofs.Loop.Stop
import LineDispatch.Proofs.Reader.Binding
import LineDispatch.Proofs.Session.Runs
import LineDispatch.Proofs.Controller.Placement
import LineDispatch.Proofs.Tokens.Conservation
import LineDispatch.Proofs.Loop.Failures
import LineDispatch.Proofs.Tokens.Plain
import LineDispatch.Proofs.Tokens.Cleaning
import LineDispatch.Proofs.Context.Positions
import LineDispatch.Proofs.Context.Composition
import LineDispatch.Proofs.Context.Narrowing
import LineDispatch.Proofs.Controller.Reachability
import LineDispatch.Proofs.Controller.Redirection
import LineDispatch.Proofs.Controller.Overloads
import LineDispatch.Proofs.Controller.Refusal
import LineDispatch.Proofs.Operation.Calls
import LineDispatch.Proofs.Reader.Movement
import LineDispatch.Proofs.Text.Columns
import LineDispatch.Proofs.ParseError.Carets
import LineDispatch.Proofs.Suggestion.Distance
import LineDispatch.Proofs.Interface.Suggestions
import LineDispatch.Proofs.Reader.Typing
import LineDispatch.Proofs.Operation.Missing
import LineDispatch.Proofs.Binary.Rounding
import LineDispatch.Proofs.Scalar.Integers
import LineDispatch.Proofs.Text.Replacement
import LineDispatch.Proofs.Loop.Decoding
import LineDispatch.Proofs.TypeName
import LineDispatch.Proofs.Loop.Painting
import LineDispatch.Proofs.Painter.Codes
import LineDispatch.Proofs.Loop.Color
