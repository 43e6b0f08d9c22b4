import TypedRoutes.Main
import TypedRoutes.Proofs.Template.Derivation
import TypedRoutes.Proofs.Template.Written
import TypedRoutes.Proofs.Template.Reading
import TypedRoutes.Proofs.Template.RoundTrip
import TypedRoutes.Proofs.Template.Viable
import TypedRoutes.Proofs.Template.Misfit
import TypedRoutes.Proofs.Param.Resolve
import TypedRoutes.Proofs.Java.StringLiteral
import TypedRoutes.Proofs.RegistrationPath.Skeleton
import TypedRoutes.Proofs.Template.Places
import TypedRoutes.Proofs.Template.Tokenization
import TypedRoutes.Proofs.Param.Leftmost
import TypedRoutes.Proofs.Report.Lines
import TypedRoutes.Proofs.Report.Heading
import TypedRoutes.Proofs.Java.Lexeme
import TypedRoutes.Proofs.Decimal.Digits
import TypedRoutes.Proofs.Decimal.Ratio
import TypedRoutes.Proofs.Decimal.Rounding
import TypedRoutes.Proofs.Decimal.Shortest
import TypedRoutes.Proofs.Decimal.Numeral
import TypedRoutes.Proofs.Decimal.Write
import TypedRoutes.Proofs.Java.BinaryLiteral
import TypedRoutes.Proofs.Timestamp
import TypedRoutes.Proofs.Java.Instant
import TypedRoutes.Proofs.Java.Literal
import TypedRoutes.Proofs.Java.Statement
import TypedRoutes.Proofs.RegistrationPath.Concatenation
import TypedRoutes.Proofs.Template.Gap
import TypedRoutes.Proofs.Compile.Default
import TypedRoutes.Proofs.Text.Lines
import TypedRoutes.Proofs.Java.Unit
import TypedRoutes.Proofs.Generate.Workers
import TypedRoutes.Proofs.Generate.Schedule
import TypedRoutes.Proofs.Java.Imports
import TypedRoutes.Proofs.Manifest.Check
import TypedRoutes.Proofs.Manifest.Outcome
import TypedRoutes.Proofs.Generate.Basic
import TypedRoutes.Proofs.Cli.FileTree
import TypedRoutes.Proofs.Cli.Generate
import TypedRoutes.Proofs.Generate.Compiled
import TypedRoutes.Proofs.Java.Piece
import TypedRoutes.Proofs.Java.UnitLexemes
import TypedRoutes.Proofs.Java.Names
import TypedRoutes.Proofs.Generate.Names
import TypedRoutes.Proofs.RegistrationPath.Query
import TypedRoutes.Proofs.RegistrationPath.Router
import TypedRoutes.Proofs.Java.Outcome
import TypedRoutes.Proofs.Text.ByteOrder
import TypedRoutes.Proofs.Java.ImportLines
import TypedRoutes.Proofs.Java.CodeLines
import TypedRoutes.Proofs.Java.NamedClasses
import TypedRoutes.Proofs.Java.ImportSection
import TypedRoutes.Proofs.Decimal.Integer
import TypedRoutes.Proofs.Java.IntegerLiteral
import TypedRoutes.Proofs.Java.TimestampLiteral
import TypedRoutes.Proofs.Template.Expected
import TypedRoutes.Proofs.Java.Scope
import TypedRoutes.Proofs.Java.ParseMethod
