import DeclMacros.Activity
import DeclMacros.Pipeline
import DeclMacros.Proofs.Reading
import DeclMacros.Proofs.Runs
import DeclMacros.Proofs.Stripping
import DeclMacros.Run
import DeclMacros.Sample.Declaration
import DeclMacros.Sample.Zoo
import DeclMacros.TestCases
import DeclMacros.Proofs.Setters
import DeclMacros.Proofs.Building
import DeclMacros.Proofs.Construction
import DeclMacros.Proofs.Emission
import DeclMacros.Proofs.Wrapping
import DeclMacros.Proofs.Literals
import DeclMacros.Proofs.Naming
import DeclMacros.Proofs.Variants
import DeclMacros.Proofs.Forwarding
import DeclMacros.Proofs.Readable
import DeclMacros.Proofs.Safety
import DeclMacros.Proofs.Lexing
import DeclMacros.Proofs.SafeTypes
import DeclMacros.Proofs.SelfTypes
import DeclMacros.Proofs.Untyped
import DeclMacros.Proofs.Parsing
import DeclMacros.Proofs.Refinement
import DeclMacros.Proofs.Operands
import DeclMacros.Proofs.SafeExprs
import DeclMacros.Proofs.SafeItems
import DeclMacros.Proofs.Crashes
import DeclMacros.Proofs.Hygiene
import DeclMacros.Proofs.Acceptance
import DeclMacros.Proofs.Arguments
import DeclMacros.Proofs.Compact
import DeclMacros.Proofs.Activities
import DeclMacros.Proofs.Quoting
import DeclMacros.Proofs.Cases
import DeclMacros.Proofs.Containers
import DeclMacros.Proofs.Conversions
import DeclMacros.Proofs.Escaping
