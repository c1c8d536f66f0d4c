import Draftsman.Annotation
import Draftsman.Command
import Draftsman.Command.Arguments
import Draftsman.Compile
import Draftsman.Compile.Remarks
import Draftsman.Context
import Draftsman.Disk
import Draftsman.Disk.Writer
import Draftsman.Draft06
import Draftsman.Failure
import Draftsman.FilePath
import Draftsman.Fragment
import Draftsman.Json.Reader
import Draftsman.Json.Writer
import Draftsman.Main
import Draftsman.Members
import Draftsman.Node
import Draftsman.Node.Kind
import Draftsman.Node.Loader
import Draftsman.Node.Path
import Draftsman.Node.Tagged
import Draftsman.Number.Binary64
import Draftsman.Number.Decimal
import Draftsman.Number.Exact
import Draftsman.Number.Numeral
import Draftsman.Operand
import Draftsman.Options
import Draftsman.Pattern
import Draftsman.Pattern.Grammar
import Draftsman.Pattern.Token
import Draftsman.Primitive
import Draftsman.Proofs.Acceptance
import Draftsman.Proofs.Admission
import Draftsman.Proofs.Annotations
import Draftsman.Proofs.Assembly
import Draftsman.Proofs.Ceiling
import Draftsman.Proofs.Checks
import Draftsman.Proofs.Comparison
import Draftsman.Proofs.Compatibility
import Draftsman.Proofs.Configuration
import Draftsman.Proofs.Contents
import Draftsman.Proofs.Defects
import Draftsman.Proofs.Delivery
import Draftsman.Proofs.Depth
import Draftsman.Proofs.Diagnosis
import Draftsman.Proofs.Dictionary
import Draftsman.Proofs.Distinct
import Draftsman.Proofs.DocumentShape
import Draftsman.Proofs.Drafts
import Draftsman.Proofs.Encodable
import Draftsman.Proofs.Enumerations
import Draftsman.Proofs.Equality
import Draftsman.Proofs.Equivalence
import Draftsman.Proofs.Fallback
import Draftsman.Proofs.FieldSets
import Draftsman.Proofs.FirstDefect
import Draftsman.Proofs.Forms
import Draftsman.Proofs.Grammar
import Draftsman.Proofs.Histories
import Draftsman.Proofs.Hoisting
import Draftsman.Proofs.Idempotence
import Draftsman.Proofs.InlineFlags
import Draftsman.Proofs.Integrality
import Draftsman.Proofs.Joining
import Draftsman.Proofs.JsonEquality
import Draftsman.Proofs.KeyPaths
import Draftsman.Proofs.Keys
import Draftsman.Proofs.Keywords
import Draftsman.Proofs.Leniency
import Draftsman.Proofs.Listing
import Draftsman.Proofs.Locating
import Draftsman.Proofs.Magnitude
import Draftsman.Proofs.Marking
import Draftsman.Proofs.Merging
import Draftsman.Proofs.Nesting
import Draftsman.Proofs.Overlays
import Draftsman.Proofs.Places
import Draftsman.Proofs.Preferences
import Draftsman.Proofs.Proper
import Draftsman.Proofs.Quiet
import Draftsman.Proofs.Reading
import Draftsman.Proofs.ReadingOrder
import Draftsman.Proofs.Rearrangement
import Draftsman.Proofs.References
import Draftsman.Proofs.Refusals
import Draftsman.Proofs.Regrouping
import Draftsman.Proofs.Rejection
import Draftsman.Proofs.Relocation
import Draftsman.Proofs.Rewording
import Draftsman.Proofs.RuleChains
import Draftsman.Proofs.Scalars
import Draftsman.Proofs.Settling
import Draftsman.Proofs.Shape
import Draftsman.Proofs.Sites
import Draftsman.Proofs.SizeBounds
import Draftsman.Proofs.Soundness
import Draftsman.Proofs.Spelling
import Draftsman.Proofs.Steps
import Draftsman.Proofs.Surroundings
import Draftsman.Proofs.Switching
import Draftsman.Proofs.Tagging
import Draftsman.Proofs.Tree
import Draftsman.Proofs.Typing
import Draftsman.Proofs.Unions
import Draftsman.Proofs.Visiting
import Draftsman.Proofs.WholeWrites
import Draftsman.Proofs.Wrappers
import Draftsman.Proofs.Writing
import Draftsman.Subject
import Draftsman.Text.CharacterName
import Draftsman.Text.CharacterName.Aliases
import Draftsman.Text.CharacterName.Alphabets
import Draftsman.Text.CharacterName.AncientScripts
import Draftsman.Text.CharacterName.LaterScripts
import Draftsman.Text.CharacterName.Pictures
import Draftsman.Text.CharacterName.Symbols
import Draftsman.Text.Digit
import Draftsman.Text.Encoding
import Draftsman.Text.Identifier
import Draftsman.Text.Likeness
import Draftsman.Text.Printable
import Draftsman.Text.Quoted
import Draftsman.Text.Script
import Draftsman.Value
import Draftsman.Value.Equality
import Draftsman.Value.Written
import Draftsman.Vocabulary
