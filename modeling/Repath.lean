import Repath.Main
import Repath.Proofs.Pattern.Leftmost
import Repath.Proofs.BuiltIn.Spans
import Repath.Proofs.Pattern.Sequence
import Repath.Proofs.BuiltIn.Relinked
import Repath.Proofs.BuiltIn.Moves
import Repath.Proofs.BuiltIn.Recognition
import Repath.Proofs.BuiltIn.Pass
import Repath.Proofs.BuiltIn.Table
import Repath.Proofs.Toml.Documents
import Repath.Proofs.Config.RoundTrip
import Repath.Proofs.Rules.Matching
import Repath.Proofs.Command.DryRun
import Repath.Proofs.Pattern.Makes
import Repath.Proofs.Pattern.Classes
import Repath.Proofs.Pattern.Language
import Repath.Proofs.Rules.Replacing
import Repath.Proofs.Run.Resumed
import Repath.Proofs.Command.Stages
import Repath.Proofs.Files.Candidates
import Repath.Proofs.Command.Init
import Repath.Proofs.Config.Schema
import Repath.Proofs.Config.Spelling
import Repath.Proofs.Files.Parents
import Repath.Proofs.Files.Replacement
import Repath.Proofs.Run.Revise
import Repath.Proofs.Rules.Compiled
import Repath.Proofs.Pattern.Remainders
import Repath.Proofs.Pattern.Numbering
import Repath.Proofs.Rules.Expansion
import Repath.Proofs.Run.Identity
import Repath.Proofs.BuiltIn.Names
import Repath.Proofs.Files.Leads
import Repath.Proofs.Run.Roots
import Repath.Proofs.Text.Suffix
import Repath.Proofs.Command.RuleFile
import Repath.Proofs.Command.Settings
