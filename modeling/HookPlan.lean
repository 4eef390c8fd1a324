import HookPlan.Context.Program
import HookPlan.Load
import HookPlan.Sample.Directive
import HookPlan.Sample.Plan
import HookPlan.Sample.Vocabulary
import HookPlan.Proofs.Expr.Tags
import HookPlan.Proofs.Directive.CaptureScoping
import HookPlan.Proofs.Config.HookLegality
import HookPlan.Proofs.Config.ListLoading
import HookPlan.Proofs.Format.Rendering
import HookPlan.Proofs.Context.Scoping
import HookPlan.Proofs.Expr.Annotations
import HookPlan.Proofs.Arena.Reading
import HookPlan.Proofs.Config.Interning
import HookPlan.Proofs.Config.Ownership
import HookPlan.Proofs.Config.Counting
import HookPlan.Proofs.Config.Initializing
import HookPlan.Proofs.Config.Releasing
import HookPlan.Proofs.Config.UseCounts
import HookPlan.Proofs.Config.Attaching
import HookPlan.Proofs.Config.Reporting
import HookPlan.Proofs.Config.Recording
import HookPlan.Proofs.Node.Descent
import HookPlan.Proofs.Expr.Constants
import HookPlan.Proofs.Config.Reading
import HookPlan.Proofs.Comparison.Captures
import HookPlan.Proofs.Comparison.IgnoringCase
import HookPlan.Proofs.Expr.Describing
import HookPlan.Proofs.Config.Selecting
import HookPlan.Proofs.Directive.Replying
import HookPlan.Proofs.Value.Integers
import HookPlan.Proofs.Format.Separating
import HookPlan.Proofs.Arena.Accounting
import HookPlan.Proofs.Config.Localizing
import HookPlan.Proofs.Expr.Chains
import HookPlan.Proofs.Compiling.Carrying
import HookPlan.Proofs.Expr.Carrying
import HookPlan.Proofs.Expr.Grouping
import HookPlan.Proofs.Directive.Carrying
import HookPlan.Proofs.Expr.Levelling
import HookPlan.Proofs.Config.ChunkSize
import HookPlan.Proofs.Directive.Listing
import HookPlan.Proofs.Directive.Picking
import HookPlan.Proofs.Config.KeyPaths
import HookPlan.Proofs.Lexicon.Entries
import HookPlan.Proofs.Vocabulary.Building
