import PathRouter.ConfigFile
import PathRouter.Expression.Groups
import PathRouter.Expression.Read
import PathRouter.Pattern.Fill
import PathRouter.Pattern.Overlap
import PathRouter.Pattern.Grammar
import PathRouter.Session
import PathRouter.Template.Chunk
import PathRouter.Proofs.Expression.Agreement
import PathRouter.Proofs.Pattern.CanonicalForm
import PathRouter.Proofs.Pattern.Inversion
import PathRouter.Proofs.Registry.Loading
import PathRouter.Proofs.Registry.Records
import PathRouter.Proofs.Session.Numbers
import PathRouter.Proofs.Session.Emission
import PathRouter.Proofs.Session.Trace
import PathRouter.Proofs.Session.History
import PathRouter.Proofs.Session.Tables
import PathRouter.Proofs.Table.Reachability
import PathRouter.Proofs.Table.Rearrangement
import PathRouter.Proofs.Session.Stability
import PathRouter.Proofs.Pattern.Anchoring
import PathRouter.Proofs.Session.Anchoring
import PathRouter.Proofs.Session.Calls
import PathRouter.Proofs.Registry.Failures
import PathRouter.Proofs.Pattern.Writing
import PathRouter.Proofs.Config.Shape
import PathRouter.Proofs.Template.Chunks
import PathRouter.Proofs.Template.Scope
import PathRouter.Proofs.Yaml.Places
import PathRouter.Proofs.Yaml.Readers
import PathRouter.Proofs.Yaml.Scanning
import PathRouter.Proofs.Yaml.Composing
import PathRouter.Proofs.Yaml.Merging
import PathRouter.Proofs.Yaml.Checking
import PathRouter.Proofs.Yaml.Values
import PathRouter.Proofs.ConfigFile
import PathRouter.Proofs.Config.Levels
import PathRouter.Proofs.Yaml.Unfolding
import PathRouter.Proofs.Expression.Escaping
import PathRouter.Proofs.Expression.Grouping
import PathRouter.Proofs.Registry.Alike
import PathRouter.Proofs.Registry.Building
