import LayeredScene.Delegate.Authored
import LayeredScene.Locator.Description
import LayeredScene.Network.Session
import LayeredScene.Number.Numeral
import LayeredScene.Proofs.Delegate.Coherence
import LayeredScene.Proofs.Locator.Overlap
import LayeredScene.Proofs.Motion.Resolution
import LayeredScene.Proofs.Network.Announcing
import LayeredScene.Proofs.Network.Exclusion
import LayeredScene.Proofs.Network.MergeInputs
import LayeredScene.Proofs.Network.Merging
import LayeredScene.Proofs.Network.ServedPrims
import LayeredScene.Proofs.Path.Building
import LayeredScene.Proofs.Scene.Descent
import LayeredScene.Proofs.Scene.Traversal
import LayeredScene.Proofs.TimeSamples.Contribution
import LayeredScene.Source.Times
import LayeredScene.Proofs.Source.Overlay
import LayeredScene.Proofs.Network.Views
import LayeredScene.Proofs.Scene.Globals
import LayeredScene.Proofs.Network.Globals
import LayeredScene.Proofs.Motion.Untouched
import LayeredScene.Proofs.Network.HiddenBindings
import LayeredScene.Proofs.Motion.Bracketing
import LayeredScene.Proofs.Motion.ReportedTimes
import LayeredScene.Proofs.TimeSamples.StampOrder
import LayeredScene.Proofs.TimeSamples.Piecewise
import LayeredScene.Proofs.TimeSamples.CheckedReading
import LayeredScene.Proofs.TimeSamples.Indexing
import LayeredScene.Proofs.Source.MergedTimes
import LayeredScene.Proofs.Source.Nesting
import LayeredScene.Proofs.Network.Additions
import LayeredScene.Proofs.Network.Leaving
import LayeredScene.Proofs.Path.Outermost
import LayeredScene.Proofs.Network.PrunedViews
import LayeredScene.Proofs.Network.Registration
import LayeredScene.Proofs.Delegate.Materials
import LayeredScene.Proofs.Source.Dictionaries
import LayeredScene.Proofs.Source.Locating
import LayeredScene.Proofs.Value.Blending
import LayeredScene.Proofs.Source.TypedReading
import LayeredScene.Proofs.Locator.Spelling
import LayeredScene.Proofs.Path.Subtrees
import LayeredScene.Proofs.Delegate.Primvars
import LayeredScene.Proofs.Network.Delivery
