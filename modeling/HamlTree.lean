import HamlTree.Main
import HamlTree.Proofs.Agreement
import HamlTree.Proofs.BehindFilter
import HamlTree.Proofs.BehindGroup
import HamlTree.Proofs.CommentOpacity
import HamlTree.Proofs.Composition
import HamlTree.Proofs.Definedness
import HamlTree.Proofs.DocumentOrder
import HamlTree.Proofs.DrawingReading
import HamlTree.Proofs.EscapeSign
import HamlTree.Proofs.FeedCalls
import HamlTree.Proofs.FilterBodies
import HamlTree.Proofs.FirstError
import HamlTree.Proofs.KeywordPatterns
import HamlTree.Proofs.LegalNesting
import HamlTree.Proofs.LineCoverage
import HamlTree.Proofs.LineRewriting
import HamlTree.Proofs.MatchingCloser
import HamlTree.Proofs.Naming
import HamlTree.Proofs.Nesting
import HamlTree.Proofs.SnapshotReading
import HamlTree.Proofs.StepWidth
import HamlTree.Proofs.TrackerCalls
