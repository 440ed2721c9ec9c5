import SqlLineage.Json.Reader
import SqlLineage.Main
import SqlLineage.Proofs.CleanedDump
import SqlLineage.Proofs.ClosedText
import SqlLineage.Proofs.Cycle
import SqlLineage.Proofs.Dot
import SqlLineage.Proofs.Export
import SqlLineage.Proofs.FileTree
import SqlLineage.Proofs.Focus
import SqlLineage.Proofs.GraphClosure
import SqlLineage.Proofs.GraphJson
import SqlLineage.Proofs.GuessIndependence
import SqlLineage.Proofs.JoinedScript
import SqlLineage.Proofs.Narrowing
import SqlLineage.Proofs.QualifiedReference
import SqlLineage.Proofs.QuotedText
import SqlLineage.Proofs.RegistryTransition
import SqlLineage.Proofs.RunFiles
import SqlLineage.Proofs.Segment
import SqlLineage.Proofs.SettledKind
import SqlLineage.Proofs.ShownName
import SqlLineage.Proofs.Spelling
import SqlLineage.Proofs.SplitAgreement
import SqlLineage.Proofs.SplitComposition
import SqlLineage.Proofs.EdgeInsertion
import SqlLineage.Proofs.RegistrySoundness
import SqlLineage.Proofs.QueryBody
import SqlLineage.Proofs.ByteCutter
import SqlLineage.Proofs.Numbering
import SqlLineage.Proofs.NameParts
