import SymbolGraph.Fix.FileTree
import SymbolGraph.Jobs.Session
import SymbolGraph.Proofs.BatchEdits
import SymbolGraph.Proofs.DocumentationLines
import SymbolGraph.Proofs.JobTraces
import SymbolGraph.Proofs.JsonRoundTrip
import SymbolGraph.Proofs.JumpTargets
import SymbolGraph.Proofs.MarkedFixes
import SymbolGraph.Proofs.MergeOrder
import SymbolGraph.Proofs.OverrideFolds
import SymbolGraph.Proofs.PositionOrder
import SymbolGraph.Proofs.QualifiedResolution
import SymbolGraph.Proofs.ReportReadBack
import SymbolGraph.Proofs.SlotReuse
