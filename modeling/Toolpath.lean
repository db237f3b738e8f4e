import Toolpath.CommandLine.Run
import Toolpath.Entity.Attribute
import Toolpath.Main
import Toolpath.Motion.Recording
import Toolpath.Proofs.CommandRuns
import Toolpath.Proofs.Concatenation
import Toolpath.Proofs.Rendering
import Toolpath.Proofs.SessionAccount
import Toolpath.Proofs.SettingsInJson
import Toolpath.Proofs.SettingsInToml
import Toolpath.Proofs.Waits
import Toolpath.Proofs.LineBreaks
import Toolpath.Proofs.DoubleOrder
import Toolpath.Proofs.FiniteNumbers
import Toolpath.Proofs.GreedyTour
import Toolpath.Proofs.Unmeasurable
import Toolpath.Proofs.SettledTours
import Toolpath.Proofs.ImportedRecords
import Toolpath.Proofs.BlockTexts
import Toolpath.Proofs.Replays
import Toolpath.Proofs.ClosedChains
import Toolpath.Proofs.ArcSweeps
import Toolpath.Proofs.PartialDocuments
import Toolpath.Proofs.NearestPlaces
import Toolpath.Proofs.Distances
