import Proofread.Main
import Proofread.Files.Tree
import Proofread.Proofs.Attribution
import Proofread.Proofs.CheckedFiles
import Proofread.Proofs.Composition
import Proofread.Proofs.Configuration
import Proofread.Proofs.FailedPass
import Proofread.Proofs.FixtureRuns
import Proofread.Proofs.IgnoredHeadings
import Proofread.Proofs.IgnoredTabs
import Proofread.Proofs.ReportedPlaces
import Proofread.Proofs.SpanlessPass
import Proofread.Proofs.FixtureWalk
import Proofread.Proofs.ForeignMessages
import Proofread.Proofs.JsonLayout
import Proofread.Proofs.JsonReport
import Proofread.Proofs.AtomicAttachment
import Proofread.Proofs.DefaultConfig
import Proofread.Proofs.PassageTree
import Proofread.Proofs.Conservation
import Proofread.Proofs.AdjacentTexts
import Proofread.Proofs.LineOrder
import Proofread.Proofs.CharacterPlaces
import Proofread.Proofs.TrimmedSpans
import Proofread.Proofs.NestedSpans
import Proofread.Proofs.DirectivePattern
import Proofread.Proofs.HeadingIncrements
import Proofread.Proofs.RepeatedHeadings
import Proofread.Proofs.HeadingOutline
import Proofread.Proofs.PathCut
import Proofread.Proofs.AlikePlaces
import Proofread.Proofs.PathNames
import Proofread.Proofs.NearestConfig
