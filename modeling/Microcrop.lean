import Microcrop.ActiveCover
import Microcrop.AuthorityMap
import Microcrop.BrokenNeighbors
import Microcrop.CertificateAgreement
import Microcrop.ClaimRefusals
import Microcrop.CoverStages
import Microcrop.DrierEvidence
import Microcrop.DroughtAcceptance
import Microcrop.EvidenceReplay
import Microcrop.EvmLayout
import Microcrop.IndexBounds
import Microcrop.KillSwitches
import Microcrop.OverflowFreedom
import Microcrop.Redelivery
import Microcrop.SeasonFits
import Microcrop.SpentDigests
import Microcrop.YearlyClaims
