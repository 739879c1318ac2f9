import Gatehouse.Directory.Memory
import Gatehouse.Identity.Pool
import Gatehouse.Main
import Gatehouse.Proofs.Http.HopByHop
import Gatehouse.Proofs.Routing.Director
import Gatehouse.Proofs.Identity.Cache
import Gatehouse.Proofs.Identity.Provenance
import Gatehouse.Proofs.Gateway.Engine
import Gatehouse.Proofs.Gateway.SignedRequests
import Gatehouse.Proofs.Directory.MailFilter
import Gatehouse.Proofs.Directory.Registry
import Gatehouse.Proofs.Identity.Locks
import Gatehouse.Proofs.Identity.Interleaving
import Gatehouse.Proofs.Identity.OneAccount
import Gatehouse.Proofs.Gateway.OwnHeaders
import Gatehouse.Proofs.Routing.Table
import Gatehouse.Proofs.Routing.Selection
import Gatehouse.Proofs.Identity.Alone
import Gatehouse.Proofs.Gateway.Unwatched
import Gatehouse.Proofs.Identity.Retention
import Gatehouse.Proofs.Identity.Transparency
import Gatehouse.Proofs.Gateway.Destination
import Gatehouse.Proofs.Gateway.SentPath
import Gatehouse.Proofs.Http.Authority
import Gatehouse.Proofs.Routing.Addressable
import Gatehouse.Proofs.Gateway.InertTokens
import Gatehouse.Proofs.Identity.Course
import Gatehouse.Proofs.Gateway.FailsClosed
import Gatehouse.Proofs.Directory.Transcript
import Gatehouse.Proofs.Identity.Provisioning
import Gatehouse.Proofs.Gateway.Health
import Gatehouse.Proofs.Gateway.Startup
import Gatehouse.Proofs.Gateway.FaithfulTokens
import Gatehouse.Proofs.Identity.Outcome
import Gatehouse.Proofs.Routing.InPlace
import Gatehouse.Proofs.Identity.LockMap
import Gatehouse.Proofs.Identity.Recall
import Gatehouse.Proofs.Routing.Parts
import Gatehouse.Proofs.Directory.OneAddress
import Gatehouse.Proofs.Gateway.Hops
import Gatehouse.Proofs.Config.Soundness
import Gatehouse.Proofs.Gateway.KeptHeaders
import Gatehouse.Proofs.Gateway.Probe
