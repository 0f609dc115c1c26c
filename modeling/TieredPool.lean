import TieredPool.Main
import TieredPool.Session
import TieredPool.Settings.FileTree
import TieredPool.Proofs.Session.Laws
import TieredPool.Proofs.Crew.Laws
import TieredPool.Proofs.Ring.Queue
import TieredPool.Proofs.Session.Destroy
import TieredPool.Proofs.Session.Zeroing
import TieredPool.Proofs.Workshop.Laws
import TieredPool.Proofs.Session.Sizing
import TieredPool.Proofs.Session.Isolation
import TieredPool.Proofs.Session.Agreement
import TieredPool.Proofs.Workshop.Supply
import TieredPool.Proofs.Pool.Exactness
import TieredPool.Proofs.Session.Exhaustion
import TieredPool.Proofs.Workshop.Admission
import TieredPool.Proofs.Settings.Loading
import TieredPool.Proofs.Session.Bursts
import TieredPool.Proofs.Session.Turns
import TieredPool.Proofs.Backing.Custody
import TieredPool.Proofs.Backing.Reservation
import TieredPool.Proofs.Backing.Accounting
import TieredPool.Proofs.Session.Sharing
import TieredPool.Proofs.Workshop.Arithmetic
import TieredPool.Proofs.Settings.Findings
import TieredPool.Proofs.Settings.Report
import TieredPool.Proofs.Metrics.Board
import TieredPool.Proofs.Session.Watching
