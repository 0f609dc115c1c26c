import TieredPool.Text.Record

/-!
# Tallies of backing calls

Every backing counts the requests it met, the elements it took back and the requests it refused.
-/

namespace TieredPool

/-- Counts of the calls a backing has answered. -/
structure Tally where
  allocations : Nat := 0
  deallocations : Nat := 0
  failures : Nat := 0
deriving DecidableEq, Repr, Inhabited

namespace Tally

/-- One more request was met. -/
def allocated (t : Tally) : Tally := { t with allocations := t.allocations + 1 }

/-- One more element came back. -/
def deallocated (t : Tally) : Tally := { t with deallocations := t.deallocations + 1 }

/-- One more request was refused. -/
def failed (t : Tally) : Tally := { t with failures := t.failures + 1 }

/-- Elements handed out and not taken back; zero if more came back than went out. -/
def live (t : Tally) : Nat := t.allocations - t.deallocations

def record (t : Tally) : Record :=
  .labelled "AllocStats"
    [("allocations", .ofNat t.allocations), ("deallocations", .ofNat t.deallocations),
      ("failures", .ofNat t.failures)]

end Tally

end TieredPool
