import PageCoverage.Notice

namespace PageCoverage

/-- How a wait ends. -/
inductive WaitEnd where
  /-- The time is over. -/
  | elapsed (millis : Nat)
  /-- The user asked for the end. -/
  | interrupted
  deriving DecidableEq, Repr

/-- Wait for a duration, in milliseconds, or for an interrupt that comes earlier. -/
def waitForStop (duration : Nat) (interrupt : Option Nat) : WaitEnd × List Notice :=
  if interrupt.any (· < duration) then (.interrupted, [.interrupted]) else (.elapsed duration, [])

end PageCoverage
