import ArrayWatch.Monitor.Basic

/-!
# Timers

The timers of a monitor run out at every multiple of their period. The first attempt to reconnect is
due at once; the array list is asked for after a whole period, for the first requests on a
connection ask for it already.
-/

namespace ArrayWatch.Timers

/-- The multiples of a period after `start`, up to `stop`. -/
def multiples (period start stop : Nat) : List Nat :=
  (List.range (stop / period - start / period)).map fun i => (start / period + 1 + i) * period

/-- The ticks that are due while the clock goes from `start` to `stop` seconds, in order. -/
def due (config : MonitorConfig) (start stop : Nat) : List Tick :=
  let reconnects := (multiples config.reconnectSecs start stop).map (·, Tick.reconnect)
  let polls := (multiples config.pollSecs start stop).map (·, Tick.pollArrayList)
  ((reconnects ++ polls).mergeSort fun a b => decide (a.1 ≤ b.1)).map Prod.snd

end ArrayWatch.Timers
