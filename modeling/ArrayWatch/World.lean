import ArrayWatch.Metrics.Basic

/-!
# The world of a monitor

What the steps of a monitor work on besides its own state: the network that its links are open in,
and the metrics.
-/

namespace ArrayWatch

/-- A network and the metrics. -/
structure World (ν : Type) where
  net : ν
  metrics : Metrics

namespace World

variable {ν α : Type}

/-- Counts something. -/
def count (w : World ν) (f : Metrics → Metrics) : World ν :=
  { w with metrics := f w.metrics }

/-- One step of each item in turn. -/
def each (step : α → World ν → α × World ν) : List α → World ν → List α × World ν
  | [], w => ([], w)
  | a :: rest, w =>
    let (a, w) := step a w
    let (rest, w) := each step rest w
    (a :: rest, w)

end World

end ArrayWatch
