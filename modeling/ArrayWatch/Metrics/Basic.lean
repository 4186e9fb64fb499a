import ArrayWatch.Keyed
import ArrayWatch.Metrics.LabelDigest

/-!
# Metrics

Counters and gauges of the monitor. A series keeps one number for each combination of label values;
combinations with one digest share a number, under the label values that came first.

* `Series.value_set_self`, `Series.value_add_self`, `Series.value_add_of_ne`: what a series holds
  after a change.
-/

namespace ArrayWatch

/-- One number for each combination of label values that has been seen. -/
structure Series where
  entries : List (List String × Int)
  deriving DecidableEq, Repr, Inhabited

namespace Series

def empty : Series := ⟨[]⟩

/-- The digest by which an entry is found. -/
def entryDigest (entry : List String × Int) : UInt64 :=
  LabelDigest.digest entry.1

/-- The number of a combination, zero where it has not been seen. -/
def value (s : Series) (labels : List String) : Int :=
  ((Keyed.get? entryDigest (LabelDigest.digest labels) s.entries).map Prod.snd).getD 0

/-- Changes the number of a combination. -/
def modify (s : Series) (labels : List String) (change : Int → Int) : Series :=
  ⟨Keyed.upsert entryDigest (LabelDigest.digest labels) (labels, 0)
    (fun entry => (entry.1, change entry.2)) s.entries⟩

def set (s : Series) (labels : List String) (n : Int) : Series :=
  s.modify labels fun _ => n

def add (s : Series) (labels : List String) (n : Nat) : Series :=
  s.modify labels (· + n)

theorem value_modify_self (s : Series) (labels : List String) (change : Int → Int) :
    (s.modify labels change).value labels = change (s.value labels) := by
  unfold value modify
  rw [Keyed.get?_upsert_self]
  · cases Keyed.get? entryDigest (LabelDigest.digest labels) s.entries <;> rfl
  · rfl
  · exact fun _ => rfl

theorem value_modify_of_ne (s : Series) {labels other : List String} (change : Int → Int)
    (h : LabelDigest.digest other ≠ LabelDigest.digest labels) :
    (s.modify labels change).value other = s.value other := by
  unfold value modify
  rw [Keyed.get?_upsert_of_ne _ _ h]
  · rfl
  · exact fun _ => rfl

theorem value_set_self (s : Series) (labels : List String) (n : Int) :
    (s.set labels n).value labels = n :=
  s.value_modify_self labels fun _ => n

theorem value_add_self (s : Series) (labels : List String) (n : Nat) :
    (s.add labels n).value labels = s.value labels + n :=
  s.value_modify_self labels (· + n)

theorem value_add_of_ne (s : Series) {labels other : List String} (n : Nat)
    (h : LabelDigest.digest other ≠ LabelDigest.digest labels) :
    (s.add labels n).value other = s.value other :=
  s.value_modify_of_ne _ h

end Series

/-- Everything that is counted. -/
structure Metrics where
  arrays : Int
  arraysPruned : Nat
  reconnects : Nat
  channelsConnected : Series
  channelState : Series
  informs : Series
  requestsSent : Series
  requestFailures : Series
  malformedInforms : Series
  deriving DecidableEq, Repr, Inhabited

namespace Metrics

/-- The metrics before anything happened. -/
def zero : Metrics :=
  ⟨0, 0, 0, .empty, .empty, .empty, .empty, .empty, .empty⟩

/-! ## Counters -/

def informReceived (m : Metrics) (kind : String) : Metrics :=
  { m with informs := m.informs.add [kind] 1 }

/-- Counts requests that a transport took. No series is made for none. -/
def requestsSentBy (m : Metrics) (role : String) (count : Nat) : Metrics :=
  if count = 0 then m else { m with requestsSent := m.requestsSent.add [role] count }

def requestFailed (m : Metrics) (request : String) : Metrics :=
  { m with requestFailures := m.requestFailures.add [request] 1 }

/-- Counts informs, or parts of one, that could not be used. No series is made for none. -/
def malformed (m : Metrics) (reason : String) (count : Nat) : Metrics :=
  if count = 0 then m else { m with malformedInforms := m.malformedInforms.add [reason] count }

def pruned (m : Metrics) (count : Nat) : Metrics :=
  { m with arraysPruned := m.arraysPruned + count }

def reconnected (m : Metrics) : Metrics :=
  { m with reconnects := m.reconnects + 1 }

/-! ## Gauges -/

def setArrays (m : Metrics) (count : Int) : Metrics :=
  { m with arrays := count }

/-- The states of a channel, as labels. -/
def channelStates : List String :=
  ["wait_connect", "send_front_of_queue", "wait_response", "monitor", "disconnected"]

/-- The sum of counts. -/
def total (counts : List Int) : Int := counts.foldl (· + ·) 0

/-- The sum of the counts of a state. -/
def countOf (state : String) (counts : List (String × Int)) : Int :=
  total ((counts.filter fun count => count.1 == state).map Prod.snd)

/-- Sets the number of channels of a role in every state. A state without a count has none, and
every state but `disconnected` counts as connected. -/
def setChannelStates (m : Metrics) (role : String) (counts : List (String × Int)) : Metrics :=
  { m with
    channelState := channelStates.foldl
      (fun series state => series.set [role, state] (countOf state counts)) m.channelState
    channelsConnected := m.channelsConnected.set [role]
      (total ((channelStates.filter (· != "disconnected")).map (countOf · counts))) }

end Metrics

end ArrayWatch
