import ArrayWatch.Metrics.Basic
import ArrayWatch.Text.WholeDouble

/-!
# Text exposition of the metrics

The format that metric collectors read: the families by name, each with a line for its help text, a
line for its type, and a line for each series in the order of the label values. A family without
series is left out. Collectors read the numbers as doubles, and so they are written.
-/

namespace ArrayWatch

/-- A family of series and how it is announced. -/
structure MetricFamily where
  name : String
  help : String
  type : String
  labels : List String
  series : List (List String × Int)
  deriving Repr

namespace MetricFamily

/-- A label value between its quotes. -/
def escapeLabel (text : String) : String :=
  String.ofList <| text.toList.flatMap fun c =>
    if c = '\\' then ['\\', '\\']
    else if c = '"' then ['\\', '"']
    else if c = '\n' then ['\\', 'n']
    else [c]

/-- The labels of one series in braces, and nothing where there are none. -/
def labelText (labels values : List String) : String :=
  if labels.isEmpty then ""
  else "\x7b" ++ ",".intercalate (List.zipWith
    (fun label value => label ++ "=\"" ++ escapeLabel value ++ "\"") labels values) ++ "\x7d"

/-- The number of words of 64 bits. -/
def wordCount : Nat := 18446744073709551616

/-- A number as a double. -/
def sampleText (n : Int) : String :=
  (if n < 0 then "-" else "") ++ toString (WholeDouble.shortest (WholeDouble.nearest n.natAbs))

/-- Whether label values come before others, or are the same. -/
def precedes : List String → List String → Bool
  | [], _ => true
  | _ :: _, [] => false
  | a :: rest, b :: others => a < b || (a == b && precedes rest others)

/-- The series in the order of their label values. -/
def sorted (f : MetricFamily) : List (List String × Int) :=
  f.series.mergeSort fun a b => precedes a.1 b.1

def lines (f : MetricFamily) : List String :=
  if f.series.isEmpty then []
  else
    ("# HELP " ++ f.name ++ " " ++ f.help) :: ("# TYPE " ++ f.name ++ " " ++ f.type) ::
      f.sorted.map fun (values, n) => f.name ++ labelText f.labels values ++ " " ++ sampleText n

/-- A family of counters. A counter is an unsigned word of 64 bits. -/
def counters (name help : String) (labels : List String) (series : List (List String × Int)) :
    MetricFamily :=
  ⟨name, help, "counter", labels, series.map fun (values, n) => (values, n % wordCount)⟩

/-- A family of gauges. A gauge is a signed word of 64 bits. -/
def gauges (name help : String) (labels : List String) (series : List (List String × Int)) :
    MetricFamily :=
  ⟨name, help, "gauge", labels, series.map fun (values, n) => (values, Int.bmod n wordCount)⟩

end MetricFamily

namespace Metrics

/-- The families, in the order of their names. -/
def families (m : Metrics) : List MetricFamily :=
  [.gauges "katmon_arrays" "Arrays currently tracked" [] [([], m.arrays)],
    .counters "katmon_arrays_pruned_total" "Arrays pruned after array-list reconciliation" []
      [([], m.arraysPruned)],
    .gauges "katmon_channel_state" "Channels per state machine state" ["role", "state"]
      m.channelState.entries,
    .gauges "katmon_channels_connected" "Channels not in the disconnected state" ["role"]
      m.channelsConnected.entries,
    .counters "katmon_cmc_reconnects_total" "CMC connection re-open attempts" []
      [([], m.reconnects)],
    .counters "katmon_informs_total" "KATCP informs received" ["kind"] m.informs.entries,
    .counters "katmon_malformed_informs_total" "Inform payloads skipped or defaulted" ["reason"]
      m.malformedInforms.entries,
    .counters "katmon_request_failures_total" "KATCP requests rejected by the server" ["request"]
      m.requestFailures.entries,
    .counters "katmon_requests_sent_total" "KATCP requests sent" ["role"]
      m.requestsSent.entries]

/-- The lines of the exposition. -/
def exposition (m : Metrics) : List String :=
  m.families.flatMap MetricFamily.lines

end Metrics

end ArrayWatch
