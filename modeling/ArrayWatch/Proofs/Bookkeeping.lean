import ArrayWatch.Proofs.ArrayChannels
import ArrayWatch.Proofs.CmcStep
import ArrayWatch.Proofs.MetricSeries

/-!
# Two sets of books

What happens on a channel is counted twice: the channel counts it for itself, when it comes or goes,
and its owner counts it in the metrics, when it acts on it. The two sets of books are compared by
weights: whatever each thing that is counted is worth, both come to the same worth. So they agree on
each of these things by itself. The links that the network was asked to open are counted along with
the metrics, one for each channel that was made or reset, so that no channel is left out.

* `Tapped`: a network, and everything that its links have delivered.
* `Weights`: what each thing is worth. `Weights.ofChannel`, `Weights.ofWorld` and `Weights.ofEvents`
  are the worth of a channel, of a world, and of events that are still to be acted on.
* `Weights.Books`: what is gained from one world to another.
* `Weights.books_read`, `Weights.books_flush`: what a world gains is what a channel gains.
-/

namespace ArrayWatch

/-! ## Deliveries -/

/-- A network and everything that its links have delivered. -/
structure Tapped (ν : Type) where
  net : ν
  delivered : List LinkEvent

namespace Tapped

variable {ν : Type}

/-- A network that has not delivered anything yet. -/
def fresh (net : ν) : Tapped ν := ⟨net, []⟩

/-- The remote sides act. What was delivered stays. -/
def act (t : Tapped ν) (move : ν → ν) : Tapped ν := { t with net := move t.net }

instance [Network ν] : Network (Tapped ν) where
  openLink host port t :=
    let (link, net) := Network.openLink host port t.net
    (link, { t with net })
  send link m t :=
    let (answer, net) := Network.send link m t.net
    (answer, { t with net })
  drain link t :=
    let (events, net) := Network.drain link t.net
    (events, ⟨net, t.delivered ++ events⟩)
  hasUnflushed link t := Network.hasUnflushed link t.net

end Tapped

/-! ## Requests by role -/

namespace Metrics

/-- The requests that channels of a role have sent. -/
def sentBy (m : Metrics) (role : ChannelRole) : Int := m.requestsSent.value [role.word]

theorem sentBy_requestsSentBy (m : Metrics) (role other : ChannelRole) (count : Nat) :
    (m.requestsSentBy role.word count).sentBy other =
      m.sentBy other + if role = other then (count : Int) else 0 := by
  unfold requestsSentBy sentBy
  by_cases hcount : count = 0
  · simp [hcount]
  · by_cases hrole : role = other
    · rw [if_neg hcount, if_pos hrole, hrole]
      exact m.requestsSent.value_add_self _ _
    · rw [if_neg hcount, if_neg hrole, Int.add_zero]
      exact m.requestsSent.value_add_of_ne _ fun h => hrole (ChannelRole.digest_inj _ _ h).symm

end Metrics

/-! ## Weights -/

/-- What each thing that is counted is worth. -/
structure Weights where
  /-- A request that a channel of a role has sent. -/
  sent : ChannelRole → Int
  /-- A reply that does not say ok. -/
  failed : Int
  informs : Int
  /-- A connection to a CMC that was opened again. -/
  reconnects : Int
  /-- An array that was removed as suspect. -/
  pruned : Int
  /-- A link that was opened. -/
  links : Int

namespace Weights

variable (k : Weights)

/-- What a channel has counted, and the link that it was made with. -/
def ofChannel (c : Channel) : Int :=
  k.links + k.sent c.role * c.stats.sent + k.failed * c.stats.repliesFailed +
    k.informs * c.stats.informs

/-- What the metrics have counted. -/
def ofMetrics (m : Metrics) : Int :=
  (ChannelRole.all.map fun role => k.sent role * m.sentBy role).sum +
    k.failed * m.requestFailures.total + k.informs * m.informs.total +
    k.reconnects * m.reconnects + k.pruned * m.arraysPruned

/-- What an event is counted as. -/
def ofEvent : ChannelEvent → Int
  | .inform _ => k.informs
  | .reply _ answer => if answer.isOkReply then 0 else k.failed

def ofEvents (events : List ChannelEvent) : Int := (events.map k.ofEvent).sum

/-! ## Metrics -/

theorem ofMetrics_zero : k.ofMetrics .zero = 0 := by
  simp [ofMetrics, ChannelRole.all, Metrics.zero, Metrics.sentBy, Series.value, Series.total,
    Series.empty]

theorem ofMetrics_informReceived (m : Metrics) (kind : String) :
    k.ofMetrics (m.informReceived kind) = k.ofMetrics m + k.informs := by
  have htotal : (m.informReceived kind).informs.total = m.informs.total + 1 :=
    m.informs.total_add [kind] 1
  simp only [ofMetrics, htotal]
  simp only [Metrics.informReceived, Metrics.sentBy]
  ring

theorem ofMetrics_requestFailed (m : Metrics) (request : String) :
    k.ofMetrics (m.requestFailed request) = k.ofMetrics m + k.failed := by
  have htotal : (m.requestFailed request).requestFailures.total = m.requestFailures.total + 1 :=
    m.requestFailures.total_add [request] 1
  simp only [ofMetrics, htotal]
  simp only [Metrics.requestFailed, Metrics.sentBy]
  ring

theorem ofMetrics_recordReply (m : Metrics) (request answer : Message) :
    k.ofMetrics (m.recordReply request answer) =
      k.ofMetrics m + k.ofEvent (.reply request answer) := by
  unfold Metrics.recordReply
  by_cases hok : answer.isOkReply
  · simp [ofEvent, hok]
  · simp [ofEvent, hok, ofMetrics_requestFailed]

theorem ofMetrics_requestsSentBy (m : Metrics) (role : ChannelRole) (count : Nat) :
    k.ofMetrics (m.requestsSentBy role.word count) = k.ofMetrics m + k.sent role * count := by
  have hsame : m.requestsSentBy role.word count =
      { m with requestsSent := (m.requestsSentBy role.word count).requestsSent } := by
    unfold Metrics.requestsSentBy
    split <;> rfl
  have hroles : (ChannelRole.all.map fun other =>
      k.sent other * (m.requestsSentBy role.word count).sentBy other).sum =
      (ChannelRole.all.map fun other => k.sent other * m.sentBy other).sum +
        k.sent role * count := by
    simp only [Metrics.sentBy_requestsSentBy]
    cases role <;> simp [ChannelRole.all] <;> ring
  unfold ofMetrics
  rw [hroles, hsame]
  ring

@[simp] theorem ofMetrics_malformed (m : Metrics) (reason : String) (count : Nat) :
    k.ofMetrics (m.malformed reason count) = k.ofMetrics m := by
  unfold Metrics.malformed
  split <;> rfl

theorem ofMetrics_reconnected (m : Metrics) :
    k.ofMetrics m.reconnected = k.ofMetrics m + k.reconnects := by
  simp only [ofMetrics, Metrics.reconnected, Metrics.sentBy, Nat.cast_add, Nat.cast_one]
  ring

theorem ofMetrics_pruned (m : Metrics) (count : Nat) :
    k.ofMetrics (m.pruned count) = k.ofMetrics m + k.pruned * count := by
  simp only [ofMetrics, Metrics.pruned, Metrics.sentBy, Nat.cast_add]
  ring

/-! ## Channels -/

@[simp] theorem ofChannel_push (c : Channel) (m : Message) :
    k.ofChannel (c.push m) = k.ofChannel c := by
  unfold Channel.push
  split <;> rfl

@[simp] theorem ofChannel_reset (c : Channel) (link : Link) (seed : List Message) :
    k.ofChannel (c.reset link seed) = k.ofChannel c := rfl

theorem ofChannel_connected (role : ChannelRole) (link : Link) (seed : List Message)
    (cap : UInt32) : k.ofChannel (.connected role link seed cap) = k.links := by
  simp [ofChannel, Channel.connected, Channel.connecting, Channel.advance, ChannelStats.zero]

theorem ofChannel_receiveConnected (c : Channel) :
    k.ofChannel c.receiveConnected = k.ofChannel c := by
  unfold Channel.receiveConnected
  dsimp only
  split <;> rfl

theorem ofChannel_fail (c : Channel) : k.ofChannel c.fail = k.ofChannel c + k.failed := by
  have hcounted : k.ofChannel { c with
      stats := { c.stats with repliesFailed := c.stats.repliesFailed + 1 } } =
        k.ofChannel c + k.failed := by
    simp only [ofChannel, Nat.cast_add, Nat.cast_one]
    ring
  rw [← hcounted]
  unfold Channel.fail
  dsimp only
  split <;> rfl

/-- A message that comes to an event is worth as much to the channel as the event. -/
theorem ofChannel_receiveMessage (c : Channel) (m : Message) :
    k.ofChannel (c.receiveMessage m).1 =
      k.ofChannel c + k.ofEvents (c.receiveMessage m).2 := by
  unfold Channel.receiveMessage
  split
  · simp only [ofChannel, ofEvents, ofEvent, List.map_cons, List.map_nil, List.sum_cons,
      List.sum_nil, Nat.cast_add, Nat.cast_one]
    ring
  · unfold Channel.receiveReply
    split
    · exact (Int.add_zero _).symm
    · simp only [ofEvents, ofEvent, List.map_cons, List.map_nil, List.sum_cons, List.sum_nil,
        add_zero]
      split
      · exact (Int.add_zero _).symm
      · exact k.ofChannel_fail c
  · exact (Int.add_zero _).symm

theorem ofEvents_append (first rest : List ChannelEvent) :
    k.ofEvents (first ++ rest) = k.ofEvents first + k.ofEvents rest := by
  simp [ofEvents]

/-- A channel counts what comes of a batch of events, and no more: what comes after the connection
is closed is counted by no one. -/
theorem ofChannel_receive (c : Channel) (batch : List LinkEvent) :
    k.ofChannel (c.receive batch).1 = k.ofChannel c + k.ofEvents (c.receive batch).2 := by
  induction batch generalizing c with
  | nil => exact (Int.add_zero _).symm
  | cons event rest ih =>
    cases event with
    | connected => exact (ih _).trans (congrArg (· + _) (k.ofChannel_receiveConnected c))
    | line m =>
      show k.ofChannel ((c.receiveMessage m).1.receive rest).1 = k.ofChannel c +
        k.ofEvents ((c.receiveMessage m).2 ++ ((c.receiveMessage m).1.receive rest).2)
      rw [ih, k.ofChannel_receiveMessage, k.ofEvents_append, Int.add_assoc]
    | closed reason => exact (Int.add_zero _).symm

end Weights

/-! ## Reading and handing over -/

namespace Channel

theorem inform_mem_receiveMessage {c : Channel} {line m : Message}
    (h : .inform m ∈ (c.receiveMessage line).2) : m = line ∧ m.kind = .inform := by
  unfold receiveMessage at h
  split at h
  · rename_i hkind
    obtain rfl := ChannelEvent.inform.inj (List.mem_singleton.1 h)
    exact ⟨rfl, hkind⟩
  · unfold receiveReply at h
    split at h
    · exact absurd h List.not_mem_nil
    · cases List.mem_singleton.1 h
  · exact absurd h List.not_mem_nil

/-- The informs that come of a batch are lines of the batch. -/
theorem inform_mem_receive {c : Channel} {batch : List LinkEvent} {m : Message}
    (h : .inform m ∈ (c.receive batch).2) : .line m ∈ batch ∧ m.kind = .inform := by
  induction batch generalizing c with
  | nil => exact absurd h List.not_mem_nil
  | cons event rest ih =>
    cases event with
    | connected =>
      obtain ⟨hmem, hkind⟩ := ih (c := c.receiveConnected) h
      exact ⟨List.mem_cons_of_mem _ hmem, hkind⟩
    | line line =>
      rcases List.mem_append.1 h with hfirst | hrest
      · obtain ⟨rfl, hkind⟩ := inform_mem_receiveMessage hfirst
        exact ⟨List.mem_cons_self, hkind⟩
      · obtain ⟨hmem, hkind⟩ := ih hrest
        exact ⟨List.mem_cons_of_mem _ hmem, hkind⟩
    | closed reason => exact absurd h List.not_mem_nil

variable {ν : Type} [Network ν]

/-- An attempt to write is counted if the link took the request. -/
theorem counted_write (c : Channel) (net : ν) :
    (c.write net).2.1.role = c.role ∧
      ((c.write net).1 = .ok true →
        (c.write net).2.1.stats = { c.stats with sent := c.stats.sent + 1 }) ∧
      ((c.write net).1 ≠ .ok true → (c.write net).2.1.stats = c.stats) := by
  rcases c.write_cases net with ⟨hfail, hsame⟩ | ⟨m, -, hsend⟩
  · rw [hsame]
    exact ⟨rfl, fun h => absurd h hfail, fun _ => rfl⟩
  · rw [hsend]
    cases (Network.send c.link m net).1 with
    | accepted => exact ⟨rfl, fun _ => rfl, fun h => absurd rfl h⟩
    | wouldBlock => exact ⟨rfl, nofun, fun _ => rfl⟩
    | failed error => exact ⟨rfl, nofun, fun _ => rfl⟩

/-- Handing over is counted once for each request that the link took. -/
theorem counted_flushCounted (c : Channel) (net : ν) :
    (c.flushCounted net).2.1.role = c.role ∧
      (c.flushCounted net).2.1.stats =
        { c.stats with sent := c.stats.sent + (c.flushCounted net).1 } := by
  let Counts (n : Nat) (c' : Channel) (_ : ν) : Prop :=
    c'.role = c.role ∧ c'.stats = { c.stats with sent := c.stats.sent + n }
  have hall := @flushCounted_counts ν _ Counts (fun n c' net' ⟨hrole, hstats⟩ => by
    obtain ⟨hrole', htaken, hleft⟩ := c'.counted_write net'
    refine ⟨fun h => ⟨hrole'.trans hrole, ?_⟩, fun h => ⟨hrole'.trans hrole, ?_⟩⟩
    · rw [htaken h, hstats, Nat.add_assoc]
    · rw [hleft h, hstats]) 0 c net ⟨rfl, rfl⟩
  rwa [Nat.zero_add] at hall

end Channel

namespace World

variable {ν : Type}

/-- Everything that the links have delivered. -/
def delivered (w : World (Recorded (Tapped ν))) : List LinkEvent := w.net.net.delivered

end World

namespace Weights

/-! ## Books -/

section Books

variable (k : Weights) {ν : Type}

/-- Whether the owner of a channel counts an event as the channel does. An inform without words has
no name to be counted under. -/
def Clear : ChannelEvent → Prop
  | .inform m => k.informs = 0 ∨ m.name?.isSome
  | .reply .. => True

/-- Whether every inform that was delivered can be counted. -/
def Fair (delivered : List LinkEvent) : Prop :=
  ∀ m, .line m ∈ delivered → m.kind = .inform → k.Clear (.inform m)

/-- What the metrics have counted, and the links that were opened. -/
def ofWorld (w : World (Recorded (Tapped ν))) : Int :=
  k.ofMetrics w.metrics + k.links * w.net.opened.length

/-- The second world has gained so much over the first one. -/
structure Books (w w' : World (Recorded (Tapped ν))) (gain : Int) : Prop where
  delivered : w.delivered <+: w'.delivered
  gain : k.Fair w'.delivered → k.ofWorld w' = k.ofWorld w + gain

variable {k} {w w' w'' : World (Recorded (Tapped ν))} {gain gain' : Int}

theorem Fair.of_prefix {before after : List LinkEvent} (h : k.Fair after)
    (hearlier : before <+: after) : k.Fair before :=
  fun m hm => h m (hearlier.subset hm)

theorem Books.trans (h : k.Books w w' gain) (h' : k.Books w' w'' gain') :
    k.Books w w'' (gain + gain') := by
  refine ⟨h.delivered.trans h'.delivered, fun hfair => ?_⟩
  rw [h'.gain hfair, h.gain (hfair.of_prefix h'.delivered), Int.add_assoc]

theorem Books.of_eq (h : k.Books w w' gain) (heq : gain = gain') : k.Books w w' gain' := heq ▸ h

theorem Books.refl (w : World (Recorded (Tapped ν))) : k.Books w w 0 :=
  ⟨List.prefix_refl _, fun _ => (Int.add_zero _).symm⟩

/-- Where no link is opened, the metrics alone count. -/
theorem Books.of_metrics (hdelivered : w.delivered <+: w'.delivered)
    (hopened : w'.net.opened = w.net.opened)
    (hgain : k.Fair w'.delivered → k.ofMetrics w'.metrics = k.ofMetrics w.metrics + gain) :
    k.Books w w' gain := by
  refine ⟨hdelivered, fun hfair => ?_⟩
  rw [ofWorld, ofWorld, hopened, hgain hfair]
  omega

/-- One step of each item in turn. -/
theorem books_each {α : Type} {worth : α → Int}
    {step : α → World (Recorded (Tapped ν)) → α × World (Recorded (Tapped ν))}
    (hstep : ∀ a w, k.Books w (step a w).2 (worth (step a w).1 - worth a)) (items : List α)
    (w : World (Recorded (Tapped ν))) :
    k.Books w (World.each step items w).2
      (((World.each step items w).1.map worth).sum - (items.map worth).sum) := by
  induction items generalizing w with
  | nil => exact .refl w
  | cons a rest ih =>
    refine ((hstep a w).trans (ih (step a w).2)).of_eq ?_
    simp only [World.each, List.map_cons, List.sum_cons]
    omega

end Books

/-! ## Channels -/

variable (k : Weights) {ν : Type} [Network ν]

theorem ofChannel_read (c : Channel) (net : ν) :
    k.ofChannel (c.read net).1 = k.ofChannel c + k.ofEvents (c.read net).2.1 := by
  by_cases hdown : c.isDisconnected
  · rw [Channel.read_of_isDisconnected hdown]
    exact (Int.add_zero _).symm
  · rw [Channel.read_of_not_isDisconnected hdown]
    exact k.ofChannel_receive c _

/-- What a channel takes was delivered. -/
theorem delivered_read (c : Channel) (net : Recorded (Tapped ν)) :
    net.net.delivered <+: (c.read net).2.2.net.delivered ∧
      (k.Fair (c.read net).2.2.net.delivered → ∀ event ∈ (c.read net).2.1, k.Clear event) := by
  by_cases hdown : c.isDisconnected
  · rw [Channel.read_of_isDisconnected hdown]
    exact ⟨List.prefix_refl _, fun _ _ h => absurd h List.not_mem_nil⟩
  · rw [Channel.read_of_not_isDisconnected hdown]
    refine ⟨List.prefix_append _ _, fun hfair event hevent => ?_⟩
    cases event with
    | inform m =>
      obtain ⟨hmem, hkind⟩ := Channel.inform_mem_receive hevent
      exact hfair m (List.mem_append_right _ hmem) hkind
    | reply request answer => trivial

/-- The channel counts what it takes, and its owner enters the same in the metrics. -/
theorem books_read (c : Channel) (w : World (Recorded (Tapped ν))) {metrics : Metrics}
    (hentered : (∀ event ∈ (c.read w.net).2.1, k.Clear event) →
      k.ofMetrics metrics = k.ofMetrics w.metrics + k.ofEvents (c.read w.net).2.1) :
    k.Books w ⟨(c.read w.net).2.2, metrics⟩ (k.ofChannel (c.read w.net).1 - k.ofChannel c) := by
  obtain ⟨hdelivered, hclear⟩ := k.delivered_read c w.net
  refine .of_metrics hdelivered (c.opened_read w.net) fun hfair => ?_
  rw [k.ofChannel_read, add_sub_cancel_left]
  exact hentered (hclear hfair)

/-- Requests that are handed over are counted by the channel and in the metrics. -/
theorem books_flush (c : Channel) (w : World (Recorded (Tapped ν))) :
    k.Books w (c.flush w).2 (k.ofChannel (c.flush w).1 - k.ofChannel c) := by
  have hdelivered := @Channel.flushCounted_keeps (Recorded (Tapped ν)) _
    (fun _ net => net.net.delivered = w.delivered)
    (fun c' net' h => by
      rcases c'.write_cases net' with ⟨-, hsame⟩ | ⟨m, -, hsend⟩
      · rwa [hsame]
      · rw [hsend]
        exact h) c w.net rfl
  have hearlier : w.delivered <+: (c.flush w).2.delivered :=
    ⟨[], (List.append_nil _).trans hdelivered.symm⟩
  refine .of_metrics hearlier (c.opened_flush w) fun _ => ?_
  obtain ⟨hrole, hstats⟩ := c.counted_flushCounted w.net
  have hgain := k.ofMetrics_requestsSentBy w.metrics c.role (c.flushCounted w.net).1
  show k.ofMetrics (w.metrics.requestsSentBy c.role.word (c.flushCounted w.net).1) = _
  rw [hgain]
  show _ = _ + (k.ofChannel (c.flushCounted w.net).2.1 - k.ofChannel c)
  rw [ofChannel, hrole, hstats, ofChannel]
  push_cast
  ring

/-! ## Arrays -/

/-- What the two channels of an array have counted. -/
def ofArray (a : CorrelatorArray) : Int := k.ofChannel a.control + k.ofChannel a.monitor

def ofArrays (arrays : List CorrelatorArray) : Int := (arrays.map k.ofArray).sum

theorem ofArray_eq_of_ofChannels {a b : CorrelatorArray}
    (h : b.ofChannels k.ofChannel = a.ofChannels k.ofChannel) : k.ofArray b = k.ofArray a := by
  obtain ⟨hcontrol, hmonitor⟩ := Prod.mk.inj h
  rw [ofArray, ofArray, hcontrol, hmonitor]

theorem ofMetrics_controlReport (a : CorrelatorArray) (r : SensorReport) (m : Metrics) :
    k.ofMetrics (a.controlReport r m).2 = k.ofMetrics m := by
  unfold CorrelatorArray.controlReport
  split
  · rfl
  · split
    · exact k.ofMetrics_malformed m _ _
    · rfl

theorem ofMetrics_monitorReport (a : CorrelatorArray) (name : String) (r : SensorReport)
    (now : Timestamp) (m : Metrics) :
    k.ofMetrics (a.monitorReport name r now m).2 = k.ofMetrics m := by
  unfold CorrelatorArray.monitorReport
  split
  · exact k.ofMetrics_malformed m _ _
  · split
    · exact k.ofMetrics_malformed m _ _
    · rfl

/-- An inform without a name is worth nothing where it is counted as the channel does. -/
theorem informs_eq_zero_of_clear {k : Weights} {m : Message} (h : k.Clear (.inform m))
    (hname : m.name? = none) : k.informs = 0 := by
  rcases h with h | h
  · exact h
  · rw [hname] at h
    exact absurd h Bool.false_ne_true

theorem ofMetrics_controlEvent (a : CorrelatorArray) (m : Metrics) {event : ChannelEvent}
    (h : k.Clear event) :
    k.ofMetrics (a.controlEvent m event).2 = k.ofMetrics m + k.ofEvent event := by
  cases event with
  | reply request answer => exact k.ofMetrics_recordReply m request answer
  | inform message =>
    unfold CorrelatorArray.controlEvent ofEvent
    dsimp only
    split
    · rename_i hname
      rw [informs_eq_zero_of_clear h hname, Int.add_zero]
    · rename_i name hname
      rw [← k.ofMetrics_informReceived m name]
      split
      · rfl
      · rw [ofMetrics_controlReport, ofMetrics_malformed]

theorem ofMetrics_monitorEvent (a : CorrelatorArray) (now : Timestamp) (m : Metrics)
    {event : ChannelEvent} (h : k.Clear event) :
    k.ofMetrics (a.monitorEvent now m event).2 = k.ofMetrics m + k.ofEvent event := by
  cases event with
  | reply request answer => exact k.ofMetrics_recordReply m request answer
  | inform message =>
    unfold CorrelatorArray.monitorEvent ofEvent
    dsimp only
    split
    · rename_i hname
      rw [informs_eq_zero_of_clear h hname, Int.add_zero]
    · rename_i name hname
      rw [← k.ofMetrics_informReceived m name]
      split
      · rfl
      · rw [ofMetrics_monitorReport, ofMetrics_malformed]

theorem ofMetrics_controlEvents (a : CorrelatorArray) (m : Metrics) {events : List ChannelEvent}
    (h : ∀ event ∈ events, k.Clear event) :
    k.ofMetrics (a.controlEvents m events).2 = k.ofMetrics m + k.ofEvents events := by
  induction events generalizing a m with
  | nil => exact (Int.add_zero _).symm
  | cons event rest ih =>
    obtain ⟨hfirst, hrest⟩ := List.forall_mem_cons.1 h
    refine (ih (a.controlEvent m event).1 (a.controlEvent m event).2 hrest).trans ?_
    rw [k.ofMetrics_controlEvent a m hfirst, Int.add_assoc]
    rfl

theorem ofMetrics_monitorEvents (a : CorrelatorArray) (now : Timestamp) (m : Metrics)
    {events : List ChannelEvent} (h : ∀ event ∈ events, k.Clear event) :
    k.ofMetrics (a.monitorEvents now m events).2 = k.ofMetrics m + k.ofEvents events := by
  induction events generalizing a m with
  | nil => exact (Int.add_zero _).symm
  | cons event rest ih =>
    obtain ⟨hfirst, hrest⟩ := List.forall_mem_cons.1 h
    refine (ih (a.monitorEvent now m event).1 (a.monitorEvent now m event).2 hrest).trans ?_
    rw [k.ofMetrics_monitorEvent a now m hfirst, Int.add_assoc]
    rfl

theorem books_receiveControl (a : CorrelatorArray) (w : World (Recorded (Tapped ν))) :
    k.Books w (a.receiveControl w).2 (k.ofArray (a.receiveControl w).1 - k.ofArray a) := by
  let read := a.control.read w.net
  let taken : CorrelatorArray := { a with control := read.1 }
  have hbooks := k.books_read a.control w (k.ofMetrics_controlEvents taken w.metrics)
  have hchannels := k.ofArray_eq_of_ofChannels
    (CorrelatorArray.ofChannels_controlEvents k.ofChannel_push taken w.metrics read.2.1)
  refine hbooks.of_eq ?_
  show _ = k.ofArray (taken.controlEvents w.metrics read.2.1).1 - k.ofArray a
  rw [hchannels]
  show k.ofChannel read.1 - k.ofChannel a.control = k.ofChannel read.1 + k.ofChannel a.monitor - _
  rw [ofArray]
  omega

theorem books_receiveMonitor (a : CorrelatorArray) (now : Timestamp)
    (w : World (Recorded (Tapped ν))) :
    k.Books w (a.receiveMonitor now w).2 (k.ofArray (a.receiveMonitor now w).1 - k.ofArray a) := by
  let read := a.monitor.read w.net
  let taken : CorrelatorArray := { a with monitor := read.1 }
  have hbooks := k.books_read a.monitor w (k.ofMetrics_monitorEvents taken now w.metrics)
  have hchannels := k.ofArray_eq_of_ofChannels
    (CorrelatorArray.ofChannels_monitorEvents k.ofChannel taken now w.metrics read.2.1)
  refine hbooks.of_eq ?_
  show _ = k.ofArray (taken.monitorEvents now w.metrics read.2.1).1 - k.ofArray a
  rw [hchannels]
  show k.ofChannel read.1 - k.ofChannel a.monitor = k.ofChannel a.control + k.ofChannel read.1 - _
  rw [ofArray]
  omega

theorem books_receiveArray (a : CorrelatorArray) (now : Timestamp)
    (w : World (Recorded (Tapped ν))) :
    k.Books w (a.receive now w).2 (k.ofArray (a.receive now w).1 - k.ofArray a) := by
  have hcontrol := k.books_receiveControl a w
  have hmonitor := k.books_receiveMonitor (a.receiveControl w).1 now (a.receiveControl w).2
  refine (hcontrol.trans hmonitor).of_eq ?_
  show _ = k.ofArray ((a.receiveControl w).1.receiveMonitor now (a.receiveControl w).2).1 - _
  omega

theorem books_flushArray (a : CorrelatorArray) (w : World (Recorded (Tapped ν))) :
    k.Books w (a.flush w).2 (k.ofArray (a.flush w).1 - k.ofArray a) :=
  ((k.books_flush a.control w).trans (k.books_flush a.monitor _)).of_eq (by
    simp only [CorrelatorArray.flush, ofArray]
    omega)

end Weights

end ArrayWatch
