import ArrayWatch.Link.Tcp
import ArrayWatch.Proofs.ArrayChannels
import ArrayWatch.Proofs.CmcReplies
import ArrayWatch.Proofs.WireRoundTrip

/-!
# The stream of requests

Whatever is configured and whatever the remote sides say, each request is one line on the wire and
is read back from it as it was. The names of the requests are fixed, and the texts that come from
elsewhere, be it from a pattern or from an announcement, stand among the arguments, which are
escaped.

* `Message.OneLine`: what a request is on the wire. `Message.Legible.oneLine`: a legible name is all
  that it takes.
* `Channel.Unbroken`: no request of a channel breaks its stream.
* `CmcMoment.legible_channel`, `CmcMoment.legible_arrays`, `CmcMoment.legible_accepted`: every
  request of a CMC and of its arrays is legible.
* `CmcMoment.requests_unbroken`: so none of them breaks the stream.
-/

namespace ArrayWatch

/-! ## Requests as lines -/

/-- The message is one line on the wire, and that line is read as the message and as nothing else,
whatever follows it. -/
structure Message.OneLine (m : Message) : Prop where
  named : m.words ≠ []
  line : ∃ line, m.encode = .ok (line ++ [lineFeed]) ∧ lineFeed ∉ line ∧
    ∀ limit, line.length ≤ limit → ∀ rest,
      LineReader.decode (.new limit) (line ++ [lineFeed] ++ rest) = (.ok (some m), .new limit, rest)

theorem LineReader.cutLine_line_append {line : List UInt8} (h : lineFeed ∉ line)
    (rest : List UInt8) : cutLine 0 (line ++ [lineFeed] ++ rest) = some (line, rest) := by
  have hbefore : ∀ b ∈ line, (b != lineFeed) = true := by
    intro b hb
    simpa using fun heq : b = lineFeed => h (heq ▸ hb)
  have hbytes : (line ++ [lineFeed] ++ rest).drop 0 = line ++ lineFeed :: rest := by simp
  unfold cutLine
  dsimp only
  rw [hbytes, List.dropWhile_append_of_pos hbefore, List.takeWhile_append_of_pos hbefore]
  simp

theorem Message.Legible.named {m : Message} (h : m.Legible) : m.words ≠ [] := by
  intro hnil
  unfold Message.Legible at h
  rw [hnil] at h
  exact h

theorem Message.Legible.oneLine {m : Message} (h : m.Legible) : m.OneLine := by
  obtain ⟨line, hwrite, hfeed, hmessage⟩ := LineReader.lineMessage?_write h
  refine ⟨h.named, _, Message.encode_eq hwrite, hfeed, fun limit hlen rest => ?_⟩
  have hcut : LineReader.cutLine (LineReader.new limit).searched
      (Utf8.encode line ++ [lineFeed] ++ rest) = some (Utf8.encode line, rest) :=
    LineReader.cutLine_line_append hfeed rest
  have hshort : ¬ (LineReader.new limit).limit < (Utf8.encode line).length := Nat.not_lt.2 hlen
  rw [LineReader.decode_of_cutLine_some hcut, if_neg hshort, hmessage]
  rfl

/-- Arguments do not make a name illegible. -/
theorem Message.legible_request {name : String} (h : (Message.request name []).Legible)
    (args : List String) : (Message.request name args).Legible := by
  obtain ⟨hne, hchars, hlast⟩ := h
  exact ⟨hne, hchars, fun _ => hlast rfl⟩

theorem Message.legible_sensorSampling (sensor : String) : (sensorSampling sensor).Legible :=
  legible_request (by decide) [sensor, "auto"]

/-! ## Requests of a channel -/

namespace Channel

/-- The request in flight, and those that wait. -/
def pending (c : Channel) : List Message := c.current.toList ++ c.queue.messages

section Asks

variable {ν : Type} [Network ν] {P : Message → Prop} {c : Channel}

theorem Asks.pending (h : c.Asks P) {request : Message} (hpending : request ∈ c.pending) :
    P request := by
  obtain ⟨cap, asked, sent, events, horder, hall⟩ := h
  apply hall
  rw [horder.asked, List.append_assoc]
  exact List.mem_append_right _ hpending

theorem Asks.mono {Q : Message → Prop} (h : c.Asks P) (hPQ : ∀ request, P request → Q request) :
    c.Asks Q := by
  obtain ⟨cap, asked, sent, events, horder, hall⟩ := h
  exact ⟨cap, asked, sent, events, horder, fun request hrequest => hPQ _ (hall request hrequest)⟩

theorem asks_connected {seed : List Message} (hseed : ∀ request ∈ seed, P request)
    (role : ChannelRole) (link : Link) (cap : UInt32) : (connected role link seed cap).Asks P :=
  ⟨cap, seed, [], [], inOrder_connected role link seed cap, hseed⟩

variable (ν) in
theorem stays_asks (hsensor : ∀ sensor, P (.sensorSampling sensor)) : Stays ν (Asks P) where
  ask _ sensor h := h.push (hsensor sensor)
  read _ net h := h.read net
  flush _ w h := h.flush w

/-- What is handed over was asked for. -/
theorem Asks.accepted_flush (h : c.Asks P) (w : World (Recorded ν))
    (hall : ∀ entry ∈ w.net.accepted, P entry.2) :
    ∀ entry ∈ (c.flush w).2.net.accepted, P entry.2 := by
  have hwrite : ∀ (c : Channel) (net : Recorded ν),
      (c.Asks P ∧ ∀ entry ∈ net.accepted, P entry.2) →
        (c.write net).2.1.Asks P ∧ ∀ entry ∈ (c.write net).2.2.accepted, P entry.2 := by
    rintro c net ⟨hasks, haccepted⟩
    refine ⟨hasks.write net, ?_⟩
    rcases write_cases c net with ⟨-, hsame⟩ | ⟨m, hout, hsend⟩
    · rwa [hsame]
    · have hm : P m := hasks.current (outgoing?_eq_some hout).2
      rw [hsend, Recorded.accepted_send]
      intro entry hentry
      rcases List.mem_append.1 hentry with hold | hnew
      · exact haccepted entry hold
      · split at hnew
        · obtain rfl := List.mem_singleton.1 hnew
          exact hm
        · contradiction
  exact (flushCounted_keeps hwrite ⟨h, hall⟩).2

/-- An attempt to write does not fail for want of words, unless the link says so of a message that
has them. -/
theorem Asks.write_ne_emptyMessage (h : c.Asks Message.Legible)
    (hlink : ∀ (link : Link) (request : Message) (net : ν), request.words ≠ [] →
      (Network.send link request net).1 ≠ .failed .emptyMessage) (net : ν) :
    (c.write net).1 ≠ .error .emptyMessage := by
  unfold Channel.write
  cases hout : c.outgoing? with
  | none => nofun
  | some request =>
    have hwords : request.words ≠ [] := (h.current (outgoing?_eq_some hout).2).named
    have hempty : ¬ request.words.isEmpty := by simpa using hwords
    have hanswer := hlink c.link request net hwords
    dsimp only
    rw [if_neg hempty]
    cases hsend : (Network.send c.link request net).1 with
    | accepted => nofun
    | wouldBlock => nofun
    | failed error =>
      intro heq
      apply hanswer
      rw [hsend, Except.error.inj heq]

variable (ν) in
/-- Nothing that is to be sent on the channel breaks the stream of its requests: each of them is one
line, and handing over never comes upon a message without words. -/
structure Unbroken (c : Channel) : Prop where
  oneLine : ∀ request ∈ c.pending, request.OneLine
  named : ∀ net : ν, .error .emptyMessage ∉ c.writeResults net

theorem Asks.unbroken (h : c.Asks Message.Legible)
    (hlink : ∀ (link : Link) (request : Message) (net : ν), request.words ≠ [] →
      (Network.send link request net).1 ≠ .failed .emptyMessage) : c.Unbroken ν where
  oneLine request hrequest := (h.pending hrequest).oneLine
  named net hmem := by
    obtain ⟨c', net', hasks, hresult⟩ := exists_of_mem_writeResults
      (P := fun c' _ => c'.Asks Message.Legible) (fun _ net' h' => h'.write net') h hmem
    exact hasks.write_ne_emptyMessage hlink net' hresult

end Asks

end Channel

/-! ## Links that refuse a message

Those of TCP and the scripted ones never refuse one for want of words. -/

theorem TcpLink.fst_trySend (l : TcpLink) (m : Message) :
    (l.trySend m).1 = (l.count m).queueAnswer := by
  unfold trySend enqueue
  cases (l.count m).queueAnswer <;> rfl

theorem TcpNetwork.send_ne_emptyMessage (link : Link) (m : Message) (net : TcpNetwork) :
    (Network.send link m net).1 ≠ .failed .emptyMessage := by
  simp only [Network.send]
  split
  · dsimp only
    rw [TcpLink.fst_trySend]
    unfold TcpLink.queueAnswer
    split_ifs <;> simp
  · simp

theorem ScriptedNetwork.send_ne_emptyMessage (link : Link) (m : Message) (net : ScriptedNetwork) :
    (Network.send link m net).1 ≠ .failed .emptyMessage := by
  simp only [Network.send, ScriptedLink.send]
  split
  · dsimp only
    split_ifs <;> simp
  · simp

/-! ## Requests of a CMC and its arrays -/

namespace CorrelatorArray

variable {ν : Type} [Network ν] {a : CorrelatorArray}

/-- Every request of the array is legible. -/
def Legible (a : CorrelatorArray) : Prop :=
  a.OnChannels (Channel.Asks Message.Legible) (Channel.Asks Message.Legible)

theorem stays_legible : Channel.Stays ν (Channel.Asks Message.Legible) :=
  Channel.stays_asks ν Message.legible_sensorSampling

theorem legible_openLinks (spec : Announcement) (cmcAddress : String) (plan : Plan)
    (maxRetries : UInt32) (net : ν) :
    (openLinks spec cmcAddress plan maxRetries net).1.Legible :=
  ⟨Channel.asks_connected (by decide) _ _ _, Channel.asks_connected (by decide) _ _ _⟩

theorem accepted_receive (a : CorrelatorArray) (now : Timestamp) (w : World (Recorded ν)) :
    (a.receive now w).2.net.accepted = w.net.accepted := by
  simp [receive, receiveControl, receiveMonitor, Channel.accepted_read]

theorem Legible.accepted_flush (h : a.Legible) (w : World (Recorded ν))
    (hall : ∀ entry ∈ w.net.accepted, entry.2.Legible) :
    ∀ entry ∈ (a.flush w).2.net.accepted, entry.2.Legible :=
  h.monitor.accepted_flush _ (h.control.accepted_flush w hall)

end CorrelatorArray

namespace CmcMoment

variable {ν : Type} [Network ν] {m m' : CmcMoment ν}

theorem legible_channel (h : m.Reachable) : m.server.channel.Asks Message.Legible := by
  have hseed : ∀ request ∈ CmcServer.seed, request.Legible := by decide
  exact (asks_of_reachable h).mono hseed

theorem legible_arrays (h : m.Reachable) : ∀ a ∈ m.server.arrays, a.Legible :=
  arrays_of_reachable h CorrelatorArray.legible_openLinks fun _ _ hstep ha =>
    ha.ownStep CorrelatorArray.stays_legible CorrelatorArray.stays_legible hstep

/-- Nothing is handed over but by handing over. -/
theorem accepted_step? {act : CmcAct ν} (h : m.step? act = some m') (hflush : act ≠ .flush) :
    m'.world.net.accepted = m.world.net.accepted := by
  cases act with
  | poll =>
    obtain ⟨-, rfl⟩ := step?_poll.1 h
    rfl
  | reconnect =>
    obtain ⟨-, rfl⟩ := step?_reconnect.1 h
    dsimp only [CmcServer.reconnect]
    split <;> rfl
  | flush => exact absurd rfl hflush
  | gather now =>
    obtain ⟨-, rfl⟩ := step?_gather.1 h
    exact World.each_keeps
      (P := fun w : World (Recorded ν) => w.net.accepted = m.world.net.accepted)
      (fun a w hw => (a.accepted_receive now w).trans hw) m.server.arrays rfl
  | collect =>
    obtain ⟨-, rfl⟩ := step?_collect.1 h
    exact Channel.accepted_read _ _
  | handle event =>
    obtain ⟨todo, -, rfl⟩ := step?_handle.1 h
    rcases m.server.event_cases m.world event with ⟨spec, -, -, -, hnet⟩ | ⟨-, -, -, hnet⟩ |
      ⟨-, -, -, hnet⟩
    · rcases m.server.listArray_cases spec m.world.net with ⟨-, hlist⟩ | ⟨-, hlist⟩
      · rw [hlist] at hnet
        exact congrArg Recorded.accepted hnet
      · rw [hlist] at hnet
        have haccepted := congrArg Recorded.accepted hnet
        exact haccepted
    · exact congrArg Recorded.accepted hnet
    · exact congrArg Recorded.accepted hnet
  | finish =>
    obtain ⟨-, rfl⟩ := step?_finish.1 h
    rfl
  | remote move =>
    obtain rfl := step?_remote.1 h
    rfl

/-- What a part hands over is legible, as the requests of the channels are. -/
theorem legible_step? {act : CmcAct ν} (h : m.step? act = some m') (hreach : m.Reachable)
    (hall : ∀ entry ∈ m.world.net.accepted, entry.2.Legible) :
    ∀ entry ∈ m'.world.net.accepted, entry.2.Legible := by
  by_cases hflush : act = .flush
  · subst hflush
    obtain ⟨-, rfl⟩ := step?_flush.1 h
    exact World.each_keeps_of
      (P := fun w : World (Recorded ν) => ∀ entry ∈ w.net.accepted, entry.2.Legible)
      (fun a w ha hw => ha.accepted_flush w hw) (legible_arrays hreach)
      ((legible_channel hreach).accepted_flush m.world hall)
  · rwa [accepted_step? h hflush]

theorem legible_accepted (h : m.Reachable) :
    ∀ entry ∈ m.world.net.accepted, entry.2.Legible := by
  obtain ⟨address, port, plan, maxRetries, net, metrics, acts, hrun⟩ := h
  let first := start address port plan maxRetries net metrics
  have hfirst : first.Reachable := ⟨address, port, plan, maxRetries, net, metrics, [], rfl⟩
  have hend := run?_keeps
    (P := fun m => m.Reachable ∧ ∀ entry ∈ m.world.net.accepted, entry.2.Legible)
    (fun m act m' hact hm => ⟨hm.1.step hact, legible_step? hact hm.1 hm.2⟩) hrun
    ⟨hfirst, fun _ hentry => absurd hentry List.not_mem_nil⟩
  exact hend.2

/-- Whatever the plan subscribes to, whatever arrays are announced and whatever comes on the links,
no request breaks the stream of its channel. For the channels of an array this holds also in the
midst of a call, between any two events. What was ever handed to a link was one line, too. The links
are assumed to refuse no message that has words as one that has none. Those of TCP and the scripted
ones do so, see `TcpNetwork.send_ne_emptyMessage` and `ScriptedNetwork.send_ne_emptyMessage`. -/
theorem requests_unbroken
    (hlink : ∀ (link : Link) (request : Message) (net : ν), request.words ≠ [] →
      (Network.send link request net).1 ≠ .failed .emptyMessage) (h : m.Reachable) :
    m.server.channel.Unbroken (Recorded ν) ∧
      (∀ a ∈ m.server.arrays, ∀ (w : World (Recorded ν)) (acts : List (ArrayAct (Recorded ν))),
        ((a.resting w).run acts).array.OnChannels (Channel.Unbroken (Recorded ν))
          (Channel.Unbroken (Recorded ν))) ∧
      ∀ entry ∈ m.world.net.accepted, entry.2.OneLine := by
  have hrecorded : ∀ (link : Link) (request : Message) (net : Recorded ν), request.words ≠ [] →
      (Network.send link request net).1 ≠ .failed .emptyMessage :=
    fun link request net => hlink link request net.net
  refine ⟨(legible_channel h).unbroken hrecorded, ?_, ?_⟩
  · intro a ha w acts
    have hrun := ArrayMoment.onChannels_run (m := a.resting w) CorrelatorArray.stays_legible
      CorrelatorArray.stays_legible (legible_arrays h a ha) acts
    exact ⟨hrun.control.unbroken hrecorded, hrun.monitor.unbroken hrecorded⟩
  · intro entry hentry
    exact (legible_accepted h entry hentry).oneLine

/-- A plan with a text that would make two lines if it were not escaped. -/
def twoLinePlan : Plan :=
  ((Plan.empty defaultEnginesPerHost).extend [" sync\n?halt \\\t∞ "]).1

/-- The CMC lists an array, and the instrument of the array comes up. -/
def bringsUp : List (CmcAct ScriptedNetwork) :=
  let listed : Message := ⟨.inform, [CmcServer.arrayListName, "alpha", "7148,7149,m000"]⟩
  let up : Message := ⟨.inform, ["sensor-status", "0", "1", "instrument-state", "nominal", "a.cfg"]⟩
  CmcAct.hears [listed] [.inform listed] ++
    [.finish, .happens 1 (.line up), .gather ⟨1⟩, .collect, .finish]

def subscribed : CmcMoment ScriptedNetwork :=
  ((start "cmc" CmcServer.defaultPort twoLinePlan 0 ScriptedNetwork.empty .zero).run?
    (CmcAct.handshake ++ bringsUp)).get (by decide +kernel)

theorem reachable_subscribed : subscribed.Reachable :=
  ⟨_, _, _, _, _, _, CmcAct.handshake ++ bringsUp, (Option.some_get _).symm⟩

/-- What looks like a request of its own stays a part of the name that is asked for. -/
theorem requests_unbroken_subscribed :
    let awkward : Message := .sensorSampling "sync\n?halt \\\t∞"
    subscribed.Reachable ∧
      Line.write awkward = .ok "?sensor-sampling sync\\n?halt\\_\\\\\\t∞ auto".toList ∧
      ∃ a ∈ subscribed.server.arrays, awkward ∈ a.monitor.pending ∧ awkward.OneLine ∧
        .error .emptyMessage ∉ a.monitor.writeResults subscribed.world.net := by
  intro awkward
  obtain ⟨-, harrays, -⟩ := requests_unbroken
    (fun link m net _ => ScriptedNetwork.send_ne_emptyMessage link m net) reachable_subscribed
  let a := subscribed.server.arrays.head (by decide +kernel)
  have ha : a ∈ subscribed.server.arrays := List.head_mem _
  have hawkward : awkward ∈ a.monitor.pending := by decide +kernel
  have hmonitor := (harrays a ha subscribed.world []).monitor
  exact ⟨reachable_subscribed, by decide +kernel, a, ha, hawkward,
    hmonitor.oneLine awkward hawkward, hmonitor.named _⟩

end CmcMoment

end ArrayWatch
