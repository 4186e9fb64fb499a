import ArrayWatch.Proofs.ScriptedChannel

/-!
# What a batch of events is read as

A channel takes in everything that its link has for it at once. Of the messages that come before the
connection is closed, each inform is handed on in its place. While a request waits for its reply,
the first reply of its name answers it, also in its place; from then on no reply of the same batch
is waited for, whatever the answer says, because the next request has to be handed over first. All
other messages are counted as unexpected.

* `heard`: the messages of a batch that count.
* `Channel.Answers`: a message answers the request in flight.
* `Channel.receive_unanswered`, `Channel.receive_append`: a batch without an answer, and batches one
  after the other.
* `Channel.read_interprets_batch`: what reading comes to, for every batch.
-/

namespace ArrayWatch

/-! ## Messages of a batch -/

/-- The message that an event brings. -/
def LinkEvent.message? : LinkEvent → Option Message
  | line m => some m
  | _ => none

/-- The messages of a batch that come before the connection is closed. -/
def heard (batch : List LinkEvent) : List Message :=
  (batch.takeWhile (!·.isClosed)).filterMap LinkEvent.message?

@[simp] theorem heard_nil : heard [] = [] := rfl

@[simp] theorem heard_connected (rest : List LinkEvent) :
    heard (.connected :: rest) = heard rest := rfl

@[simp] theorem heard_line (m : Message) (rest : List LinkEvent) :
    heard (.line m :: rest) = m :: heard rest := rfl

@[simp] theorem heard_closed (reason : String) (rest : List LinkEvent) :
    heard (.closed reason :: rest) = [] := rfl

/-- A message that is heard comes in a line, after which the rest is heard. -/
theorem heard_eq_append {batch : List LinkEvent} {before after : List Message} {m : Message}
    (h : heard batch = before ++ m :: after) :
    ∃ first rest, batch = first ++ .line m :: rest ∧ first.any LinkEvent.isClosed = false ∧
      heard first = before ∧ heard rest = after := by
  induction batch generalizing before with
  | nil => simp at h
  | cons event others ih =>
    cases event with
    | connected =>
      obtain ⟨first, rest, rfl, hopen, hfirst, hrest⟩ := ih h
      exact ⟨.connected :: first, rest, rfl, hopen, hfirst, hrest⟩
    | closed reason => simp at h
    | line line =>
      cases before with
      | nil =>
        obtain ⟨rfl, hafter⟩ := List.cons.inj h
        exact ⟨[], others, rfl, rfl, rfl, hafter⟩
      | cons b before =>
        obtain ⟨rfl, hothers⟩ := List.cons.inj h
        obtain ⟨first, rest, rfl, hopen, hfirst, hrest⟩ := ih hothers
        exact ⟨.line line :: first, rest, rfl, hopen, congrArg (line :: ·) hfirst, hrest⟩

/-- The informs among messages, as they are handed on. -/
def informs (messages : List Message) : List ChannelEvent :=
  (messages.filter (·.kind = .inform)).map .inform

/-- The number of messages that are no informs. -/
def unasked (messages : List Message) : Nat := messages.countP (·.kind ≠ .inform)

theorem informs_append (first rest : List Message) :
    informs (first ++ rest) = informs first ++ informs rest := by
  simp [informs]

theorem unasked_append (first rest : List Message) :
    unasked (first ++ rest) = unasked first + unasked rest := by
  simp [unasked]

/-- The counts after messages that answered nothing. -/
def ChannelStats.after (s : ChannelStats) (messages : List Message) : ChannelStats :=
  { s with
    informs := s.informs + (ArrayWatch.informs messages).length
    unexpected := s.unexpected + unasked messages }

theorem ChannelStats.after_append (s : ChannelStats) (first rest : List Message) :
    s.after (first ++ rest) = (s.after first).after rest := by
  simp [after, informs_append, unasked_append, Nat.add_assoc]

namespace Channel

variable {c c' : Channel}

/-! ## Answers -/

/-- A message answers the request in flight: it is a reply of that name, and the request waits for
it. -/
structure Answers (c : Channel) (request m : Message) : Prop where
  waits : c.state = .waitResponse
  inFlight : c.current = some request
  kind : m.kind = .reply
  name : m.name? = request.name?

theorem answers_iff {request m : Message} :
    c.Answers request m ↔ m.kind = .reply ∧ c.answeredBy? m = some request := by
  constructor
  · rintro ⟨hwaits, hcurrent, hkind, hname⟩
    refine ⟨hkind, ?_⟩
    rw [answeredBy?, if_pos hwaits, hcurrent]
    simp [Option.filter, hname]
  · rintro ⟨hkind, hanswered⟩
    obtain ⟨hwaits, hcurrent, hname⟩ := answeredBy?_eq_some hanswered
    exact ⟨hwaits, hcurrent, hkind, hname.symm⟩

/-- None of these messages answers the request in flight. -/
def Unanswered (c : Channel) (messages : List Message) : Prop :=
  ∀ m ∈ messages, ∀ request, ¬ c.Answers request m

theorem unanswered_of_not_awaiting (h : c.state ≠ .waitResponse) (messages : List Message) :
    c.Unanswered messages := fun _ _ _ hanswers => h hanswers.waits

/-- Whether a message answers is a matter of the state and the request in flight. -/
theorem Unanswered.of_eq {messages : List Message} (h : c.Unanswered messages)
    (hstate : c'.state = c.state) (hcurrent : c'.current = c.current) :
    c'.Unanswered messages := fun m hm request hanswers =>
  h m hm request ⟨hstate.symm.trans hanswers.waits, hcurrent.symm.trans hanswers.inFlight,
    hanswers.kind, hanswers.name⟩

theorem Unanswered.tail {m : Message} {messages : List Message}
    (h : c.Unanswered (m :: messages)) : c.Unanswered messages :=
  fun m' hm' => h m' (List.mem_cons_of_mem m hm')

theorem advance_not_awaiting (c : Channel) : c.advance.state ≠ .waitResponse := by
  unfold advance
  dsimp only
  split <;> nofun

/-- A completed connection leaves a request that waits as it is, and lets none begin to wait. -/
theorem receiveConnected_cases (c : Channel) :
    c.state ≠ .waitResponse ∧ c.receiveConnected.state ≠ .waitResponse ∨
      c.receiveConnected.state = c.state ∧ c.receiveConnected.current = c.current := by
  unfold receiveConnected
  dsimp only
  split
  · rename_i hconnecting
    refine .inl ⟨?_, advance_not_awaiting _⟩
    rw [hconnecting]
    nofun
  · exact .inr ⟨rfl, rfl⟩

theorem Unanswered.receiveConnected {messages : List Message} (h : c.Unanswered messages) :
    c.receiveConnected.Unanswered messages := by
  rcases c.receiveConnected_cases with ⟨-, hstate⟩ | ⟨hstate, hcurrent⟩
  · exact unanswered_of_not_awaiting hstate messages
  · exact h.of_eq hstate hcurrent

@[simp] theorem stats_receiveConnected (c : Channel) : c.receiveConnected.stats = c.stats := by
  unfold receiveConnected
  dsimp only
  split <;> rfl

/-- A message that does not answer is handed on if it is an inform, and counted. -/
theorem receiveMessage_of_not_answers {m : Message} (h : ∀ request, ¬ c.Answers request m) :
    c.receiveMessage m = ({ c with stats := c.stats.after [m] }, informs [m]) := by
  unfold receiveMessage
  cases hkind : m.kind with
  | inform => simp [ChannelStats.after, informs, unasked, hkind]
  | request => simp [ChannelStats.after, informs, unasked, hkind, countUnexpected]
  | reply =>
    have hnone : c.answeredBy? m = none := by
      cases hanswered : c.answeredBy? m with
      | none => rfl
      | some request => exact (h request (answers_iff.2 ⟨hkind, hanswered⟩)).elim
    simp [ChannelStats.after, informs, unasked, hkind, receiveReply, hnone, countUnexpected]

/-- A message that answers is handed on with its request, and counted as a reply. -/
theorem receiveMessage_of_answers {request m : Message} (h : c.Answers request m) :
    (c.receiveMessage m).2 = [.reply request m] ∧
      (c.receiveMessage m).1.state ≠ .waitResponse ∧
      (c.receiveMessage m).1.stats.informs = c.stats.informs ∧
      (c.receiveMessage m).1.stats.unexpected = c.stats.unexpected := by
  obtain ⟨hkind, hanswered⟩ := answers_iff.1 h
  unfold receiveMessage
  rw [hkind]
  dsimp only
  unfold receiveReply
  rw [hanswered]
  dsimp only
  split
  · exact ⟨rfl, advance_not_awaiting _, rfl, rfl⟩
  · unfold fail
    dsimp only
    split
    · exact ⟨rfl, advance_not_awaiting _, rfl, rfl⟩
    · exact ⟨rfl, nofun, rfl, rfl⟩

/-! ## Batches -/

theorem receive_line (c : Channel) (m : Message) (rest : List LinkEvent) :
    c.receive (.line m :: rest) = (((c.receiveMessage m).1.receive rest).1,
      (c.receiveMessage m).2 ++ ((c.receiveMessage m).1.receive rest).2) := rfl

/-- Batches one after the other are read as one, unless the connection is closed in the first. -/
theorem receive_append {first : List LinkEvent} (h : first.any LinkEvent.isClosed = false)
    (c : Channel) (rest : List LinkEvent) :
    c.receive (first ++ rest) = (((c.receive first).1.receive rest).1,
      (c.receive first).2 ++ ((c.receive first).1.receive rest).2) := by
  induction first generalizing c with
  | nil => rfl
  | cons event others ih =>
    cases event with
    | connected => exact ih h c.receiveConnected
    | closed reason => exact absurd h (by simp [LinkEvent.isClosed])
    | line m =>
      have hothers := ih h (c.receiveMessage m).1
      rw [List.cons_append, receive_line, receive_line, hothers, List.append_assoc]

/-- A message that does not answer leaves the others as they are. -/
theorem Unanswered.receiveMessage {m : Message} {messages : List Message}
    (h : c.Unanswered (m :: messages)) : (c.receiveMessage m).1.Unanswered messages := by
  rw [receiveMessage_of_not_answers (h m List.mem_cons_self)]
  exact h.tail.of_eq rfl rfl

/-- Without an answer in it, a batch brings its informs, and everything in it is counted. -/
theorem receive_unanswered (batch : List LinkEvent) (h : c.Unanswered (heard batch)) :
    (c.receive batch).2 = informs (heard batch) ∧
      (c.receive batch).1.stats = c.stats.after (heard batch) := by
  induction batch generalizing c with
  | nil => exact ⟨rfl, rfl⟩
  | cons event rest ih =>
    cases event with
    | connected =>
      obtain ⟨hevents, hstats⟩ := ih (c := c.receiveConnected) h.receiveConnected
      rw [stats_receiveConnected] at hstats
      exact ⟨hevents, hstats⟩
    | closed reason => exact ⟨rfl, rfl⟩
    | line m =>
      obtain ⟨hevents, hstats⟩ := ih (c := (c.receiveMessage m).1) h.receiveMessage
      have hm := receiveMessage_of_not_answers (h m List.mem_cons_self)
      have hfirst : heard (.line m :: rest) = [m] ++ heard rest := rfl
      rw [receive_line, hevents, hstats, hm, hfirst, informs_append, ChannelStats.after_append]
      exact ⟨rfl, rfl⟩

/-- Until it is answered, a request that waits for its reply goes on waiting. -/
theorem receive_waits {batch : List LinkEvent} (hwaits : c.state = .waitResponse)
    (hopen : batch.any LinkEvent.isClosed = false) (h : c.Unanswered (heard batch)) :
    (c.receive batch).1.state = c.state ∧ (c.receive batch).1.current = c.current := by
  induction batch generalizing c with
  | nil => exact ⟨rfl, rfl⟩
  | cons event rest ih =>
    cases event with
    | connected =>
      obtain ⟨hstate, hcurrent⟩ :=
        c.receiveConnected_cases.resolve_left fun hother => hother.1 hwaits
      obtain ⟨hstate', hcurrent'⟩ :=
        ih (c := c.receiveConnected) (hstate.trans hwaits) hopen h.receiveConnected
      exact ⟨hstate'.trans hstate, hcurrent'.trans hcurrent⟩
    | closed reason => exact absurd hopen (by simp [LinkEvent.isClosed])
    | line m =>
      have hm := receiveMessage_of_not_answers (h m List.mem_cons_self)
      have hstate : (c.receiveMessage m).1.state = c.state := by rw [hm]
      have hcurrent : (c.receiveMessage m).1.current = c.current := by rw [hm]
      obtain ⟨hstate', hcurrent'⟩ :=
        ih (c := (c.receiveMessage m).1) (hstate.trans hwaits) hopen h.receiveMessage
      exact ⟨hstate'.trans hstate, hcurrent'.trans hcurrent⟩

/-- Only the end of the connection loses a channel. -/
theorem isDisconnected_receive (hup : c.isDisconnected = false) (batch : List LinkEvent) :
    (c.receive batch).1.isDisconnected = batch.any LinkEvent.isClosed :=
  congrArg Prod.fst (bearing_receive hup batch)

/-- What answers the request in flight answers it also after others that do not. -/
theorem Answers.receive {batch : List LinkEvent} {request reply : Message}
    (hreply : c.Answers request reply) (hopen : batch.any LinkEvent.isClosed = false)
    (h : c.Unanswered (heard batch)) : (c.receive batch).1.Answers request reply := by
  obtain ⟨hstate, hcurrent⟩ := receive_waits hreply.waits hopen h
  exact ⟨hstate.trans hreply.waits, hcurrent.trans hreply.inFlight, hreply.kind, hreply.name⟩

/-- With an answer in it, a batch brings the first one in its place, and everything else is counted
as without it. -/
theorem receive_answered {first : List LinkEvent} {request reply : Message}
    (hopen : first.any LinkEvent.isClosed = false) (hreply : c.Answers request reply)
    (hfirst : c.Unanswered (heard first)) (rest : List LinkEvent) :
    let after := c.receive (first ++ .line reply :: rest)
    after.2 = informs (heard first) ++ .reply request reply :: informs (heard rest) ∧
      after.1.stats.informs = ((c.stats.after (heard first)).after (heard rest)).informs ∧
      after.1.stats.unexpected = ((c.stats.after (heard first)).after (heard rest)).unexpected := by
  intro after
  obtain ⟨hevents₁, hstats₁⟩ := receive_unanswered first hfirst
  obtain ⟨hevent, hstate₂, hinforms₂, hunexpected₂⟩ :=
    receiveMessage_of_answers (hreply.receive hopen hfirst)
  obtain ⟨hevents₃, hstats₃⟩ := receive_unanswered rest
    (unanswered_of_not_awaiting hstate₂ (heard rest))
  have hall : after = _ := receive_append hopen c (.line reply :: rest)
  rw [hall, receive_line]
  refine ⟨?_, ?_, ?_⟩
  · rw [hevents₁, hevent, hevents₃]
    rfl
  · rw [hstats₃]
    simp only [ChannelStats.after, hinforms₂, hstats₁]
  · rw [hstats₃]
    simp only [ChannelStats.after, hunexpected₂, hstats₁]

/-! ## Reading -/

theorem exists_first_answer {messages : List Message} (h : ¬ c.Unanswered messages) :
    ∃ before request reply after, messages = before ++ reply :: after ∧
      c.Answers request reply ∧ c.Unanswered before := by
  induction messages with
  | nil => exact absurd (fun _ hm => absurd hm List.not_mem_nil) h
  | cons m rest ih =>
    by_cases hm : ∃ request, c.Answers request m
    · obtain ⟨request, hanswers⟩ := hm
      exact ⟨[], request, m, rest, rfl, hanswers, fun _ hm => absurd hm List.not_mem_nil⟩
    · have hcons : ∀ messages, c.Unanswered messages → c.Unanswered (m :: messages) := by
        intro messages hmessages m' hm' request hanswers
        rcases List.mem_cons.1 hm' with rfl | hm'
        · exact hm ⟨request, hanswers⟩
        · exact hmessages m' hm' request hanswers
      obtain ⟨before, request, reply, after, rfl, hanswers, hbefore⟩ :=
        ih fun hrest => h (hcons rest hrest)
      exact ⟨m :: before, request, reply, after, rfl, hanswers, hcons before hbefore⟩

/-- Reading interprets everything that the link has for a channel that is not lost. Of the messages
before the connection is closed, all informs are handed on in their order. If the request in flight
waits for its reply and one of the messages is a reply of its name, the first of these is handed on
in its place, with the request; there is no other reply among the events. The informs are counted,
and so are, as unexpected, all requests and all replies but this one. The channel is lost if and
only if the connection was closed. -/
theorem read_interprets_batch {ν : Type} [Network ν] (hup : c.state ≠ .disconnected) (net : ν) :
    let batch := (Network.drain c.link net).1
    let messages := heard batch
    let after := (c.read net).1
    let events := (c.read net).2.1
    ((∃ before request reply rest, messages = before ++ reply :: rest ∧
          c.Answers request reply ∧ c.Unanswered before ∧
          events = informs before ++ .reply request reply :: informs rest ∧
          after.stats.unexpected = c.stats.unexpected + unasked before + unasked rest) ∨
        c.Unanswered messages ∧ events = informs messages ∧
          after.stats.unexpected = c.stats.unexpected + unasked messages) ∧
      after.stats.informs = c.stats.informs + (informs messages).length ∧
      (after.state = .disconnected ↔ ∃ reason, .closed reason ∈ batch) := by
  intro batch messages after events
  have hopen : c.isDisconnected = false := by simpa [isDisconnected] using hup
  have hread : c.read net =
      ((c.receive batch).1, (c.receive batch).2, (Network.drain c.link net).2) :=
    read_of_not_isDisconnected (by simp [hopen]) net
  have hafter : after = (c.receive batch).1 := congrArg Prod.fst hread
  have hevents : events = (c.receive batch).2 := congrArg (·.2.1) hread
  have hlost : after.state = .disconnected ↔ ∃ reason, .closed reason ∈ batch := by
    have hdown : after.isDisconnected = batch.any LinkEvent.isClosed :=
      hafter ▸ isDisconnected_receive hopen batch
    rw [← any_isClosed_iff, ← hdown]
    simp [isDisconnected]
  by_cases hnone : c.Unanswered messages
  · obtain ⟨hinforms, hstats⟩ := receive_unanswered batch hnone
    rw [← hevents] at hinforms
    rw [← hafter] at hstats
    refine ⟨.inr ⟨hnone, hinforms, ?_⟩, ?_, hlost⟩
    · rw [hstats]
      rfl
    · rw [hstats]
      rfl
  · obtain ⟨before, request, reply, rest, hmessages, hanswers, hbefore⟩ := exists_first_answer hnone
    obtain ⟨first, others, hbatch, hfirst, rfl, rfl⟩ := heard_eq_append hmessages
    obtain ⟨hinterpreted, hinforms, hunexpected⟩ := receive_answered hfirst hanswers hbefore others
    rw [← hbatch, ← hafter] at hinforms hunexpected
    rw [← hbatch, ← hevents] at hinterpreted
    refine ⟨.inl ⟨_, request, reply, _, hmessages, hanswers, hbefore, hinterpreted, hunexpected⟩,
      ?_, hlost⟩
    have hreply : informs [reply] = [] := by simp [informs, hanswers.kind]
    have hall : informs messages = informs (heard first) ++ informs (heard others) := by
      rw [hmessages, ← List.singleton_append, informs_append, informs_append, hreply]
      rfl
    rw [hinforms, hall, List.length_append, ← Nat.add_assoc]
    rfl

/-- An answer between informs, with a reply of another name before it, and with its repetition, a
request, the end of the connection and one more inform behind it. -/
def mixedBatch : List LinkEvent :=
  [.connected, .line ⟨.inform, ["version-connect"]⟩, .line ⟨.reply, ["array-list", "ok"]⟩,
    .line ⟨.reply, ["log-local", "fail"]⟩, .line ⟨.inform, ["sensor-status"]⟩,
    .line ⟨.reply, ["log-local", "ok"]⟩, .line ⟨.request, ["help"]⟩, .closed "closed by peer",
    .line ⟨.inform, ["too-late"]⟩]

/-- A link that has the batch for its channel. -/
def mixedLink : ScriptedNetwork := ⟨[{ ScriptedLink.new "peer" none with pending := mixedBatch }]⟩

/-- The first reply of the right name is the answer, though it says that the request failed. -/
theorem read_interprets_batch_mixed :
    let request := Message.request "log-local" ["off"]
    let sent := (Channel.connected .control ⟨0, "peer"⟩ [request] 0).write mixedLink
    let c := sent.2.1
    c.state = .waitResponse ∧ (Network.drain c.link sent.2.2).1 = mixedBatch ∧
      (c.read sent.2.2).2.1 = [.inform ⟨.inform, ["version-connect"]⟩,
        .reply request ⟨.reply, ["log-local", "fail"]⟩, .inform ⟨.inform, ["sensor-status"]⟩] ∧
      (c.read sent.2.2).1.stats = ⟨1, 0, 1, 2, 3⟩ ∧ (c.read sent.2.2).1.state = .disconnected := by
  intro request sent c
  have hstate : c.state = .waitResponse := by decide +kernel
  have hdrained : (Network.drain c.link sent.2.2).1 = mixedBatch := by decide +kernel
  have hup : c.state ≠ .disconnected := by
    rw [hstate]
    decide
  obtain ⟨-, -, hlost⟩ := read_interprets_batch hup sent.2.2
  have hclosed : .closed "closed by peer" ∈ (Network.drain c.link sent.2.2).1 := by
    rw [hdrained]
    decide
  exact ⟨hstate, hdrained, by decide +kernel, by decide +kernel, hlost.2 ⟨_, hclosed⟩⟩

end Channel

end ArrayWatch
