import ArrayWatch.Proofs.CmcStep

/-!
# Confirmed arrays and polls

An array that is announced is fine until the next poll. A poll marks it suspect, also when it falls
between the announcement and the reply to the request that the announcement belongs to. The reply
then removes the array although it was listed: `CmcMoment.confirmed_kept_iff`.

* `CmcMoment.Marked`: every array of a name has one mark.
* `CmcMoment.Lost`: a connection that is lost brings no events before it is opened again.
-/

namespace ArrayWatch.CmcMoment

variable {ν : Type} [Network ν] {m m' : CmcMoment ν} {name : String} {mark : Liveness}

/-! ## Marks -/

/-- Every array of a name has the same mark. -/
def Marked (name : String) (mark : Liveness) (m : CmcMoment ν) : Prop :=
  ∀ a ∈ m.server.arrays, a.name = name → a.liveness = mark

theorem marked_of_carries (h : m.Carries m') (hm : m.Marked name mark) : m'.Marked name mark := by
  obtain ⟨held, hsub, -, hworks⟩ := h
  intro a' ha' hname
  obtain ⟨a, ha, hwork⟩ := exists_before_of_forall₂ hworks ha'
  exact hwork.liveness.trans (hm a (hsub.subset ha) (hwork.name.symm.trans hname))

omit [Network ν] in
theorem marked_poll (hup : m.server.isConnected) :
    { m with server := m.server.pollArrayList }.Marked name .suspect := by
  intro a ha _
  simp only [CmcServer.pollArrayList, hup, if_true, List.mem_map] at ha
  obtain ⟨old, -, rfl⟩ := ha
  rfl

/-- The announced array is fine, whether it was there or not. -/
theorem marked_announced {spec : Announcement}
    (hserver : m'.server = (m.server.listArray spec m.world.net).1) :
    m'.Marked spec.name .fine := by
  intro a ha hname
  rcases m.server.listArray_cases spec m.world.net with ⟨-, hlist⟩ | ⟨hnew, hlist⟩
  · rw [hserver, hlist] at ha
    obtain ⟨old, -, rfl⟩ := List.mem_map.1 ha
    by_cases hold : old.name = spec.name
    · simp [hold, CorrelatorArray.markFine]
    · simp [hold] at hname
  · rw [hserver, hlist] at ha
    rcases CmcServer.mem_insertArray.1 ha with rfl | hold
    · rfl
    · exact absurd hname (hnew a hold)

/-- The arrays of other names are left alone. -/
theorem marked_of_announced_ne {spec : Announcement}
    (hserver : m'.server = (m.server.listArray spec m.world.net).1) (hne : spec.name ≠ name)
    (hm : m.Marked name mark) : m'.Marked name mark := by
  intro a ha hname
  rcases m.server.listArray_cases spec m.world.net with ⟨-, hlist⟩ | ⟨hnew, hlist⟩
  · rw [hserver, hlist] at ha
    obtain ⟨old, hold, rfl⟩ := List.mem_map.1 ha
    by_cases hspec : old.name = spec.name
    · rw [if_pos hspec] at hname
      exact absurd (hspec.symm.trans hname) hne
    · rw [if_neg hspec] at hname ⊢
      exact hm old hold hname
  · rw [hserver, hlist] at ha
    rcases CmcServer.mem_insertArray.1 ha with rfl | hold
    · exact absurd hname hne
    · exact hm a hold hname

theorem fine_of_announced {act : CmcAct ν} {spec : Announcement} (h : m.step? act = some m')
    (hannounced : act.announced? = some spec) : m'.Marked spec.name .fine := by
  rcases step?_cases h with ⟨rfl, -⟩ | ⟨spec', hspec', -, hserver, -⟩ | ⟨hnone, -⟩ | ⟨-, hnone, -⟩
  · contradiction
  · obtain rfl : spec = spec' := Option.some.inj (hannounced.symm.trans hspec')
    exact marked_announced hserver
  · exact absurd (hnone.symm.trans hannounced) nofun
  · exact absurd (hnone.symm.trans hannounced) nofun

/-- Only a poll takes the mark from a fine array. -/
theorem fine_step? {act : CmcAct ν} (h : m.step? act = some m') (hpoll : act ≠ .poll)
    (hm : m.Marked name .fine) : m'.Marked name .fine := by
  rcases step?_cases h with ⟨hact, -⟩ | ⟨spec, -, -, hserver, -⟩ | ⟨-, -, hserver, -⟩ |
    ⟨-, -, -, hcarries⟩
  · exact absurd hact hpoll
  · by_cases hspec : spec.name = name
    · exact hspec ▸ marked_announced hserver
    · exact marked_of_announced_ne hserver hspec hm
  · intro a ha hname
    rw [hserver] at ha
    exact hm a (List.mem_filter.1 ha).1 hname
  · exact marked_of_carries hcarries hm

/-- Only an announcement makes a suspect array fine. -/
theorem suspect_step? {act : CmcAct ν} (h : m.step? act = some m')
    (hother : ∀ spec, act.announced? = some spec → spec.name ≠ name)
    (hm : m.Marked name .suspect) : m'.Marked name .suspect := by
  rcases step?_cases h with ⟨-, -, rfl⟩ | ⟨spec, hspec, -, hserver, -⟩ | ⟨-, -, hserver, -⟩ |
    ⟨-, -, -, hcarries⟩
  · by_cases hup : m.server.isConnected
    · exact marked_poll hup
    · simpa [Marked, CmcServer.pollArrayList, hup] using hm
  · exact marked_of_announced_ne hserver (hother spec hspec) hm
  · intro a ha hname
    rw [hserver] at ha
    exact hm a (List.mem_filter.1 ha).1 hname
  · exact marked_of_carries hcarries hm

/-! ## Connections -/

/-- The connection is lost, and no event that came before is still to be acted on. -/
def Lost (m : CmcMoment ν) : Prop :=
  m.server.channel.isDisconnected ∧ ∀ event todo, m.phase ≠ .acting (event :: todo)

theorem reconnects_step? {act : CmcAct ν} (h : m.step? act = some m') :
    m.server.reconnects ≤ m'.server.reconnects := by
  rcases (server_step? h).2 with ⟨hsame, -⟩ | ⟨-, hmore⟩
  · exact Nat.le_of_eq hsame.symm
  · exact Nat.le_of_lt hmore

theorem lost_step? {act : CmcAct ν} (h : m.step? act = some m')
    (hsame : m'.server.reconnects = m.server.reconnects) (hlost : m.Lost) : m'.Lost := by
  obtain ⟨hdown, hidle⟩ := hlost
  refine ⟨?_, fun event todo hphase => ?_⟩
  · rcases (server_step? h).2 with ⟨-, hmoves⟩ | ⟨-, hmore⟩
    · exact hmoves.isDisconnected hdown
    · exact absurd hsame (Nat.ne_of_gt hmore)
  · cases act with
    | poll =>
      obtain ⟨-, rfl⟩ := step?_poll.1 h
      exact hidle event todo hphase
    | reconnect =>
      obtain ⟨-, rfl⟩ := step?_reconnect.1 h
      exact hidle event todo hphase
    | flush =>
      obtain ⟨-, rfl⟩ := step?_flush.1 h
      exact hidle event todo hphase
    | gather now =>
      obtain ⟨-, rfl⟩ := step?_gather.1 h
      exact nomatch hphase
    | collect =>
      obtain ⟨-, rfl⟩ := step?_collect.1 h
      have hread : m.server.dropUnopened.channel.read m.world.net =
          (m.server.channel, [], m.world.net) := Channel.read_of_isDisconnected hdown _
      simp [collect, hread] at hphase
    | handle event' =>
      obtain ⟨rest, hphase', -⟩ := step?_handle.1 h
      exact hidle event' rest hphase'
    | finish =>
      obtain ⟨-, rfl⟩ := step?_finish.1 h
      exact nomatch hphase
    | remote move =>
      obtain rfl := step?_remote.1 h
      exact hidle event todo hphase

theorem reconnects_run? {acts : List (CmcAct ν)} (hrun : m.run? acts = some m') :
    m.server.reconnects ≤ m'.server.reconnects :=
  run?_keeps (P := fun m' => m.server.reconnects ≤ m'.server.reconnects)
    (fun _ _ _ hact hle => Nat.le_trans hle (reconnects_step? hact)) hrun (Nat.le_refl _)

/-- What stays as long as the connection is not opened again holds at the end of a run in which it
was not. -/
theorem run?_keeps_connected {P : CmcMoment ν → Prop}
    (hstep : ∀ m act m', m.step? act = some m' → m'.server.reconnects = m.server.reconnects →
      P m → P m') {acts : List (CmcAct ν)} (hrun : m.run? acts = some m')
    (hsame : m'.server.reconnects = m.server.reconnects) (h : P m) : P m' := by
  induction acts generalizing m with
  | nil => exact Option.some.inj hrun ▸ h
  | cons act rest ih =>
    obtain ⟨next, hnext, hrest⟩ := run?_cons_eq_some.1 hrun
    -- The count never falls, so that it is the same at every moment of the run.
    have hmono := reconnects_step? hnext
    have hmono' := reconnects_run? hrest
    have hkept := hstep m act next hnext (by omega) h
    exact ih hrest (by omega) hkept

theorem not_waiting_step? {act : CmcAct ν} (h : m.step? act = some m')
    (hsame : m'.server.reconnects = m.server.reconnects)
    (hstate : m.server.channel.state ≠ .waitConnect) :
    m'.server.channel.state ≠ .waitConnect := by
  rcases (server_step? h).2 with ⟨-, hmoves⟩ | ⟨-, hmore⟩
  · exact hmoves.not_waiting hstate
  · exact absurd hsame (Nat.ne_of_gt hmore)

/-! ## The reply -/

/-- A poll reaches the CMC if events come after it without a new connection. -/
theorem isConnected_of_poll {acts : List (CmcAct ν)} {event : ChannelEvent}
    {todo : List ChannelEvent} (hstate : m.server.channel.state ≠ .waitConnect)
    (hresting : m.phase = .resting) (hrun : m.run? acts = some m')
    (hphase : m'.phase = .acting (event :: todo))
    (hsame : m'.server.reconnects = m.server.reconnects) : m.server.isConnected := by
  by_contra hnot
  have hdown : m.server.channel.isDisconnected := by
    simpa [CmcServer.isConnected, Channel.isDisconnected, hstate] using hnot
  have hlost : m.Lost := ⟨hdown, by simp [hresting]⟩
  have hend := run?_keeps_connected (fun _ _ _ => lost_step?) hrun hsame hlost
  exact hend.2 event todo hphase

/-- From a poll that reaches the CMC on, every array of a name is suspect until it is announced. -/
theorem suspect_of_poll {acts : List (CmcAct ν)} {event : ChannelEvent}
    {todo : List ChannelEvent} (hstate : m.server.channel.state ≠ .waitConnect)
    (hrun : m.run? (.poll :: acts) = some m') (hphase : m'.phase = .acting (event :: todo))
    (hsame : m'.server.reconnects = m.server.reconnects)
    (hother : ∀ act ∈ acts, ∀ spec, act.announced? = some spec → spec.name ≠ name) :
    m'.Marked name .suspect := by
  obtain ⟨polled, hpoll, hrest⟩ := run?_cons_eq_some.1 hrun
  obtain ⟨hresting, rfl⟩ := step?_poll.1 hpoll
  have hup := isConnected_of_poll hstate hresting hrun hphase hsame
  exact run?_keeps_of (fun _ _ _ hact hnone => suspect_step? hact hnone) hrest hother
    (marked_poll hup)

/-- While a request waits for its reply, an array is announced, and not again before a reply comes
that ends the list. The connection is not opened again in between, so that the reply answers the
request that was waiting. Then the reply removes the array exactly if a poll fell between the
announcement and the reply. -/
theorem confirmed_kept_iff {before after : List (CmcAct ν)} {event : ChannelEvent}
    {spec : Announcement} {request answer : Message} {todo : List ChannelEvent}
    (hflight : m.server.channel.state = .waitResponse)
    (hrun : m.run? (before ++ .handle event :: after) = some m')
    (hannounced : event.announced? = some spec)
    (hlast : ∀ act ∈ after, ∀ later, act.announced? = some later → later.name ≠ spec.name)
    (hreply : m'.phase = .acting (.reply request answer :: todo))
    (hends : CmcServer.endsArrayList answer)
    (hsame : m'.server.reconnects = m.server.reconnects) :
    ∀ a ∈ m'.server.arrays, a.name = spec.name →
      (a ∈ (m'.handle (.reply request answer) todo).server.arrays ↔ .poll ∉ after) := by
  intro a ha hname
  obtain ⟨asked, hbefore, hrest⟩ := run?_append_eq_some.1 hrun
  obtain ⟨listed, hhandle, hafter⟩ := run?_cons_eq_some.1 hrest
  have hmono₁ := reconnects_run? hbefore
  have hmono₂ := reconnects_step? hhandle
  have hmono₃ := reconnects_run? hafter
  have hprune : (m'.handle (.reply request answer) todo).server.arrays =
      m'.server.arrays.filter (!·.isSuspect) := by
    simp [handle, CmcServer.event, CmcServer.reply, hends, CmcServer.pruneSuspects]
  rw [hprune, List.mem_filter]
  constructor
  · rintro ⟨-, hfine⟩ hpoll
    obtain ⟨first, rest, rfl⟩ := List.append_of_mem hpoll
    obtain ⟨resting, hfirst, hrest⟩ := run?_append_eq_some.1 hafter
    have hmono₄ := reconnects_run? hfirst
    have hmono₅ := reconnects_run? hrest
    -- The request was in flight before, so the connection is up or lost, but not awaited.
    have hstate : resting.server.channel.state ≠ .waitConnect := by
      have hpolled : m.run? (before ++ .handle event :: first) = some resting :=
        run?_append_eq_some.2 ⟨asked, hbefore, run?_cons_eq_some.2 ⟨listed, hhandle, hfirst⟩⟩
      exact run?_keeps_connected (fun _ _ _ => not_waiting_step?) hpolled (by omega)
        (by simp [hflight])
    have hsuspect : m'.Marked spec.name .suspect :=
      suspect_of_poll hstate hrest hreply (by omega) fun act hact => hlast act (by simp [hact])
    simp [CorrelatorArray.isSuspect, hsuspect a ha hname] at hfine
  · intro hpoll
    have hlisted := fine_of_announced hhandle hannounced
    have hfine : m'.Marked spec.name .fine :=
      run?_keeps_of (fun _ _ _ hact hother => fine_step? hact hother) hafter
        (fun act hact heq => hpoll (heq ▸ hact)) hlisted
    exact ⟨ha, by simp [CorrelatorArray.isSuspect, hfine a ha hname]⟩

/-! ## A poll in the midst of a list -/

def alphaListed : Message := ⟨.inform, [CmcServer.arrayListName, "alpha", "7148,7149"]⟩

def alpha : Announcement := ⟨"alpha", 7148, 7149, 0⟩

def listEnded : Message := CmcServer.arrayListRequest.accept

/-- The CMC begins to list its arrays. -/
def listBegins : List (CmcAct ScriptedNetwork) := CmcAct.hears [alphaListed] []

/-- A poll falls in before the CMC ends its list. -/
def pollFallsIn : List (CmcAct ScriptedNetwork) :=
  .finish :: .poll :: CmcAct.hears [listEnded] []

/-- The reply that ends the list is to be acted on. -/
def ending : CmcMoment ScriptedNetwork :=
  (asking.run? (listBegins ++ .handle (.inform alphaListed) :: pollFallsIn)).get
    (by decide +kernel)

theorem run?_ending :
    asking.run? (listBegins ++ .handle (.inform alphaListed) :: pollFallsIn) = some ending :=
  (Option.some_get _).symm

theorem phase_ending :
    ending.phase = .acting [.reply CmcServer.arrayListRequest listEnded] := by
  decide +kernel

theorem announced?_alphaListed : (ChannelEvent.inform alphaListed).announced? = some alpha := by
  decide +kernel

theorem confirmed_kept_iff_ending :
    asking.server.channel.state = .waitResponse ∧
      ending.server.reconnects = asking.server.reconnects ∧ ending.server.names = ["alpha"] ∧
      ∀ a ∈ ending.server.arrays, a.name = "alpha" →
        (a ∈ (ending.handle (.reply CmcServer.arrayListRequest listEnded) []).server.arrays ↔
          .poll ∉ pollFallsIn) := by
  have hflight : asking.server.channel.state = .waitResponse := by decide +kernel
  have hsame : ending.server.reconnects = asking.server.reconnects := by decide +kernel
  have hlast : ∀ act ∈ pollFallsIn, ∀ later, act.announced? = some later →
      later.name ≠ alpha.name := by
    simp [pollFallsIn, CmcAct.hears, CmcAct.happens, CmcAct.announced?]
  exact ⟨hflight, hsame, by decide +kernel,
    confirmed_kept_iff hflight run?_ending announced?_alphaListed hlast phase_ending
      (by decide +kernel) hsame⟩

/-- An array that is confirmed by the list in progress does not always survive the reply that ends
it. -/
theorem confirmed_not_always_kept :
    ¬ ∀ (m m' : CmcMoment ScriptedNetwork) (before after : List (CmcAct ScriptedNetwork))
        (event : ChannelEvent) (spec : Announcement) (request answer : Message)
        (todo : List ChannelEvent), m.Reachable →
      m.server.channel.state = .waitResponse → m.server.channel.current = some request →
      request.name? = some CmcServer.arrayListName →
      m.run? (before ++ .handle event :: after) = some m' → event.announced? = some spec →
      (∀ act ∈ before ++ after, act.endsList = false) →
      m'.server.reconnects = m.server.reconnects →
      m'.phase = .acting (.reply request answer :: todo) → CmcServer.endsArrayList answer →
      ∀ a ∈ m'.server.arrays, a.name = spec.name →
        a ∈ (m'.handle (.reply request answer) todo).server.arrays := by
  intro hall
  have hkept := hall asking ending listBegins pollFallsIn (.inform alphaListed) alpha
    CmcServer.arrayListRequest listEnded [] reachable_asking (by decide +kernel)
    (by decide +kernel) rfl run?_ending announced?_alphaListed
    (by simp [listBegins, pollFallsIn, CmcAct.hears, CmcAct.happens, CmcAct.endsList])
    (by decide +kernel) phase_ending (by decide +kernel)
  revert hkept
  decide +kernel

end ArrayWatch.CmcMoment
