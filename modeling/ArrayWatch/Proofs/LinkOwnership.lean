import ArrayWatch.Proofs.ScriptedChannel

/-!
# Links have one owner

Over scripted links every channel works on a link that no other one works on, so that what becomes
of a link is up to its remote side and to the channel that owns it. Hence one array can be followed
through a run of its CMC.

* `CmcMoment.origin_step?`: where the arrays of the next moment come from.
* `CmcMoment.Owns`: the links of one array are its own.
* `CmcMoment.owns_created`: so they are when it is new. `CmcMoment.owns_step?`: so they stay.
* `CmcMoment.followed_flush`, `CmcMoment.followed_gather`, `CmcMoment.followed_step?`: what a part
  of the work comes to for the array and its links.
-/

namespace ArrayWatch

/-! ## The turn of one item -/

namespace World

variable {ν α β : Type} {step : α → World ν → α × World ν} {view : World ν → β}

theorem view_each {items : List α} (hother : ∀ a ∈ items, ∀ w, view (step a w).2 = view w)
    (w : World ν) : view (each step items w).2 = view w := by
  induction items generalizing w with
  | nil => rfl
  | cons a rest ih =>
    have hrest : ∀ b ∈ rest, ∀ w, view (step b w).2 = view w :=
      fun b hb => hother b (List.mem_cons_of_mem _ hb)
    exact (ih hrest _).trans (hother a List.mem_cons_self w)

/-- What only one item can change is changed at its turn, and is there until then as it was at the
start. -/
theorem each_own {P : α → Prop} (hkeep : ∀ a w, P (step a w).1 → P a) {items : List α}
    (hother : ∀ a ∈ items, ¬ P a → ∀ w, view (step a w).2 = view w)
    (hunique : items.Pairwise fun a b => ¬ (P a ∧ P b)) (w : World ν) {b : α}
    (hb : b ∈ (each step items w).1) (hP : P b) :
    ∃ a ∈ items, P a ∧ ∃ w', view w' = view w ∧ b = (step a w').1 ∧
      view (each step items w).2 = view (step a w').2 := by
  induction items generalizing w with
  | nil => contradiction
  | cons a rest ih =>
    obtain ⟨hfirst, hrest⟩ := List.pairwise_cons.1 hunique
    rcases List.mem_cons.1 hb with rfl | hlater
    · have hPa := hkeep a w hP
      refine ⟨a, List.mem_cons_self, hPa, w, rfl, rfl, ?_⟩
      have hothers : ∀ c ∈ rest, ∀ w, view (step c w).2 = view w := by
        intro c hc
        exact hother c (List.mem_cons_of_mem _ hc) fun hPc => hfirst c hc ⟨hPa, hPc⟩
      exact view_each hothers _
    · have hother' : ∀ c ∈ rest, ¬ P c → ∀ w, view (step c w).2 = view w :=
        fun c hc => hother c (List.mem_cons_of_mem _ hc)
      obtain ⟨c, hc, hPc, w', hview, hstep, hend⟩ := ih hother' hrest _ hlater
      have hskip : view (step a w).2 = view w :=
        hother a List.mem_cons_self (fun hPa => hfirst c hc ⟨hPa, hPc⟩) w
      exact ⟨c, List.mem_cons_of_mem _ hc, hPc, w', hview.trans hskip, hstep, hend⟩

end World

namespace CmcMoment

/-! ## Where arrays come from -/

section Origin

variable {ν : Type} [Network ν] {m m' : CmcMoment ν} {act : CmcAct ν}

/-- The array that an announcement brings, and what it leaves of the network. -/
def newcomer (m : CmcMoment ν) (spec : Announcement) : CorrelatorArray × Recorded ν :=
  CorrelatorArray.openLinks spec m.server.address m.server.plan m.server.maxRetries m.world.net

theorem mem_pollArrayList {s : CmcServer} {a : CorrelatorArray} (ha : a ∈ s.pollArrayList.arrays) :
    ∃ b ∈ s.arrays, a.identity = b.identity ∧ ∀ side, a.channel side = b.channel side := by
  unfold CmcServer.pollArrayList at ha
  split at ha
  · obtain ⟨b, hb, rfl⟩ := List.mem_map.1 ha
    exact ⟨b, hb, rfl, fun side => by cases side <;> rfl⟩
  · exact ⟨a, ha, rfl, fun _ => rfl⟩

theorem mem_confirmArray {s : CmcServer} {name : String} {a : CorrelatorArray}
    (ha : a ∈ (s.confirmArray name).arrays) :
    ∃ b ∈ s.arrays, a.identity = b.identity ∧ ∀ side, a.channel side = b.channel side := by
  obtain ⟨b, hb, rfl⟩ := List.mem_map.1 ha
  refine ⟨b, hb, ?_, fun side => ?_⟩
  · split <;> rfl
  · split
    · cases side <;> rfl
    · rfl

/-- An array was there before, or it was announced just now. Its channels are as they were unless
the arrays receive or hand over. -/
theorem origin_step? (h : m.step? act = some m') {a : CorrelatorArray}
    (ha : a ∈ m'.server.arrays) :
    (∃ b ∈ m.server.arrays, a.identity = b.identity ∧
        (act ≠ .flush → (∀ now, act ≠ .gather now) → ∀ side, a.channel side = b.channel side)) ∨
      ∃ spec, act.announced? = some spec ∧ spec.name ∉ m.server.names ∧
        a = (m.newcomer spec).1 ∧ m'.world.net = (m.newcomer spec).2 := by
  cases act with
  | poll =>
    obtain ⟨-, rfl⟩ := step?_poll.1 h
    obtain ⟨b, hb, hidentity, hchannel⟩ := mem_pollArrayList ha
    exact .inl ⟨b, hb, hidentity, fun _ _ => hchannel⟩
  | reconnect =>
    rw [arrays_reconnect h] at ha
    exact .inl ⟨a, ha, rfl, fun _ _ _ => rfl⟩
  | flush =>
    obtain ⟨-, rfl⟩ := step?_flush.1 h
    obtain ⟨b, hb, hworks⟩ := exists_before_of_forall₂
      (World.forall₂_each CorrelatorArray.works_flush _ _) ha
    exact .inl ⟨b, hb, hworks.kept.identity, fun hne => absurd rfl hne⟩
  | gather now =>
    obtain ⟨-, rfl⟩ := step?_gather.1 h
    obtain ⟨b, hb, hworks⟩ := exists_before_of_forall₂
      (World.forall₂_each (fun a w => a.works_receive now w) _ _) ha
    exact .inl ⟨b, hb, hworks.kept.identity, fun _ hne => absurd rfl (hne now)⟩
  | collect =>
    obtain ⟨-, rfl⟩ := step?_collect.1 h
    exact .inl ⟨a, (List.mem_filter.1 ha).1, rfl, fun _ _ _ => rfl⟩
  | handle event =>
    obtain ⟨todo, -, rfl⟩ := step?_handle.1 h
    rcases m.server.event_cases m.world event with ⟨spec, hspec, -, hserver, hnet⟩ |
      ⟨-, -, hserver, -⟩ | ⟨-, -, hserver, -⟩
    · have harrays : (m.handle event todo).server = (m.server.listArray spec m.world.net).1 :=
        hserver
      rw [harrays] at ha
      rcases m.server.listArray_cases spec m.world.net with ⟨-, hlist⟩ | ⟨hnew, hlist⟩
      · rw [hlist] at ha
        obtain ⟨b, hb, hidentity, hchannel⟩ := mem_confirmArray ha
        exact .inl ⟨b, hb, hidentity, fun _ _ => hchannel⟩
      · rw [hlist] at ha hnet
        rcases CmcServer.mem_insertArray.1 ha with rfl | hold
        · refine .inr ⟨spec, hspec, fun hname => ?_, rfl, hnet⟩
          obtain ⟨b, hb, hsame⟩ := CmcServer.mem_names.1 hname
          exact hnew b hb hsame
        · exact .inl ⟨a, hold, rfl, fun _ _ _ => rfl⟩
    · have harrays : (m.handle event todo).server = m.server.pruneSuspects.1 := hserver
      rw [harrays] at ha
      exact .inl ⟨a, (List.mem_filter.1 ha).1, rfl, fun _ _ _ => rfl⟩
    · have harrays : (m.handle event todo).server = m.server := hserver
      rw [harrays] at ha
      exact .inl ⟨a, ha, rfl, fun _ _ _ => rfl⟩
  | finish =>
    obtain ⟨-, rfl⟩ := step?_finish.1 h
    exact .inl ⟨a, ha, rfl, fun _ _ _ => rfl⟩
  | remote move =>
    obtain rfl := step?_remote.1 h
    exact .inl ⟨a, ha, rfl, fun _ _ _ => rfl⟩

end Origin

/-! ## Links in use -/

section Scripted

variable {m m' : CmcMoment ScriptedNetwork} {s : ScriptAct} {id : Nat} {i : ArrayIdentity}

/-- A link that was opened. -/
def link? (m : CmcMoment ScriptedNetwork) (id : Nat) : Option ScriptedLink := m.world.net.link? id

/-- A new array has two links, which were not there before and on which nothing has happened. -/
theorem links_newcomer (m : CmcMoment ScriptedNetwork) (spec : Announcement) :
    (m.newcomer spec).1.control.link.id ≠ (m.newcomer spec).1.monitor.link.id ∧
      ∀ side, m.link? ((m.newcomer spec).1.identity.link side).id = none ∧
        ∃ l, (m.newcomer spec).2.link? ((m.newcomer spec).1.identity.link side).id = some l ∧
          l.pending = [] ∧ l.broken = false := by
  let first := Network.openLink m.server.address spec.controlPort m.world.net
  let second := Network.openLink m.server.address spec.monitorPort first.2
  obtain ⟨hnone, hcontrol⟩ :=
    Recorded.link?_openLink_self m.server.address spec.controlPort m.world.net
  obtain ⟨hnone', hmonitor⟩ :=
    Recorded.link?_openLink_self m.server.address spec.monitorPort first.2
  obtain ⟨hcontrol', hapart⟩ :=
    Recorded.link?_openLink_of_some hcontrol m.server.address spec.monitorPort
  refine ⟨hapart.symm, fun side => ?_⟩
  cases side with
  | control => exact ⟨hnone, _, hcontrol', rfl, rfl⟩
  | monitor =>
    refine ⟨?_, _, hmonitor, rfl, rfl⟩
    show m.world.net.link? second.1.id = none
    cases hbefore : m.world.net.link? second.1.id with
    | none => rfl
    | some l =>
      have hfirst := (Recorded.link?_openLink_of_some hbefore m.server.address spec.controlPort).1
      exact absurd (hnone'.symm.trans hfirst) nofun

theorem link?_newcomer {l : ScriptedLink} (h : m.link? id = some l) (spec : Announcement) :
    (m.newcomer spec).2.link? id = some l :=
  (Recorded.link?_openLink_of_some (Recorded.link?_openLink_of_some h _ _).1 _ _).1

theorem net_handle (m : CmcMoment ScriptedNetwork) (event : ChannelEvent)
    (todo : List ChannelEvent) :
    (m.handle event todo).world.net = m.world.net ∨
      ∃ spec, (m.handle event todo).world.net = (m.newcomer spec).2 := by
  rcases m.server.event_cases m.world event with ⟨spec, -, -, -, hnet⟩ | ⟨-, -, -, hnet⟩ |
    ⟨-, -, -, hnet⟩
  · rcases m.server.listArray_cases spec m.world.net with ⟨-, hlist⟩ | ⟨-, hlist⟩
    · rw [hlist] at hnet
      exact .inl hnet
    · rw [hlist] at hnet
      exact .inr ⟨spec, hnet⟩
  · exact .inl hnet
  · exact .inl hnet

/-- A link that was opened stays open to its owner. -/
theorem isSome_step? (h : m.step? s.act = some m') (hopen : (m.link? id).isSome) :
    (m'.link? id).isSome := by
  cases s with
  | poll =>
    obtain ⟨-, rfl⟩ := step?_poll.1 h
    exact hopen
  | reconnect =>
    obtain ⟨-, rfl⟩ := step?_reconnect.1 h
    unfold link?
    dsimp only [CmcServer.reconnect]
    split
    · obtain ⟨l, hl⟩ := Option.isSome_iff_exists.1 hopen
      exact Option.isSome_of_eq_some (Recorded.link?_openLink_of_some hl _ _).1
    · exact hopen
  | flush =>
    obtain ⟨-, rfl⟩ := step?_flush.1 h
    exact World.each_keeps
      (P := fun w : World (Recorded ScriptedNetwork) => (w.net.link? id).isSome)
      (fun a _ hw => a.isSome_link?_flush hw) m.server.arrays
      (m.server.channel.isSome_link?_flush hopen)
  | gather now =>
    obtain ⟨-, rfl⟩ := step?_gather.1 h
    exact World.each_keeps
      (P := fun w : World (Recorded ScriptedNetwork) => (w.net.link? id).isSome)
      (fun a _ hw => a.isSome_link?_receive now hw) m.server.arrays hopen
  | collect =>
    obtain ⟨-, rfl⟩ := step?_collect.1 h
    exact Channel.isSome_link?_read _ hopen
  | handle event =>
    obtain ⟨todo, -, rfl⟩ := step?_handle.1 h
    unfold link?
    rcases m.net_handle event todo with hnet | ⟨spec, hnet⟩
    · rwa [hnet]
    · rw [hnet]
      obtain ⟨l, hl⟩ := Option.isSome_iff_exists.1 hopen
      exact Option.isSome_of_eq_some (link?_newcomer hl spec)
  | finish =>
    obtain ⟨-, rfl⟩ := step?_finish.1 h
    exact hopen
  | remote other move =>
    obtain rfl := step?_remote.1 h
    show ((m.world.net.net.modify other fun link => link.play move).link? id).isSome
    rw [ScriptedNetwork.link?_modify]
    split
    · rwa [Option.isSome_map]
    · exact hopen

/-- The channel of the CMC stays on its link, or it comes to work on a new one. -/
theorem channel_step? (h : m.step? s.act = some m') :
    m'.server.channel.link = m.server.channel.link ∨
      m.link? m'.server.channel.link.id = none ∧
        (m'.link? m'.server.channel.link.id).isSome := by
  rcases (server_step? h).2 with ⟨-, hmoves⟩ | ⟨hact, hmore⟩
  · exact .inl hmoves.link
  · rw [hact] at h
    obtain ⟨-, rfl⟩ := step?_reconnect.1 h
    by_cases hdown : m.server.channel.isDisconnected = true
    · obtain ⟨hnone, hopened⟩ :=
        Recorded.link?_openLink_self m.server.address m.server.port m.world.net
      unfold link? CmcServer.reconnect
      rw [if_pos hdown]
      exact .inr ⟨hnone, Option.isSome_of_eq_some hopened⟩
    · unfold CmcServer.reconnect at hmore
      rw [if_neg hdown] at hmore
      exact absurd hmore (Nat.lt_irrefl _)

/-- Every channel works on a link that was opened. -/
structure InUse (m : CmcMoment ScriptedNetwork) : Prop where
  channel : (m.link? m.server.channel.link.id).isSome
  arrays : ∀ a ∈ m.server.arrays, ∀ side, (m.link? (a.identity.link side).id).isSome

theorem inUse_step? (h : m.step? s.act = some m') (huse : m.InUse) : m'.InUse := by
  refine ⟨?_, fun a ha side => ?_⟩
  · rcases channel_step? h with hsame | ⟨-, hopened⟩
    · rw [hsame]
      exact isSome_step? h huse.channel
    · exact hopened
  · rcases origin_step? h ha with ⟨b, hb, hidentity, -⟩ | ⟨spec, -, -, rfl, hnet⟩
    · rw [hidentity]
      exact isSome_step? h (huse.arrays b hb side)
    · obtain ⟨l, hl, -, -⟩ := ((m.links_newcomer spec).2 side).2
      unfold link?
      rw [hnet]
      exact Option.isSome_of_eq_some hl

theorem inUse_run? {script : List ScriptAct} (hrun : m.run? (script.map ScriptAct.act) = some m')
    (huse : m.InUse) : m'.InUse := by
  induction script generalizing m with
  | nil => exact Option.some.inj hrun ▸ huse
  | cons s rest ih =>
    obtain ⟨next, hnext, hrest⟩ := run?_cons_eq_some.1 hrun
    exact ih hrest (inUse_step? hnext huse)

theorem inUse_start (address : String) (port : UInt16) (plan : Plan) (maxRetries : UInt32)
    (net : ScriptedNetwork) (metrics : Metrics) :
    (start address port plan maxRetries net metrics).InUse := by
  refine ⟨?_, fun a ha => ?_⟩
  · let opened := Network.openLink address port (Recorded.fresh net)
    show (opened.2.link? opened.1.id).isSome
    rw [(Recorded.link?_openLink_self address port (Recorded.fresh net)).2]
    rfl
  · have hnone : a ∈ ([] : List CorrelatorArray) := ha
    contradiction

/-! ## The links of one array -/

/-- The two links of an array are no other's. -/
structure Owns (m : CmcMoment ScriptedNetwork) (i : ArrayIdentity) : Prop where
  apart : i.control.id ≠ i.monitor.id
  inUse : ∀ side, (m.link? (i.link side).id).isSome
  channel : ∀ side, m.server.channel.link.id ≠ (i.link side).id
  arrays : ∀ a ∈ m.server.arrays, a.identity ≠ i →
    ∀ side other, (a.identity.link other).id ≠ (i.link side).id

/-- A link that was not there is not one that was. -/
theorem ne_of_link? {other : Nat} (h : m.link? id = none) (h' : (m.link? other).isSome) :
    id ≠ other := by
  rintro rfl
  rw [h] at h'
  contradiction

theorem owns_step? (h : m.step? s.act = some m') (hown : m.Owns i) : m'.Owns i := by
  refine ⟨hown.apart, fun side => isSome_step? h (hown.inUse side), fun side => ?_,
    fun a ha hne side other => ?_⟩
  · rcases channel_step? h with hsame | ⟨hnone, -⟩
    · rw [hsame]
      exact hown.channel side
    · exact ne_of_link? hnone (hown.inUse side)
  · rcases origin_step? h ha with ⟨b, hb, hidentity, -⟩ | ⟨spec, -, -, rfl, -⟩
    · rw [hidentity] at hne ⊢
      exact hown.arrays b hb hne side other
    · exact ne_of_link? ((m.links_newcomer spec).2 other).1 (hown.inUse side)

/-- An array that was not there before is one that was announced just now, and owns its links. -/
theorem owns_created (huse : m.InUse) (h : m.step? s.act = some m') {a : CorrelatorArray}
    (ha : a ∈ m'.server.arrays) (hnew : a.name ∉ m.server.names) :
    ∃ spec, a = (m.newcomer spec).1 ∧ m'.world.net = (m.newcomer spec).2 ∧ m'.Owns a.identity := by
  rcases origin_step? h ha with ⟨b, hb, hidentity, -⟩ | ⟨spec, hspec, -, rfl, hnet⟩
  · rw [CorrelatorArray.name_eq_of_identity hidentity] at hnew
    exact absurd (CmcServer.mem_names.2 ⟨b, hb, rfl⟩) hnew
  obtain ⟨hapart, hlinks⟩ := m.links_newcomer spec
  refine ⟨spec, rfl, hnet, hapart, fun side => ?_, fun side => ?_, fun b hb hne side other => ?_⟩
  · obtain ⟨l, hl, -, -⟩ := (hlinks side).2
    unfold link?
    rw [hnet]
    exact Option.isSome_of_eq_some hl
  · have hsame : m'.server.channel.link = m.server.channel.link := by
      cases s with
      | handle event =>
        obtain ⟨todo, -, rfl⟩ := step?_handle.1 h
        obtain ⟨arrays, hserver⟩ := m.server.event_eq m.world event
        have hhandle : (m.handle event todo).server = { m.server with arrays := arrays } := hserver
        rw [hhandle]
      | _ => contradiction
    rw [hsame]
    exact (ne_of_link? (hlinks side).1 huse.channel).symm
  · rcases origin_step? h hb with ⟨c, hc, hidentity, -⟩ | ⟨spec', hspec', -, rfl, -⟩
    · rw [hidentity]
      exact (ne_of_link? (hlinks side).1 (huse.arrays c hc other)).symm
    · obtain rfl : spec = spec' := Option.some.inj (hspec.symm.trans hspec')
      exact absurd rfl hne

/-! ### What a part comes to for the array -/

theorem unique_of_reachable (hreach : m.Reachable) (i : ArrayIdentity) :
    m.server.arrays.Pairwise fun a b => ¬ (a.identity = i ∧ b.identity = i) := by
  refine (List.pairwise_map.1 (sorted_of_reachable hreach)).imp ?_
  rintro a b hlt ⟨ha, hb⟩
  have hname : b.name = a.name := CorrelatorArray.name_eq_of_identity (hb.trans ha.symm)
  rw [hname] at hlt
  exact String.lt_irrefl _ hlt

/-- The links of an array, as a network has them. -/
def linksOf (i : ArrayIdentity) (w : World (Recorded ScriptedNetwork)) :
    ArraySide → Option ScriptedLink :=
  fun side => w.net.link? (i.link side).id

/-- Where each array has its turn and works on its own links only, what a turn comes to for a side
of an array is what the whole part comes to for it. -/
theorem followed_each
    {turn : CorrelatorArray → World (Recorded ScriptedNetwork) →
      CorrelatorArray × World (Recorded ScriptedNetwork)}
    {R : Channel → Channel → ScriptedLink → ScriptedLink → Prop}
    (hkeep : ∀ a w, (turn a w).1.identity = a.identity)
    (hframe : ∀ (a : CorrelatorArray) w id, (∀ side, (a.identity.link side).id ≠ id) →
      (turn a w).2.net.link? id = w.net.link? id)
    (hturn : ∀ (a : CorrelatorArray) w side l, a.control.link.id ≠ a.monitor.link.id →
      w.net.link? (a.channel side).link.id = some l →
      ∃ l', (turn a w).2.net.link? (a.channel side).link.id = some l' ∧
        R (a.channel side) ((turn a w).1.channel side) l l')
    (hreach : m.Reachable) (hown : m.Owns i) {w : World (Recorded ScriptedNetwork)}
    (hw : ∀ side, w.net.link? (i.link side).id = m.link? (i.link side).id)
    {a : CorrelatorArray} (ha : a ∈ (World.each turn m.server.arrays w).1)
    (hid : a.identity = i) :
    ∃ b ∈ m.server.arrays, b.identity = i ∧ ∀ side l, m.link? (i.link side).id = some l →
      ∃ l', (World.each turn m.server.arrays w).2.net.link? (i.link side).id = some l' ∧
        R (b.channel side) (a.channel side) l l' := by
  have hother : ∀ b ∈ m.server.arrays, ¬ b.identity = i → ∀ w,
      linksOf i (turn b w).2 = linksOf i w := by
    intro b hb hne w
    funext side
    exact hframe b w _ (hown.arrays b hb hne side)
  obtain ⟨b, hb, hidentity, w', hview, rfl, hend⟩ := World.each_own
    (P := fun b => b.identity = i) (fun b w hkept => (hkeep b w).symm.trans hkept)
    hother (unique_of_reachable hreach i) w ha hid
  refine ⟨b, hb, hidentity, fun side l hl => ?_⟩
  have hlink : (b.channel side).link = i.link side := by
    rw [b.link_channel, hidentity]
  have hbefore : w'.net.link? (b.channel side).link.id = some l := by
    rw [hlink]
    exact ((congrFun hview side).trans (hw side)).trans hl
  have hapart : b.control.link.id ≠ b.monitor.link.id := by
    subst hidentity
    exact hown.apart
  obtain ⟨l', hl', hside⟩ := hturn b w' side l hapart hbefore
  rw [hlink] at hl'
  exact ⟨l', (congrFun hend side).trans hl', hside⟩

/-- The array takes in what its links have for it. -/
theorem followed_gather {now : Timestamp} (hreach : m.Reachable) (hown : m.Owns i)
    (h : m.step? (.gather now) = some m') {a : CorrelatorArray} (ha : a ∈ m'.server.arrays)
    (hid : a.identity = i) :
    ∃ b ∈ m.server.arrays, b.identity = i ∧ ∀ side l, m.link? (i.link side).id = some l →
      ∃ l', m'.link? (i.link side).id = some l' ∧
        Channel.TookIn (b.channel side).bearing (a.channel side).bearing l l' := by
  obtain ⟨-, rfl⟩ := step?_gather.1 h
  refine followed_each (R := fun c c' => Channel.TookIn c.bearing c'.bearing) ?_ ?_ ?_ hreach hown
    (fun _ => rfl) ha hid
  · exact fun b w => CorrelatorArray.identity_eq_of_standing (b.standing_receive now w)
  · exact fun b w id hne => CorrelatorArray.link?_receive_of_ne hne now
  · exact fun b w side l hapart hl => CorrelatorArray.receive_of_link? hapart now side hl

/-- The array hands its requests over to its links. -/
theorem followed_flush (hreach : m.Reachable) (hown : m.Owns i)
    (h : m.step? .flush = some m') {a : CorrelatorArray} (ha : a ∈ m'.server.arrays)
    (hid : a.identity = i) :
    ∃ b ∈ m.server.arrays, b.identity = i ∧ ∀ side l, m.link? (i.link side).id = some l →
      ∃ l', m'.link? (i.link side).id = some l' ∧
        (b.channel side).HandedOver (a.channel side) l l' := by
  obtain ⟨-, rfl⟩ := step?_flush.1 h
  have hfirst : ∀ side, (m.server.channel.flush m.world).2.net.link? (i.link side).id =
      m.link? (i.link side).id := fun side => Channel.link?_flush_of_ne (hown.channel side) m.world
  refine followed_each (R := Channel.HandedOver) ?_ ?_ ?_ hreach hown hfirst ha hid
  · exact fun b w => CorrelatorArray.identity_eq_of_standing (b.standing_flush w)
  · exact fun b w id hne => CorrelatorArray.link?_flush_of_ne hne
  · exact fun b w side l hapart hl => CorrelatorArray.flush_of_link? hapart side hl

/-- Any other part leaves the links of the array to their remote sides. -/
theorem link?_step? (hown : m.Owns i) (h : m.step? s.act = some m') (hflush : s ≠ .flush)
    (hgather : ∀ now, s ≠ .gather now) (side : ArraySide) {l : ScriptedLink}
    (hl : m.link? (i.link side).id = some l) :
    m'.link? (i.link side).id = some (s.onLink (i.link side).id l) := by
  cases s with
  | poll =>
    obtain ⟨-, rfl⟩ := step?_poll.1 h
    exact hl
  | reconnect =>
    obtain ⟨-, rfl⟩ := step?_reconnect.1 h
    unfold link?
    dsimp only [CmcServer.reconnect]
    split
    · exact (Recorded.link?_openLink_of_some hl _ _).1
    · exact hl
  | flush => contradiction
  | gather now => exact absurd rfl (hgather now)
  | collect =>
    obtain ⟨-, rfl⟩ := step?_collect.1 h
    exact (Channel.link?_read_of_ne (hown.channel side) _).trans hl
  | handle event =>
    obtain ⟨todo, -, rfl⟩ := step?_handle.1 h
    unfold link?
    rcases m.net_handle event todo with hnet | ⟨spec, hnet⟩
    · rw [hnet]
      exact hl
    · rw [hnet]
      exact link?_newcomer hl spec
  | finish =>
    obtain ⟨-, rfl⟩ := step?_finish.1 h
    exact hl
  | remote id move =>
    obtain rfl := step?_remote.1 h
    have hbefore : m.world.net.net.link? (i.link side).id = some l := hl
    show (m.world.net.net.modify id fun link => link.play move).link? (i.link side).id = _
    rw [ScriptedNetwork.link?_modify, hbefore]
    by_cases hid : id = (i.link side).id
    · have hplayed : (ScriptAct.remote id move).onLink (i.link side).id l = l.play move :=
        if_pos hid
      rw [if_pos hid, hplayed]
      rfl
    · have hsame : (ScriptAct.remote id move).onLink (i.link side).id l = l := if_neg hid
      rw [if_neg hid, hsame]

/-- Any other part leaves the channels of the array alone. -/
theorem followed_step? (hown : m.Owns i) (h : m.step? s.act = some m') (hflush : s ≠ .flush)
    (hgather : ∀ now, s ≠ .gather now) {a : CorrelatorArray} (ha : a ∈ m'.server.arrays)
    (hid : a.identity = i) :
    ∃ b ∈ m.server.arrays, b.identity = i ∧ ∀ side, a.channel side = b.channel side := by
  rcases origin_step? h ha with ⟨b, hb, hidentity, hchannel⟩ | ⟨spec, -, -, rfl, -⟩
  · refine ⟨b, hb, hidentity.symm.trans hid, hchannel ?_ fun now => ?_⟩
    · cases s with
      | flush => contradiction
      | _ => nofun
    · cases s with
      | gather other => exact absurd rfl (hgather other)
      | _ => nofun
  · subst hid
    have hnone := ((m.links_newcomer spec).2 .control).1
    exact absurd rfl (ne_of_link? hnone (hown.inUse .control))

end Scripted

end CmcMoment

end ArrayWatch
