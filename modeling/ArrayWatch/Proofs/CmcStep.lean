import ArrayWatch.Proofs.ArrayIdentity
import ArrayWatch.Proofs.CmcRun
import Mathlib.Data.List.Forall2

/-!
# What a part of the work of a CMC server does

Four things can happen to the arrays: a poll marks them, an announcement confirms one or brings a
new one, the reply that ends a list removes those that are suspect, and everything else leaves
them to their own input and output, except that those that never came up are dropped.

* `CmcServer.event_cases`: what an event of the channel comes to.
* `CmcMoment.step?_cases`: what a part comes to.
* `CmcMoment.Carries`: what a part that is none of the first three keeps.
* `CmcMoment.arrays_of_reachable`: what new arrays have and arrays keep.
-/

namespace ArrayWatch

/-! ## One step of each item -/

namespace World

variable {ν α : Type}

theorem forall₂_each {R : α → α → Prop} {step : α → World ν → α × World ν}
    (hstep : ∀ a w, R a (step a w).1) (items : List α) (w : World ν) :
    List.Forall₂ R items (each step items w).1 := by
  induction items generalizing w with
  | nil => exact .nil
  | cons a rest ih => exact .cons (hstep a w) (ih _)

/-- What the steps of items of a kind keep of the world. -/
theorem each_keeps_of {P : World ν → Prop} {Q : α → Prop} {step : α → World ν → α × World ν}
    (hstep : ∀ a w, Q a → P w → P (step a w).2) {items : List α} (hall : ∀ a ∈ items, Q a)
    {w : World ν} (h : P w) : P (each step items w).2 := by
  induction items generalizing w with
  | nil => exact h
  | cons a rest ih =>
    have hfirst := hstep a w (hall a List.mem_cons_self) h
    exact ih (fun b hb => hall b (List.mem_cons_of_mem _ hb)) hfirst

theorem each_keeps {P : World ν → Prop} {step : α → World ν → α × World ν}
    (hstep : ∀ a w, P w → P (step a w).2) (items : List α) {w : World ν} (h : P w) :
    P (each step items w).2 :=
  each_keeps_of (Q := fun _ => True) (fun a w _ => hstep a w) (fun _ _ => trivial) h

end World

section Forall₂

variable {α β : Type} {R : α → α → Prop} {before after : List α}

theorem map_eq_of_forall₂ {f : α → β} (hkeep : ∀ a b, R a b → f b = f a)
    (h : List.Forall₂ R before after) : after.map f = before.map f := by
  induction h with
  | nil => rfl
  | cons hab _ ih => rw [List.map_cons, List.map_cons, hkeep _ _ hab, ih]

theorem exists_before_of_forall₂ (h : List.Forall₂ R before after) {b : α} (hb : b ∈ after) :
    ∃ a ∈ before, R a b := by
  induction h with
  | nil => contradiction
  | cons hab _ ih =>
    rcases List.mem_cons.1 hb with rfl | hb
    · exact ⟨_, List.mem_cons_self, hab⟩
    · obtain ⟨a, ha, hab'⟩ := ih hb
      exact ⟨a, List.mem_cons_of_mem _ ha, hab'⟩

theorem exists_after_of_forall₂ (h : List.Forall₂ R before after) {a : α} (ha : a ∈ before) :
    ∃ b ∈ after, R a b := by
  obtain ⟨b, hb, hab⟩ := exists_before_of_forall₂ h.flip ha
  exact ⟨b, hb, hab⟩

theorem forall₂_trans (htrans : ∀ a b c, R a b → R b c → R a c) {last : List α}
    (h : List.Forall₂ R before after) (h' : List.Forall₂ R after last) :
    List.Forall₂ R before last := by
  induction h generalizing last with
  | nil => exact h'
  | cons hab _ ih =>
    cases h' with
    | cons hbc hrest => exact .cons (htrans _ _ _ hab hbc) (ih hrest)

/-- Items with names of their own are matched by their names. -/
theorem forall₂_of_map_eq {f : α → β} (hkeep : ∀ a b, R a b → f b = f a)
    (hsame : after.map f = before.map f) (hnodup : (before.map f).Nodup)
    (h : ∀ a ∈ before, ∃ b ∈ after, R a b) : List.Forall₂ R before after := by
  induction before generalizing after with
  | nil => rw [List.map_eq_nil_iff.1 hsame]; exact .nil
  | cons a rest ih =>
    obtain ⟨b, rest', rfl, hb, hrest⟩ := List.map_eq_cons_iff.1 hsame
    obtain ⟨hnew, hnodup⟩ := List.nodup_cons.1 hnodup
    have hb' : ∀ c ∈ rest', f c ≠ f a := fun c hc heq =>
      hnew (hrest ▸ heq ▸ List.mem_map_of_mem hc)
    refine .cons ?_ (ih hrest hnodup fun a' ha' => ?_)
    · obtain ⟨c, hc, hac⟩ := h a List.mem_cons_self
      rcases List.mem_cons.1 hc with rfl | hc
      · exact hac
      · exact absurd (hkeep a c hac) (hb' c hc)
    · obtain ⟨c, hc, hac⟩ := h a' (List.mem_cons_of_mem _ ha')
      rcases List.mem_cons.1 hc with rfl | hc
      · have heq : f a' = f a := (hkeep a' c hac).symm.trans hb
        exact absurd (heq ▸ List.mem_map_of_mem ha') hnew
      · exact ⟨c, hc, hac⟩

end Forall₂

/-! ## Events that change the list -/

/-- The array that an event announces. -/
def ChannelEvent.announced? : ChannelEvent → Option Announcement
  | inform m =>
    if m.name? = some CmcServer.arrayListName then (Announcement.ofInform m).toOption else none
  | reply _ _ => none

/-- Whether an event ends the list of arrays. -/
def ChannelEvent.endsList : ChannelEvent → Bool
  | inform _ => false
  | reply _ answer => CmcServer.endsArrayList answer

namespace CmcAct

variable {ν : Type}

def announced? : CmcAct ν → Option Announcement
  | handle event => event.announced?
  | _ => none

def endsList : CmcAct ν → Bool
  | handle event => event.endsList
  | _ => false

end CmcAct

namespace CmcServer

variable {ν : Type} [Network ν]

/-- An event announces an array, or ends the list, or does nothing to the server. -/
theorem event_cases (s : CmcServer) (w : World ν) (event : ChannelEvent) :
    (∃ spec, event.announced? = some spec ∧ event.endsList = false ∧
        (s.event w event).1 = (s.listArray spec w.net).1 ∧
        (s.event w event).2.net = (s.listArray spec w.net).2) ∨
      (event.announced? = none ∧ event.endsList = true ∧
        (s.event w event).1 = s.pruneSuspects.1 ∧ (s.event w event).2.net = w.net) ∨
      (event.announced? = none ∧ event.endsList = false ∧
        (s.event w event).1 = s ∧ (s.event w event).2.net = w.net) := by
  cases event with
  | inform m =>
    cases hname : m.name? with
    | none => simp [ChannelEvent.announced?, ChannelEvent.endsList, event, inform, hname]
    | some name =>
      by_cases hlist : name = arrayListName
      · cases hspec : Announcement.ofInform m with
        | ok spec =>
          refine .inl ⟨spec, ?_⟩
          simp [ChannelEvent.announced?, ChannelEvent.endsList, event, inform, hname, hlist,
            hspec, Except.toOption, World.count]
        | error reason =>
          simp [ChannelEvent.announced?, ChannelEvent.endsList, event, inform, hname, hlist,
            hspec, Except.toOption, World.count]
      · simp [ChannelEvent.announced?, ChannelEvent.endsList, event, inform, hname, hlist,
          World.count]
  | reply request answer =>
    by_cases hends : endsArrayList answer
    · simp [ChannelEvent.announced?, ChannelEvent.endsList, event, reply, hends]
    · simp [ChannelEvent.announced?, ChannelEvent.endsList, event, reply, hends]

/-- An announcement confirms the arrays with the name, or opens two links for a new one. -/
theorem listArray_cases (s : CmcServer) (spec : Announcement) (net : ν) :
    ((∃ a ∈ s.arrays, a.name = spec.name) ∧
        s.listArray spec net = (s.confirmArray spec.name, net)) ∨
      ((∀ a ∈ s.arrays, a.name ≠ spec.name) ∧
        let opened := CorrelatorArray.openLinks spec s.address s.plan s.maxRetries net
        s.listArray spec net = ({ s with arrays := insertArray opened.1 s.arrays }, opened.2)) := by
  unfold listArray array? Keyed.get?
  cases hfind : s.arrays.find? fun a => a.name = spec.name with
  | some a =>
    have ha := List.find?_some hfind
    exact .inl ⟨⟨a, List.mem_of_find?_eq_some hfind, by simpa using ha⟩, rfl⟩
  | none =>
    refine .inr ⟨fun a ha => ?_, rfl⟩
    simpa using List.find?_eq_none.1 hfind a ha

/-- Only the list of arrays is changed by an event. -/
theorem event_eq (s : CmcServer) (w : World ν) (event : ChannelEvent) :
    ∃ arrays, (s.event w event).1 = { s with arrays := arrays } := by
  rcases s.event_cases w event with ⟨spec, -, -, hserver, -⟩ | ⟨-, -, hserver, -⟩ |
    ⟨-, -, hserver, -⟩
  · rcases s.listArray_cases spec w.net with ⟨-, hlist⟩ | ⟨-, hlist⟩
    · exact ⟨_, hserver.trans (congrArg Prod.fst hlist)⟩
    · exact ⟨_, hserver.trans (congrArg Prod.fst hlist)⟩
  · exact ⟨_, hserver⟩
  · exact ⟨s.arrays, hserver⟩

/-- What a server was started with. -/
def settings (s : CmcServer) : String × UInt16 × Plan × UInt32 :=
  (s.address, s.port, s.plan, s.maxRetries)

/-- The names of the arrays, in their order. -/
def names (s : CmcServer) : List String := s.arrays.map CorrelatorArray.name

theorem mem_names {s : CmcServer} {name : String} :
    name ∈ s.names ↔ ∃ a ∈ s.arrays, a.name = name := List.mem_map

theorem names_pollArrayList (s : CmcServer) : s.pollArrayList.names = s.names := by
  unfold pollArrayList
  split
  · simp [names, Function.comp_def, CorrelatorArray.name, CorrelatorArray.markSuspect]
  · rfl

theorem names_confirmArray (s : CmcServer) (name : String) :
    (s.confirmArray name).names = s.names := by
  unfold names confirmArray
  rw [List.map_map]
  refine List.map_congr_left fun a _ => ?_
  dsimp only [Function.comp]
  split <;> rfl

end CmcServer

/-! ## Parts -/

namespace CmcMoment

variable {ν : Type} [Network ν] {m m' : CmcMoment ν}

theorem step?_poll : m.step? .poll = some m' ↔
    m.phase = .resting ∧ { m with server := m.server.pollArrayList } = m' := by
  cases hphase : m.phase <;> simp [step?, hphase]

theorem step?_reconnect : m.step? .reconnect = some m' ↔
    m.phase = .resting ∧
      { m with
        server := (m.server.reconnect m.world).2.1
        world := (m.server.reconnect m.world).2.2 } = m' := by
  cases hphase : m.phase <;> simp [step?, hphase]

theorem step?_flush : m.step? .flush = some m' ↔
    m.phase = .resting ∧
      { m with
        server := (m.server.flush m.world).1
        world := (m.server.flush m.world).2 } = m' := by
  cases hphase : m.phase <;> simp [step?, hphase]

theorem step?_gather {now : Timestamp} : m.step? (.gather now) = some m' ↔
    m.phase = .resting ∧ m.gather now = m' := by
  cases hphase : m.phase <;> simp [step?, hphase]

theorem step?_collect : m.step? .collect = some m' ↔ m.phase = .gathered ∧ m.collect = m' := by
  cases hphase : m.phase <;> simp [step?, hphase]

theorem step?_handle {event : ChannelEvent} : m.step? (.handle event) = some m' ↔
    ∃ todo, m.phase = .acting (event :: todo) ∧ m.handle event todo = m' := by
  cases hphase : m.phase with
  | resting => simp [step?, hphase]
  | gathered => simp [step?, hphase]
  | acting todo =>
    cases todo with
    | nil => simp [step?, hphase]
    | cons next rest =>
      by_cases hnext : next = event <;> simp [step?, hphase, hnext]

theorem step?_finish : m.step? .finish = some m' ↔
    m.phase = .acting [] ∧ { m with phase := .resting } = m' := by
  cases hphase : m.phase with
  | resting => simp [step?, hphase]
  | gathered => simp [step?, hphase]
  | acting todo => cases todo <;> simp [step?, hphase]

theorem step?_remote {move : ν → ν} : m.step? (.remote move) = some m' ↔
    { m with world.net := m.world.net.act move } = m' := by
  simp [step?]

/-! ## What a part comes to -/

/-- No array is new and no mark is changed, and no array is lost unless it never came up. -/
def Carries (m m' : CmcMoment ν) : Prop :=
  ∃ held, held.Sublist m.server.arrays ∧
    ((∀ a ∈ m.server.arrays, a.failedToOpen = false) → held = m.server.arrays) ∧
    List.Forall₂ (CorrelatorArray.Works (Recorded ν)) held m'.server.arrays

theorem carries_of_forall₂
    (h : List.Forall₂ (CorrelatorArray.Works (Recorded ν)) m.server.arrays m'.server.arrays) :
    m.Carries m' :=
  ⟨_, .refl _, fun _ => rfl, h⟩

theorem carries_of_arrays_eq (h : m'.server.arrays = m.server.arrays) : m.Carries m' :=
  carries_of_forall₂ (h ▸ List.forall₂_same.2 fun a _ => .refl a)

theorem carries_gather (m : CmcMoment ν) (now : Timestamp) : m.Carries (m.gather now) :=
  carries_of_forall₂ (World.forall₂_each (fun a w => a.works_receive now w) _ _)

theorem carries_collect (m : CmcMoment ν) : m.Carries m.collect := by
  refine ⟨m.server.dropUnopened.arrays, List.filter_sublist, fun hopen => ?_,
    List.forall₂_same.2 fun a _ => .refl a⟩
  exact List.filter_eq_self.2 fun a ha => by simp [hopen a ha]

/-- A part is a poll, or an announcement, or the end of a list, or it carries the arrays on. -/
theorem step?_cases {act : CmcAct ν} (h : m.step? act = some m') :
    (act = .poll ∧ m.phase = .resting ∧ m' = { m with server := m.server.pollArrayList }) ∨
      (∃ spec, act.announced? = some spec ∧ act.endsList = false ∧
        m'.server = (m.server.listArray spec m.world.net).1 ∧
        m'.world.net = (m.server.listArray spec m.world.net).2) ∨
      (act.announced? = none ∧ act.endsList = true ∧
        m'.server = m.server.pruneSuspects.1 ∧ m'.world.net = m.world.net) ∨
      (act ≠ .poll ∧ act.announced? = none ∧ act.endsList = false ∧ m.Carries m') := by
  cases act with
  | poll =>
    obtain ⟨hphase, rfl⟩ := step?_poll.1 h
    exact .inl ⟨rfl, hphase, rfl⟩
  | reconnect =>
    obtain ⟨-, rfl⟩ := step?_reconnect.1 h
    refine .inr (.inr (.inr ⟨nofun, rfl, rfl, carries_of_arrays_eq ?_⟩))
    dsimp only [CmcServer.reconnect]
    split <;> rfl
  | flush =>
    obtain ⟨-, rfl⟩ := step?_flush.1 h
    exact .inr (.inr (.inr ⟨nofun, rfl, rfl,
      carries_of_forall₂ (World.forall₂_each CorrelatorArray.works_flush _ _)⟩))
  | gather now =>
    obtain ⟨-, rfl⟩ := step?_gather.1 h
    exact .inr (.inr (.inr ⟨nofun, rfl, rfl, carries_gather m now⟩))
  | collect =>
    obtain ⟨-, rfl⟩ := step?_collect.1 h
    exact .inr (.inr (.inr ⟨nofun, rfl, rfl, carries_collect m⟩))
  | handle event =>
    obtain ⟨todo, -, rfl⟩ := step?_handle.1 h
    rcases m.server.event_cases m.world event with hnew | hends | ⟨hnone, hopen, hserver, -⟩
    · exact .inr (.inl hnew)
    · exact .inr (.inr (.inl hends))
    · exact .inr (.inr (.inr ⟨nofun, hnone, hopen,
        carries_of_arrays_eq (congrArg CmcServer.arrays hserver)⟩))
  | finish =>
    obtain ⟨-, rfl⟩ := step?_finish.1 h
    exact .inr (.inr (.inr ⟨nofun, rfl, rfl, carries_of_arrays_eq rfl⟩))
  | remote move =>
    obtain rfl := step?_remote.1 h
    exact .inr (.inr (.inr ⟨nofun, rfl, rfl, carries_of_arrays_eq rfl⟩))

theorem arrays_reconnect (h : m.step? .reconnect = some m') :
    m'.server.arrays = m.server.arrays := by
  obtain ⟨-, rfl⟩ := step?_reconnect.1 h
  dsimp only [CmcServer.reconnect]
  split <;> rfl

/-- The settings stay, and the channel stays on its link unless the connection is opened again. -/
theorem server_step? {act : CmcAct ν} (h : m.step? act = some m') :
    m'.server.settings = m.server.settings ∧
      (m'.server.reconnects = m.server.reconnects ∧
          Channel.Moves (Recorded ν) m.server.channel m'.server.channel ∨
        act = .reconnect ∧ m.server.reconnects < m'.server.reconnects) := by
  cases act with
  | poll =>
    obtain ⟨-, rfl⟩ := step?_poll.1 h
    dsimp only [CmcServer.pollArrayList]
    split
    · exact ⟨rfl, .inl ⟨rfl, .push _⟩⟩
    · exact ⟨rfl, .inl ⟨rfl, .stay⟩⟩
  | reconnect =>
    obtain ⟨-, rfl⟩ := step?_reconnect.1 h
    dsimp only [CmcServer.reconnect]
    split
    · exact ⟨rfl, .inr ⟨rfl, Nat.lt_succ_self _⟩⟩
    · exact ⟨rfl, .inl ⟨rfl, .stay⟩⟩
  | flush =>
    obtain ⟨-, rfl⟩ := step?_flush.1 h
    exact ⟨rfl, .inl ⟨rfl, .flush m.world⟩⟩
  | gather now =>
    obtain ⟨-, rfl⟩ := step?_gather.1 h
    exact ⟨rfl, .inl ⟨rfl, .stay⟩⟩
  | collect =>
    obtain ⟨-, rfl⟩ := step?_collect.1 h
    exact ⟨rfl, .inl ⟨rfl, .read m.world.net⟩⟩
  | handle event =>
    obtain ⟨todo, -, rfl⟩ := step?_handle.1 h
    obtain ⟨arrays, hserver⟩ := m.server.event_eq m.world event
    have hhandle : (m.handle event todo).server = { m.server with arrays := arrays } := hserver
    rw [hhandle]
    exact ⟨rfl, .inl ⟨rfl, .stay⟩⟩
  | finish =>
    obtain ⟨-, rfl⟩ := step?_finish.1 h
    exact ⟨rfl, .inl ⟨rfl, .stay⟩⟩
  | remote move =>
    obtain rfl := step?_remote.1 h
    exact ⟨rfl, .inl ⟨rfl, .stay⟩⟩

/-- Links are opened for new arrays and to reach a CMC again, and for nothing else. -/
theorem opened_step? {act : CmcAct ν} (h : m.step? act = some m') (hreconnect : act ≠ .reconnect)
    (hold : act.announced? = none) : m'.world.net.opened = m.world.net.opened := by
  cases act with
  | poll =>
    obtain ⟨-, rfl⟩ := step?_poll.1 h
    rfl
  | reconnect => exact absurd rfl hreconnect
  | flush =>
    obtain ⟨-, rfl⟩ := step?_flush.1 h
    exact World.each_keeps (P := fun w : World (Recorded ν) => w.net.opened = m.world.net.opened)
      (fun a w hw => (a.opened_flush w).trans hw) m.server.arrays
      (m.server.channel.opened_flush m.world)
  | gather now =>
    obtain ⟨-, rfl⟩ := step?_gather.1 h
    exact World.each_keeps (P := fun w : World (Recorded ν) => w.net.opened = m.world.net.opened)
      (fun a w hw => (a.opened_receive now w).trans hw) m.server.arrays rfl
  | collect =>
    obtain ⟨-, rfl⟩ := step?_collect.1 h
    exact Channel.opened_read _ _
  | handle event =>
    obtain ⟨todo, -, rfl⟩ := step?_handle.1 h
    rcases m.server.event_cases m.world event with ⟨spec, hnew, -⟩ | ⟨-, -, -, hnet⟩ |
      ⟨-, -, -, hnet⟩
    · exact absurd (hold.symm.trans hnew) nofun
    · exact congrArg Recorded.opened hnet
    · exact congrArg Recorded.opened hnet
  | finish =>
    obtain ⟨-, rfl⟩ := step?_finish.1 h
    rfl
  | remote move =>
    obtain rfl := step?_remote.1 h
    rfl

/-! ## The order of the names -/

/-- What is carried on keeps its place. -/
theorem Carries.names_sublist (h : m.Carries m') :
    m'.server.names.Sublist m.server.names := by
  obtain ⟨held, hsub, -, hworks⟩ := h
  rw [CmcServer.names, map_eq_of_forall₂ (fun _ _ hab => hab.name) hworks]
  exact hsub.map _

/-- The arrays of a CMC are in the order of their names, and no two have one name. -/
theorem sorted_step? {act : CmcAct ν} (h : m.step? act = some m')
    (hsorted : m.server.names.Pairwise (· < ·)) : m'.server.names.Pairwise (· < ·) := by
  rcases step?_cases h with ⟨-, -, rfl⟩ | ⟨spec, -, -, hserver, -⟩ | ⟨-, -, hserver, -⟩ |
    ⟨-, -, -, hcarries⟩
  · rwa [CmcServer.names_pollArrayList]
  · rw [hserver]
    rcases m.server.listArray_cases spec m.world.net with ⟨-, hlist⟩ | ⟨hnew, hlist⟩
    · rwa [hlist, CmcServer.names_confirmArray]
    · rw [hlist, CmcServer.names, List.pairwise_map]
      exact CmcServer.pairwise_insertArray (List.pairwise_map.1 hsorted) hnew
  · rw [hserver]
    exact hsorted.sublist (List.filter_sublist.map _)
  · exact hsorted.sublist hcarries.names_sublist

theorem sorted_of_reachable (h : m.Reachable) : m.server.names.Pairwise (· < ·) := by
  obtain ⟨address, port, plan, maxRetries, net, metrics, acts, hrun⟩ := h
  exact run?_keeps (fun _ _ _ => sorted_step?) hrun .nil

/-! ## What all arrays have -/

section Arrays

variable {P : CorrelatorArray → Prop}

theorem Carries.all (hown : ∀ a b, a.OwnStep (Recorded ν) b → P a → P b) (h : m.Carries m')
    (hall : ∀ a ∈ m.server.arrays, P a) : ∀ b ∈ m'.server.arrays, P b := by
  obtain ⟨held, hsub, -, hworks⟩ := h
  intro b hb
  obtain ⟨a, ha, hab⟩ := exists_before_of_forall₂ hworks hb
  exact hab.kept.keeps hown (hall a (hsub.subset ha))

/-- What a new array has, and an array keeps in its own steps, all arrays have. -/
theorem arrays_step? {act : CmcAct ν} (h : m.step? act = some m')
    (hnew : ∀ spec cmcAddress plan maxRetries (net : Recorded ν),
      P (CorrelatorArray.openLinks spec cmcAddress plan maxRetries net).1)
    (hown : ∀ a b, a.OwnStep (Recorded ν) b → P a → P b)
    (hall : ∀ a ∈ m.server.arrays, P a) : ∀ a ∈ m'.server.arrays, P a := by
  rcases step?_cases h with ⟨-, -, rfl⟩ | ⟨spec, -, -, hserver, -⟩ | ⟨-, -, hserver, -⟩ |
    ⟨-, -, -, hcarries⟩
  · dsimp only [CmcServer.pollArrayList]
    split
    · exact List.forall_mem_map.2 fun a ha => hown a _ .markSuspect (hall a ha)
    · exact hall
  · rw [hserver]
    rcases m.server.listArray_cases spec m.world.net with ⟨-, hlist⟩ | ⟨-, hlist⟩
    · rw [hlist]
      refine List.forall_mem_map.2 fun a ha => ?_
      split
      · exact hown a _ .markFine (hall a ha)
      · exact hall a ha
    · rw [hlist]
      intro a ha
      rcases CmcServer.mem_insertArray.1 ha with rfl | hold
      · exact hnew _ _ _ _ _
      · exact hall a hold
  · rw [hserver]
    exact fun a ha => hall a (List.mem_filter.1 ha).1
  · exact hcarries.all hown hall

theorem arrays_of_reachable (h : m.Reachable)
    (hnew : ∀ spec cmcAddress plan maxRetries (net : Recorded ν),
      P (CorrelatorArray.openLinks spec cmcAddress plan maxRetries net).1)
    (hown : ∀ a b, a.OwnStep (Recorded ν) b → P a → P b) : ∀ a ∈ m.server.arrays, P a := by
  obtain ⟨address, port, plan, maxRetries, net, metrics, acts, hrun⟩ := h
  exact run?_keeps (P := fun m => ∀ a ∈ m.server.arrays, P a)
    (fun _ _ _ hstep hall => arrays_step? hstep hnew hown hall) hrun
    fun _ ha => absurd ha List.not_mem_nil

end Arrays

end CmcMoment

end ArrayWatch
