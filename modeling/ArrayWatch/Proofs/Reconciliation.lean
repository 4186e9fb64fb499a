import ArrayWatch.Proofs.Confirmation
import Mathlib.Data.List.Sort

/-!
# Polls that are not disturbed

A poll of an idle CMC marks every array, the announcements that follow confirm arrays or bring new
ones, and the reply that ends the list removes the rest. When no other poll and no new connection
falls in, and no array fails to come up, the arrays are then exactly those that were announced.

* `CmcMoment.Underway`: what holds of the arrays while a list is in progress.
* `CmcMoment.Reconciled`: what holds of them after its end.
* `CmcMoment.poll_reconciles`: the one leads to the other, and a second poll with the same list
  changes nothing.
-/

namespace ArrayWatch

/-! ## New arrays of a list -/

/-- The first announcement of each name that is not known yet. -/
def newcomers (known : List String) : List Announcement → List Announcement
  | [] => []
  | spec :: rest =>
    if spec.name ∈ known then newcomers known rest
    else spec :: newcomers (spec.name :: known) rest

theorem newcomers_append_known {known : List String} {listed : List Announcement}
    {spec : Announcement} (h : spec.name ∈ known ∨ spec.name ∈ listed.map Announcement.name) :
    newcomers known (listed ++ [spec]) = newcomers known listed := by
  induction listed generalizing known with
  | nil =>
    have hknown : spec.name ∈ known := by simpa using h
    simp [newcomers, hknown]
  | cons first rest ih =>
    have hrest : ∀ known' : List String, known ⊆ known' → first.name ∈ known' →
        spec.name ∈ known' ∨ spec.name ∈ rest.map Announcement.name := by
      intro known' hsub hfirst
      rcases h with hknown | hlisted
      · exact .inl (hsub hknown)
      · rcases List.mem_cons.1 hlisted with heq | hlisted
        · exact .inl (heq ▸ hfirst)
        · exact .inr hlisted
    by_cases hfirst : first.name ∈ known
    · have hsame := hrest known (fun _ h => h) hfirst
      simp [newcomers, hfirst, ih hsame]
    · have hmore := hrest (first.name :: known) (List.subset_cons_self _ _) List.mem_cons_self
      simp [newcomers, hfirst, ih hmore]

theorem newcomers_append_new {known : List String} {listed : List Announcement}
    {spec : Announcement} (hknown : spec.name ∉ known)
    (hlisted : spec.name ∉ listed.map Announcement.name) :
    newcomers known (listed ++ [spec]) = newcomers known listed ++ [spec] := by
  induction listed generalizing known with
  | nil => simp [newcomers, hknown]
  | cons first rest ih =>
    obtain ⟨hne, hrest⟩ := not_or.1 (mt List.mem_cons.2 hlisted)
    by_cases hfirst : first.name ∈ known
    · simp [newcomers, hfirst, ih hknown hrest]
    · have hknown' : spec.name ∉ first.name :: known := by simp [hne, hknown]
      simp [newcomers, hfirst, ih hknown' hrest]

/-- Every name that is listed and was not known comes once. -/
theorem newcomers_spec (known : List String) (listed : List Announcement) :
    ((newcomers known listed).map Announcement.name).Nodup ∧
      ∀ name, name ∈ (newcomers known listed).map Announcement.name ↔
        name ∈ listed.map Announcement.name ∧ name ∉ known := by
  induction listed generalizing known with
  | nil => simp [newcomers]
  | cons first rest ih =>
    by_cases hfirst : first.name ∈ known
    · obtain ⟨hnodup, hmem⟩ := ih known
      refine ⟨by simpa [newcomers, hfirst] using hnodup, fun name => ?_⟩
      rw [newcomers, if_pos hfirst, hmem]
      constructor
      · rintro ⟨hrest, hknown⟩
        exact ⟨List.mem_cons_of_mem _ hrest, hknown⟩
      · rintro ⟨hlisted, hknown⟩
        refine ⟨(List.mem_cons.1 hlisted).resolve_left ?_, hknown⟩
        rintro rfl
        exact hknown hfirst
    · obtain ⟨hnodup, hmem⟩ := ih (first.name :: known)
      rw [newcomers, if_neg hfirst, List.map_cons, List.nodup_cons]
      refine ⟨⟨fun h => ((hmem _).1 h).2 List.mem_cons_self, hnodup⟩, fun name => ?_⟩
      rw [List.mem_cons, hmem, List.map_cons, List.mem_cons, List.mem_cons]
      by_cases hname : name = first.name
      · simp [hname, hfirst]
      · simp [hname]

/-- The two ports of an array that is announced. -/
def Announcement.ports (spec : Announcement) (address : String) : List (String × UInt16) :=
  [(address, spec.controlPort), (address, spec.monitorPort)]

/-- Nothing that could change a list of arrays with these names. -/
def CmcAct.QuietFor {ν : Type} (names : List String) (act : CmcAct ν) : Prop :=
  act ≠ .poll ∧ act ≠ .reconnect ∧ act.endsList = false ∧
    ∀ spec, act.announced? = some spec → spec.name ∈ names

namespace CmcMoment

open CorrelatorArray (Kept Works)

variable {ν : Type} [Network ν] {m m' now next : CmcMoment ν} {listed : List Announcement}

/-! ## A list in progress -/

/-- Since the moment `m` the arrays have been polled, and these arrays have been announced. -/
structure Underway (m : CmcMoment ν) (listed : List Announcement) (now : CmcMoment ν) : Prop where
  settings : now.server.settings = m.server.settings
  mem_names : ∀ name, name ∈ now.server.names ↔
    name ∈ m.server.names ∨ name ∈ listed.map Announcement.name
  isSuspect_iff : ∀ a ∈ now.server.arrays, a.isSuspect ↔ a.name ∉ listed.map Announcement.name
  kept : ∀ a ∈ m.server.arrays, ∃ a' ∈ now.server.arrays, Kept (Recorded ν) a a'
  brought : ∀ spec ∈ newcomers m.server.names listed, ∃ control monitor,
    ∃ a' ∈ now.server.arrays, Kept (Recorded ν)
      (.ofLinks spec m.server.address m.server.plan m.server.maxRetries control monitor) a'
  opened : now.world.net.opened = m.world.net.opened ++
    (newcomers m.server.names listed).flatMap (·.ports m.server.address)

/-- Every array that was there goes on, and none is new. -/
theorem Underway.move {listed' : List Announcement} (h : m.Underway listed now)
    (hsettings : next.server.settings = now.server.settings)
    (hnew : newcomers m.server.names listed' = newcomers m.server.names listed)
    (hnames : ∀ name, name ∈ next.server.names ↔
      name ∈ m.server.names ∨ name ∈ listed'.map Announcement.name)
    (hsuspect : ∀ a ∈ next.server.arrays, a.isSuspect ↔ a.name ∉ listed'.map Announcement.name)
    (hkept : ∀ a ∈ now.server.arrays, ∃ a' ∈ next.server.arrays, Kept (Recorded ν) a a')
    (hopened : next.world.net.opened = now.world.net.opened) : m.Underway listed' next := by
  refine ⟨hsettings.trans h.settings, hnames, hsuspect, fun a ha => ?_, fun spec hspec => ?_, ?_⟩
  · obtain ⟨b, hb, hab⟩ := h.kept a ha
    obtain ⟨c, hc, hbc⟩ := hkept b hb
    exact ⟨c, hc, hab.trans hbc⟩
  · obtain ⟨control, monitor, b, hb, hab⟩ := h.brought spec (hnew ▸ hspec)
    obtain ⟨c, hc, hbc⟩ := hkept b hb
    exact ⟨control, monitor, c, hc, hab.trans hbc⟩
  · rw [hopened, h.opened, hnew]

/-- After the poll every array is suspect. -/
theorem underway_poll (hup : m.server.isConnected) :
    m.Underway [] { m with server := m.server.pollArrayList } := by
  have harrays : m.server.pollArrayList.arrays = m.server.arrays.map .markSuspect := by
    simp [CmcServer.pollArrayList, hup]
  refine ⟨?_, fun name => ?_, fun a ha => ?_, fun a ha => ?_, fun spec hspec => ?_,
    by simp [newcomers]⟩
  · simp [CmcServer.pollArrayList, hup, CmcServer.settings]
  · simp [CmcServer.names_pollArrayList]
  · rw [harrays] at ha
    obtain ⟨old, -, rfl⟩ := List.mem_map.1 ha
    simp
  · refine ⟨a.markSuspect, ?_, CorrelatorArray.kept_markSuspect a⟩
    rw [harrays]
    exact List.mem_map_of_mem ha
  · exact absurd hspec List.not_mem_nil

theorem underway_carries (h : m.Underway listed now) (hcarries : now.Carries next)
    (hup : ∀ a ∈ now.server.arrays, a.failedToOpen = false)
    (hsettings : next.server.settings = now.server.settings)
    (hopened : next.world.net.opened = now.world.net.opened) : m.Underway listed next := by
  obtain ⟨held, -, hall, hworks⟩ := hcarries
  obtain rfl := hall hup
  have hnames : next.server.names = now.server.names :=
    map_eq_of_forall₂ (fun _ _ hab => hab.name) hworks
  refine h.move hsettings rfl (fun name => hnames ▸ h.mem_names name) (fun a' ha' => ?_)
    (fun a ha => ?_) hopened
  · obtain ⟨a, ha, hwork⟩ := exists_before_of_forall₂ hworks ha'
    rw [hwork.isSuspect, hwork.name]
    exact h.isSuspect_iff a ha
  · obtain ⟨a', ha', hwork⟩ := exists_after_of_forall₂ hworks ha
    exact ⟨a', ha', hwork.kept⟩

/-- An array that is there already is confirmed. -/
theorem underway_confirm {spec : Announcement} (h : m.Underway listed now)
    (hthere : ∃ a ∈ now.server.arrays, a.name = spec.name)
    (hserver : next.server = now.server.confirmArray spec.name)
    (hnet : next.world.net = now.world.net) : m.Underway (listed ++ [spec]) next := by
  have hknown := (h.mem_names spec.name).1 (CmcServer.mem_names.2 hthere)
  refine h.move (by rw [hserver]; rfl) (newcomers_append_known hknown)
    (fun name => ?_) (fun a' ha' => ?_) (fun a ha => ?_) (congrArg Recorded.opened hnet)
  · rw [hserver, CmcServer.names_confirmArray, h.mem_names, List.map_append, List.mem_append]
    constructor
    · rintro (hold | hlisted)
      · exact .inl hold
      · exact .inr (.inl hlisted)
    · rintro (hold | hlisted | hspec)
      · exact .inl hold
      · exact .inr hlisted
      · obtain rfl : name = spec.name := by simpa using hspec
        exact hknown
  · rw [hserver] at ha'
    obtain ⟨a, ha, rfl⟩ := List.mem_map.1 ha'
    have hsuspect := h.isSuspect_iff a ha
    by_cases hname : a.name = spec.name
    · simp [hname]
    · simpa [hname] using hsuspect
  · rw [hserver]
    refine ⟨_, List.mem_map_of_mem ha, ?_⟩
    split
    · exact CorrelatorArray.kept_markFine a
    · exact .refl

/-- A new array comes with two links. -/
theorem underway_insert {spec : Announcement} {control monitor : Link}
    (h : m.Underway listed now) (hnew : ∀ a ∈ now.server.arrays, a.name ≠ spec.name)
    (hserver : next.server = { now.server with
      arrays := CmcServer.insertArray
        (.ofLinks spec now.server.address now.server.plan now.server.maxRetries control monitor)
        now.server.arrays })
    (hopened : next.world.net.opened =
      now.world.net.opened ++ spec.ports now.server.address) :
    m.Underway (listed ++ [spec]) next := by
  have hunknown : ¬ (spec.name ∈ m.server.names ∨ spec.name ∈ listed.map Announcement.name) := by
    rw [← h.mem_names, CmcServer.mem_names]
    rintro ⟨a, ha, hname⟩
    exact hnew a ha hname
  obtain ⟨hnone, hunlisted⟩ := not_or.1 hunknown
  have hsettings := h.settings
  simp only [CmcServer.settings, Prod.mk.injEq] at hsettings
  obtain ⟨haddress, -, hplan, hretries⟩ := hsettings
  rw [haddress, hplan, hretries] at hserver
  let new := CorrelatorArray.ofLinks spec m.server.address m.server.plan m.server.maxRetries
    control monitor
  have hmem : ∀ a, a ∈ next.server.arrays ↔ a = new ∨ a ∈ now.server.arrays := fun a => by
    rw [hserver]
    exact CmcServer.mem_insertArray
  have hold : ∀ a ∈ now.server.arrays, a ∈ next.server.arrays := fun a ha => (hmem a).2 (.inr ha)
  refine ⟨?_, fun name => ?_, fun a ha => ?_, fun a ha => ?_, fun spec' hspec' => ?_, ?_⟩
  · rw [hserver]
    exact h.settings
  · have hnames : name ∈ next.server.names ↔ name = spec.name ∨ name ∈ now.server.names := by
      simp only [CmcServer.mem_names, hmem, or_and_right, exists_or, exists_eq_left]
      exact or_congr eq_comm Iff.rfl
    rw [hnames, h.mem_names, List.map_append, List.mem_append, List.map_singleton,
      List.mem_singleton]
    tauto
  · rcases (hmem a).1 ha with rfl | ha
    · simp [new, CorrelatorArray.isSuspect, CorrelatorArray.ofLinks, CorrelatorArray.name]
    · have hne := hnew a ha
      simpa [hne] using h.isSuspect_iff a ha
  · obtain ⟨a', ha', hkept⟩ := h.kept a ha
    exact ⟨a', hold a' ha', hkept⟩
  · rw [newcomers_append_new hnone hunlisted, List.mem_append] at hspec'
    rcases hspec' with hbefore | hspec'
    · obtain ⟨control', monitor', a', ha', hkept⟩ := h.brought spec' hbefore
      exact ⟨control', monitor', a', hold a' ha', hkept⟩
    · obtain rfl := List.mem_singleton.1 hspec'
      exact ⟨control, monitor, new, (hmem new).2 (.inl rfl), .refl⟩
  · rw [hopened, h.opened, newcomers_append_new hnone hunlisted, haddress]
    simp

/-- No array has failed to come up. -/
def AllUp (m : CmcMoment ν) : Prop := ∀ a ∈ m.server.arrays, a.failedToOpen = false

instance (m : CmcMoment ν) : Decidable m.AllUp :=
  inferInstanceAs (Decidable (∀ a ∈ m.server.arrays, a.failedToOpen = false))

theorem underway_step? {act : CmcAct ν} (h : m.Underway listed now)
    (hstep : now.step? act = some next) (hpoll : act ≠ .poll) (hreconnect : act ≠ .reconnect)
    (hopen : act.endsList = false) (hup : now.AllUp) :
    m.Underway (listed ++ act.announced?.toList) next := by
  rcases step?_cases hstep with ⟨hact, -⟩ | ⟨spec, hspec, -, hserver, hnet⟩ | ⟨-, hends, -⟩ |
    ⟨-, hnone, -, hcarries⟩
  · exact absurd hact hpoll
  · rw [hspec]
    rcases now.server.listArray_cases spec now.world.net with ⟨hthere, hlist⟩ | ⟨hnew, hlist⟩
    · rw [hlist] at hserver hnet
      exact underway_confirm h hthere hserver hnet
    · rw [hlist] at hserver hnet
      refine underway_insert h hnew hserver ?_
      rw [hnet]
      simp [CorrelatorArray.openLinks, Announcement.ports]
  · exact absurd (hopen.symm.trans hends) nofun
  · rw [hnone, Option.toList_none, List.append_nil]
    exact underway_carries h hcarries hup (server_step? hstep).1
      (opened_step? hstep hreconnect hnone)

/-! ## Whole runs -/

/-- Something holds at every moment of a run. -/
def Throughout (P : CmcMoment ν → Prop) (m : CmcMoment ν) : List (CmcAct ν) → Prop
  | [] => P m
  | act :: rest => P m ∧ ∀ next ∈ m.step? act, Throughout P next rest

instance decidableThroughout (P : CmcMoment ν → Prop) [DecidablePred P] (m : CmcMoment ν) :
    (acts : List (CmcAct ν)) → Decidable (m.Throughout P acts)
  | [] => inferInstanceAs (Decidable (P m))
  | act :: rest =>
    have := fun next => decidableThroughout P next rest
    inferInstanceAs (Decidable (P m ∧ ∀ next ∈ m.step? act, next.Throughout P rest))

theorem Throughout.head {P : CmcMoment ν → Prop} {acts : List (CmcAct ν)}
    (h : m.Throughout P acts) : P m := by
  cases acts with
  | nil => exact h
  | cons act rest => exact h.1

theorem Throughout.tail {P : CmcMoment ν → Prop} {act : CmcAct ν} {acts : List (CmcAct ν)}
    (h : m.Throughout P (act :: acts)) (hstep : m.step? act = some next) :
    next.Throughout P acts :=
  h.2 next hstep

theorem Throughout.of_append {P : CmcMoment ν → Prop} {first rest : List (CmcAct ν)}
    (h : m.Throughout P (first ++ rest)) : m.Throughout P first := by
  induction first generalizing m with
  | nil => exact h.head
  | cons act first ih => exact ⟨h.head, fun next hnext => ih (h.tail hnext)⟩

theorem underway_run? {acts : List (CmcAct ν)} (h : m.Underway listed now)
    (hrun : now.run? acts = some next)
    (hundisturbed : ∀ act ∈ acts, act ≠ .poll ∧ act ≠ .reconnect)
    (hopen : ∀ act ∈ acts, act.endsList = false) (hup : now.Throughout AllUp acts) :
    m.Underway (listed ++ acts.filterMap CmcAct.announced?) next := by
  induction acts generalizing now listed with
  | nil =>
    obtain rfl := Option.some.inj hrun
    simpa using h
  | cons act rest ih =>
    obtain ⟨middle, hstep, hrest⟩ := run?_cons_eq_some.1 hrun
    obtain ⟨hpoll, hreconnect⟩ := hundisturbed act List.mem_cons_self
    have hmiddle := underway_step? h hstep hpoll hreconnect (hopen act List.mem_cons_self) hup.head
    have hnext := ih hmiddle hrest (fun a ha => hundisturbed a (List.mem_cons_of_mem _ ha))
      (fun a ha => hopen a (List.mem_cons_of_mem _ ha)) (hup.tail hstep)
    have hlisted : act.announced?.toList ++ rest.filterMap CmcAct.announced? =
        (act :: rest).filterMap CmcAct.announced? := by
      cases hact : act.announced? <;> simp [hact]
    rwa [List.append_assoc, hlisted] at hnext

/-- A poll of an idle CMC and what follows it, up to the reply that ends the list. No other poll
and no new connection falls in, and every array comes up. -/
structure PollRound (m : CmcMoment ν) (acts : List (CmcAct ν)) (m' : CmcMoment ν) : Prop where
  idle : m.server.channel.state = .monitor
  run : m.run? (.poll :: acts) = some m'
  undisturbed : ∀ act ∈ acts, act ≠ .poll ∧ act ≠ .reconnect
  ends : ∃ before last, acts = before ++ [last] ∧ last.endsList = true ∧
    ∀ act ∈ before, act.endsList = false
  up : m.Throughout AllUp (.poll :: acts)

/-- The arrays are those that were announced since the moment `m`. Those that were there then are
still the same, and links were opened for the new ones only. -/
structure Reconciled (m : CmcMoment ν) (listed : List Announcement) (m' : CmcMoment ν) : Prop where
  sorted : m'.server.names.Pairwise (· < ·)
  mem_names : ∀ name, name ∈ m'.server.names ↔ name ∈ listed.map Announcement.name
  fine : ∀ a ∈ m'.server.arrays, a.liveness = .fine
  kept : ∀ a ∈ m.server.arrays, a.name ∈ listed.map Announcement.name →
    ∃ a' ∈ m'.server.arrays, Kept (Recorded ν) a a' ∧ a'.identity = a.identity
  brought : ∀ spec ∈ newcomers m.server.names listed, ∃ control monitor,
    ∃ a' ∈ m'.server.arrays, Kept (Recorded ν)
      (.ofLinks spec m.server.address m.server.plan m.server.maxRetries control monitor) a'
  opened : m'.world.net.opened = m.world.net.opened ++
    (newcomers m.server.names listed).flatMap (·.ports m.server.address)

theorem Underway.pruned (h : m.Underway listed now)
    (hsorted : now.server.names.Pairwise (· < ·))
    (hserver : next.server = now.server.pruneSuspects.1) (hnet : next.world.net = now.world.net) :
    m.Reconciled listed next := by
  have hmem : ∀ a, a ∈ next.server.arrays ↔
      a ∈ now.server.arrays ∧ a.name ∈ listed.map Announcement.name := fun a => by
    rw [hserver]
    refine List.mem_filter.trans (and_congr_right fun ha => ?_)
    have hsuspect := not_congr (h.isSuspect_iff a ha)
    simpa using hsuspect
  refine ⟨?_, fun name => ?_, fun a ha => ?_, fun a ha hlisted => ?_, fun spec hspec => ?_, ?_⟩
  · rw [hserver]
    exact hsorted.sublist (List.filter_sublist.map _)
  · rw [CmcServer.mem_names]
    constructor
    · rintro ⟨a, ha, rfl⟩
      exact ((hmem a).1 ha).2
    · intro hlisted
      obtain ⟨a, ha, hname⟩ := CmcServer.mem_names.1 ((h.mem_names name).2 (.inr hlisted))
      exact ⟨a, (hmem a).2 ⟨ha, hname ▸ hlisted⟩, hname⟩
  · obtain ⟨ha, hlisted⟩ := (hmem a).1 ha
    exact CorrelatorArray.liveness_of_not_isSuspect
      fun hsuspect => (h.isSuspect_iff a ha).1 hsuspect hlisted
  · obtain ⟨a', ha', hkept⟩ := h.kept a ha
    exact ⟨a', (hmem a').2 ⟨ha', hkept.name ▸ hlisted⟩, hkept, hkept.identity⟩
  · obtain ⟨control, monitor, a', ha', hkept⟩ := h.brought spec hspec
    have hlisted := (((newcomers_spec m.server.names listed).2 _).1 (List.mem_map_of_mem hspec)).1
    exact ⟨control, monitor, a', (hmem a').2 ⟨ha', hkept.name ▸ hlisted⟩, hkept⟩
  · rw [hnet, h.opened]

/-- After the reply the arrays are exactly those that were announced since the poll. -/
theorem PollRound.reconciled {acts : List (CmcAct ν)} (hreach : m.Reachable)
    (hround : m.PollRound acts m') : m.Reconciled (acts.filterMap CmcAct.announced?) m' := by
  obtain ⟨before, last, rfl, hlast, hopen⟩ := hround.ends
  obtain ⟨polled, hpoll, hrest⟩ := run?_cons_eq_some.1 hround.run
  obtain ⟨ending, hbefore, hend⟩ := run?_append_eq_some.1 hrest
  obtain ⟨reply, hreply, rfl⟩ : ∃ reply, ending.step? last = some reply ∧ reply = m' := by
    simpa [run?_cons_eq_some] using hend
  have hup : m.server.isConnected := by simp [CmcServer.isConnected, hround.idle]
  have hstart : m.Underway [] polled := by
    obtain ⟨-, rfl⟩ := step?_poll.1 hpoll
    exact underway_poll hup
  have hunderway := underway_run? hstart hbefore
    (fun act hact => hround.undisturbed act (List.mem_append_left _ hact)) hopen
    (hround.up.tail hpoll).of_append
  have hsorted : ending.server.names.Pairwise (· < ·) :=
    sorted_of_reachable (hreach.run (run?_cons_eq_some.2 ⟨polled, hpoll, hbefore⟩))
  rcases step?_cases hreply with ⟨rfl, -⟩ | ⟨spec, -, hopen, -⟩ | ⟨hnone, -, hserver, hnet⟩ |
    ⟨-, -, hopen, -⟩
  · contradiction
  · exact absurd (hopen.symm.trans hlast) Bool.false_ne_true
  · have hlisted : (before ++ [last]).filterMap CmcAct.announced? =
        before.filterMap CmcAct.announced? := by simp [hnone]
    rw [hlisted]
    exact hunderway.pruned hsorted hserver hnet
  · exact absurd (hopen.symm.trans hlast) Bool.false_ne_true

/-! ## The same list once more -/

/-- Announcements of arrays that are fine already change nothing. -/
theorem quiet_step? {act : CmcAct ν} (hstep : now.step? act = some next)
    (hquiet : act.QuietFor now.server.names) (hfine : ∀ a ∈ now.server.arrays, a.liveness = .fine)
    (hup : now.AllUp) :
    List.Forall₂ (Works (Recorded ν)) now.server.arrays next.server.arrays ∧
      next.world.net.opened = now.world.net.opened := by
  obtain ⟨hpoll, hreconnect, hopen, hknown⟩ := hquiet
  rcases step?_cases hstep with ⟨hact, -⟩ | ⟨spec, hspec, -, hserver, hnet⟩ | ⟨-, hends, -⟩ |
    ⟨-, hnone, -, hcarries⟩
  · exact absurd hact hpoll
  · rcases now.server.listArray_cases spec now.world.net with ⟨-, hlist⟩ | ⟨hnew, -⟩
    · rw [hlist] at hserver hnet
      have harrays : next.server.arrays = now.server.arrays := by
        rw [hserver]
        refine (List.map_congr_left fun a ha => ?_).trans (List.map_id _)
        split
        · exact CorrelatorArray.markFine_of_fine (hfine a ha)
        · rfl
      exact ⟨harrays ▸ List.forall₂_same.2 fun a _ => .refl a, congrArg Recorded.opened hnet⟩
    · obtain ⟨a, ha, hname⟩ := CmcServer.mem_names.1 (hknown spec hspec)
      exact absurd hname (hnew a ha)
  · exact absurd (hopen.symm.trans hends) nofun
  · obtain ⟨held, -, hall, hworks⟩ := hcarries
    obtain rfl := hall hup
    exact ⟨hworks, opened_step? hstep hreconnect hnone⟩

theorem quiet_run? {acts : List (CmcAct ν)} (hrun : now.run? acts = some next)
    (hquiet : ∀ act ∈ acts, act.QuietFor now.server.names)
    (hfine : ∀ a ∈ now.server.arrays, a.liveness = .fine) (hup : now.Throughout AllUp acts) :
    List.Forall₂ (Works (Recorded ν)) now.server.arrays next.server.arrays ∧
      next.world.net.opened = now.world.net.opened := by
  induction acts generalizing now with
  | nil =>
    obtain rfl := Option.some.inj hrun
    exact ⟨List.forall₂_same.2 fun a _ => .refl a, rfl⟩
  | cons act rest ih =>
    obtain ⟨middle, hstep, hrest⟩ := run?_cons_eq_some.1 hrun
    obtain ⟨hworks, hopened⟩ := quiet_step? hstep (hquiet act List.mem_cons_self) hfine hup.head
    have hnames : middle.server.names = now.server.names :=
      map_eq_of_forall₂ (fun _ _ hab => hab.name) hworks
    have hfine' : ∀ a ∈ middle.server.arrays, a.liveness = .fine := fun a' ha' => by
      obtain ⟨a, ha, hwork⟩ := exists_before_of_forall₂ hworks ha'
      exact hwork.liveness.trans (hfine a ha)
    obtain ⟨hworks', hopened'⟩ := ih hrest
      (fun a ha => hnames ▸ hquiet a (List.mem_cons_of_mem _ ha)) hfine' (hup.tail hstep)
    exact ⟨forall₂_trans (fun _ _ _ hab hbc => hab.trans hbc) hworks hworks',
      hopened'.trans hopened⟩

/-- A list that names the arrays that are there, all fine, leaves them as they are. -/
theorem Reconciled.unchanged (h : m.Reconciled listed m')
    (hsorted : m.server.names.Pairwise (· < ·))
    (hfine : ∀ a ∈ m.server.arrays, a.liveness = .fine)
    (hlisted : ∀ name, name ∈ listed.map Announcement.name ↔ name ∈ m.server.names) :
    List.Forall₂ (Works (Recorded ν)) m.server.arrays m'.server.arrays ∧
      m'.world.net.opened = m.world.net.opened := by
  have hnames : m'.server.names = m.server.names :=
    h.sorted.eq_of_mem_iff hsorted fun name => (h.mem_names name).trans (hlisted name)
  have hnone : newcomers m.server.names listed = [] := by
    refine List.eq_nil_iff_forall_not_mem.2 fun spec hspec => ?_
    obtain ⟨hlist, hnew⟩ :=
      ((newcomers_spec m.server.names listed).2 spec.name).1 (List.mem_map_of_mem hspec)
    exact hnew ((hlisted spec.name).1 hlist)
  refine ⟨forall₂_of_map_eq (fun _ _ hab => hab.name) hnames (hsorted.imp ?_) ?_, ?_⟩
  · rintro a b hlt rfl
    exact String.lt_irrefl a hlt
  · intro a ha
    obtain ⟨a', ha', hkept, hidentity⟩ := h.kept a ha
      ((hlisted a.name).2 (CmcServer.mem_names.2 ⟨a, ha, rfl⟩))
    have hliveness : a'.liveness = a.liveness := (h.fine a' ha').trans (hfine a ha).symm
    exact ⟨a', ha', hkept, Prod.ext hidentity hliveness⟩
  · simp [h.opened, hnone]

/-- An undisturbed poll leaves exactly the arrays that were announced since, and a second one with
the same list, later, leaves every array as it is and opens no link. -/
theorem poll_reconciles {acts : List (CmcAct ν)} (hreach : m.Reachable)
    (hround : m.PollRound acts m') :
    m.Reconciled (acts.filterMap CmcAct.announced?) m' ∧
      ∀ (between again : List (CmcAct ν)) (m₁ m₂ : CmcMoment ν), m'.run? between = some m₁ →
        (∀ act ∈ between, act.QuietFor m'.server.names) → m'.Throughout AllUp between →
        m₁.PollRound again m₂ →
        (∀ name, name ∈ (again.filterMap CmcAct.announced?).map Announcement.name ↔
          name ∈ (acts.filterMap CmcAct.announced?).map Announcement.name) →
        List.Forall₂ (Works (Recorded ν)) m'.server.arrays m₂.server.arrays ∧
          m₂.world.net.opened = m'.world.net.opened := by
  have honce := hround.reconciled hreach
  refine ⟨honce, fun between again m₁ m₂ hbetween hquiet hup hagain hsame => ?_⟩
  have hreach' : m'.Reachable := hreach.run hround.run
  obtain ⟨hworks, hopened⟩ := quiet_run? hbetween hquiet honce.fine hup
  have hnames : m₁.server.names = m'.server.names :=
    map_eq_of_forall₂ (fun _ _ hab => hab.name) hworks
  have hfine : ∀ a ∈ m₁.server.arrays, a.liveness = .fine := fun a' ha' => by
    obtain ⟨a, ha, hwork⟩ := exists_before_of_forall₂ hworks ha'
    exact hwork.liveness.trans (honce.fine a ha)
  have hlater := hagain.reconciled (hreach'.run hbetween)
  obtain ⟨hworks', hopened'⟩ := hlater.unchanged (hnames ▸ honce.sorted) hfine fun name => by
    rw [hnames, hsame, honce.mem_names]
  exact ⟨forall₂_trans (fun _ _ _ hab hbc => hab.trans hbc) hworks hworks',
    hopened'.trans hopened⟩

/-! ## Two lists with two arrays -/

def betaListed : Message := ⟨.inform, [CmcServer.arrayListName, "beta", "7150,7151"]⟩

/-- The CMC has listed one array. -/
def idle : CmcMoment ScriptedNetwork :=
  (asking.run? (CmcAct.hears [alphaListed, listEnded]
    [.inform alphaListed, .reply CmcServer.arrayListRequest listEnded] ++ [.finish])).get
      (by decide +kernel)

/-- The CMC lists two arrays, out of order. -/
def twoListed : List (CmcAct ScriptedNetwork) :=
  .flush :: CmcAct.hears [betaListed, alphaListed, listEnded]
    [.inform betaListed, .inform alphaListed, .reply CmcServer.arrayListRequest listEnded]

def polledOnce : CmcMoment ScriptedNetwork :=
  (idle.run? (.poll :: twoListed)).get (by decide +kernel)

def idleAgain : CmcMoment ScriptedNetwork := (polledOnce.run? [.finish]).get (by decide +kernel)

def polledTwice : CmcMoment ScriptedNetwork :=
  (idleAgain.run? (.poll :: twoListed)).get (by decide +kernel)

theorem undisturbed_twoListed : ∀ act ∈ twoListed, act ≠ .poll ∧ act ≠ .reconnect := by
  simp [twoListed, CmcAct.hears, CmcAct.happens]

theorem ends_twoListed : ∃ before last, twoListed = before ++ [last] ∧ last.endsList = true ∧
    ∀ act ∈ before, act.endsList = false :=
  ⟨.flush :: CmcAct.hears [betaListed, alphaListed, listEnded]
      [.inform betaListed, .inform alphaListed],
    .handle (.reply CmcServer.arrayListRequest listEnded), rfl, by decide +kernel,
    by simp [CmcAct.hears, CmcAct.happens, CmcAct.endsList, ChannelEvent.endsList]⟩

theorem pollRound_idle : idle.PollRound twoListed polledOnce :=
  ⟨by decide +kernel, (Option.some_get _).symm, undisturbed_twoListed, ends_twoListed,
    by decide +kernel⟩

theorem pollRound_idleAgain : idleAgain.PollRound twoListed polledTwice :=
  ⟨by decide +kernel, (Option.some_get _).symm, undisturbed_twoListed, ends_twoListed,
    by decide +kernel⟩

theorem reachable_idle : idle.Reachable := reachable_asking.run (Option.some_get _).symm

theorem poll_reconciles_two_arrays : idle.server.names = ["alpha"] ∧
    polledOnce.server.names = ["alpha", "beta"] ∧
    idle.Reconciled (twoListed.filterMap CmcAct.announced?) polledOnce ∧
    List.Forall₂ (Works (Recorded ScriptedNetwork)) polledOnce.server.arrays
      polledTwice.server.arrays := by
  obtain ⟨honce, htwice⟩ := poll_reconciles reachable_idle pollRound_idle
  have hquiet : ∀ act ∈ [(.finish : CmcAct ScriptedNetwork)],
      act.QuietFor polledOnce.server.names := by
    simp [CmcAct.QuietFor, CmcAct.endsList, CmcAct.announced?]
  exact ⟨by decide +kernel, by decide +kernel, honce,
    (htwice [.finish] twoListed idleAgain polledTwice (Option.some_get _).symm hquiet
      (by decide +kernel) pollRound_idleAgain fun _ => Iff.rfl).1⟩

end CmcMoment

end ArrayWatch
