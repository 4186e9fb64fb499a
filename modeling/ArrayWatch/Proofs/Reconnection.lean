import ArrayWatch.Proofs.ArrayList
import ArrayWatch.Proofs.Reconciliation

/-!
# Lists after a new connection

A lost connection is opened again, and the first list that comes over it ends. Opening the
connection marks no array. So the end of the list removes those arrays that it did not name and that
were suspect already when the connection was opened again, and an array that was fine then stays,
listed or not.

* `CmcMoment.ReconnectRound`: a new connection, up to the end of the first list.
* `CmcMoment.reconnect_reconciles_iff`: which arrays are there then.
* `CmcMoment.reconnect_not_always_reconciled`: one that the list did not name.
-/

namespace ArrayWatch.CmcMoment

variable {ν : Type} [Network ν] {m m' : CmcMoment ν} {name : String} {mark : Liveness}
  {acts : List (CmcAct ν)}

/-! ## Names while a list is in progress -/

/-- Before the list ends, names come by announcements only, and none goes. -/
theorem mem_names_step? {act : CmcAct ν} (h : m.step? act = some m')
    (hopen : act.endsList = false) (hup : m.AllUp) :
    name ∈ m'.server.names ↔
      name ∈ m.server.names ∨ ∃ spec, act.announced? = some spec ∧ spec.name = name := by
  rcases step?_cases h with ⟨rfl, -, rfl⟩ | ⟨spec, hspec, -, hserver, -⟩ | ⟨-, hends, -⟩ |
    ⟨-, hnone, -, hcarries⟩
  · rw [CmcServer.names_pollArrayList]
    simp [CmcAct.announced?]
  · rw [hserver, hspec]
    rcases m.server.listArray_cases spec m.world.net with ⟨hthere, hlist⟩ | ⟨-, hlist⟩
    · rw [hlist, CmcServer.names_confirmArray]
      constructor
      · exact .inl
      · rintro (hold | ⟨_, hsame, rfl⟩)
        · exact hold
        · obtain rfl := Option.some.inj hsame
          exact CmcServer.mem_names.2 hthere
    · rw [hlist]
      simp only [CmcServer.mem_names, CmcServer.mem_insertArray, or_and_right, exists_or,
        exists_eq_left, Option.some.injEq, exists_eq_left']
      exact or_comm
  · exact absurd (hopen.symm.trans hends) Bool.false_ne_true
  · obtain ⟨held, -, hall, hworks⟩ := hcarries
    obtain rfl := hall hup
    have hnames : m'.server.names = m.server.names :=
      map_eq_of_forall₂ (fun _ _ hab => hab.name) hworks
    simp [hnames, hnone]

theorem mem_names_run? (hrun : m.run? acts = some m')
    (hopen : ∀ act ∈ acts, act.endsList = false) (hup : m.Throughout AllUp acts) :
    name ∈ m'.server.names ↔ name ∈ m.server.names ∨
      name ∈ (acts.filterMap CmcAct.announced?).map Announcement.name := by
  induction acts generalizing m with
  | nil =>
    obtain rfl := Option.some.inj hrun
    simp
  | cons act rest ih =>
    obtain ⟨next, hnext, hrest⟩ := run?_cons_eq_some.1 hrun
    have hopen' : ∀ act' ∈ rest, act'.endsList = false :=
      fun act' hact' => hopen act' (List.mem_cons_of_mem _ hact')
    rw [ih hrest hopen' (hup.tail hnext),
      mem_names_step? hnext (hopen act List.mem_cons_self) hup.head]
    cases hact : act.announced? with
    | none => simp [hact]
    | some spec =>
      simp only [List.filterMap_cons, hact, List.map_cons, List.mem_cons, Option.some.injEq,
        exists_eq_left', or_assoc]
      exact or_congr_right (or_congr_left eq_comm)

/-! ## Marks while a list is in progress -/

/-- An array that was announced is fine until the next poll. -/
theorem fine_of_listed (hrun : m.run? acts = some m') (hpoll : ∀ act ∈ acts, act ≠ .poll)
    (hlisted : name ∈ (acts.filterMap CmcAct.announced?).map Announcement.name) :
    m'.Marked name .fine := by
  obtain ⟨spec, hspec, rfl⟩ := List.mem_map.1 hlisted
  obtain ⟨act, hact, hannounced⟩ := List.mem_filterMap.1 hspec
  obtain ⟨before, after, rfl⟩ := List.append_of_mem hact
  obtain ⟨middle, -, hrest⟩ := run?_append_eq_some.1 hrun
  obtain ⟨next, hnext, hafter⟩ := run?_cons_eq_some.1 hrest
  have hafter' : ∀ act' ∈ after, act' ≠ .poll := fun act' hact' =>
    hpoll act' (List.mem_append_right _ (List.mem_cons_of_mem _ hact'))
  exact run?_keeps_of (fun _ _ _ hstep hne => fine_step? hstep hne) hafter hafter'
    (fine_of_announced hnext hannounced)

/-- An array that is not announced keeps its mark until the next poll. -/
theorem marked_of_unlisted (hrun : m.run? acts = some m') (hpoll : ∀ act ∈ acts, act ≠ .poll)
    (hlisted : name ∉ (acts.filterMap CmcAct.announced?).map Announcement.name)
    (hm : m.Marked name mark) : m'.Marked name mark := by
  cases mark with
  | fine => exact run?_keeps_of (fun _ _ _ hstep hne => fine_step? hstep hne) hrun hpoll hm
  | suspect =>
    have hother : ∀ act ∈ acts, ∀ spec, act.announced? = some spec → spec.name ≠ name := by
      rintro act hact spec hspec rfl
      exact hlisted (List.mem_map_of_mem (List.mem_filterMap.2 ⟨act, hact, hspec⟩))
    exact run?_keeps_of (fun _ _ _ hstep hnone => suspect_step? hstep hnone) hrun hother hm

theorem marked_of_mem (hreach : m.Reachable) {a : CorrelatorArray} (ha : a ∈ m.server.arrays) :
    m.Marked a.name a.liveness := by
  intro b hb hname
  rw [eq_of_name_eq hreach ha hb hname]

/-- The end of a list leaves the arrays that are fine. -/
theorem mem_names_pruneSuspects (s : CmcServer) :
    name ∈ s.pruneSuspects.1.names ↔ ∃ a ∈ s.arrays, a.name = name ∧ a.liveness = .fine := by
  rw [CmcServer.mem_names]
  constructor
  · rintro ⟨a, ha, hname⟩
    obtain ⟨hold, hkeep⟩ := List.mem_filter.1 ha
    have hfine : ¬ a.isSuspect := by simpa using hkeep
    exact ⟨a, hold, hname, CorrelatorArray.liveness_of_not_isSuspect hfine⟩
  · rintro ⟨a, hold, hname, hfine⟩
    have hkeep : (!a.isSuspect) = true := by simp [CorrelatorArray.isSuspect, hfine]
    exact ⟨a, List.mem_filter.2 ⟨hold, hkeep⟩, hname⟩

/-! ## The first list of a connection -/

/-- A lost connection is opened again, and what follows, up to the reply that ends the first list.
No poll and no other connection falls in, and every array comes up. -/
structure ReconnectRound (m : CmcMoment ν) (acts : List (CmcAct ν)) (m' : CmcMoment ν) : Prop where
  lost : m.server.channel.isDisconnected = true
  run : m.run? (.reconnect :: acts) = some m'
  undisturbed : ∀ act ∈ acts, act ≠ .poll ∧ act ≠ .reconnect
  ends : ∃ before last, acts = before ++ [last] ∧ last.endsList = true ∧
    ∀ act ∈ before, act.endsList = false
  up : m.Throughout AllUp (.reconnect :: acts)

theorem ReconnectRound.mem_names (hreach : m.Reachable) (hround : m.ReconnectRound acts m')
    (name : String) : name ∈ m'.server.names ↔
      name ∈ (acts.filterMap CmcAct.announced?).map Announcement.name ∨
        ∃ a ∈ m.server.arrays, a.name = name ∧ a.liveness = .fine := by
  obtain ⟨before, last, rfl, hlast, hopen⟩ := hround.ends
  obtain ⟨opened, hreconnect, hrest⟩ := run?_cons_eq_some.1 hround.run
  obtain ⟨ending, hbefore, hend⟩ := run?_append_eq_some.1 hrest
  obtain ⟨reply, hreply, rfl⟩ : ∃ reply, ending.step? last = some reply ∧ reply = m' := by
    simpa [run?_cons_eq_some] using hend
  obtain ⟨hnone, hserver⟩ :
      last.announced? = none ∧ reply.server = ending.server.pruneSuspects.1 := by
    rcases step?_cases hreply with ⟨rfl, -⟩ | ⟨-, -, hopen, -⟩ | ⟨hnone, -, hserver, -⟩ |
      ⟨-, -, hopen, -⟩
    · contradiction
    · exact absurd (hopen.symm.trans hlast) Bool.false_ne_true
    · exact ⟨hnone, hserver⟩
    · exact absurd (hopen.symm.trans hlast) Bool.false_ne_true
  have hlisted : (before ++ [last]).filterMap CmcAct.announced? =
      before.filterMap CmcAct.announced? := by simp [hnone]
  have hpoll : ∀ act ∈ before, act ≠ .poll :=
    fun act hact => (hround.undisturbed act (List.mem_append_left _ hact)).1
  have hnames : name ∈ ending.server.names ↔ name ∈ opened.server.names ∨
      name ∈ (before.filterMap CmcAct.announced?).map Announcement.name :=
    mem_names_run? hbefore hopen (hround.up.tail hreconnect).of_append
  have harrays := arrays_reconnect hreconnect
  have hreach' : opened.Reachable := Reachable.step hreach hreconnect
  rw [hserver, mem_names_pruneSuspects, hlisted, ← harrays]
  by_cases hname : name ∈ (before.filterMap CmcAct.announced?).map Announcement.name
  · -- a name that was listed is there, and fine
    obtain ⟨a, ha, hsame⟩ := CmcServer.mem_names.1 (hnames.2 (.inr hname))
    have hfine : a.liveness = .fine := fine_of_listed hbefore hpoll hname a ha hsame
    exact iff_of_true ⟨a, ha, hsame, hfine⟩ (.inl hname)
  · -- any other one is there if it was before, and has the mark that it had
    constructor
    · rintro ⟨a, ha, hsame, hfine⟩
      have hthere : name ∈ ending.server.names := CmcServer.mem_names.2 ⟨a, ha, hsame⟩
      obtain ⟨old, hold, hsame'⟩ :=
        CmcServer.mem_names.1 ((hnames.1 hthere).resolve_right hname)
      have hmark : ending.Marked name old.liveness :=
        marked_of_unlisted hbefore hpoll hname (hsame' ▸ marked_of_mem hreach' hold)
      exact .inr ⟨old, hold, hsame', (hmark a ha hsame).symm.trans hfine⟩
    · rintro (hlist | ⟨old, hold, hsame, hfine⟩)
      · exact absurd hlist hname
      · have hthere : name ∈ opened.server.names := CmcServer.mem_names.2 ⟨old, hold, hsame⟩
        obtain ⟨a, ha, hsame'⟩ := CmcServer.mem_names.1 (hnames.2 (.inl hthere))
        have hmark : ending.Marked name .fine :=
          marked_of_unlisted hbefore hpoll hname (hsame ▸ hfine ▸ marked_of_mem hreach' hold)
        exact ⟨a, ha, hsame', hmark a ha hsame'⟩

/-- After the list the arrays are those that it named, and those that were fine when the connection
was opened again. Hence every array that is left was named if and only if the list named every array
that was fine then. -/
theorem reconnect_reconciles_iff (hreach : m.Reachable) (hround : m.ReconnectRound acts m') :
    (∀ name, name ∈ m'.server.names ↔
      name ∈ (acts.filterMap CmcAct.announced?).map Announcement.name ∨
        ∃ a ∈ m.server.arrays, a.name = name ∧ a.liveness = .fine) ∧
    ((∀ a ∈ m'.server.arrays,
        a.name ∈ (acts.filterMap CmcAct.announced?).map Announcement.name) ↔
      ∀ a ∈ m.server.arrays, a.liveness = .fine →
        a.name ∈ (acts.filterMap CmcAct.announced?).map Announcement.name) := by
  have hnames := hround.mem_names hreach
  refine ⟨hnames, ?_, ?_⟩
  · intro hall a ha hfine
    obtain ⟨a', ha', hsame⟩ := CmcServer.mem_names.1 ((hnames a.name).2 (.inr ⟨a, ha, rfl, hfine⟩))
    exact hsame ▸ hall a' ha'
  · intro hfine a ha
    rcases (hnames a.name).1 (CmcServer.mem_names.2 ⟨a, ha, rfl⟩) with hlisted | ⟨old, hold, hsame,
      hmark⟩
    · exact hlisted
    · exact hsame ▸ hfine old hold hmark

/-! ## Arrays that disappear while the connection is lost -/

/-- The CMC closes the connection. -/
def closes : List (CmcAct ScriptedNetwork) :=
  .remote (fun net => net.modify 0 fun link => link.close "gone") ::
    CmcAct.receiving ⟨0⟩ []

/-- The CMC accepts a request on its second connection. -/
def acceptsAgain (request : Message) : List (CmcAct ScriptedNetwork) :=
  [.happens 3 (.line request.accept), .gather ⟨0⟩, .collect,
    .handle (.reply request request.accept)]

/-- What comes before the end of the first list on the second connection, which names no array. -/
def handshakeAgain : List (CmcAct ScriptedNetwork) :=
  .happens 3 .connected :: (CmcAct.receiving ⟨0⟩ [] ++ [.flush]) ++
    (CmcServer.seed.take 2).flatMap (fun request => acceptsAgain request ++ [.finish, .flush]) ++
    [.happens 3 (.line listEnded), .gather ⟨0⟩, .collect]

/-- The array was listed just before the connection was lost. -/
def lostIdle : CmcMoment ScriptedNetwork := (idle.run? closes).get (by decide +kernel)

/-- A poll fell between the last list and the loss. -/
def lostPolled : CmcMoment ScriptedNetwork :=
  (idle.run? (.poll :: closes)).get (by decide +kernel)

/-- The first list of the second connection is empty. -/
def emptyList : List (CmcAct ScriptedNetwork) :=
  handshakeAgain ++ [.handle (.reply CmcServer.arrayListRequest listEnded)]

def relistedIdle : CmcMoment ScriptedNetwork :=
  (lostIdle.run? (.reconnect :: emptyList)).get (by decide +kernel)

def relistedPolled : CmcMoment ScriptedNetwork :=
  (lostPolled.run? (.reconnect :: emptyList)).get (by decide +kernel)

theorem undisturbed_emptyList : ∀ act ∈ emptyList, act ≠ .poll ∧ act ≠ .reconnect := by
  simp [emptyList, handshakeAgain, acceptsAgain, CmcAct.receiving, CmcAct.happens, CmcServer.seed]

theorem ends_emptyList : ∃ before last, emptyList = before ++ [last] ∧ last.endsList = true ∧
    ∀ act ∈ before, act.endsList = false :=
  ⟨handshakeAgain, .handle (.reply CmcServer.arrayListRequest listEnded), rfl, by decide +kernel,
    by decide +kernel⟩

theorem reconnectRound_lostIdle : lostIdle.ReconnectRound emptyList relistedIdle :=
  ⟨by decide +kernel, (Option.some_get _).symm, undisturbed_emptyList, ends_emptyList,
    by decide +kernel⟩

theorem reconnectRound_lostPolled : lostPolled.ReconnectRound emptyList relistedPolled :=
  ⟨by decide +kernel, (Option.some_get _).symm, undisturbed_emptyList, ends_emptyList,
    by decide +kernel⟩

theorem reachable_lostIdle : lostIdle.Reachable := reachable_idle.run (Option.some_get _).symm

theorem reachable_lostPolled : lostPolled.Reachable :=
  reachable_idle.run (Option.some_get _).symm

/-- The same empty list removes an array that was polled before the loss, and leaves one that was
not. -/
theorem reconnect_reconciles_iff_emptyList :
    lostPolled.server.names = ["alpha"] ∧ "alpha" ∉ relistedPolled.server.names ∧
      lostIdle.server.names = ["alpha"] ∧ "alpha" ∈ relistedIdle.server.names := by
  obtain ⟨hpolled, -⟩ := reconnect_reconciles_iff reachable_lostPolled reconnectRound_lostPolled
  obtain ⟨hidle, -⟩ := reconnect_reconciles_iff reachable_lostIdle reconnectRound_lostIdle
  have hunlisted : "alpha" ∉ (emptyList.filterMap CmcAct.announced?).map Announcement.name := by
    decide +kernel
  have hsuspect : ∀ a ∈ lostPolled.server.arrays, a.liveness ≠ .fine := by decide +kernel
  have hfine : ∃ a ∈ lostIdle.server.arrays, a.name = "alpha" ∧ a.liveness = .fine := by
    decide +kernel
  refine ⟨by decide +kernel, ?_, by decide +kernel, (hidle "alpha").2 (.inr hfine)⟩
  intro hthere
  rcases (hpolled "alpha").1 hthere with hlisted | ⟨a, ha, -, hmark⟩
  · exact hunlisted hlisted
  · exact hsuspect a ha hmark

/-- An array that is left after the first list of a new connection was not always named by it. -/
theorem reconnect_not_always_reconciled :
    ¬ ∀ (m m' : CmcMoment ScriptedNetwork) (acts : List (CmcAct ScriptedNetwork)), m.Reachable →
      m.ReconnectRound acts m' → ∀ a ∈ m'.server.arrays,
        a.name ∈ (acts.filterMap CmcAct.announced?).map Announcement.name := by
  intro hall
  have hnamed := hall lostIdle relistedIdle emptyList reachable_lostIdle reconnectRound_lostIdle
  revert hnamed
  decide +kernel

end ArrayWatch.CmcMoment
