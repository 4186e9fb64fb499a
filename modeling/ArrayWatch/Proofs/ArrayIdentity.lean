import ArrayWatch.CorrelatorArray.Run
import ArrayWatch.Proofs.ChannelFrame
import Mathlib.Logic.Relation

/-!
# What makes an array the same

An array keeps its announcement, its plan and its two links for as long as it lives. What it
receives and sends changes neither these nor whether it is suspect; marks are made by the CMC alone.

* `CorrelatorArray.Kept`: an array as it has become by its own input and output and by marks.
* `CorrelatorArray.Kept.identity`: such an array is still the same.
* `CorrelatorArray.standing_receive`, `CorrelatorArray.standing_flush`: no mark is changed by input
  and output.
-/

namespace ArrayWatch

/-- What an array has for as long as it lives. -/
structure ArrayIdentity where
  spec : Announcement
  cmcAddress : String
  plan : Plan
  control : Link
  monitor : Link
  deriving DecidableEq, Repr

namespace CorrelatorArray

def identity (a : CorrelatorArray) : ArrayIdentity :=
  ⟨a.spec, a.cmcAddress, a.plan, a.control.link, a.monitor.link⟩

/-- What an array is, and whether it is suspect. -/
def standing (a : CorrelatorArray) : ArrayIdentity × Liveness := (a.identity, a.liveness)

theorem name_eq_of_identity {a b : CorrelatorArray} (h : b.identity = a.identity) :
    b.name = a.name :=
  congrArg (·.spec.name) h

theorem identity_eq_of_standing {a b : CorrelatorArray} (h : b.standing = a.standing) :
    b.identity = a.identity :=
  congrArg Prod.fst h

theorem isSuspect_eq_of_standing {a b : CorrelatorArray} (h : b.standing = a.standing) :
    b.isSuspect = a.isSuspect :=
  congrArg (·.2 == .suspect) h

theorem liveness_of_not_isSuspect {a : CorrelatorArray} (h : ¬ a.isSuspect) :
    a.liveness = .fine := by
  unfold isSuspect at h
  cases hmark : a.liveness with
  | fine => rfl
  | suspect => exact absurd (by rw [hmark]; rfl) h

theorem markFine_of_fine {a : CorrelatorArray} (h : a.liveness = .fine) : a.markFine = a := by
  unfold markFine
  rw [← h]

@[simp] theorem name_markSuspect (a : CorrelatorArray) : a.markSuspect.name = a.name := rfl

@[simp] theorem name_markFine (a : CorrelatorArray) : a.markFine.name = a.name := rfl

@[simp] theorem isSuspect_markSuspect (a : CorrelatorArray) : a.markSuspect.isSuspect = true := rfl

@[simp] theorem isSuspect_markFine (a : CorrelatorArray) : a.markFine.isSuspect = false := rfl

/-! ## Activation -/

theorem standing_sampleOnMonitor (a : CorrelatorArray) (sensor : String) :
    (a.sampleOnMonitor sensor).standing = a.standing := by
  simp [standing, identity, sampleOnMonitor]

theorem standing_sampleOnControl (a : CorrelatorArray) (sensor : String) :
    (a.sampleOnControl sensor).standing = a.standing := by
  simp [standing, identity, sampleOnControl]

theorem standing_ensureSensor (a : CorrelatorArray) (path : SensorPath) :
    (a.ensureSensor path).1.standing = a.standing := rfl

theorem standing_subscribe (a : CorrelatorArray) (paths : List SensorPath) :
    (a.subscribe paths).standing = a.standing := by
  induction paths generalizing a with
  | nil => rfl
  | cons path rest ih =>
    have hensure := standing_ensureSensor a path
    unfold subscribe
    split
    · rename_i a' h
      rw [ih, standing_sampleOnMonitor, ← hensure, h]
    · rename_i a' reason h
      rw [← hensure, h]

theorem standing_subscribeAll (a : CorrelatorArray) (patterns : List Pattern) :
    (a.subscribeAll patterns).standing = a.standing := by
  induction patterns generalizing a with
  | nil => rfl
  | cons p rest ih => exact (ih _).trans (standing_subscribe a _)

theorem standing_activate (a : CorrelatorArray) : a.activate.standing = a.standing := by
  unfold activate
  dsimp only
  rw [standing_sampleOnControl, standing_sampleOnMonitor, standing_sampleOnMonitor,
    standing_ensureSensor, standing_subscribeAll]
  rfl

/-! ## Events -/

theorem standing_setInstrumentState (a : CorrelatorArray) (state configFile : String) :
    (a.setInstrumentState state configFile).standing = a.standing := by
  unfold setInstrumentState
  split
  · rfl
  · dsimp only
    split
    · exact standing_activate _
    · rfl

theorem standing_controlReport (a : CorrelatorArray) (r : SensorReport) (metrics : Metrics) :
    (a.controlReport r metrics).1.standing = a.standing := by
  unfold controlReport
  split
  · exact standing_setInstrumentState a _ _
  · split <;> rfl

theorem standing_setReading (a : CorrelatorArray) (r : SensorReport) (now : Timestamp) :
    (a.setReading r now).1.standing = a.standing := by
  unfold setReading
  split <;> rfl

theorem standing_monitorReport (a : CorrelatorArray) (name : String) (r : SensorReport)
    (now : Timestamp) (metrics : Metrics) :
    (a.monitorReport name r now metrics).1.standing = a.standing := by
  unfold monitorReport
  split
  · rfl
  · split
    · exact standing_setReading a r now
    · rfl

theorem standing_controlEvent (a : CorrelatorArray) (metrics : Metrics) (event : ChannelEvent) :
    (a.controlEvent metrics event).1.standing = a.standing := by
  unfold controlEvent
  split
  · rfl
  · split
    · rfl
    · dsimp only
      split
      · rfl
      · exact standing_controlReport a _ _

theorem standing_monitorEvent (a : CorrelatorArray) (now : Timestamp) (metrics : Metrics)
    (event : ChannelEvent) : (a.monitorEvent now metrics event).1.standing = a.standing := by
  unfold monitorEvent
  split
  · rfl
  · split
    · rfl
    · dsimp only
      split
      · rfl
      · exact standing_monitorReport a _ _ now _

theorem standing_controlEvents (a : CorrelatorArray) (metrics : Metrics)
    (events : List ChannelEvent) : (a.controlEvents metrics events).1.standing = a.standing := by
  induction events generalizing a metrics with
  | nil => rfl
  | cons event rest ih => exact (ih _ _).trans (standing_controlEvent a metrics event)

theorem standing_monitorEvents (a : CorrelatorArray) (now : Timestamp) (metrics : Metrics)
    (events : List ChannelEvent) :
    (a.monitorEvents now metrics events).1.standing = a.standing := by
  induction events generalizing a metrics with
  | nil => rfl
  | cons event rest ih => exact (ih _ _).trans (standing_monitorEvent a now metrics event)

/-! ## Steps -/

section Steps

variable {ν : Type} [Network ν]

theorem standing_receiveControl (a : CorrelatorArray) (w : World ν) :
    (a.receiveControl w).1.standing = a.standing := by
  unfold receiveControl
  dsimp only
  rw [standing_controlEvents]
  simp [standing, identity]

theorem standing_receiveMonitor (a : CorrelatorArray) (now : Timestamp) (w : World ν) :
    (a.receiveMonitor now w).1.standing = a.standing := by
  unfold receiveMonitor
  dsimp only
  rw [standing_monitorEvents]
  simp [standing, identity]

theorem standing_receive (a : CorrelatorArray) (now : Timestamp) (w : World ν) :
    (a.receive now w).1.standing = a.standing :=
  (standing_receiveMonitor _ now _).trans (standing_receiveControl a w)

theorem standing_flush (a : CorrelatorArray) (w : World ν) :
    (a.flush w).1.standing = a.standing := by
  simp [flush, standing, identity]

theorem opened_receive (a : CorrelatorArray) (now : Timestamp) (w : World (Recorded ν)) :
    (a.receive now w).2.net.opened = w.net.opened := by
  simp [receive, receiveControl, receiveMonitor]

theorem opened_flush (a : CorrelatorArray) (w : World (Recorded ν)) :
    (a.flush w).2.net.opened = w.net.opened := by
  simp [flush]

/-! ## Arrays that are kept -/

variable (ν) in
/-- What becomes of an array in one step, whatever comes for it. -/
inductive OwnStep (a : CorrelatorArray) : CorrelatorArray → Prop
  | receive (now : Timestamp) (w : World ν) : OwnStep a (a.receive now w).1
  | flush (w : World ν) : OwnStep a (a.flush w).1
  | markSuspect : OwnStep a a.markSuspect
  | markFine : OwnStep a a.markFine

variable (ν) in
/-- The second array is the first one, after some steps of its own. -/
def Kept : CorrelatorArray → CorrelatorArray → Prop := Relation.ReflTransGen (OwnStep ν)

theorem OwnStep.identity {a b : CorrelatorArray} (h : OwnStep ν a b) :
    b.identity = a.identity := by
  cases h with
  | receive now w => exact identity_eq_of_standing (standing_receive a now w)
  | flush w => exact identity_eq_of_standing (standing_flush a w)
  | markSuspect => rfl
  | markFine => rfl

/-- An array that is kept is announced as before and works on the same links. -/
theorem Kept.identity {a b : CorrelatorArray} (h : Kept ν a b) : b.identity = a.identity := by
  induction h with
  | refl => rfl
  | tail _ hstep ih => exact hstep.identity.trans ih

theorem Kept.name {a b : CorrelatorArray} (h : Kept ν a b) : b.name = a.name :=
  name_eq_of_identity h.identity

theorem Kept.trans {a b c : CorrelatorArray} (hab : Kept ν a b) (hbc : Kept ν b c) : Kept ν a c :=
  Relation.ReflTransGen.trans hab hbc

/-- What every step of an array keeps stays with the array. -/
theorem Kept.keeps {P : CorrelatorArray → Prop} (hown : ∀ a b, OwnStep ν a b → P a → P b)
    {a b : CorrelatorArray} (h : Kept ν a b) (ha : P a) : P b := by
  induction h with
  | refl => exact ha
  | tail _ hstep ih => exact hown _ _ hstep ih

theorem kept_markSuspect (a : CorrelatorArray) : Kept ν a a.markSuspect := .single .markSuspect

theorem kept_markFine (a : CorrelatorArray) : Kept ν a a.markFine := .single .markFine

variable (ν) in
/-- The second array is the first one, after steps in which its mark stayed. -/
structure Works (a b : CorrelatorArray) : Prop where
  kept : Kept ν a b
  standing : b.standing = a.standing

theorem Works.refl (a : CorrelatorArray) : Works ν a a := ⟨.refl, rfl⟩

theorem Works.trans {a b c : CorrelatorArray} (hab : Works ν a b) (hbc : Works ν b c) :
    Works ν a c :=
  ⟨hab.kept.trans hbc.kept, hbc.standing.trans hab.standing⟩

theorem works_receive (a : CorrelatorArray) (now : Timestamp) (w : World ν) :
    Works ν a (a.receive now w).1 :=
  ⟨.single (.receive now w), standing_receive a now w⟩

theorem works_flush (a : CorrelatorArray) (w : World ν) : Works ν a (a.flush w).1 :=
  ⟨.single (.flush w), standing_flush a w⟩

theorem Works.name {a b : CorrelatorArray} (h : Works ν a b) : b.name = a.name :=
  h.kept.name

theorem Works.liveness {a b : CorrelatorArray} (h : Works ν a b) : b.liveness = a.liveness :=
  congrArg Prod.snd h.standing

theorem Works.isSuspect {a b : CorrelatorArray} (h : Works ν a b) : b.isSuspect = a.isSuspect :=
  isSuspect_eq_of_standing h.standing

end Steps

end CorrelatorArray

end ArrayWatch
