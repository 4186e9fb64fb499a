import ArrayWatch.Channel.Basic
import ArrayWatch.Metrics.Basic
import Mathlib.Algebra.BigOperators.Group.List.Basic
import Mathlib.Data.List.Nodup
import Mathlib.Tactic.Ring

/-!
# Series of metrics

What a series holds after it was changed several times. Combinations of label values are told apart
by their digests alone, so it is proved of the labels in use that no two of them share one.

* `Series.total_add`: what is added to one combination is added to the sum of all.
* `Series.value_foldl_set`: combinations that are set one after the other keep what they were set
  to.
* `ChannelRole.digest_inj`, `ChannelState.digest_inj`: roles, and states of roles, have digests of
  their own.
-/

namespace ArrayWatch

namespace Series

/-! ## Sums -/

/-- The sum of the numbers of all combinations. -/
def total (s : Series) : Int := (s.entries.map Prod.snd).sum

theorem total_add (s : Series) (labels : List String) (n : Nat) :
    (s.add labels n).total = s.total + n := by
  have h (entries : List (List String × Int)) :
      ((Keyed.upsert entryDigest (LabelDigest.digest labels) (labels, 0)
        (fun entry => (entry.1, entry.2 + n)) entries).map Prod.snd).sum =
        (entries.map Prod.snd).sum + n := by
    induction entries with
    | nil => simp [Keyed.upsert]
    | cons entry rest ih =>
      unfold Keyed.upsert
      split
      · simp only [List.map_cons, List.sum_cons]
        ring
      · simp only [List.map_cons, List.sum_cons, ih]
        ring
  exact h s.entries

/-! ## Several combinations -/

section SetEach

variable {ι : Type} {labels : ι → List String} {n : ι → Int}

theorem value_foldl_set_of_ne {other : List String} {items : List ι}
    (h : ∀ i ∈ items, LabelDigest.digest other ≠ LabelDigest.digest (labels i)) (s : Series) :
    (items.foldl (fun s i => s.set (labels i) (n i)) s).value other = s.value other := by
  induction items generalizing s with
  | nil => rfl
  | cons i rest ih =>
    obtain ⟨hi, hrest⟩ := List.forall_mem_cons.1 h
    exact (ih hrest _).trans (s.value_modify_of_ne _ hi)

/-- Combinations with digests of their own are set one after the other. -/
theorem value_foldl_set
    (hinj : ∀ i j, LabelDigest.digest (labels i) = LabelDigest.digest (labels j) → i = j)
    {items : List ι} {i : ι} (hi : i ∈ items) (s : Series) :
    (items.foldl (fun s i => s.set (labels i) (n i)) s).value (labels i) = n i := by
  induction items generalizing s with
  | nil => exact absurd hi List.not_mem_nil
  | cons j rest ih =>
    by_cases hrest : i ∈ rest
    · exact ih hrest _
    · obtain rfl := (List.mem_cons.1 hi).resolve_right hrest
      have hne : ∀ k ∈ rest, LabelDigest.digest (labels i) ≠ LabelDigest.digest (labels k) :=
        fun k hk h => hrest (hinj i k h ▸ hk)
      exact (value_foldl_set_of_ne hne _).trans (s.value_set_self _ _)

end SetEach

end Series

/-! ## The labels in use -/

/-- The roles are told apart by their digests. -/
theorem ChannelRole.digest_inj (role other : ChannelRole)
    (h : LabelDigest.digest [role.word] = LabelDigest.digest [other.word]) : role = other := by
  revert h
  cases role <;> cases other <;> decide +kernel

namespace ChannelState

/-- Every state of every role. -/
def ofRoles : List (ChannelRole × ChannelState) :=
  ChannelRole.all.flatMap fun role => all.map (role, ·)

theorem mem_ofRoles (c : ChannelRole × ChannelState) : c ∈ ofRoles := by
  obtain ⟨role, state⟩ := c
  cases role <;> cases state <;> decide

/-- The labels of a state of a role. -/
def labels (c : ChannelRole × ChannelState) : List String := [c.1.word, c.2.word]

/-- The states of the roles are told apart by their digests. -/
theorem digest_inj (c other : ChannelRole × ChannelState)
    (h : LabelDigest.digest (labels c) = LabelDigest.digest (labels other)) : c = other := by
  have hnodup : (ofRoles.map fun c => LabelDigest.digest (labels c)).Nodup := by decide +kernel
  exact List.inj_on_of_nodup_map hnodup (mem_ofRoles c) (mem_ofRoles other) h

end ChannelState

end ArrayWatch
