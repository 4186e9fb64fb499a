import ArrayWatch.Keyed
import Mathlib.Data.List.Nodup

/-!
# Tables of tables

The sensor tree is a table of teams, of hosts, of devices, of sensors: at every level the first item
with the key is looked up, and then something is looked up in it. A change at one level hits one
item, so that a lookup through all the levels finds something else at one place only. Where no two
items of a table have the same key, what is found is what is there.

* `Keyed.update_eq_ok`, `Keyed.upsert_cases`: the one item that a change hits.
* `Keyed.altersAt_update`, `Keyed.altersAt_upsert`: a change inside of an item, seen from outside.
* `Keyed.Sound.get?_eq_some_iff`, `Keyed.sound_update`, `Keyed.sound_upsert`.
-/

namespace ArrayWatch.Keyed

/-! ## Results -/

section Results

variable {ε α β : Type}

theorem eq_ok_of_map {f : α → β} {r : Except ε α} {b : β} (h : r.map f = .ok b) :
    ∃ a, r = .ok a ∧ f a = b := by
  cases r with
  | error e => contradiction
  | ok a => exact ⟨a, rfl, Except.ok.inj h⟩

theorem bind_return (r : Except ε α) (f : α → β) : (r >>= fun a => pure (f a)) = r.map f := by
  cases r <;> rfl

theorem exists_ok_map {f : α → β} {r : Except ε α} :
    (∃ b, r.map f = .ok b) ↔ ∃ a, r = .ok a := by
  cases r with
  | error e => simp [Except.map]
  | ok a => simp [Except.map]

end Results

variable {Item Key : Type} [DecidableEq Key] {keyOf : Item → Key} {key : Key}

/-! ## The first item with a key -/

theorem mem_of_get?_eq_some {items : List Item} {item : Item}
    (h : get? keyOf key items = some item) : item ∈ items ∧ keyOf item = key :=
  ⟨List.mem_of_find?_eq_some h, by simpa using List.find?_some h⟩

theorem get?_append_of_ne {before : List Item} (h : ∀ item ∈ before, keyOf item ≠ key)
    (rest : List Item) : get? keyOf key (before ++ rest) = get? keyOf key rest := by
  have hnone : get? keyOf key before = none := by
    unfold get?
    rw [List.find?_eq_none]
    intro item hitem
    simpa using h item hitem
  unfold get? at hnone ⊢
  rw [List.find?_append, hnone, Option.none_or]

/-- One item was put in the place of another one with its key. -/
theorem get?_replace {before after : List Item} {item item' : Item}
    (hbefore : ∀ item ∈ before, keyOf item ≠ key) (hitem : keyOf item = key)
    (hitem' : keyOf item' = key) (other : Key) :
    get? keyOf other (before ++ item' :: after) =
      if other = key then some item' else get? keyOf other (before ++ item :: after) := by
  split
  · rename_i hother
    subst hother
    rw [get?_append_of_ne hbefore, get?_cons, if_pos hitem']
  · rename_i hother
    have hskip : keyOf item ≠ other := by
      rw [hitem]
      exact Ne.symm hother
    have hskip' : keyOf item' ≠ other := by
      rw [hitem']
      exact Ne.symm hother
    simp [get?, List.find?_append, hskip, hskip']

section Update

variable {ε : Type} {missing : ε} {change : Item → Except ε Item} {items items' : List Item}

/-- A change that succeeds puts the changed item in the place of the first one with the key. -/
theorem update_eq_ok (h : update keyOf key missing change items = .ok items') :
    ∃ before item item' after, items = before ++ item :: after ∧
      items' = before ++ item' :: after ∧ (∀ other ∈ before, keyOf other ≠ key) ∧
      keyOf item = key ∧ change item = .ok item' := by
  induction items generalizing items' with
  | nil => contradiction
  | cons first rest ih =>
    unfold update at h
    split at h
    · rename_i hfirst
      obtain ⟨first', hchange, rfl⟩ := eq_ok_of_map h
      exact ⟨[], first, first', rest, rfl, rfl, nofun, hfirst, hchange⟩
    · rename_i hfirst
      obtain ⟨rest', hrest, rfl⟩ := eq_ok_of_map h
      obtain ⟨before, item, item', after, rfl, rfl, hbefore, hitem, hchange⟩ := ih hrest
      refine ⟨first :: before, item, item', after, rfl, rfl, ?_, hitem, hchange⟩
      intro other hother
      rcases List.mem_cons.1 hother with rfl | hother
      · exact hfirst
      · exact hbefore other hother

/-- A change succeeds where there is an item with the key that can be changed. -/
theorem exists_ok_update :
    (∃ items', update keyOf key missing change items = .ok items') ↔
      ∃ item, get? keyOf key items = some item ∧ ∃ item', change item = .ok item' := by
  induction items with
  | nil => simp [update]
  | cons first rest ih =>
    by_cases hfirst : keyOf first = key
    · simp [update, get?_cons, hfirst, exists_ok_map]
    · simp [update, get?_cons, hfirst, exists_ok_map, ih]

/-- The failure of a change is that of the first item with the key. -/
theorem update_eq_error {item : Item} {e : ε} (hfound : get? keyOf key items = some item)
    (hfail : change item = .error e) : update keyOf key missing change items = .error e := by
  induction items with
  | nil => contradiction
  | cons first rest ih =>
    rw [get?_cons] at hfound
    unfold update
    split at hfound
    · rename_i hfirst
      obtain rfl := Option.some.inj hfound
      rw [if_pos hfirst, hfail]
      rfl
    · rename_i hfirst
      rw [if_neg hfirst, ih hfound]
      rfl

theorem get?_update (h : update keyOf key missing change items = .ok items')
    (hkeep : ∀ item item', change item = .ok item' → keyOf item' = keyOf item) :
    ∃ item item', get? keyOf key items = some item ∧ change item = .ok item' ∧
      ∀ other, get? keyOf other items' =
        if other = key then some item' else get? keyOf other items := by
  obtain ⟨before, item, item', after, rfl, rfl, hbefore, hitem, hchange⟩ := update_eq_ok h
  refine ⟨item, item', ?_, hchange, ?_⟩
  · rw [get?_append_of_ne hbefore, get?_cons, if_pos hitem]
  · exact get?_replace hbefore hitem ((hkeep item item' hchange).trans hitem)

theorem map_update {α : Type} (f : Item → α)
    (h : update keyOf key missing change items = .ok items')
    (hf : ∀ item item', change item = .ok item' → f item' = f item) :
    items'.map f = items.map f := by
  obtain ⟨before, item, item', after, rfl, rfl, -, -, hchange⟩ := update_eq_ok h
  simp [hf item item' hchange]

end Update

section Upsert

variable {fresh : Item} {change : Item → Item}

/-- Either the first item with the key is changed, or there is none and the fresh one is added. -/
theorem upsert_cases (keyOf : Item → Key) (key : Key) (fresh : Item) (change : Item → Item)
    (items : List Item) :
    ((∀ item ∈ items, keyOf item ≠ key) ∧
        upsert keyOf key fresh change items = items ++ [change fresh]) ∨
      ∃ before item after, items = before ++ item :: after ∧
        upsert keyOf key fresh change items = before ++ change item :: after ∧
        (∀ other ∈ before, keyOf other ≠ key) ∧ keyOf item = key := by
  induction items with
  | nil => exact .inl ⟨nofun, rfl⟩
  | cons first rest ih =>
    by_cases hfirst : keyOf first = key
    · exact .inr ⟨[], first, rest, rfl, by simp [upsert, hfirst], nofun, hfirst⟩
    · have hstep : upsert keyOf key fresh change (first :: rest) =
          first :: upsert keyOf key fresh change rest := by
        simp [upsert, hfirst]
      rcases ih with ⟨hrest, hadded⟩ | ⟨before, item, after, rfl, hchanged, hbefore, hitem⟩
      · refine .inl ⟨?_, by rw [hstep, hadded]; rfl⟩
        simpa using ⟨hfirst, hrest⟩
      · refine .inr ⟨first :: before, item, after, rfl, by rw [hstep, hchanged]; rfl, ?_, hitem⟩
        simpa using ⟨hfirst, hbefore⟩

theorem get?_upsert (hfresh : keyOf fresh = key) (hkeep : ∀ item, keyOf (change item) = keyOf item)
    (items : List Item) (other : Key) :
    get? keyOf other (upsert keyOf key fresh change items) =
      if other = key then some (change ((get? keyOf key items).getD fresh))
      else get? keyOf other items := by
  split
  · rename_i h
    subst h
    exact get?_upsert_self hfresh hkeep items
  · rename_i h
    exact get?_upsert_of_ne hfresh hkeep h items

end Upsert

/-! ## Lookups through several levels -/

/-- The second lookup finds at one place what `g` makes of the finding of the first one, and the
same as it at every other place. -/
def AltersAt {Place S : Type} [DecidableEq Place] (place : Place) (g : Option S → Option S)
    (find find' : Place → Option S) : Prop :=
  ∀ other, find' other = if other = place then g (find other) else find other

/-- Where a place is altered to what it was, nothing is. -/
theorem altersAt_id_iff {Place S : Type} [DecidableEq Place] (place : Place)
    {find find' : Place → Option S} : AltersAt place id find find' ↔ find' = find := by
  constructor
  · intro h
    funext other
    rw [h other]
    exact ite_self _
  · rintro rfl other
    exact (ite_self _).symm

/-- Looks up an item by its key, and something in it. -/
def through {Place S : Type} (keyOf : Item → Key) (find : Item → Place → Option S)
    (items : List Item) (place : Key × Place) : Option S :=
  (get? keyOf place.1 items).bind (find · place.2)

section Through

variable {Place S : Type} {find : Item → Place → Option S} {place : Place}
  {g : Option S → Option S}

theorem exists_ok_update_through {ε : Type} {missing : ε} {change : Item → Except ε Item}
    {items : List Item}
    (hchange : ∀ item, (∃ item', change item = .ok item') ↔ (find item place).isSome) :
    (∃ items', update keyOf key missing change items = .ok items') ↔
      (through keyOf find items (key, place)).isSome := by
  rw [exists_ok_update]
  unfold through
  cases get? keyOf key items with
  | none => simp
  | some item => simp [hchange]

variable [DecidableEq Place]

theorem altersAt_update {ε : Type} {missing : ε} {change : Item → Except ε Item}
    {items items' : List Item} (h : update keyOf key missing change items = .ok items')
    (hkeep : ∀ item item', change item = .ok item' → keyOf item' = keyOf item)
    (hchange : ∀ item item', change item = .ok item' →
      AltersAt place g (find item) (find item')) :
    AltersAt (key, place) g (through keyOf find items) (through keyOf find items') := by
  obtain ⟨item, item', hitem, hok, hother⟩ := get?_update h hkeep
  intro (other, inner)
  unfold through
  dsimp only
  rw [hother]
  by_cases hkey : other = key
  · subst hkey
    rw [if_pos rfl, hitem]
    simpa using hchange item item' hok inner
  · simp [hkey]

/-- The fresh item finds nothing, so that nothing is found in it but at the place of the change. -/
theorem altersAt_upsert {fresh : Item} {change : Item → Item} (hfresh : keyOf fresh = key)
    (hchange : ∀ item, AltersAt place g (find item) (find (change item)))
    (hnothing : ∀ inner, find fresh inner = none)
    (hkeep : ∀ item, keyOf (change item) = keyOf item) (items : List Item) :
    AltersAt (key, place) g (through keyOf find items)
      (through keyOf find (upsert keyOf key fresh change items)) := by
  intro (other, inner)
  unfold through
  dsimp only
  rw [get?_upsert hfresh hkeep]
  by_cases hother : other = key
  · subst hother
    rw [if_pos rfl]
    have hfound : (get? keyOf other items).bind (find · inner) =
        find ((get? keyOf other items).getD fresh) inner := by
      cases get? keyOf other items with
      | none => exact (hnothing inner).symm
      | some item => rfl
    rw [hfound]
    simpa using hchange _ inner
  · simp [hother]

omit [DecidableEq Place] in
/-- An item in which nothing is found can be added without being noticed. -/
theorem through_upsert_id {fresh : Item} (hfresh : keyOf fresh = key)
    (hnothing : ∀ inner, find fresh inner = none) (items : List Item) :
    through keyOf find (upsert keyOf key fresh id items) = through keyOf find items := by
  have hkeep : ∀ item, keyOf (id item) = keyOf item := fun _ => rfl
  funext (other, inner)
  unfold through
  dsimp only
  rw [get?_upsert hfresh hkeep]
  split
  · rename_i hother
    subst hother
    cases get? keyOf other items with
    | none => exact hnothing inner
    | some item => rfl
  · rfl

end Through

/-! ## Tables without a key twice -/

/-- No two items have the same key, and every item is sound itself. -/
structure Sound (keyOf : Item → Key) (P : Item → Prop) (items : List Item) : Prop where
  nodup : (items.map keyOf).Nodup
  each : ∀ item ∈ items, P item

section Sound

variable {P : Item → Prop} {items : List Item}

omit [DecidableEq Key] in
theorem Sound.nil (keyOf : Item → Key) (P : Item → Prop) : Sound keyOf P [] :=
  ⟨List.nodup_nil, nofun⟩

/-- What is found by a key is what is there with this key. -/
theorem Sound.get?_eq_some_iff (h : Sound keyOf P items) {item : Item} :
    get? keyOf key items = some item ↔ item ∈ items ∧ keyOf item = key := by
  constructor
  · exact mem_of_get?_eq_some
  · rintro ⟨hitem, rfl⟩
    obtain ⟨before, after, rfl⟩ := List.append_of_mem hitem
    have hbefore : ∀ other ∈ before, keyOf other ≠ keyOf item := by
      intro other hother
      have hnodup := h.nodup
      rw [List.map_append, List.nodup_append] at hnodup
      exact hnodup.2.2 _ (List.mem_map_of_mem hother) _ (List.mem_cons_self ..)
    rw [get?_append_of_ne hbefore, get?_cons, if_pos rfl]

/-- What is found through a key is what is found in the item with this key. -/
theorem Sound.through_eq_some_iff {Place S : Type} {find : Item → Place → Option S}
    (h : Sound keyOf P items) {place : Place} {s : S} {Q : Item → Prop}
    (hfind : ∀ item, P item → (find item place = some s ↔ Q item)) :
    through keyOf find items (key, place) = some s ↔
      ∃ item ∈ items, keyOf item = key ∧ Q item := by
  unfold through
  simp only [Option.bind_eq_some_iff, h.get?_eq_some_iff, and_assoc]
  constructor
  · rintro ⟨item, hitem, hkey, hfound⟩
    exact ⟨item, hitem, hkey, (hfind item (h.each item hitem)).1 hfound⟩
  · rintro ⟨item, hitem, hkey, hQ⟩
    exact ⟨item, hitem, hkey, (hfind item (h.each item hitem)).2 hQ⟩

omit [DecidableEq Key] in
/-- One item was put in the place of another one. -/
theorem each_replace {before after : List Item} {item item' : Item}
    (h : ∀ other ∈ before ++ item :: after, P other) (hP : P item') :
    ∀ other ∈ before ++ item' :: after, P other := by
  intro other hother
  rcases List.mem_append.1 hother with hother | hother
  · exact h other (List.mem_append_left _ hother)
  · rcases List.mem_cons.1 hother with rfl | hother
    · exact hP
    · exact h other (List.mem_append_right _ (List.mem_cons_of_mem _ hother))

theorem sound_update {ε : Type} {missing : ε} {change : Item → Except ε Item}
    {items' : List Item} (h : Sound keyOf P items)
    (hok : update keyOf key missing change items = .ok items')
    (hkeep : ∀ item item', change item = .ok item' → keyOf item' = keyOf item)
    (hchange : ∀ item item', change item = .ok item' → P item → P item') :
    Sound keyOf P items' := by
  refine ⟨map_update keyOf hok hkeep ▸ h.nodup, ?_⟩
  obtain ⟨before, item, item', after, rfl, rfl, -, -, hitem⟩ := update_eq_ok hok
  have hmem : item ∈ before ++ item :: after := List.mem_append_right _ List.mem_cons_self
  exact each_replace h.each (hchange item item' hitem (h.each item hmem))

theorem sound_upsert {fresh : Item} {change : Item → Item} (h : Sound keyOf P items)
    (hfresh : keyOf fresh = key) (hkeep : ∀ item, keyOf (change item) = keyOf item)
    (hP : P fresh) (hchange : ∀ item, keyOf item = key → P item → P (change item)) :
    Sound keyOf P (upsert keyOf key fresh change items) := by
  rcases upsert_cases keyOf key fresh change items with
    ⟨hnew, hadded⟩ | ⟨before, item, after, rfl, hchanged, -, hitem⟩
  · rw [hadded]
    refine ⟨?_, ?_⟩
    · rw [List.map_append, List.nodup_append]
      refine ⟨h.nodup, by simp, ?_⟩
      intro oldKey hold newKey hlast
      obtain ⟨old, hmem, rfl⟩ := List.mem_map.1 hold
      obtain rfl := List.mem_singleton.1 hlast
      rw [hkeep fresh, hfresh]
      exact hnew old hmem
    · intro other hother
      rcases List.mem_append.1 hother with hother | hother
      · exact h.each other hother
      · obtain rfl := List.mem_singleton.1 hother
        exact hchange fresh hfresh hP
  · rw [hchanged]
    refine ⟨?_, ?_⟩
    · have hnodup := h.nodup
      simpa [hkeep item] using hnodup
    · have hmem : item ∈ before ++ item :: after := List.mem_append_right _ List.mem_cons_self
      exact each_replace h.each (hchange item hitem (h.each item hmem))

end Sound

end ArrayWatch.Keyed
