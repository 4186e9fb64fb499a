/-!
# Lists of items with keys

Items are found by the first one that has the key. The sensor tree is made of such lists: sensors,
devices and engines by their names, teams by their letters.

* `get?_upsert_self`, `get?_upsert_of_ne`: what a lookup finds after an item was added or changed.
-/

namespace ArrayWatch.Keyed

variable {Item Key : Type} [DecidableEq Key]

/-- The first item with a key. -/
def get? (keyOf : Item → Key) (key : Key) (items : List Item) : Option Item :=
  items.find? fun item => keyOf item = key

/-- Changes the first item with a key. Where there is none, changes `fresh` and puts it at the
end. -/
def upsert (keyOf : Item → Key) (key : Key) (fresh : Item) (change : Item → Item) :
    List Item → List Item
  | [] => [change fresh]
  | item :: rest =>
    if keyOf item = key then change item :: rest
    else item :: upsert keyOf key fresh change rest

/-- Changes the first item with a key, and fails with `missing` where there is none. -/
def update {ε : Type} (keyOf : Item → Key) (key : Key) (missing : ε)
    (change : Item → Except ε Item) : List Item → Except ε (List Item)
  | [] => .error missing
  | item :: rest =>
    if keyOf item = key then (change item).map (· :: rest)
    else (update keyOf key missing change rest).map (item :: ·)

/-! ## Lookups after changes -/

@[simp] theorem get?_nil (keyOf : Item → Key) (key : Key) : get? keyOf key [] = none := rfl

theorem get?_cons (keyOf : Item → Key) (key : Key) (item : Item) (rest : List Item) :
    get? keyOf key (item :: rest) =
      if keyOf item = key then some item else get? keyOf key rest := by
  by_cases h : keyOf item = key <;> simp [get?, h]

theorem get?_upsert_self {keyOf : Item → Key} {key : Key} {fresh : Item}
    {change : Item → Item} (hfresh : keyOf fresh = key)
    (hkeep : ∀ item, keyOf (change item) = keyOf item) (items : List Item) :
    get? keyOf key (upsert keyOf key fresh change items) =
      some (change ((get? keyOf key items).getD fresh)) := by
  induction items with
  | nil => simp [upsert, get?_cons, hkeep, hfresh]
  | cons item rest ih =>
    by_cases h : keyOf item = key
    · simp [upsert, get?_cons, h, hkeep]
    · simp [upsert, get?_cons, h, ih]

theorem get?_upsert_of_ne {keyOf : Item → Key} {key other : Key} {fresh : Item}
    {change : Item → Item} (hfresh : keyOf fresh = key)
    (hkeep : ∀ item, keyOf (change item) = keyOf item) (hne : other ≠ key) (items : List Item) :
    get? keyOf other (upsert keyOf key fresh change items) = get? keyOf other items := by
  induction items with
  | nil => simp [upsert, get?_cons, hkeep, hfresh, Ne.symm hne]
  | cons item rest ih =>
    by_cases h : keyOf item = key
    · simp [upsert, get?_cons, h, hkeep, Ne.symm hne]
    · simp [upsert, get?_cons, h, ih]

end ArrayWatch.Keyed
