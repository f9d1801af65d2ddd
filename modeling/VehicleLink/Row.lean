/-!
# Row — one entry for each element of a list

Message records and sentences are both rows over a list of descriptions, whose entries have the
type that their description gives them. A `Slot a as` is a place of `as` that holds `a`; through it
an entry is read and written at its own type (`get_set`, `get_set_of_ne`).
-/

namespace VehicleLink

/-- A row with an entry of type `β a` for each `a` of the list. -/
inductive Row {α : Type} (β : α → Type) : List α → Type where
  | nil : Row β []
  | cons {a : α} {as : List α} (entry : β a) (rest : Row β as) : Row β (a :: as)

/-- A place of the list that holds `a`. -/
inductive Slot {α : Type} (a : α) : List α → Type where
  | here {as : List α} : Slot a (a :: as)
  | there {b : α} {as : List α} (slot : Slot a as) : Slot a (b :: as)
deriving DecidableEq

/-- How many places come before. -/
def Slot.index {α : Type} {a : α} : {as : List α} → Slot a as → Nat
  | _, here => 0
  | _, there slot => slot.index + 1

/-- The first place whose element satisfies a test. -/
def Slot.find? {α : Type} (test : α → Bool) : (as : List α) → Option ((a : α) × Slot a as)
  | [] => none
  | a :: as =>
    if test a then some ⟨a, here⟩
    else (find? test as).map fun ⟨b, slot⟩ => ⟨b, slot.there⟩

theorem Slot.forall_cons {α : Type} {b : α} {as : List α}
    {P : (a : α) → Slot a (b :: as) → Prop} :
    (∀ a slot, P a slot) ↔ P b here ∧ ∀ a (slot : Slot a as), P a slot.there := by
  refine ⟨fun h => ⟨h b here, fun a slot => h a slot.there⟩, ?_⟩
  rintro ⟨hhere, hthere⟩ a (_ | slot)
  · exact hhere
  · exact hthere a slot

namespace Row

variable {α : Type} {β γ : α → Type}

/-- The row whose every entry is given by its description. -/
def tabulate (f : (a : α) → β a) : (as : List α) → Row β as
  | [] => nil
  | a :: as => cons (f a) (tabulate f as)

/-- The entries one after the other, each brought to a common type. -/
def toList {δ : Type} (f : (a : α) → β a → δ) : {as : List α} → Row β as → List δ
  | _, nil => []
  | a :: _, cons entry rest => f a entry :: toList f rest

/-- The row of results of `f`, or the first failure. -/
def mapM {ε : Type} (f : (a : α) → β a → Except ε (γ a)) :
    {as : List α} → Row β as → Except ε (Row γ as)
  | _, nil => .ok nil
  | a :: _, cons entry rest =>
    match f a entry with
    | .error e => .error e
    | .ok entry =>
      match mapM f rest with
      | .error e => .error e
      | .ok rest => .ok (cons entry rest)

/-- The entry in a slot. -/
def get {a : α} : {as : List α} → Row β as → Slot a as → β a
  | _, cons entry _, .here => entry
  | _, cons _ rest, .there slot => rest.get slot

/-- The row with another entry in a slot. -/
def set {a : α} : {as : List α} → Row β as → Slot a as → β a → Row β as
  | _, cons _ rest, .here, new => cons new rest
  | _, cons entry rest, .there slot, new => cons entry (rest.set slot new)

@[simp] theorem get_set {a : α} {as : List α} (row : Row β as) (slot : Slot a as) (new : β a) :
    (row.set slot new).get slot = new := by
  induction slot with
  | here => cases row; rfl
  | there slot ih => cases row with | cons entry rest => exact ih rest

theorem get_set_of_ne {a b : α} {as : List α} (row : Row β as) (slot : Slot a as) (new : β a)
    (other : Slot b as) (h : other.index ≠ slot.index) :
    (row.set slot new).get other = row.get other := by
  induction slot with
  | here =>
    cases row
    cases other with
    | here => exact absurd rfl h
    | there other => rfl
  | there slot ih =>
    cases row with
    | cons entry rest =>
      cases other with
      | here => rfl
      | there other => exact ih rest other fun e => h (congrArg (· + 1) e)

@[simp] theorem length_toList {δ : Type} (f : (a : α) → β a → δ) {as : List α} (row : Row β as) :
    (row.toList f).length = as.length := by
  induction row with
  | nil => rfl
  | cons entry rest ih => exact congrArg (· + 1) ih

end Row

end VehicleLink
