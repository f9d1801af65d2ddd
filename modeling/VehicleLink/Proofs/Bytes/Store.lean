/-!
# Proofs/Bytes/Store — a list in storage of fixed size

A `Store` holds a list in the first of its cells.  The cells behind it keep whatever was last written
there, and clearing a store clears none of them.  What counts is `contents`: adding to a store adds to
its contents (`add?_of_lt`), and clearing it leaves nothing (`contents_clear`).
-/

namespace VehicleLink

/-- Cells of which the first `filled` are in use. -/
structure Store (α : Type) (capacity : Nat) where
  cells : Vector α capacity
  filled : Nat
  filled_le : filled ≤ capacity

namespace Store

variable {α : Type} {capacity : Nat}

/-- The store that has never been used. -/
def fresh (blank : α) : Store α capacity := ⟨.replicate capacity blank, 0, Nat.zero_le _⟩

/-- The store with no cell in use.  The cells stay as they are. -/
def clear (store : Store α capacity) : Store α capacity :=
  { store with filled := 0, filled_le := Nat.zero_le _ }

/-- Puts an entry behind those in use, if there is a cell left. -/
def add? (store : Store α capacity) (entry : α) : Option (Store α capacity) :=
  if h : store.filled < capacity then
    some ⟨store.cells.set store.filled entry, store.filled + 1, h⟩
  else none

/-- The list that the store holds. -/
def contents (store : Store α capacity) : List α := store.cells.toList.take store.filled

@[simp] theorem contents_fresh (blank : α) : (fresh blank : Store α capacity).contents = [] :=
  List.take_zero

@[simp] theorem contents_clear (store : Store α capacity) : store.clear.contents = [] :=
  List.take_zero

@[simp] theorem length_contents (store : Store α capacity) :
    store.contents.length = store.filled := by
  rw [contents, List.length_take, Vector.length_toList, Nat.min_eq_left store.filled_le]

/-- **Adding an entry adds it to the contents**, if there is room. -/
theorem add?_of_lt {store : Store α capacity} (h : store.contents.length < capacity) (entry : α) :
    ∃ next, store.add? entry = some next ∧ next.contents = store.contents ++ [entry] := by
  rw [length_contents] at h
  have hlength : store.filled < store.cells.toList.length := by rwa [Vector.length_toList]
  refine ⟨_, dif_pos h, ?_⟩
  rw [contents, contents, Vector.toList_set, List.take_add_one, List.take_set_of_le (Nat.le_refl _),
    List.getElem?_set_self hlength, Option.toList_some]

theorem add?_of_ge {store : Store α capacity} (h : capacity ≤ store.contents.length) (entry : α) :
    store.add? entry = none := by
  rw [length_contents] at h
  exact dif_neg (Nat.not_lt.mpr h)

/-- An entry in use is read from its cell. -/
theorem getD_cells (store : Store α capacity) {place : Nat} (h : place < store.contents.length)
    (default : α) : store.cells.toList.getD place default = store.contents.getD place default := by
  rw [length_contents] at h
  rw [contents, List.getD_eq_getElem?_getD, List.getD_eq_getElem?_getD, List.getElem?_take_of_lt h]

end Store

end VehicleLink
