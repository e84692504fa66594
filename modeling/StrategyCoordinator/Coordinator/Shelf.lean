/-!
# Shared objects by serial number

A shelf keeps objects that several holders share. A holder keeps only the serial number, so
every holder sees the object as it is now, and a change made through one of them is seen by
all. An object leaves the shelf when the last holder lets go of it.
-/

namespace StrategyCoordinator

/-- Objects by their serial numbers, the latest first. -/
structure Shelf (α : Type) where
  items : List (Nat × α)

namespace Shelf

variable {α : Type}

/-- The shelf without objects. -/
def empty : Shelf α :=
  ⟨[]⟩

/-- The object of a serial number in a list of numbered objects. -/
def search (serial : Nat) : List (Nat × α) → Option α
  | [] => none
  | (key, item) :: rest => if key = serial then some item else search serial rest

/-- The object of a serial number. -/
def get? (shelf : Shelf α) (serial : Nat) : Option α :=
  search serial shelf.items

/-- The shelf with an object put on it. -/
def put (shelf : Shelf α) (serial : Nat) (item : α) : Shelf α :=
  ⟨(serial, item) :: shelf.items⟩

/-- The shelf with one object changed. -/
def modify (shelf : Shelf α) (serial : Nat) (change : α → α) : Shelf α :=
  ⟨shelf.items.map fun p => if p.1 = serial then (p.1, change p.2) else p⟩

/-- The shelf without one object. -/
def remove (shelf : Shelf α) (serial : Nat) : Shelf α :=
  ⟨shelf.items.filter fun p => p.1 != serial⟩

/-- An object that was put on the shelf is there. -/
@[simp] theorem get?_put_self (shelf : Shelf α) (serial : Nat) (item : α) :
    (shelf.put serial item).get? serial = some item := by
  simp [get?, put, search]

/-- Putting an object on the shelf leaves the others. -/
theorem get?_put_of_ne (shelf : Shelf α) {serial other : Nat} (item : α) (h : other ≠ serial) :
    (shelf.put serial item).get? other = shelf.get? other := by
  simp [get?, put, search, h.symm]

/-- A changed object is the change of the one before. -/
@[simp] theorem get?_modify_self (shelf : Shelf α) (serial : Nat) (change : α → α) :
    (shelf.modify serial change).get? serial = (shelf.get? serial).map change := by
  obtain ⟨items⟩ := shelf
  show search serial (items.map _) = (search serial items).map change
  induction items with
  | nil => rfl
  | cons head rest ih => by_cases h : head.1 = serial <;> simp [search, h, ih]

/-- Changing an object leaves the others. -/
theorem get?_modify_of_ne (shelf : Shelf α) {serial other : Nat} (change : α → α)
    (h : other ≠ serial) : (shelf.modify serial change).get? other = shelf.get? other := by
  obtain ⟨items⟩ := shelf
  show search other (items.map _) = search other items
  induction items with
  | nil => rfl
  | cons head rest ih =>
    by_cases hs : head.1 = serial
    · simp [search, hs, h.symm, ih]
    · simp [search, hs, ih]

/-- Changing an object leaves what is on the shelf. -/
@[simp] theorem isSome_get?_modify (shelf : Shelf α) (serial : Nat) (change : α → α)
    (other : Nat) :
    ((shelf.modify serial change).get? other).isSome = (shelf.get? other).isSome := by
  by_cases h : other = serial
  · subst h
    rw [get?_modify_self, Option.isSome_map]
  · rw [get?_modify_of_ne shelf change h]

/-- A removed object is gone. -/
@[simp] theorem get?_remove_self (shelf : Shelf α) (serial : Nat) :
    (shelf.remove serial).get? serial = none := by
  obtain ⟨items⟩ := shelf
  show search serial (items.filter _) = none
  induction items with
  | nil => rfl
  | cons head rest ih => by_cases h : head.1 = serial <;> simp [search, h, ih]

/-- Removing an object leaves the others. -/
theorem get?_remove_of_ne (shelf : Shelf α) {serial other : Nat} (h : other ≠ serial) :
    (shelf.remove serial).get? other = shelf.get? other := by
  obtain ⟨items⟩ := shelf
  show search other (items.filter _) = search other items
  induction items with
  | nil => rfl
  | cons head rest ih =>
    by_cases hs : head.1 = serial
    · simp [search, hs, h.symm, ih]
    · simp [search, hs, ih]

end Shelf

end StrategyCoordinator
