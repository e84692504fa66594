/-!
# Maps ordered by name

A map from names to values is the list of its pairs in strictly ascending order of the names'
UTF-8 bytes. The order is part of the type, so each map has exactly one representation: two
maps with the same pairs are equal, and listing a map needs no sorting.
-/

namespace StrategyCoordinator

/-- The UTF-8 bytes of a text. -/
def utf8Bytes (text : String) : List UInt8 :=
  text.toUTF8.data.toList

/-- Equal bytes are bytes of the same text. -/
theorem utf8Bytes_injective {a b : String} (h : utf8Bytes a = utf8Bytes b) : a = b := by
  have hdata : a.toUTF8.data = b.toUTF8.data := Array.ext' h
  have hbytes : a.toUTF8 = b.toUTF8 := ByteArray.ext hdata
  exact String.toByteArray_inj.mp hbytes

/-- The order of names: lexicographic by their UTF-8 bytes. -/
def NameBefore (a b : String) : Prop :=
  utf8Bytes a < utf8Bytes b

instance (a b : String) : Decidable (NameBefore a b) :=
  inferInstanceAs (Decidable (utf8Bytes a < utf8Bytes b))

/-- No name stands before itself. -/
theorem NameBefore.irrefl (a : String) : ¬NameBefore a a :=
  List.lt_irrefl _

/-- The order of names is transitive. -/
theorem NameBefore.trans {a b c : String} (hab : NameBefore a b) (hbc : NameBefore b c) :
    NameBefore a c :=
  List.lt_trans hab hbc

/-- Of two different names one stands before the other. -/
theorem NameBefore.of_not_of_ne {a b : String} (h : ¬NameBefore a b) (hne : a ≠ b) :
    NameBefore b a := by
  have hle : utf8Bytes b ≤ utf8Bytes a := List.not_lt.mp h
  have hbytes : utf8Bytes b ≠ utf8Bytes a := fun he => hne (utf8Bytes_injective he.symm)
  exact Std.lt_of_le_of_ne hle hbytes

/-- A finite map from names to values, listed in name order. -/
structure NameMap (α : Type) where
  entries : List (String × α)
  ascending : entries.Pairwise fun p q => NameBefore p.1 q.1

namespace NameMap

variable {α : Type}

instance [DecidableEq α] : DecidableEq (NameMap α) := fun m n =>
  if h : m.entries = n.entries then
    isTrue (by cases m; cases n; cases h; rfl)
  else isFalse fun he => h (he ▸ rfl)

/-- The map without entries. -/
def empty : NameMap α :=
  ⟨[], .nil⟩

/-- The value of a name in a list of pairs, taken from the first pair of that name. -/
def lookup (name : String) : List (String × α) → Option α
  | [] => none
  | (key, value) :: rest => if key = name then some value else lookup name rest

/-- The value of a name. -/
def find? (m : NameMap α) (name : String) : Option α :=
  lookup name m.entries

/-- Whether a name has a value. -/
def contains (m : NameMap α) (name : String) : Bool :=
  (m.find? name).isSome

/-- The number of names. -/
def size (m : NameMap α) : Nat :=
  m.entries.length

/-- Put a pair at its place in an ascending list, replacing a pair of the same name. -/
def place (name : String) (value : α) : List (String × α) → List (String × α)
  | [] => [(name, value)]
  | (key, old) :: rest =>
    if NameBefore name key then (name, value) :: (key, old) :: rest
    else if key = name then (name, value) :: rest
    else (key, old) :: place name value rest

/-- Every pair of the new list is the new one or an old one. -/
theorem mem_place {name : String} {value : α} {entries : List (String × α)} {p : String × α}
    (h : p ∈ place name value entries) : p = (name, value) ∨ p ∈ entries := by
  induction entries with
  | nil => exact Or.inl (by simpa [place] using h)
  | cons head rest ih =>
    unfold place at h
    split at h
    · simpa using h
    · split at h
      · rcases List.mem_cons.mp h with h | h
        · exact Or.inl h
        · exact Or.inr (List.mem_cons_of_mem _ h)
      · rcases List.mem_cons.mp h with h | h
        · exact Or.inr (h ▸ List.mem_cons_self)
        · exact (ih h).imp_right (List.mem_cons_of_mem _)

/-- Putting a pair at its place keeps a list ascending. -/
theorem place_ascending (name : String) (value : α) {entries : List (String × α)}
    (h : entries.Pairwise fun p q => NameBefore p.1 q.1) :
    (place name value entries).Pairwise fun p q => NameBefore p.1 q.1 := by
  induction entries with
  | nil => simp [place]
  | cons head rest ih =>
    obtain ⟨hhead, hrest⟩ := List.pairwise_cons.mp h
    unfold place
    split
    next hbefore =>
      refine List.pairwise_cons.mpr ⟨fun p hp => ?_, h⟩
      rcases List.mem_cons.mp hp with hp | hp
      · exact hp ▸ hbefore
      · exact hbefore.trans (hhead p hp)
    next hbefore =>
      split
      next hkey => exact List.pairwise_cons.mpr ⟨fun p hp => hkey ▸ hhead p hp, hrest⟩
      next hkey =>
        refine List.pairwise_cons.mpr ⟨fun p hp => ?_, ih hrest⟩
        rcases mem_place hp with hp | hp
        · exact hp ▸ NameBefore.of_not_of_ne hbefore fun he => hkey he.symm
        · exact hhead p hp

/-- The map with the value of one name set. -/
def insert (m : NameMap α) (name : String) (value : α) : NameMap α :=
  ⟨place name value m.entries, place_ascending name value m.ascending⟩

/-- The map without one name. -/
def erase (m : NameMap α) (name : String) : NameMap α :=
  ⟨m.entries.filter fun p => p.1 != name, m.ascending.filter _⟩

/-- The map made from a list of pairs, where the last of equal names wins. -/
def ofList (pairs : List (String × α)) : NameMap α :=
  pairs.foldl (fun m p => m.insert p.1 p.2) empty

/-- The empty map has no value for any name. -/
@[simp] theorem find?_empty (name : String) : (empty : NameMap α).find? name = none :=
  rfl

/-- A name that was set has the value it was set to. -/
@[simp] theorem find?_insert_self (m : NameMap α) (name : String) (value : α) :
    (m.insert name value).find? name = some value := by
  show lookup name (place name value m.entries) = some value
  induction m.entries with
  | nil => simp [place, lookup]
  | cons head rest ih =>
    unfold place
    split
    · simp [lookup]
    · split
      · simp [lookup]
      next hkey => simpa [lookup, hkey] using ih

/-- Setting one name leaves the values of the other names. -/
theorem find?_insert_of_ne (m : NameMap α) {name other : String} (value : α) (h : other ≠ name) :
    (m.insert name value).find? other = m.find? other := by
  show lookup other (place name value m.entries) = lookup other m.entries
  induction m.entries with
  | nil => simp [place, lookup, h.symm]
  | cons head rest ih =>
    unfold place
    split
    · simp [lookup, h.symm]
    · split
      next hkey => simp [lookup, hkey, h.symm]
      · simp only [lookup, ih]

end NameMap

end StrategyCoordinator
