import Mathlib.Data.List.Induction
import Mathlib.Data.List.Sort
import StrategyCoordinator.NameMap

/-!
# Maps as their values

A map is determined by the value that it has for each name: since its entries are listed in name
order, two maps with the same values are the same map. Setting a name to the value that it has
already therefore changes nothing. The map of a list of pairs has for each name the value of the
last pair of that name, and it lists the same pairs if these ascend already.
-/

namespace StrategyCoordinator

namespace NameMap

variable {α : Type}

/-- A value that is found under a name is one of the entries. -/
theorem mem_of_find? {m : NameMap α} {name : String} {value : α} (h : m.find? name = some value) :
    (name, value) ∈ m.entries := by
  obtain ⟨entries, ascending⟩ := m
  change lookup name entries = some value at h
  show (name, value) ∈ entries
  clear ascending
  induction entries with
  | nil => cases h
  | cons head rest ih =>
    unfold lookup at h
    split at h
    next hkey =>
      cases h
      exact hkey ▸ List.mem_cons_self
    next => exact List.mem_cons_of_mem _ (ih h)

/-- Each entry is found under its name, since no other entry has that name. -/
theorem find?_of_mem {m : NameMap α} {name : String} {value : α} (h : (name, value) ∈ m.entries) :
    m.find? name = some value := by
  obtain ⟨entries, ascending⟩ := m
  change (name, value) ∈ entries at h
  show lookup name entries = some value
  induction entries with
  | nil => cases h
  | cons head rest ih =>
    obtain ⟨hhead, hrest⟩ := List.pairwise_cons.mp ascending
    rcases List.mem_cons.mp h with rfl | h
    · simp [lookup]
    · have hkey : head.1 ≠ name := by
        rintro rfl
        exact NameBefore.irrefl head.1 (hhead (head.1, value) h)
      simpa [lookup, hkey] using ih hrest h

/-- The values of a map are its entries. -/
theorem find?_eq_some_iff {m : NameMap α} {name : String} {value : α} :
    m.find? name = some value ↔ (name, value) ∈ m.entries :=
  ⟨mem_of_find?, find?_of_mem⟩

/-- Maps with the same entries are the same map. -/
theorem ext_entries {m n : NameMap α} (h : m.entries = n.entries) : m = n := by
  cases m
  cases n
  cases h
  rfl

/-- Maps that have the same value for each name are the same map. -/
theorem ext_find? {m n : NameMap α} (h : ∀ name, m.find? name = n.find? name) : m = n := by
  have hirrefl : Std.Irrefl fun p q : String × α => NameBefore p.1 q.1 :=
    ⟨fun p => NameBefore.irrefl p.1⟩
  have hantisymm : Std.Antisymm fun p q : String × α => NameBefore p.1 q.1 :=
    ⟨fun p q hpq hqp => absurd (hpq.trans hqp) (NameBefore.irrefl p.1)⟩
  have hsub {m n : NameMap α} (h : ∀ name, m.find? name = n.find? name) :
      m.entries ⊆ n.entries := by
    rintro ⟨name, value⟩ hmem
    exact mem_of_find? ((h name).symm.trans (find?_of_mem hmem))
  -- Both lists ascend, so they are the same if they have the same members.
  exact ext_entries (List.Subset.antisymm_of_pairwise m.ascending n.ascending (hsub h)
    (hsub fun name => (h name).symm))

/-- Without one name a map has the values of the other names. -/
theorem find?_erase_eq_some_iff {m : NameMap α} {name other : String} {value : α} :
    (m.erase name).find? other = some value ↔ other ≠ name ∧ m.find? other = some value := by
  simp [find?_eq_some_iff, erase, and_comm]

/-- Setting a name to the value that it has changes nothing. -/
theorem insert_of_find? {m : NameMap α} {name : String} {value : α}
    (h : m.find? name = some value) : m.insert name value = m := by
  apply ext_find?
  intro other
  by_cases hother : other = name
  · subst hother
    rw [find?_insert_self, h]
  · rw [find?_insert_of_ne m value hother]

/-- The map of a list with one more pair has that pair set last. -/
theorem ofList_concat (pairs : List (String × α)) (p : String × α) :
    ofList (pairs ++ [p]) = (ofList pairs).insert p.1 p.2 := by
  simp [ofList]

/-- In the map of a list each name has the value of the last pair of that name. -/
theorem find?_ofList (pairs : List (String × α)) (name : String) :
    (ofList pairs).find? name = lookup name pairs.reverse := by
  induction pairs using List.reverseRecOn with
  | nil => rfl
  | append_singleton pairs p ih =>
    rw [ofList_concat, List.reverse_concat, lookup]
    by_cases hname : p.1 = name
    · rw [if_pos hname, ← hname, find?_insert_self]
    · rw [if_neg hname, find?_insert_of_ne _ _ (Ne.symm hname), ih]

/-- A pair is put at the end if its name stands after all others. -/
theorem place_of_forall_before {name : String} {value : α} {entries : List (String × α)}
    (h : ∀ p ∈ entries, NameBefore p.1 name) :
    place name value entries = entries ++ [(name, value)] := by
  induction entries with
  | nil => rfl
  | cons head rest ih =>
    obtain ⟨hhead, hrest⟩ := List.forall_mem_cons.mp h
    have hbefore : ¬NameBefore name head.1 := fun hback =>
      NameBefore.irrefl name (hback.trans hhead)
    have hkey : head.1 ≠ name := fun heq => NameBefore.irrefl name (heq ▸ hhead)
    simp [place, hbefore, hkey, ih hrest]

/-- The entries of the map of an ascending list are that list. -/
theorem entries_ofList {pairs : List (String × α)}
    (h : pairs.Pairwise fun p q => NameBefore p.1 q.1) : (ofList pairs).entries = pairs := by
  induction pairs using List.reverseRecOn with
  | nil => rfl
  | append_singleton pairs p ih =>
    obtain ⟨hpairs, -, hlast⟩ := List.pairwise_append.mp h
    have hbefore : ∀ q ∈ pairs, NameBefore q.1 p.1 := fun q hq =>
      hlast q hq p (List.mem_singleton_self p)
    rw [ofList_concat]
    show place p.1 p.2 (ofList pairs).entries = pairs ++ [p]
    rw [ih hpairs, place_of_forall_before hbefore]

/-- A map is made from its own entries. -/
theorem ofList_entries (m : NameMap α) : ofList m.entries = m :=
  ext_entries (entries_ofList m.ascending)

end NameMap

end StrategyCoordinator
