import Mathlib.Data.List.Forall2
import StrategyCoordinator.Proofs.Binary.Capacity
import StrategyCoordinator.Proofs.Options.Validity

/-!
# Equality of stores

Stores are compared entry by entry, and floating numbers as numbers, so a store that holds a value
that is not a number would differ from itself. Comparing numbers is symmetric and transitive, and so
is comparing whatever is made of numbers. Reflexivity needs numbers: it follows for a valid store,
because a kind admits nothing that is not a number, and admits nothing at all if one of its bounds
is none. Of the comparisons themselves no more is used than that nothing is ordered with what is no
number, that equality is symmetric and transitive, that ordered numbers equal themselves, and that
the order respects equality.
-/

namespace StrategyCoordinator

namespace Binary64

/-- Numeric equality is symmetric. -/
theorem numEq_comm (x y : Binary64) : x.numEq y = y.numEq x := by
  rw [Bool.eq_iff_iff]
  simp only [numEq, Bool.and_eq_true, Bool.not_eq_true', beq_iff_eq]
  constructor <;> rintro ⟨⟨hx, hy⟩, hrank⟩ <;> exact ⟨⟨hy, hx⟩, hrank.symm⟩

/-- Numeric equality is transitive. -/
theorem numEq_trans {x y z : Binary64} (h : x.numEq y = true) (h' : y.numEq z = true) :
    x.numEq z = true := by
  simp only [numEq, Bool.and_eq_true, Bool.not_eq_true', beq_iff_eq] at h h' ⊢
  exact ⟨⟨h.1.1, h'.1.2⟩, h.2.trans h'.2⟩

/-- Numbers that are ordered equal themselves. -/
theorem numEq_self_of_numLe {x y : Binary64} (h : x.numLe y = true) :
    x.numEq x = true ∧ y.numEq y = true := by
  obtain ⟨hx, hy⟩ := isNaN_of_numLe h
  rw [numEq_self, numEq_self, hx, hy]
  exact ⟨rfl, rfl⟩

/-- The order of numbers respects their equality. -/
theorem numLe_of_numEq {x x' y y' : Binary64} (hx : x.numEq x' = true) (hy : y.numEq y' = true)
    (h : x.numLe y = true) : x'.numLe y' = true := by
  simp only [numEq, numLe, Bool.and_eq_true, Bool.not_eq_true', beq_iff_eq, decide_eq_true_eq]
    at hx hy h ⊢
  exact ⟨⟨hx.1.2, hy.1.2⟩, hx.2 ▸ hy.2 ▸ h.2⟩

end Binary64

namespace OptionValue

/-- Equality of values is symmetric. -/
theorem valueEq_comm (a b : OptionValue) : a.valueEq b = b.valueEq a := by
  cases a <;> cases b <;> simp only [valueEq]
  case bool.bool | int.int | str.str | choice.choice => exact BEq.comm
  case float.float a b => exact a.numEq_comm b

/-- Equality of values is transitive. -/
theorem valueEq_trans {a b c : OptionValue} (h : a.valueEq b = true) (h' : b.valueEq c = true) :
    a.valueEq c = true := by
  cases a <;> cases b <;> cases c <;> simp only [valueEq, Bool.false_eq_true] at h h' ⊢
  case bool.bool.bool | int.int.int | str.str.str | choice.choice.choice => exact BEq.trans h h'
  case float.float.float => exact Binary64.numEq_trans h h'

end OptionValue

namespace OptionKind

/-- Equality of kinds is symmetric. -/
theorem kindEq_comm (a b : OptionKind) : a.kindEq b = b.kindEq a := by
  cases a <;> cases b
  case int.int => exact congrArg₂ and BEq.comm BEq.comm
  case float.float a b c d => exact congrArg₂ and (a.numEq_comm c) (b.numEq_comm d)
  case choice.choice => exact BEq.comm
  all_goals rfl

/-- Equality of kinds is transitive. -/
theorem kindEq_trans {a b c : OptionKind} (h : a.kindEq b = true) (h' : b.kindEq c = true) :
    a.kindEq c = true := by
  match a, b, c, h, h' with
  | .bool, .bool, _, _, h' | .str, .str, _, _, h' => exact h'
  | .int .., .int .., .int .., h, h' =>
    obtain ⟨hlower, hupper⟩ := Bool.and_eq_true_iff.mp h
    obtain ⟨hlower', hupper'⟩ := Bool.and_eq_true_iff.mp h'
    exact Bool.and_eq_true_iff.mpr ⟨BEq.trans hlower hlower', BEq.trans hupper hupper'⟩
  | .float .., .float .., .float .., h, h' =>
    obtain ⟨hlower, hupper⟩ := Bool.and_eq_true_iff.mp h
    obtain ⟨hlower', hupper'⟩ := Bool.and_eq_true_iff.mp h'
    exact Bool.and_eq_true_iff.mpr
      ⟨Binary64.numEq_trans hlower hlower', Binary64.numEq_trans hupper hupper'⟩
  | .choice _, .choice _, .choice _, h, h' => exact BEq.trans h h'

/-- An admitted value equals itself. -/
theorem Admits.valueEq_self {kind : OptionKind} {value : OptionValue} (h : kind.Admits value) :
    value.valueEq value = true := by
  cases h with
  | float hlower hupper => exact (Binary64.numEq_self_of_numLe hupper).1
  | bool | int | str | choice => exact BEq.rfl

/-- A kind that admits something equals itself. -/
theorem Admits.kindEq_self {kind : OptionKind} {value : OptionValue} (h : kind.Admits value) :
    kind.kindEq kind = true := by
  cases h with
  | float hlower hupper =>
    exact Bool.and_eq_true_iff.mpr
      ⟨(Binary64.numEq_self_of_numLe hlower).1, (Binary64.numEq_self_of_numLe hupper).2⟩
  | int => exact Bool.and_eq_true_iff.mpr ⟨BEq.rfl, BEq.rfl⟩
  | bool | str => rfl
  | choice => exact BEq.rfl

/-- What equals an admitted value is admitted. -/
theorem Admits.of_valueEq {kind : OptionKind} {value other : OptionValue} (h : kind.Admits value)
    (heq : other.valueEq value = true) : kind.Admits other := by
  cases h with
  | @float lower upper x hlower hupper =>
    cases other <;> simp only [OptionValue.valueEq, Bool.false_eq_true] at heq
    case float y =>
      have heq' : x.numEq y = true := (x.numEq_comm y).trans heq
      obtain ⟨hself, -⟩ := Binary64.numEq_self_of_numLe hlower
      obtain ⟨-, hself'⟩ := Binary64.numEq_self_of_numLe hupper
      exact .float (Binary64.numLe_of_numEq hself heq' hlower)
        (Binary64.numLe_of_numEq heq' hself' hupper)
  | int hlower hupper =>
    cases other <;> simp only [OptionValue.valueEq, Bool.false_eq_true, beq_iff_eq] at heq
    exact heq ▸ .int hlower hupper
  | bool =>
    cases other <;> simp only [OptionValue.valueEq, Bool.false_eq_true] at heq
    exact .bool _
  | str =>
    cases other <;> simp only [OptionValue.valueEq, Bool.false_eq_true] at heq
    exact .str _
  | choice hmem =>
    cases other <;> simp only [OptionValue.valueEq, Bool.false_eq_true, beq_iff_eq] at heq
    exact heq ▸ .choice hmem

end OptionKind

namespace OptionEntry

/-- Equality of entries is equality of all that they consist of. -/
theorem entryEq_iff {a b : OptionEntry} : a.entryEq b = true ↔ a.kind.kindEq b.kind = true ∧
    a.default.valueEq b.default = true ∧ a.value.valueEq b.value = true ∧
      a.description = b.description := by
  simp [entryEq, and_assoc]

/-- Equality of entries is symmetric. -/
theorem entryEq_symm {a b : OptionEntry} (h : a.entryEq b = true) : b.entryEq a = true := by
  obtain ⟨hkind, hdefault, hvalue, hdescription⟩ := entryEq_iff.mp h
  exact entryEq_iff.mpr ⟨(OptionKind.kindEq_comm ..).trans hkind,
    (OptionValue.valueEq_comm ..).trans hdefault, (OptionValue.valueEq_comm ..).trans hvalue,
    hdescription.symm⟩

/-- Equality of entries is transitive. -/
theorem entryEq_trans {a b c : OptionEntry} (h : a.entryEq b = true) (h' : b.entryEq c = true) :
    a.entryEq c = true := by
  obtain ⟨hkind, hdefault, hvalue, hdescription⟩ := entryEq_iff.mp h
  obtain ⟨hkind', hdefault', hvalue', hdescription'⟩ := entryEq_iff.mp h'
  exact entryEq_iff.mpr ⟨OptionKind.kindEq_trans hkind hkind',
    OptionValue.valueEq_trans hdefault hdefault', OptionValue.valueEq_trans hvalue hvalue',
    hdescription.trans hdescription'⟩

/-- A valid entry equals itself. -/
theorem Valid.entryEq_self {entry : OptionEntry} (h : entry.Valid) :
    entry.entryEq entry = true :=
  entryEq_iff.mpr ⟨h.default.kindEq_self, h.default.valueEq_self, h.value.valueEq_self, rfl⟩

end OptionEntry

/-- Lists are related item by item if they are so over a third list and the relation is
transitive. -/
theorem forall₂_trans {α : Type} {r : α → α → Prop} (hr : ∀ a b c, r a b → r b c → r a c)
    {first second third : List α} (h : List.Forall₂ r first second)
    (h' : List.Forall₂ r second third) : List.Forall₂ r first third := by
  induction h generalizing third with
  | nil => exact h'
  | cons hab hrest ih =>
    cases h' with
    | cons hbc hrest' => exact .cons (hr _ _ _ hab hbc) (ih hrest')

namespace OptionStore

/-- Stores are equal if they list the same names with equal entries. -/
theorem storeEq_iff {a b : OptionStore} : a.storeEq b = true ↔
    List.Forall₂ (fun p q => p.1 = q.1 ∧ p.2.entryEq q.2 = true) a.toList b.toList := by
  rw [List.forall₂_iff_zip]
  simp [storeEq, size, NameMap.size, toList]

/-- Equality of stores is symmetric. -/
theorem storeEq_symm {a b : OptionStore} (h : a.storeEq b = true) : b.storeEq a = true := by
  refine storeEq_iff.mpr ((storeEq_iff.mp h).flip.imp ?_)
  rintro p q ⟨hname, hentry⟩
  exact ⟨hname.symm, OptionEntry.entryEq_symm hentry⟩

/-- Equality of stores is transitive. -/
theorem storeEq_trans {a b c : OptionStore} (h : a.storeEq b = true) (h' : b.storeEq c = true) :
    a.storeEq c = true := by
  refine storeEq_iff.mpr (forall₂_trans ?_ (storeEq_iff.mp h) (storeEq_iff.mp h'))
  rintro p q r ⟨hname, hentry⟩ ⟨hname', hentry'⟩
  exact ⟨hname.trans hname', OptionEntry.entryEq_trans hentry hentry'⟩

/-- A valid store equals itself. -/
theorem Valid.storeEq_self {store : OptionStore} (h : store.Valid) :
    store.storeEq store = true := by
  refine storeEq_iff.mpr (List.forall₂_same.mpr ?_)
  rintro ⟨name, entry⟩ hmem
  exact ⟨rfl, (h name entry (mem_toList.mp hmem)).entryEq_self⟩

/-- A store that was made by edits, accepted or refused. -/
def Edited (store : OptionStore) : Prop :=
  ∃ edits, store = empty.applyAll edits

/-- Stores that were made by edits are valid. -/
theorem Edited.valid {store : OptionStore} (h : store.Edited) : store.Valid := by
  obtain ⟨edits, rfl⟩ := h
  exact empty_valid.applyAll edits

/-- An option is registered under a name, and holds its default. -/
def HoldsDefault (store : OptionStore) (name : String) : Prop :=
  ∃ entry, store.entries.find? name = some entry ∧ entry.isDefault = true

/-- An option that was just registered holds its default. -/
theorem holdsDefault_of_register {store store' : OptionStore} {item : Registration}
    (h : store.register item = .ok store') : store'.HoldsDefault item.name := by
  obtain ⟨-, hadmits, rfl⟩ := register_eq_ok.mp h
  exact ⟨item.entry, store.find?_put_self item.name item.entry, hadmits.valueEq_self⟩

/-- An option of a valid store that was just reset holds its default. -/
theorem Valid.holdsDefault_of_reset {store store' : OptionStore} (hvalid : store.Valid)
    {name : String} (h : store.reset name = .ok store') : store'.HoldsDefault name := by
  obtain ⟨entry, hentry, rfl⟩ := reset_eq_ok.mp h
  exact ⟨entry.restored, store.find?_put_self name entry.restored,
    (hvalid name entry hentry).default.valueEq_self⟩

/-- An option of a valid store can be set to each value whose form equals its default, and then
holds its default. -/
theorem Valid.set_holdsDefault {store : OptionStore} (hvalid : store.Valid) {name : String}
    {entry : OptionEntry} (hentry : store.entries.find? name = some entry) {value : OptionValue}
    (h : (entry.kind.canonical value).valueEq entry.default = true) :
    ∃ store', store.set name value = .ok store' ∧ store'.HoldsDefault name := by
  have hadmits := (hvalid name entry hentry).default.of_valueEq h
  refine ⟨_, set_eq_ok.mpr ⟨entry, hentry, hadmits, rfl⟩, entry.holding value, ?_, h⟩
  exact store.find?_put_self name (entry.holding value)

/-- Equality of stores is symmetric and transitive. On stores that were made by edits, accepted or
refused, with any numbers and bounds, it is reflexive too, so such a store equals its copies, also
the one that is read from its bytes. An option holds its default when it was just registered, and in
such a store when it was just reset, and when it was set to its default or to anything that is held
as a value equal to it, which is always accepted. -/
theorem edited_stores_equality_sound :
    (∀ store : OptionStore, store.Edited → store.storeEq store = true) ∧
    (∀ a b : OptionStore, a.storeEq b = true → b.storeEq a = true) ∧
    (∀ a b c : OptionStore, a.storeEq b = true → b.storeEq c = true → a.storeEq c = true) ∧
    (∀ store : OptionStore, store.Edited → OptionStore.binary.fits store → ∀ rest, ∃ decoded,
      OptionStore.binary.read (OptionStore.binary.bytes store ++ rest) = some (decoded, rest) ∧
        decoded.storeEq store = true) ∧
    (∀ (store store' : OptionStore) (item : Registration),
      store.register item = .ok store' → store'.HoldsDefault item.name) ∧
    (∀ (store store' : OptionStore) (name : String), store.Edited →
      store.reset name = .ok store' → store'.HoldsDefault name) ∧
    ∀ (store : OptionStore) (name : String) (entry : OptionEntry), store.Edited →
      store.entries.find? name = some entry →
        (∃ store', store.set name entry.default = .ok store' ∧ store'.HoldsDefault name) ∧
        ∀ value, (entry.kind.canonical value).valueEq entry.default = true →
          ∃ store', store.set name value = .ok store' ∧ store'.HoldsDefault name := by
  refine ⟨fun store h => h.valid.storeEq_self, fun a b => storeEq_symm,
    fun a b c => storeEq_trans, fun store h hfits rest => ?_,
    fun store store' item => holdsDefault_of_register,
    fun store store' name h => h.valid.holdsDefault_of_reset, fun store name entry h hentry => ?_⟩
  · exact ⟨store, read_bytes hfits rest, h.valid.storeEq_self⟩
  · have hdefault := (h.valid name entry hentry).default
    refine ⟨h.valid.set_holdsDefault hentry ?_, fun value => h.valid.set_holdsDefault hentry⟩
    rw [hdefault.canonical_eq]
    exact hdefault.valueEq_self

/-- Registering a step size whose default or bound is no number is refused. One with the default
zero is registered and set to infinity. Then it is set to the other zero, which is another value but
equals the default. So it holds its default again, and the store equals the one where the step size
was only registered, although the two are not the same. -/
theorem other_zero_holds_default :
    let zero : Binary64 := 0
    let negativeZero := Binary64.ofMagnitude true 0
    let item : Registration := .float "step" zero (.infinity true) (.infinity false) "Step size"
    let first : List StoreEdit := [.register (.float "step" .nan zero zero "Step size"),
      .register (.float "step" zero .nan zero "Step size"), .register item]
    let second : List StoreEdit := [.set "step" (.float (.infinity false)), .reset "size"]
    let registered := empty.applyAll first
    let changed := empty.applyAll (first ++ second)
    let restored := empty.applyAll (first ++ second ++ [.set "step" (.float negativeZero)])
    ¬changed.HoldsDefault "step" ∧
      changed.set "step" (.float negativeZero) = .ok restored ∧ restored.HoldsDefault "step" ∧
      restored ≠ registered ∧ restored.storeEq registered = true ∧
      restored.storeEq restored = true ∧
      (∃ decoded, OptionStore.binary.read (OptionStore.binary.bytes restored ++ [7]) =
        some (decoded, [7]) ∧ decoded.storeEq restored = true) ∧
      ∃ store', changed.reset "step" = .ok store' ∧ store'.HoldsDefault "step" := by
  intro zero negativeZero item first second registered changed restored
  obtain ⟨hself, hsymm, -, hdecoded, -, hreset, hset⟩ := edited_stores_equality_sound
  have hchanged : changed.Edited := ⟨_, rfl⟩
  have hrestored : restored.Edited := ⟨_, rfl⟩
  have hentry : changed.entries.find? "step" = some ⟨.float (.infinity true) (.infinity false),
    .float zero, .float (.infinity false), "Step size"⟩ := by decide
  have hstep : changed.set "step" (.float negativeZero) = .ok restored := by decide
  have hfits : OptionStore.binary.fits restored :=
    OptionStore.binary_bounded restored (by decide +kernel)
  obtain ⟨-, hequal⟩ := hset changed "step" _ hchanged hentry
  obtain ⟨store', hstore', hholds⟩ := hequal (.float negativeZero) (by decide)
  refine ⟨?_, hstep, ?_, by decide, hsymm _ _ (by decide), hself restored hrestored,
    hdecoded restored hrestored hfits [7], _, rfl, hreset changed _ "step" hchanged rfl⟩
  · rintro ⟨entry, hfound, hdefault⟩
    rw [hentry] at hfound
    cases hfound
    revert hdefault
    decide
  · rw [hstep] at hstore'
    cases hstore'
    exact hholds

end OptionStore

end StrategyCoordinator
