import StrategyCoordinator.Binary.Options
import StrategyCoordinator.Proofs.Binary.Exactness
import StrategyCoordinator.Proofs.NameMap

/-!
# The bytes of option stores

Values, kinds, options and lists of named options are read exactly. A store is not: the names of a
list may repeat and may come in any order, so several byte lists are read as one store. But a store
is written as its list, which ascends, and an ascending list makes the store that it lists.
-/

namespace StrategyCoordinator

open Format

/-- The format of double-precision numbers is exact. -/
theorem Binary64.binary_exact : Binary64.binary.Exact := by
  have hread : Binary64.binary.read = (word 8).readWith fun n => some ⟨UInt64.ofNat n⟩ := rfl
  refine exact_of_word hread rfl (fun _ => trivial) (fun n b hlt => ?_) fun b => b.bits.toNat_lt
  rw [← ofNat_eq_iff hlt, Option.some_inj]
  constructor
  · rintro rfl
    rfl
  · intro hword
    rw [hword]

namespace OptionValue

/-- The format of values is exact. -/
theorem binary_exact : OptionValue.binary.Exact := by
  intro bytes value rest
  simp only [OptionValue.binary, Option.bind_eq_bind, Option.bind_eq_some_iff, Prod.exists,
    readWord_eq_some]
  constructor
  · rintro ⟨tag, after, ⟨-, rfl⟩, hread⟩
    split at hread
    · obtain ⟨a, ⟨rfl⟩, -, rfl⟩ := bool_exact.readWith_eq_some.mp hread
      simp
    · obtain ⟨a, ⟨rfl⟩, -, rfl⟩ := int64_exact.readWith_eq_some.mp hread
      simp
    · obtain ⟨a, ⟨rfl⟩, -, rfl⟩ := Binary64.binary_exact.readWith_eq_some.mp hread
      simp
    · obtain ⟨a, ⟨rfl⟩, hfits, rfl⟩ := text_exact.optional.readWith_eq_some.mp hread
      simp [hfits]
    · obtain ⟨a, ⟨rfl⟩, hfits, rfl⟩ := text_exact.readWith_eq_some.mp hread
      simp [hfits]
    · cases hread
  · rintro ⟨hfits, rfl⟩
    cases value with
    | bool a =>
      refine ⟨0, _, ⟨by decide, List.append_assoc ..⟩, ?_⟩
      exact bool_exact.readWith_eq_some.mpr ⟨a, rfl, trivial, rfl⟩
    | int a =>
      refine ⟨1, _, ⟨by decide, List.append_assoc ..⟩, ?_⟩
      exact int64_exact.readWith_eq_some.mpr ⟨a, rfl, trivial, rfl⟩
    | float a =>
      refine ⟨2, _, ⟨by decide, List.append_assoc ..⟩, ?_⟩
      exact Binary64.binary_exact.readWith_eq_some.mpr ⟨a, rfl, trivial, rfl⟩
    | str a =>
      refine ⟨3, _, ⟨by decide, List.append_assoc ..⟩, ?_⟩
      exact text_exact.optional.readWith_eq_some.mpr ⟨a, rfl, hfits, rfl⟩
    | choice a =>
      refine ⟨4, _, ⟨by decide, List.append_assoc ..⟩, ?_⟩
      exact text_exact.readWith_eq_some.mpr ⟨a, rfl, hfits, rfl⟩

end OptionValue

namespace OptionKind

/-- The format of kinds is exact. -/
theorem binary_exact : OptionKind.binary.Exact := by
  have hints : intBounds.Exact := int64_exact.pair int64_exact
  have hfloats : floatBounds.Exact := Binary64.binary_exact.pair Binary64.binary_exact
  intro bytes value rest
  simp only [OptionKind.binary, Option.bind_eq_bind, Option.bind_eq_some_iff, Prod.exists,
    readWord_eq_some]
  constructor
  · rintro ⟨tag, after, ⟨-, rfl⟩, hread⟩
    split at hread
    · cases hread
      exact ⟨trivial, rfl⟩
    · obtain ⟨bounds, ⟨rfl⟩, -, rfl⟩ := hints.readWith_eq_some.mp hread
      simp
    · obtain ⟨bounds, ⟨rfl⟩, -, rfl⟩ := hfloats.readWith_eq_some.mp hread
      simp
    · cases hread
      exact ⟨trivial, rfl⟩
    · obtain ⟨values, ⟨rfl⟩, hfits, rfl⟩ := text_exact.list.readWith_eq_some.mp hread
      simp [hfits]
    · cases hread
  · rintro ⟨hfits, rfl⟩
    cases value with
    | bool => exact ⟨0, rest, ⟨by decide, rfl⟩, rfl⟩
    | int lower upper =>
      refine ⟨1, _, ⟨by decide, List.append_assoc ..⟩, ?_⟩
      exact hints.readWith_eq_some.mpr ⟨(lower, upper), rfl, ⟨trivial, trivial⟩, rfl⟩
    | float lower upper =>
      refine ⟨2, _, ⟨by decide, List.append_assoc ..⟩, ?_⟩
      exact hfloats.readWith_eq_some.mpr ⟨(lower, upper), rfl, ⟨trivial, trivial⟩, rfl⟩
    | str => exact ⟨3, rest, ⟨by decide, rfl⟩, rfl⟩
    | choice values =>
      refine ⟨4, _, ⟨by decide, List.append_assoc ..⟩, ?_⟩
      exact text_exact.list.readWith_eq_some.mpr ⟨values, rfl, hfits, rfl⟩

end OptionKind

/-- The format of options is exact. -/
theorem OptionEntry.binary_exact : OptionEntry.binary.Exact :=
  (OptionKind.binary_exact.pair
    (OptionValue.binary_exact.pair (OptionValue.binary_exact.pair text_exact))).via
    (fun _ => rfl) (fun _ => rfl)

namespace OptionStore

/-- A named option in bytes: its name, and then the option. -/
def namedEntry : Format (String × OptionEntry) :=
  text.pair OptionEntry.binary

/-- The format of named options is exact. -/
theorem namedEntry_exact : namedEntry.Exact :=
  text_exact.pair OptionEntry.binary_exact

/-- What is read as a store is a list of named options, put into the store one after another. -/
theorem read_eq_some {bytes rest : List UInt8} {store : OptionStore} :
    OptionStore.binary.read bytes = some (store, rest) ↔
      ∃ pairs, namedEntry.list.fits pairs ∧ bytes = namedEntry.list.bytes pairs ++ rest ∧
        store = ⟨.ofList pairs⟩ := by
  have hlist : namedEntry.list.Exact := namedEntry_exact.list
  show (namedEntry.list.via _ _).read bytes = _ ↔ _
  simp only [Format.via, Option.bind_eq_bind, Option.bind_eq_some_iff, Prod.exists, hlist _ _ _,
    Option.pure_def, Option.some.injEq, Prod.mk.injEq]
  constructor
  · rintro ⟨pairs, after, ⟨hfits, hbytes⟩, rfl, rfl⟩
    exact ⟨pairs, hfits, hbytes, rfl⟩
  · rintro ⟨pairs, hfits, hbytes, rfl⟩
    exact ⟨pairs, rest, ⟨hfits, hbytes⟩, rfl, rfl⟩

/-- A written store is read back, and exactly its bytes are consumed. -/
theorem read_bytes {store : OptionStore} (h : OptionStore.binary.fits store) (rest : List UInt8) :
    OptionStore.binary.read (OptionStore.binary.bytes store ++ rest) = some (store, rest) :=
  read_eq_some.mpr ⟨store.toList, h, rfl, congrArg mk (NameMap.ofList_entries _).symm⟩

/-- A list of named options in name order is written as the store that it makes. -/
theorem bytes_ofList {pairs : List (String × OptionEntry)}
    (h : pairs.Pairwise fun p q => NameBefore p.1 q.1) :
    OptionStore.binary.bytes ⟨.ofList pairs⟩ = namedEntry.list.bytes pairs :=
  congrArg namedEntry.list.bytes (NameMap.entries_ofList h)

end OptionStore

end StrategyCoordinator
