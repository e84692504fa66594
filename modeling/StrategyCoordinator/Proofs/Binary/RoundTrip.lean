import StrategyCoordinator.Options.Edit
import StrategyCoordinator.Proofs.Binary.Capacity

/-!
# What is written is read back

Whatever a format can carry is read back from its bytes, and what follows them is left. On a proper
part of the bytes from the front reading fails. The second law follows from the first: if a part
were enough to read a value, the same value would be read from the whole, and some of the bytes
that were written would be left over.
-/

namespace StrategyCoordinator

namespace Format

variable {α : Type}

/-- A value can be written and read back. -/
structure ReadsBack (format : Format α) (value : α) : Prop where
  /-- Whatever follows the bytes of the value, it is read, and exactly its bytes are consumed. -/
  whole : ∀ rest, format.read (format.bytes value ++ rest) = some (value, rest)
  /-- Reading fails on each proper part of its bytes from the front. -/
  part : ∀ part, part <+: format.bytes value → part ≠ format.bytes value →
    format.read part = none

/-- If a reading stays the same when more bytes follow, then a value that is read back from all of
its bytes is not read from a part of them. -/
theorem readsBack_of_whole {format : Format α} {value : α}
    (hwhole : ∀ rest, format.read (format.bytes value ++ rest) = some (value, rest))
    (hmore : ∀ bytes rest other, format.read bytes = some (other, rest) → ∀ more,
      format.read (bytes ++ more) = some (other, rest ++ more)) : format.ReadsBack value := by
  refine ⟨hwhole, ?_⟩
  rintro part ⟨more, hpart⟩ hne
  cases hread : format.read part with
  | none => rfl
  | some found =>
    have hfound := hmore part found.2 found.1 hread more
    have hvalue := hwhole []
    rw [List.append_nil, ← hpart, hfound] at hvalue
    obtain ⟨-, hleft⟩ := Prod.mk.inj (Option.some.inj hvalue)
    obtain ⟨-, rfl⟩ := List.append_eq_nil_iff.mp hleft
    rw [List.append_nil] at hpart
    exact absurd hpart hne

/-- Every value that an exact format can carry is read back. -/
theorem Exact.readsBack {format : Format α} (h : format.Exact) {value : α}
    (hfits : format.fits value) : format.ReadsBack value :=
  readsBack_of_whole (h.read_bytes hfits) fun _ _ _ hread => h.read_append hread

end Format

namespace OptionStore

/-- What is read as a store stays the same when more bytes follow. -/
theorem read_append {bytes rest : List UInt8} {store : OptionStore}
    (h : OptionStore.binary.read bytes = some (store, rest)) (more : List UInt8) :
    OptionStore.binary.read (bytes ++ more) = some (store, rest ++ more) := by
  obtain ⟨pairs, hfits, rfl, rfl⟩ := read_eq_some.mp h
  exact read_eq_some.mpr ⟨pairs, hfits, List.append_assoc .., rfl⟩

/-- Every store that the format can carry is read back. -/
theorem readsBack {store : OptionStore} (h : OptionStore.binary.fits store) :
    OptionStore.binary.ReadsBack store :=
  Format.readsBack_of_whole (read_bytes h) fun _ _ _ hread => read_append hread

end OptionStore

/-- Every store and every point whose lengths fit into the eight bytes that are there for them, and
every strategy and every curvature approximation, is read back from its bytes, whatever follows
them, and not from a proper part of them. Lengths fit whenever the bytes can be counted in eight
bytes themselves. -/
theorem stored_values_read_back :
    (∀ store, OptionStore.binary.fits store → OptionStore.binary.ReadsBack store) ∧
      (∀ point, OptimizedPoint.binary.fits point → OptimizedPoint.binary.ReadsBack point) ∧
      (∀ algorithm, Algorithm.binary.ReadsBack algorithm) ∧
      (∀ kind, QuasiNewtonKind.binary.ReadsBack kind) ∧
      OptionStore.binary.Bounded ∧ OptimizedPoint.binary.Bounded := by
  refine ⟨fun store h => OptionStore.readsBack h,
    fun point h => OptimizedPoint.binary_exact.readsBack h,
    fun algorithm => Algorithm.binary_exact.readsBack trivial,
    fun kind => QuasiNewtonKind.binary_exact.readsBack trivial,
    OptionStore.binary_bounded, OptimizedPoint.binary_bounded⟩

/-- A store with a text that is not set and a choice, and a point with vectors of several lengths
that hold a value that is not a number, are read back. -/
theorem unset_text_read_back :
    let store := (OptionStore.empty.registerAll [.str "größe" none "",
      .choice "kind" "sr1" ["bfgs", "sr1"] "The approximation"]).1
    let point : OptimizedPoint Binary64 := ⟨[.nan, 0], ⟨[], [0], []⟩⟩
    OptionStore.binary.fits store ∧ OptimizedPoint.binary.fits point ∧
      OptionStore.binary.read (OptionStore.binary.bytes store ++ [7]) = some (store, [7]) ∧
      OptimizedPoint.binary.read (OptimizedPoint.binary.bytes point).dropLast = none := by
  intro store point
  obtain ⟨hstores, hpoints, -, -, hstore, hpoint⟩ := stored_values_read_back
  have hfits : OptionStore.binary.fits store := hstore store (by decide +kernel)
  have hfits' : OptimizedPoint.binary.fits point := hpoint point (by decide)
  refine ⟨hfits, hfits', (hstores store hfits).whole [7], ?_⟩
  exact (hpoints point hfits').part _ (List.dropLast_prefix _) (by decide)

end StrategyCoordinator
