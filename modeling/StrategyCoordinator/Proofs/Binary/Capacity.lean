import StrategyCoordinator.Proofs.Binary.Points

/-!
# What formats carry

Lengths are words of eight bytes, so a format carries a value if the lengths in it fit into such a
word. A list takes at least one byte for each of its items and a text one for each of its bytes.
Hence no value is lost whose bytes are themselves few enough to be counted in such a word, and a
list that claims more items than there are bytes after the claim is refused.
-/

namespace StrategyCoordinator

open Format

/-- A double-precision number has eight bytes. -/
theorem Binary64.binary_bytes_length (x : Binary64) : (Binary64.binary.bytes x).length = 8 := by
  simp [Binary64.binary, wordBytes_length]

namespace Format

variable {α β : Type}

/-- A format carries every value whose bytes can be counted in eight bytes. -/
def Bounded (format : Format α) : Prop :=
  ∀ value, (format.bytes value).length < wordCount 8 → format.fits value

/-- A text has a byte at least. -/
theorem text_bytes_pos (value : String) : 0 < (text.bytes value).length := by
  simp only [text, List.length_append, wordBytes_length]
  omega

/-- The format of texts is bounded. -/
theorem text_bounded : text.Bounded := by
  intro value h
  simp only [text, List.length_append, wordBytes_length] at h
  show (utf8Bytes value).length < wordCount 8
  omega

/-- Pairs of values with bounded formats have one. -/
theorem Bounded.pair {first : Format α} {second : Format β} (hfirst : first.Bounded)
    (hsecond : second.Bounded) : (first.pair second).Bounded := by
  intro value h
  simp only [Format.pair, List.length_append] at h
  exact ⟨hfirst value.1 (by omega), hsecond value.2 (by omega)⟩

/-- What is in correspondence with values of a bounded format has one. -/
theorem Bounded.via {format : Format α} (h : format.Bounded) (make : α → β) (view : β → α) :
    (format.via make view).Bounded :=
  fun value => h (view value)

/-- Optional values with a bounded format have one. -/
theorem Bounded.optional {format : Format α} (h : format.Bounded) : format.optional.Bounded := by
  intro value hlength
  cases value with
  | none => exact trivial
  | some a =>
    simp only [Format.optional, List.length_append] at hlength
    exact h a (by omega)

/-- A list takes as many bytes at least as its items, if each item takes some number at least. -/
theorem size_mul_length_le {format : Format α} {size : Nat}
    (h : ∀ value, size ≤ (format.bytes value).length) (values : List α) :
    size * values.length ≤ (values.flatMap format.bytes).length := by
  induction values with
  | nil => simp
  | cons value rest ih =>
    have hvalue := h value
    simp only [List.flatMap_cons, List.length_append, List.length_cons, Nat.mul_succ]
    omega

/-- A list has no more items than bytes, if each item has one at least. -/
theorem length_le_flatMap {format : Format α} (h : ∀ value, 0 < (format.bytes value).length)
    (values : List α) : values.length ≤ (values.flatMap format.bytes).length := by
  simpa using size_mul_length_le h values

/-- The bytes of an item are no more than those of all items. -/
theorem length_le_of_mem {format : Format α} {value : α} {values : List α} (h : value ∈ values) :
    (format.bytes value).length ≤ (values.flatMap format.bytes).length := by
  induction values with
  | nil => cases h
  | cons head rest ih =>
    simp only [List.flatMap_cons, List.length_append]
    rcases List.mem_cons.mp h with rfl | h
    · omega
    · have hrest := ih h
      omega

/-- Lists of values with a bounded format have one, if each value has a byte at least. -/
theorem Bounded.list {format : Format α} (h : format.Bounded)
    (hpos : ∀ value, 0 < (format.bytes value).length) : format.list.Bounded := by
  intro values hlength
  simp only [Format.list, List.length_append] at hlength
  have hcount := length_le_flatMap hpos values
  refine ⟨by omega, fun value hvalue => h value ?_⟩
  have hitem : (format.bytes value).length ≤ (values.flatMap format.bytes).length :=
    length_le_of_mem hvalue
  omega

end Format

/-- The format of values is bounded. -/
theorem OptionValue.binary_bounded : OptionValue.binary.Bounded := by
  intro value h
  cases value with
  | bool | int | float => exact trivial
  | str a =>
    simp only [OptionValue.binary, List.length_append] at h
    exact text_bounded.optional a (by omega)
  | choice a =>
    simp only [OptionValue.binary, List.length_append] at h
    exact text_bounded a (by omega)

/-- The format of kinds is bounded. -/
theorem OptionKind.binary_bounded : OptionKind.binary.Bounded := by
  intro kind h
  cases kind with
  | bool | int | float | str => exact trivial
  | choice values =>
    simp only [OptionKind.binary, List.length_append] at h
    exact text_bounded.list text_bytes_pos values (by omega)

/-- The format of options is bounded. -/
theorem OptionEntry.binary_bounded : OptionEntry.binary.Bounded :=
  (OptionKind.binary_bounded.pair
    (OptionValue.binary_bounded.pair (OptionValue.binary_bounded.pair text_bounded))).via _ _

namespace OptionStore

/-- A named option has a byte at least. -/
theorem namedEntry_bytes_pos (named : String × OptionEntry) :
    0 < (namedEntry.bytes named).length := by
  have hname := text_bytes_pos named.1
  simp only [namedEntry, Format.pair, List.length_append]
  omega

/-- The format of named options is bounded. -/
theorem namedEntry_bounded : namedEntry.Bounded :=
  text_bounded.pair OptionEntry.binary_bounded

/-- The format of stores is bounded. -/
theorem binary_bounded : OptionStore.binary.Bounded :=
  (namedEntry_bounded.list namedEntry_bytes_pos).via _ _

end OptionStore

/-- The format of vectors is bounded. -/
theorem Vec.binary_bounded : Vec.binary.Bounded := by
  intro v h
  have hcount := size_mul_length_le (fun x => (Binary64.binary_bytes_length x).ge) v
  simp only [Vec.binary, Format.list, List.length_append] at h
  show v.length < wordCount 8
  omega

/-- The format of points is bounded. -/
theorem OptimizedPoint.binary_bounded : OptimizedPoint.binary.Bounded :=
  (Vec.binary_bounded.pair
    (Vec.binary_bounded.pair (Vec.binary_bounded.pair Vec.binary_bounded))).via _ _

end StrategyCoordinator
