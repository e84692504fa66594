import Mathlib.Data.List.Basic
import StrategyCoordinator.Binary.Format

/-!
# Exact formats

A format is exact if it reads precisely what it writes: reading gives a value and a rest exactly
if the bytes are those of the value, followed by the rest. Exactness says two things at once, that
every written value is read back, whatever follows it, and that nothing else is ever read. It is
kept by every way of putting formats together, so it is proved once for each of them.

An exact format fails on each proper part of what it writes from the front.
-/

namespace StrategyCoordinator

namespace Format

variable {α β : Type}

/-- Reading gives a value and a rest exactly if the bytes are those of a value that the format can
carry, followed by the rest. -/
def Exact (format : Format α) : Prop :=
  ∀ bytes value rest, format.read bytes = some (value, rest) ↔
    format.fits value ∧ bytes = format.bytes value ++ rest

/-- A number splits into its lowest base-256 digit and the number of the higher ones. -/
theorem digit_add_iff {digit : UInt8} {high n : Nat} :
    digit.toNat + 256 * high = n ↔ digit = UInt8.ofNat n ∧ high = n / 256 := by
  have hdigit := digit.toNat_lt
  rw [← UInt8.toNat_inj, UInt8.toNat_ofNat']
  omega

/-- The number of words grows by a factor of 256 with each byte. -/
theorem div_lt_wordCount {width n : Nat} :
    n / 256 < wordCount width ↔ n < wordCount (width + 1) := by
  rw [Nat.div_lt_iff_lt_mul (by decide)]
  rfl

/-- Words are read exactly. -/
theorem readWord_eq_some {width n : Nat} {bytes rest : List UInt8} :
    readWord width bytes = some (n, rest) ↔
      n < wordCount width ∧ bytes = wordBytes width n ++ rest := by
  induction width generalizing n bytes rest with
  | zero =>
    have hcount : n < wordCount 0 ↔ 0 = n := by
      show n < 1 ↔ 0 = n
      omega
    simp [readWord, wordBytes, hcount]
  | succ width ih =>
    cases bytes with
    | nil => simp [readWord, wordBytes]
    | cons digit bytes =>
      simp only [readWord, wordBytes, Option.bind_eq_bind, Option.bind_eq_some_iff, Prod.exists,
        Option.pure_def, Option.some.injEq, Prod.mk.injEq, ih, digit_add_iff, List.cons_append,
        List.cons.injEq, ← div_lt_wordCount]
      constructor
      · rintro ⟨high, after, ⟨hlt, hbytes⟩, ⟨hdigit, rfl⟩, rfl⟩
        exact ⟨hlt, hdigit, hbytes⟩
      · rintro ⟨hlt, hdigit, hbytes⟩
        exact ⟨n / 256, rest, ⟨hlt, hbytes⟩, ⟨hdigit, rfl⟩, rfl⟩

/-- A word is read as the number that it was written for. -/
theorem readWord_wordBytes {width n : Nat} (h : n < wordCount width) (rest : List UInt8) :
    readWord width (wordBytes width n ++ rest) = some (n, rest) :=
  readWord_eq_some.mpr ⟨h, rfl⟩

/-- The format of words is exact. -/
theorem word_exact (width : Nat) : (word width).Exact :=
  fun _ _ _ => readWord_eq_some

/-- An exact format keeps exactly the values with a counterpart. -/
theorem Exact.readWith_eq_some {format : Format α} (h : format.Exact) {make : α → Option β}
    {bytes rest : List UInt8} {b : β} :
    format.readWith make bytes = some (b, rest) ↔
      ∃ a, make a = some b ∧ format.fits a ∧ bytes = format.bytes a ++ rest := by
  simp only [readWith, Option.bind_eq_bind, Option.bind_eq_some_iff, Prod.exists, h _ _ _,
    Option.pure_def, Option.some.injEq, Prod.mk.injEq]
  constructor
  · rintro ⟨a, after, hread, b', hmake, rfl, rfl⟩
    exact ⟨a, hmake, hread⟩
  · rintro ⟨a, hmake, hread⟩
    exact ⟨a, rest, hread, b, hmake, rfl, rfl⟩

/-- A format that writes each value as the word that stands for it is exact. -/
theorem exact_of_word {format : Format β} {width : Nat} {make : Nat → Option β} {view : β → Nat}
    (hread : format.read = (word width).readWith make)
    (hbytes : format.bytes = fun b => wordBytes width (view b)) (hfits : ∀ b, format.fits b)
    (hmake : ∀ n b, n < wordCount width → (make n = some b ↔ n = view b))
    (hview : ∀ b, view b < wordCount width) : format.Exact := by
  intro bytes b rest
  rw [hread, hbytes, (word_exact width).readWith_eq_some, and_iff_right (hfits b)]
  constructor
  · rintro ⟨n, hn, hlt, hword⟩
    rwa [(hmake n b hlt).mp hn] at hword
  · intro hword
    exact ⟨view b, (hmake _ b (hview b)).mpr rfl, hview b, hword⟩

/-- The format of booleans is exact. -/
theorem bool_exact : bool.Exact := by
  refine exact_of_word rfl rfl (fun _ => trivial) (fun n b _ => ?_) fun b => ?_
  · match n with
    | 0 | 1 => cases b <;> simp [boolOfWord?]
    | n + 2 => cases b <;> simp [boolOfWord?]
  · cases b <;> decide

/-- A 64-bit word is given by its number. -/
theorem ofNat_eq_iff {n : Nat} (h : n < wordCount 8) {word : UInt64} :
    UInt64.ofNat n = word ↔ n = word.toNat := by
  rw [← UInt64.toNat_inj, UInt64.toNat_ofNat_of_lt' h]

/-- The format of integers is exact. -/
theorem int64_exact : int64.Exact := by
  have hread : int64.read =
      (word 8).readWith fun n => some (Int64.ofUInt64 (UInt64.ofNat n)) := rfl
  refine exact_of_word hread rfl (fun _ => trivial) (fun n b hlt => ?_)
    fun b => b.toUInt64.toNat_lt
  rw [← ofNat_eq_iff hlt, Option.some_inj]
  constructor
  · rintro rfl
    rfl
  · intro hword
    rw [hword]

/-- A number of bytes is taken from the front exactly. -/
theorem takeBytes_eq_some {count : Nat} {bytes content rest : List UInt8} :
    takeBytes count bytes = some (content, rest) ↔
      content.length = count ∧ bytes = content ++ rest := by
  simp only [takeBytes, Option.ite_none_right_eq_some, List.splitAt_eq, Option.some.injEq,
    Prod.mk.injEq]
  constructor
  · rintro ⟨hlength, rfl, rfl⟩
    exact ⟨List.length_take_of_le hlength, (List.take_append_drop count bytes).symm⟩
  · rintro ⟨rfl, rfl⟩
    simp

/-- The text of some bytes is the one that has these as its UTF-8 bytes. -/
theorem textOfBytes?_eq_some {content : List UInt8} {value : String} :
    textOfBytes? content = some value ↔ content = utf8Bytes value := by
  constructor
  · intro h
    obtain ⟨hvalid, heq⟩ := Option.dite_none_right_eq_some.mp h
    cases heq
    rfl
  · rintro rfl
    have hbytes : ByteArray.mk (utf8Bytes value).toArray = value.toByteArray := rfl
    rw [textOfBytes?, hbytes]
    exact dif_pos value.isValidUTF8

/-- The format of texts is exact. -/
theorem text_exact : text.Exact := by
  intro bytes value rest
  simp only [text, Option.bind_eq_bind, Option.bind_eq_some_iff, Prod.exists, readWord_eq_some,
    takeBytes_eq_some, textOfBytes?_eq_some, Option.pure_def, Option.some.injEq, Prod.mk.injEq]
  constructor
  · rintro ⟨count, after, ⟨hlt, rfl⟩, content, after', ⟨rfl, rfl⟩, value', rfl, rfl, rfl⟩
    exact ⟨hlt, (List.append_assoc ..).symm⟩
  · rintro ⟨hlt, rfl⟩
    exact ⟨_, _, ⟨hlt, List.append_assoc ..⟩, _, _, ⟨rfl, rfl⟩, value, rfl, rfl, rfl⟩

/-- Pairs of values with exact formats are read exactly. -/
theorem Exact.pair {first : Format α} {second : Format β} (hfirst : first.Exact)
    (hsecond : second.Exact) : (first.pair second).Exact := by
  rintro bytes ⟨a, b⟩ rest
  simp only [Format.pair, Option.bind_eq_bind, Option.bind_eq_some_iff, Prod.exists, hfirst _ _ _,
    hsecond _ _ _, Option.pure_def, Option.some.injEq, Prod.mk.injEq]
  constructor
  · rintro ⟨a', after, ⟨hfits, rfl⟩, b', after', ⟨hfits', rfl⟩, ⟨rfl, rfl⟩, rfl⟩
    exact ⟨⟨hfits, hfits'⟩, (List.append_assoc ..).symm⟩
  · rintro ⟨⟨hfits, hfits'⟩, rfl⟩
    exact ⟨a, _, ⟨hfits, List.append_assoc ..⟩, b, rest, ⟨hfits', rfl⟩, ⟨rfl, rfl⟩, rfl⟩

/-- What is in correspondence with values of an exact format is read exactly. -/
theorem Exact.via {format : Format α} (h : format.Exact) {make : α → β} {view : β → α}
    (hmake : ∀ a, view (make a) = a) (hview : ∀ b, make (view b) = b) :
    (format.via make view).Exact := by
  intro bytes value rest
  simp only [Format.via, Option.bind_eq_bind, Option.bind_eq_some_iff, Prod.exists, h _ _ _,
    Option.pure_def, Option.some.injEq, Prod.mk.injEq]
  constructor
  · rintro ⟨a, after, hread, rfl, rfl⟩
    rwa [hmake]
  · intro hread
    exact ⟨view value, rest, hread, hview value, rfl⟩

/-- As many values as asked for are read exactly. -/
theorem Exact.readMany_eq_some {format : Format α} (h : format.Exact) {count : Nat}
    {bytes rest : List UInt8} {values : List α} :
    format.readMany count bytes = some (values, rest) ↔
      values.length = count ∧ (∀ value ∈ values, format.fits value) ∧
        bytes = values.flatMap format.bytes ++ rest := by
  induction count generalizing bytes values rest with
  | zero =>
    simp only [readMany, Option.some.injEq, Prod.mk.injEq, List.length_eq_zero_iff]
    constructor
    · rintro ⟨rfl, rfl⟩
      simp
    · rintro ⟨rfl, -, rfl⟩
      simp
  | succ count ih =>
    simp only [readMany, Option.bind_eq_bind, Option.bind_eq_some_iff, Prod.exists, h _ _ _, ih,
      Option.pure_def, Option.some.injEq, Prod.mk.injEq]
    constructor
    · rintro ⟨first, after, ⟨hfirst, rfl⟩, others, after', ⟨hcount, hothers, rfl⟩, rfl, rfl⟩
      exact ⟨congrArg Nat.succ hcount, List.forall_mem_cons.mpr ⟨hfirst, hothers⟩,
        by rw [List.flatMap_cons, List.append_assoc]⟩
    · rintro ⟨hcount, hfits, rfl⟩
      obtain ⟨first, others, rfl⟩ := List.exists_cons_of_length_eq_add_one hcount
      obtain ⟨hfirst, hothers⟩ := List.forall_mem_cons.mp hfits
      rw [List.flatMap_cons, List.append_assoc]
      exact ⟨first, _, ⟨hfirst, rfl⟩, others, rest, ⟨Nat.succ.inj hcount, hothers, rfl⟩, rfl, rfl⟩

/-- Lists of values with an exact format are read exactly. -/
theorem Exact.list {format : Format α} (h : format.Exact) : format.list.Exact := by
  intro bytes values rest
  simp only [Format.list, Option.bind_eq_bind, Option.bind_eq_some_iff, Prod.exists,
    readWord_eq_some, h.readMany_eq_some]
  constructor
  · rintro ⟨count, after, ⟨hlt, rfl⟩, rfl, hfits, rfl⟩
    exact ⟨⟨hlt, hfits⟩, (List.append_assoc ..).symm⟩
  · rintro ⟨⟨hlt, hfits⟩, rfl⟩
    exact ⟨_, _, ⟨hlt, List.append_assoc ..⟩, rfl, hfits, rfl⟩

/-- Optional values with an exact format are read exactly. -/
theorem Exact.optional {format : Format α} (h : format.Exact) : format.optional.Exact := by
  intro bytes value rest
  simp only [Format.optional, Option.bind_eq_bind, Option.bind_eq_some_iff, Prod.exists,
    readWord_eq_some]
  constructor
  · rintro ⟨tag, after, ⟨-, rfl⟩, hread⟩
    split at hread
    · cases hread
      exact ⟨trivial, rfl⟩
    · obtain ⟨a, ⟨rfl⟩, hfits, rfl⟩ := h.readWith_eq_some.mp hread
      exact ⟨hfits, (List.append_assoc ..).symm⟩
    · cases hread
  · rintro ⟨hfits, rfl⟩
    cases value with
    | none => exact ⟨0, rest, ⟨by decide, rfl⟩, rfl⟩
    | some a =>
      refine ⟨1, format.bytes a ++ rest, ⟨by decide, List.append_assoc ..⟩, ?_⟩
      exact h.readWith_eq_some.mpr ⟨a, rfl, hfits, rfl⟩

namespace Exact

variable {format : Format α}

/-- A written value is read back, and exactly its bytes are consumed. -/
theorem read_bytes (h : format.Exact) {value : α} (hfits : format.fits value)
    (rest : List UInt8) : format.read (format.bytes value ++ rest) = some (value, rest) :=
  (h _ _ _).mpr ⟨hfits, rfl⟩

/-- What can be read from some bytes can be read from the same bytes with more after them. -/
theorem read_append (h : format.Exact) {bytes rest : List UInt8} {value : α}
    (hread : format.read bytes = some (value, rest)) (more : List UInt8) :
    format.read (bytes ++ more) = some (value, rest ++ more) := by
  obtain ⟨hfits, rfl⟩ := (h _ _ _).mp hread
  rw [List.append_assoc]
  exact h.read_bytes hfits (rest ++ more)

end Exact

end Format

end StrategyCoordinator
