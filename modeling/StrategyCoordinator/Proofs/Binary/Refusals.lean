import StrategyCoordinator.Proofs.Binary.RoundTrip

/-!
# What readers accept and refuse

Points, strategies and curvature approximations are read from bytes that start with what is written
for them, and from no others. A store is read from bytes that start with a list of named options,
in any order and with repeated names; the last option of a name is the one that the store gets.

So every defect is refused: bytes that end too early, whatever length they claim, a tag that no
value has, bytes that are not UTF-8, another version of the vector format, and a vector with two
lengths. A defect in a part of the bytes is one of the whole.
-/

namespace StrategyCoordinator

namespace Format

variable {α β : Type}

/-- A word cannot be read exactly if there are too few bytes. -/
theorem readWord_eq_none_iff {width : Nat} {bytes : List UInt8} :
    readWord width bytes = none ↔ bytes.length < width := by
  induction width generalizing bytes with
  | zero => simp [readWord]
  | succ width ih =>
    cases bytes with
    | nil => simp [readWord]
    | cons digit bytes =>
      rw [List.length_cons, Nat.succ_lt_succ_iff, ← ih]
      cases hhigh : readWord width bytes <;> simp [readWord, hhigh]

/-- A pair cannot be read exactly if its first part, or its second part after the first, cannot be
read. -/
theorem pair_eq_none_iff {first : Format α} {second : Format β} {bytes : List UInt8} :
    (first.pair second).read bytes = none ↔ first.read bytes = none ∨
      ∃ a rest, first.read bytes = some (a, rest) ∧ second.read rest = none := by
  cases hfirst : first.read bytes with
  | none => simp [Format.pair, hfirst]
  | some found =>
    obtain ⟨a, rest⟩ := found
    cases hsecond : second.read rest <;> simp [Format.pair, hfirst, hsecond]

/-- As many values as asked for cannot be read if one of them cannot. -/
theorem Exact.readMany_eq_none {format : Format α} (h : format.Exact) {values : List α}
    (hfits : ∀ value ∈ values, format.fits value) {count : Nat} (hcount : values.length < count)
    {bad : List UInt8} (hbad : format.read bad = none) :
    format.readMany count (values.flatMap format.bytes ++ bad) = none := by
  induction values generalizing count with
  | nil =>
    obtain ⟨count, rfl⟩ := Nat.exists_eq_add_of_lt hcount
    simp [readMany, hbad]
  | cons value values ih =>
    obtain ⟨count, rfl⟩ := Nat.exists_eq_add_one_of_ne_zero (Nat.ne_zero_of_lt hcount)
    obtain ⟨hvalue, hrest⟩ := List.forall_mem_cons.mp hfits
    rw [List.flatMap_cons, List.append_assoc]
    simp [readMany, h.read_bytes hvalue, ih hrest (Nat.lt_of_succ_lt_succ hcount)]

/-- As many values as asked for cannot be read exactly if, after some of them, the next one cannot
be read. -/
theorem Exact.readMany_eq_none_iff {format : Format α} (h : format.Exact) {count : Nat}
    {content : List UInt8} :
    format.readMany count content = none ↔ ∃ (values : List α) (bad : List UInt8),
      values.length < count ∧ (∀ value ∈ values, format.fits value) ∧
      content = values.flatMap format.bytes ++ bad ∧ format.read bad = none := by
  constructor
  · intro hnone
    induction count generalizing content with
    | zero => cases hnone
    | succ count ih =>
      cases hfirst : format.read content with
      | none => exact ⟨[], content, Nat.succ_pos count, by simp, rfl, hfirst⟩
      | some found =>
        obtain ⟨value, after⟩ := found
        obtain ⟨hvalue, rfl⟩ := (h _ _ _).mp hfirst
        have hafter : format.readMany count after = none := by
          cases hothers : format.readMany count after with
          | none => rfl
          | some others => simp [readMany, hfirst, hothers] at hnone
        obtain ⟨values, bad, hcount, hvalues, rfl, hbad⟩ := ih hafter
        refine ⟨value :: values, bad, Nat.succ_lt_succ hcount,
          List.forall_mem_cons.mpr ⟨hvalue, hvalues⟩, ?_, hbad⟩
        rw [List.flatMap_cons, List.append_assoc]
  · rintro ⟨values, bad, hcount, hfits, rfl, hbad⟩
    exact h.readMany_eq_none hfits hcount hbad

/-- Without enough bytes for as many values as asked for, reading them fails. -/
theorem Exact.readMany_eq_none_of_short {format : Format α} (h : format.Exact) {size : Nat}
    (hsize : ∀ value, size ≤ (format.bytes value).length) {count : Nat} {content : List UInt8}
    (hshort : content.length < size * count) : format.readMany count content = none := by
  cases hread : format.readMany count content with
  | none => rfl
  | some found =>
    obtain ⟨hcount, -, rfl⟩ := h.readMany_eq_some.mp hread
    have hlength := size_mul_length_le hsize found.1
    rw [List.length_append] at hshort
    rw [hcount] at hlength
    omega

/-- A list is read as the number of items that it claims. -/
theorem list_read {format : Format α} {count : Nat} (h : count < wordCount 8)
    (content : List UInt8) :
    format.list.read (wordBytes 8 count ++ content) = format.readMany count content := by
  simp [list, readWord_wordBytes h]

/-- A list cannot be read exactly if it has no complete count, or if fewer items than it claims are
followed by one that cannot be read. -/
theorem Exact.list_eq_none_iff {format : Format α} (h : format.Exact) {bytes : List UInt8} :
    format.list.read bytes = none ↔ bytes.length < 8 ∨
      ∃ (count : Nat) (values : List α) (bad : List UInt8), count < wordCount 8 ∧
        values.length < count ∧ (∀ value ∈ values, format.fits value) ∧
        bytes = wordBytes 8 count ++ (values.flatMap format.bytes ++ bad) ∧
        format.read bad = none := by
  rw [← readWord_eq_none_iff]
  constructor
  · intro hnone
    cases hword : readWord 8 bytes with
    | none => exact .inl rfl
    | some found =>
      obtain ⟨count, content⟩ := found
      obtain ⟨hcount, rfl⟩ := readWord_eq_some.mp hword
      rw [list_read hcount, h.readMany_eq_none_iff] at hnone
      obtain ⟨values, bad, hvalues, hfits, rfl, hbad⟩ := hnone
      exact .inr ⟨count, values, bad, hcount, hvalues, hfits, rfl, hbad⟩
  · rintro (hword | ⟨count, values, bad, hcount, hvalues, hfits, rfl, hbad⟩)
    · simp [Format.list, hword]
    · rw [list_read hcount, h.readMany_eq_none hfits hvalues hbad]

/-- What is in correspondence with other values cannot be read exactly if those cannot. -/
theorem via_eq_none_iff {format : Format α} {make : α → β} {view : β → α} {bytes : List UInt8} :
    (format.via make view).read bytes = none ↔ format.read bytes = none := by
  cases hread : format.read bytes <;> simp [Format.via, hread]

/-- A word that stands for nothing is refused. -/
theorem readWith_word_eq_none {width : Nat} {make : Nat → Option β} {n : Nat}
    (h : n < wordCount width) (hmake : make n = none) (rest : List UInt8) :
    (word width).readWith make (wordBytes width n ++ rest) = none := by
  have hread : (word width).read (wordBytes width n ++ rest) = some (n, rest) :=
    readWord_wordBytes h rest
  simp [readWith, hread, hmake]

/-- Values that all have a counterpart cannot be read with it exactly if they cannot be read. -/
theorem readWith_some_eq_none_iff {format : Format α} {make : α → β} {bytes : List UInt8} :
    format.readWith (fun a => some (make a)) bytes = none ↔ format.read bytes = none := by
  cases hread : format.read bytes <;> simp [readWith, hread]

/-- A byte that is neither zero nor one marks no presence. -/
theorem optional_eq_none {format : Format α} {tag : Nat} (h : 2 ≤ tag) (hlt : tag < wordCount 1)
    (rest : List UInt8) : format.optional.read (wordBytes 1 tag ++ rest) = none := by
  obtain ⟨tag, rfl⟩ := Nat.exists_eq_add_of_le' h
  simp [optional, readWord_wordBytes hlt]

/-- Bytes that are not UTF-8 are no text. -/
theorem text_eq_none {content : List UInt8} (hlt : content.length < wordCount 8)
    (h : ¬ByteArray.IsValidUTF8 ⟨content.toArray⟩) (rest : List UInt8) :
    text.read (wordBytes 8 content.length ++ (content ++ rest)) = none := by
  have htake : takeBytes content.length (content ++ rest) = some (content, rest) :=
    takeBytes_eq_some.mpr ⟨rfl, rfl⟩
  have hnone : textOfBytes? content = none := dif_neg h
  simp [text, readWord_wordBytes hlt, htake, hnone]

/-- A text that claims more bytes than there are is refused. -/
theorem text_eq_none_of_short {count : Nat} {content : List UInt8} (hlt : count < wordCount 8)
    (h : content.length < count) : text.read (wordBytes 8 count ++ content) = none := by
  have htake : takeBytes count content = none := if_neg (Nat.not_le.mpr h)
  simp [text, readWord_wordBytes hlt, htake]

/-- Reading with an exact format fails on all bytes that do not start with those of a value. -/
theorem Exact.read_eq_none_iff {format : Format α} (h : format.Exact) {bytes : List UInt8} :
    format.read bytes = none ↔
      ∀ value rest, format.fits value → bytes ≠ format.bytes value ++ rest := by
  rw [Option.eq_none_iff_forall_ne_some, Prod.forall]
  refine forall₂_congr fun value rest => ?_
  rw [Ne, h bytes value rest, not_and]

end Format

open Format

namespace OptionValue

/-- The tag of no value is refused. -/
theorem read_eq_none {tag : Nat} (h : 5 ≤ tag) (hlt : tag < wordCount 4) (rest : List UInt8) :
    OptionValue.binary.read (wordBytes 4 tag ++ rest) = none := by
  obtain ⟨tag, rfl⟩ := Nat.exists_eq_add_of_le' h
  simp [OptionValue.binary, readWord_wordBytes hlt]

/-- After the tag of a boolean, a text or a choice, the value cannot be read exactly if its content
cannot be read. -/
theorem content_eq_none_iff (content : List UInt8) :
    (OptionValue.binary.read (wordBytes 4 0 ++ content) = none ↔ Format.bool.read content = none) ∧
    (OptionValue.binary.read (wordBytes 4 3 ++ content) = none ↔
      Format.text.optional.read content = none) ∧
    (OptionValue.binary.read (wordBytes 4 4 ++ content) = none ↔
      Format.text.read content = none) := by
  have hbool : 0 < wordCount 4 := by decide
  have hstr : 3 < wordCount 4 := by decide
  have hchoice : 4 < wordCount 4 := by decide
  simp [OptionValue.binary, readWord_wordBytes hbool, readWord_wordBytes hstr,
    readWord_wordBytes hchoice, readWith_some_eq_none_iff]

end OptionValue

namespace OptionKind

/-- The tag of no kind is refused. -/
theorem read_eq_none {tag : Nat} (h : 5 ≤ tag) (hlt : tag < wordCount 4) (rest : List UInt8) :
    OptionKind.binary.read (wordBytes 4 tag ++ rest) = none := by
  obtain ⟨tag, rfl⟩ := Nat.exists_eq_add_of_le' h
  simp [OptionKind.binary, readWord_wordBytes hlt]

/-- After the tag of a choice, the kind cannot be read exactly if its choices cannot be read. -/
theorem content_eq_none_iff (content : List UInt8) :
    OptionKind.binary.read (wordBytes 4 4 ++ content) = none ↔
      text.list.read content = none := by
  have hchoice : 4 < wordCount 4 := by decide
  simp [OptionKind.binary, readWord_wordBytes hchoice, readWith_some_eq_none_iff]

end OptionKind

namespace Vec

/-- Another version of the vector format is refused. -/
theorem read_eq_none_of_version {version : Nat} (h : version ≠ formatVersion)
    (hlt : version < wordCount 1) (rest : List UInt8) :
    Vec.binary.read (wordBytes 1 version ++ rest) = none := by
  simp [Vec.binary, readWord_wordBytes hlt, h]

/-- A vector that claims more items than the bytes are enough for is refused. -/
theorem read_eq_none_of_short {length count : Nat} {content : List UInt8}
    (hlt : length < wordCount 8) (hcount : count < wordCount 8)
    (hshort : content.length < 8 * count) :
    Vec.binary.read (wordBytes 1 formatVersion ++ (wordBytes 8 length ++
      (wordBytes 8 count ++ content))) = none := by
  have hversion : formatVersion < wordCount 1 := by decide
  have hlist : Binary64.binary.list.read (wordBytes 8 count ++ content) = none :=
    (list_read hcount content).trans (Binary64.binary_exact.readMany_eq_none_of_short
      (fun x => (Binary64.binary_bytes_length x).ge) hshort)
  simp [Vec.binary, readWord_wordBytes hversion, readWord_wordBytes hlt, hlist]

/-- A vector whose two lengths disagree is refused. -/
theorem read_eq_none_of_length {length : Nat} {v : Vec Binary64} (hlt : length < wordCount 8)
    (hlt' : v.length < wordCount 8) (h : v.length ≠ length) (rest : List UInt8) :
    Vec.binary.read (wordBytes 1 formatVersion ++ (wordBytes 8 length ++
      (Binary64.binary.list.bytes v ++ rest))) = none := by
  have hversion : formatVersion < wordCount 1 := by decide
  have hlist := Binary64.binary_exact.list.read_bytes ⟨hlt', fun _ _ => trivial⟩ rest
  simp [Vec.binary, readWord_wordBytes hversion, readWord_wordBytes hlt, hlist, h]

end Vec

/-- The defects of bytes, and where in the bytes they may be. -/
structure DefectsRefused : Prop where
  /-- Too few bytes for a word. -/
  word : ∀ (width : Nat) bytes, bytes.length < width → (Format.word width).read bytes = none
  /-- The tag of no strategy. -/
  algorithm : ∀ tag rest, Algorithm.all.length ≤ tag → tag < wordCount 4 →
    Algorithm.binary.read (wordBytes 4 tag ++ rest) = none
  /-- The tag of no curvature approximation. -/
  curvature : ∀ tag rest, QuasiNewtonKind.all.length ≤ tag → tag < wordCount 4 →
    QuasiNewtonKind.binary.read (wordBytes 4 tag ++ rest) = none
  /-- The tag of no kind. -/
  kind : ∀ tag rest, 5 ≤ tag → tag < wordCount 4 →
    OptionKind.binary.read (wordBytes 4 tag ++ rest) = none
  /-- The tag of no value. -/
  value : ∀ tag rest, 5 ≤ tag → tag < wordCount 4 →
    OptionValue.binary.read (wordBytes 4 tag ++ rest) = none
  /-- A byte that is no boolean. -/
  bool : ∀ tag rest, 2 ≤ tag → tag < wordCount 1 →
    Format.bool.read (wordBytes 1 tag ++ rest) = none
  /-- A byte that says neither that there is a text nor that there is none. -/
  presence : ∀ tag rest, 2 ≤ tag → tag < wordCount 1 →
    text.optional.read (wordBytes 1 tag ++ rest) = none
  /-- Bytes that are not UTF-8. -/
  encoding : ∀ (content rest : List UInt8), content.length < wordCount 8 →
    ¬ByteArray.IsValidUTF8 ⟨content.toArray⟩ →
      text.read (wordBytes 8 content.length ++ (content ++ rest)) = none
  /-- A text that claims more bytes than there are. -/
  textCount : ∀ count content, count < wordCount 8 → content.length < count →
    text.read (wordBytes 8 count ++ content) = none
  /-- A store that claims more options than there are bytes. -/
  storeCount : ∀ count content, count < wordCount 8 → content.length < count →
    OptionStore.binary.read (wordBytes 8 count ++ content) = none
  /-- A kind that claims more choices than there are bytes. -/
  choiceCount : ∀ count content, count < wordCount 8 → content.length < count →
    OptionKind.binary.read (wordBytes 4 4 ++ (wordBytes 8 count ++ content)) = none
  /-- A vector that claims more numbers than the bytes are enough for. -/
  numberCount : ∀ length count content, length < wordCount 8 → count < wordCount 8 →
    content.length < 8 * count →
      Vec.binary.read (wordBytes 1 Vec.formatVersion ++ (wordBytes 8 length ++
        (wordBytes 8 count ++ content))) = none
  /-- Another version of the vector format. -/
  version : ∀ version rest, version ≠ Vec.formatVersion → version < wordCount 1 →
    Vec.binary.read (wordBytes 1 version ++ rest) = none
  /-- A vector whose length is not the number of its items. -/
  length : ∀ (length : Nat) (v : Vec Binary64) rest, length < wordCount 8 →
    v.length < wordCount 8 → v.length ≠ length →
      Vec.binary.read (wordBytes 1 Vec.formatVersion ++ (wordBytes 8 length ++
        (Binary64.binary.list.bytes v ++ rest))) = none
  /-- A defect in the first part of a pair, or in the second part after the first. -/
  part : ∀ {α β : Type} (first : Format α) (second : Format β) bytes,
    (first.pair second).read bytes = none ↔ first.read bytes = none ∨
      ∃ a rest, first.read bytes = some (a, rest) ∧ second.read rest = none
  /-- A defect after the tag of a value. -/
  content : ∀ content,
    (OptionValue.binary.read (wordBytes 4 0 ++ content) = none ↔ Format.bool.read content = none) ∧
    (OptionValue.binary.read (wordBytes 4 3 ++ content) = none ↔
      text.optional.read content = none) ∧
    (OptionValue.binary.read (wordBytes 4 4 ++ content) = none ↔ text.read content = none)
  /-- A defect in the number of options of a store, or in one that follows others. -/
  store : ∀ bytes, OptionStore.binary.read bytes = none ↔ bytes.length < 8 ∨
    ∃ (count : Nat) (good : List (String × OptionEntry)) (bad : List UInt8),
      count < wordCount 8 ∧ good.length < count ∧
        (∀ named ∈ good, OptionStore.namedEntry.fits named) ∧
        bytes = wordBytes 8 count ++ (good.flatMap OptionStore.namedEntry.bytes ++ bad) ∧
        OptionStore.namedEntry.read bad = none

/-- All defects are refused. -/
theorem defectsRefused : DefectsRefused where
  word _ _ h := readWord_eq_none_iff.mpr h
  algorithm tag rest h hlt := readWith_word_eq_none hlt (List.getElem?_eq_none h) rest
  curvature tag rest h hlt := readWith_word_eq_none hlt (List.getElem?_eq_none h) rest
  kind _ rest h hlt := OptionKind.read_eq_none h hlt rest
  value _ rest h hlt := OptionValue.read_eq_none h hlt rest
  bool tag rest h hlt := by
    obtain ⟨tag, rfl⟩ := Nat.exists_eq_add_of_le' h
    exact readWith_word_eq_none hlt rfl rest
  presence _ rest h hlt := optional_eq_none h hlt rest
  encoding _ rest hlt h := text_eq_none hlt h rest
  textCount _ _ hlt h := text_eq_none_of_short hlt h
  storeCount count content hlt h := by
    have hone : content.length < 1 * count := by omega
    have hmany := OptionStore.namedEntry_exact.readMany_eq_none_of_short
      OptionStore.namedEntry_bytes_pos hone
    exact via_eq_none_iff.mpr ((list_read hlt content).trans hmany)
  choiceCount count content hlt h := by
    have hone : content.length < 1 * count := by omega
    have hmany := text_exact.readMany_eq_none_of_short text_bytes_pos hone
    exact (OptionKind.content_eq_none_iff _).mpr ((list_read hlt content).trans hmany)
  numberCount _ _ _ hlt hcount h := Vec.read_eq_none_of_short hlt hcount h
  version _ rest h hlt := Vec.read_eq_none_of_version h hlt rest
  length _ _ rest hlt hlt' h := Vec.read_eq_none_of_length hlt hlt' h rest
  part _ _ _ := pair_eq_none_iff
  content := OptionValue.content_eq_none_iff
  store _ := via_eq_none_iff.trans OptionStore.namedEntry_exact.list_eq_none_iff

/-- Points, strategies and curvature approximations are read from the bytes that start with theirs,
and stores from the bytes that start with a list of named options, which are put into the store one
after another; so the last of equal names wins, a store is read from its own bytes, and a list in
name order is what is written for the store that is read from it. Whatever starts with no such
bytes is refused, and so is each defect that the bytes may have. Lengths fit whenever the bytes can
be counted in eight bytes themselves. -/
theorem reads_no_other_bytes :
    (∀ bytes point rest, OptimizedPoint.binary.read bytes = some (point, rest) ↔
      OptimizedPoint.binary.fits point ∧ bytes = OptimizedPoint.binary.bytes point ++ rest) ∧
    (∀ bytes algorithm rest, Algorithm.binary.read bytes = some (algorithm, rest) ↔
      bytes = Algorithm.binary.bytes algorithm ++ rest) ∧
    (∀ bytes kind rest, QuasiNewtonKind.binary.read bytes = some (kind, rest) ↔
      bytes = QuasiNewtonKind.binary.bytes kind ++ rest) ∧
    (∀ bytes store rest, OptionStore.binary.read bytes = some (store, rest) ↔
      ∃ pairs, OptionStore.namedEntry.list.fits pairs ∧
        bytes = OptionStore.namedEntry.list.bytes pairs ++ rest ∧ store = ⟨.ofList pairs⟩) ∧
    (∀ (pairs : List (String × OptionEntry)) name,
      (NameMap.ofList pairs).find? name = NameMap.lookup name pairs.reverse) ∧
    (∀ store, OptionStore.binary.fits store →
      OptionStore.binary.read (OptionStore.binary.bytes store) = some (store, [])) ∧
    (∀ pairs rest, OptionStore.namedEntry.list.fits pairs →
      (pairs.Pairwise fun p q => NameBefore p.1 q.1) →
        ∃ store, OptionStore.binary.read (OptionStore.namedEntry.list.bytes pairs ++ rest) =
            some (store, rest) ∧
          OptionStore.binary.bytes store <+: OptionStore.namedEntry.list.bytes pairs ++ rest) ∧
    (∀ bytes, OptionStore.binary.read bytes = none ↔ ∀ pairs rest,
      OptionStore.namedEntry.list.fits pairs →
        bytes ≠ OptionStore.namedEntry.list.bytes pairs ++ rest) ∧
    DefectsRefused ∧ OptimizedPoint.binary.Bounded ∧ OptionStore.namedEntry.list.Bounded := by
  refine ⟨OptimizedPoint.binary_exact, fun bytes algorithm rest => ?_, fun bytes kind rest => ?_,
    fun _ _ _ => OptionStore.read_eq_some, NameMap.find?_ofList, fun store h => ?_,
    fun pairs rest hfits hascending => ?_, fun bytes => ?_, defectsRefused,
    OptimizedPoint.binary_bounded,
    OptionStore.namedEntry_bounded.list OptionStore.namedEntry_bytes_pos⟩
  · exact (Algorithm.binary_exact bytes algorithm rest).trans (Iff.of_eq (true_and _))
  · exact (QuasiNewtonKind.binary_exact bytes kind rest).trans (Iff.of_eq (true_and _))
  · simpa using OptionStore.read_bytes h []
  · refine ⟨⟨.ofList pairs⟩, OptionStore.read_eq_some.mpr ⟨pairs, hfits, rfl, rfl⟩, ?_⟩
    rw [OptionStore.bytes_ofList hascending]
    exact List.prefix_append _ rest
  · exact via_eq_none_iff.trans OptionStore.namedEntry_exact.list.read_eq_none_iff

/-- Of two options with one name the second is the one that is read, a name that stands out of order
is put in its place, and the tag after the last strategy is refused. -/
theorem last_name_read :
    let flag (value : Bool) : OptionEntry := ⟨.bool, .bool false, .bool value, ""⟩
    let pairs := [("b", flag false), ("a", flag false), ("b", flag true)]
    OptionStore.binary.read (OptionStore.namedEntry.list.bytes pairs ++ [9]) =
        some (⟨.ofList pairs⟩, [9]) ∧
      (NameMap.ofList pairs).find? "b" = some (flag true) ∧
      (NameMap.ofList pairs).entries.map (·.1) = ["a", "b"] ∧
      Algorithm.binary.read (wordBytes 4 3 ++ [0]) = none := by
  intro flag pairs
  obtain ⟨-, -, -, hstores, hlast, -, -, -, hdefects, -, hbounded⟩ := reads_no_other_bytes
  have hfits : OptionStore.namedEntry.list.fits pairs := hbounded pairs (by decide +kernel)
  refine ⟨(hstores _ _ _).mpr ⟨pairs, hfits, rfl, rfl⟩, ?_, by decide, ?_⟩
  · rw [hlast]
    decide
  · exact hdefects.algorithm 3 [0] (by decide) (by decide)

end StrategyCoordinator
