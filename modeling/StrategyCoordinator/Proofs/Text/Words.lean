import Mathlib.Data.List.DropRight
import StrategyCoordinator.Coordinator.Configuration

/-!
# Words spelled in a text

Strategies and curvature approximations are read from texts by two steps that know all of
Unicode: blanks are trimmed from the ends, and what is left is lower-cased. Since the words are
plain ASCII words, the readers accept a plain grammar all the same: blanks, the word in any mixture
of ASCII cases, blanks.

For that the table of lower-case forms has to keep the rest of Unicode apart. Outside of ASCII, two
characters alone have an ASCII letter in their lower-case form. The Kelvin sign has the form `k`,
which is in none of the words; the capital I with a dot above has the letter `i`, but a combining
dot with it.
-/

namespace StrategyCoordinator

section Trimming

/-- Trimming takes away blanks at the two ends and nothing else. -/
theorem exists_trimBlanks (text : List Char) :
    ∃ before after, text = before ++ trimBlanks text ++ after ∧
      (∀ c ∈ before, isBlank c = true) ∧ ∀ c ∈ after, isBlank c = true := by
  have hafter : trimBlanks text ++ (text.dropWhile isBlank).rtakeWhile isBlank =
      text.dropWhile isBlank := List.rdropWhile_append_rtakeWhile
  refine ⟨text.takeWhile isBlank, (text.dropWhile isBlank).rtakeWhile isBlank, ?_,
    fun c => List.mem_takeWhile_imp, fun c => List.mem_rtakeWhile_imp⟩
  rw [List.append_assoc, hafter, List.takeWhile_append_dropWhile]

/-- Blanks that are put around a text are trimmed away again. -/
theorem trimBlanks_surrounded {before after : List Char} (text : List Char)
    (hbefore : ∀ c ∈ before, isBlank c = true) (hafter : ∀ c ∈ after, isBlank c = true) :
    trimBlanks (before ++ text ++ after) = trimBlanks text := by
  have hreversed : ∀ c ∈ after.reverse, isBlank c = true := fun c hc =>
    hafter c (List.mem_reverse.mp hc)
  rw [trimBlanks, trimBlanks, List.append_assoc, List.dropWhile_append_of_pos hbefore,
    List.dropWhile_append]
  split
  next hempty =>
    -- There is nothing but blanks, before, in and after the text.
    rw [List.isEmpty_iff.mp hempty, List.dropWhile_eq_nil_iff.mpr hafter]
  next => rw [List.reverse_append, List.dropWhile_append_of_pos hreversed]

/-- A text without blanks is left as it is. -/
theorem trimBlanks_of_no_blank {text : List Char} (h : ∀ c ∈ text, isBlank c = false) :
    trimBlanks text = text := by
  have hkept (part : List Char) (hpart : ∀ c ∈ part, isBlank c = false) :
      part.dropWhile isBlank = part := by
    cases part with
    | nil => rfl
    | cons c rest => rw [List.dropWhile_cons, hpart c List.mem_cons_self, if_neg Bool.false_ne_true]
  rw [trimBlanks, hkept text h, hkept text.reverse fun c hc => h c (List.mem_reverse.mp hc),
    List.reverse_reverse]

end Trimming

section Folding

/-- What holds of every code point below a number holds of the characters there. -/
theorem forall_char_lt {P : Char → Prop} {bound : Nat} (h : ∀ n < bound, P (Char.ofNat n))
    {c : Char} (hc : c.toNat < bound) : P c :=
  Char.ofNat_toNat c ▸ h c.toNat hc

/-- A capital letter of ASCII is an ASCII character. -/
theorem ascii_of_toLower_ne {c : Char} (h : c.toLower ≠ c) : c.toNat < 128 := by
  unfold Char.toLower at h
  split at h
  next hcapital =>
    have hlast : c.val.toNat ≤ 90 := hcapital.2
    exact Nat.lt_of_le_of_lt hlast (by decide)
  next => exact absurd rfl h

/-- Only ASCII characters have an ASCII character as the other one of their case pair. -/
theorem ascii_of_toLower {c : Char} (h : c.toLower.toNat < 128) : c.toNat < 128 := by
  by_cases hsame : c.toLower = c
  · rwa [hsame] at h
  · exact ascii_of_toLower_ne hsame

/-- A letter of either case is no blank, and nothing else has another case. -/
theorem isBlank_toLower (c : Char) : isBlank c.toLower = isBlank c := by
  by_cases hsame : c.toLower = c
  · rw [hsame]
  · have hall : ∀ n < 128, isBlank (Char.ofNat n).toLower = isBlank (Char.ofNat n) := by decide
    exact forall_char_lt (P := fun c => isBlank c.toLower = isBlank c) hall
      (ascii_of_toLower_ne hsame)

/-- Of the runs of capital letters that of A to Z alone begins in ASCII. -/
theorem find?_capitalRuns_of_ascii {code : Nat} (h : code < 128) :
    capitalRuns.find? (·.covers code) = (capitalRuns.take 1).find? (·.covers code) := by
  have hbeyond : ∀ run ∈ capitalRuns.drop 1, 128 ≤ run.first := by decide +kernel
  have hnone : (capitalRuns.drop 1).find? (·.covers code) = none := by
    refine List.find?_eq_none.mpr fun run hrun hcovers => ?_
    simp only [CapitalRun.covers, Bool.and_eq_true, decide_eq_true_eq] at hcovers
    have hfirst := hbeyond run hrun
    omega
  have hfound : (capitalRuns.take 1 ++ capitalRuns.drop 1).find? (·.covers code) =
      (capitalRuns.take 1).find? (·.covers code) := by
    rw [List.find?_append, hnone, Option.or_none]
  rwa [List.take_append_drop] at hfound

/-- The lower-case form of an ASCII character is the lower one of its case pair. -/
theorem lowerCaseChar_of_ascii {c : Char} (h : c.toNat < 128) :
    lowerCaseChar c = [c.toLower] := by
  -- The whole table is left out of the decision over the codes, which would search it for each.
  have hall : ∀ n < 128, ((capitalRuns.take 1).find? (·.covers (Char.ofNat n).toNat)).elim
      [Char.ofNat n] (fun run => [Char.ofNat ((Char.ofNat n).toNat + run.offset).toNat]) =
        [(Char.ofNat n).toLower] := by
    decide
  have hc := hall c.toNat h
  rw [Char.ofNat_toNat] at hc
  rw [lowerCaseChar, if_neg (by omega), find?_capitalRuns_of_ascii h, ← hc]
  cases (capitalRuns.take 1).find? (·.covers c.toNat) <;> rfl

/-- So is that of a text, character by character. -/
theorem lowerCase_of_ascii {text : List Char} (h : ∀ c ∈ text, c.toNat < 128) :
    lowerCase text = text.map Char.toLower := by
  induction text with
  | nil => rfl
  | cons c rest ih =>
    obtain ⟨hc, hrest⟩ := List.forall_mem_cons.mp h
    rw [lowerCase, List.flatMap_cons, lowerCaseChar_of_ascii hc]
    exact congrArg (c.toLower :: ·) (ih hrest)

/-- The lower-case forms of a run are characters, and none of them is in ASCII. -/
def CapitalRun.LeavesAscii (run : CapitalRun) : Prop :=
  (128 ≤ run.first + run.offset ∧ run.last + run.offset < 0xd800) ∨
    (0xdfff < run.first + run.offset ∧ run.last + run.offset < 0x110000)

instance (run : CapitalRun) : Decidable run.LeavesAscii :=
  inferInstanceAs (Decidable (_ ∨ _))

/-- Among the runs of capital letters that of A to Z and the Kelvin sign lead to ASCII. -/
theorem leavesAscii_of_mem_capitalRuns : ∀ run ∈ capitalRuns,
    run.last < 128 ∨ (run.first = 0x212a ∧ run.last = 0x212a) ∨ run.LeavesAscii := by
  decide +kernel

/-- The form of a letter in a run that leaves ASCII is not in ASCII. -/
theorem CapitalRun.LeavesAscii.not_ascii {run : CapitalRun} (h : run.LeavesAscii) {code : Nat}
    (hcovers : run.covers code = true) :
    128 ≤ (Char.ofNat (code + run.offset).toNat).toNat := by
  simp only [covers, Bool.and_eq_true, decide_eq_true_eq] at hcovers
  obtain ⟨⟨hfirst, hlast⟩, -⟩ := hcovers
  have hvalid : (code + run.offset).toNat.isValidChar := by
    unfold LeavesAscii at h
    unfold Nat.isValidChar
    omega
  have hsame : (Char.ofNat (code + run.offset).toNat).toNat = (code + run.offset).toNat := by
    rw [Char.ofNat, dif_pos hvalid]
    rfl
  unfold LeavesAscii at h
  omega

/-- Outside of ASCII, the capital I with a dot above and the Kelvin sign alone have an ASCII
character in their lower-case form. -/
theorem ascii_of_mem_lowerCaseChar {c d : Char} (hd : d ∈ lowerCaseChar c)
    (hascii : d.toNat < 128) : c.toNat < 128 ∨ c.toNat = 0x130 ∨ c.toNat = 0x212a := by
  unfold lowerCaseChar at hd
  split at hd
  next hdotted => exact .inr (.inl hdotted)
  next =>
    split at hd
    next run hrun =>
      have hcovers : run.covers c.toNat = true :=
        List.find?_some (p := fun run : CapitalRun => run.covers c.toNat) hrun
      obtain rfl := List.mem_singleton.mp hd
      rcases leavesAscii_of_mem_capitalRuns run (List.mem_of_find?_eq_some hrun) with
        hlast | hkelvin | hleaves
      · simp only [CapitalRun.covers, Bool.and_eq_true, decide_eq_true_eq] at hcovers
        omega
      · simp only [CapitalRun.covers, Bool.and_eq_true, decide_eq_true_eq] at hcovers
        omega
      · exact absurd hascii (Nat.not_lt.mpr (hleaves.not_ascii hcovers))
    next =>
      obtain rfl := List.mem_singleton.mp hd
      exact .inl hascii

/-- A character has a lower-case form. -/
theorem exists_mem_lowerCaseChar (c : Char) : ∃ d, d ∈ lowerCaseChar c := by
  unfold lowerCaseChar
  split
  · exact ⟨_, List.mem_cons_self⟩
  · split <;> exact ⟨_, List.mem_cons_self⟩

/-- Only ASCII characters have a lower-case form of ASCII characters without the letter `k`: the
capital I with a dot above keeps its dot, and the Kelvin sign becomes a `k`. -/
theorem ascii_of_lowerCaseChar {c : Char}
    (hforms : ∀ d ∈ lowerCaseChar c, d.toNat < 128 ∧ d ≠ 'k') : c.toNat < 128 := by
  have hchar : ∀ n, c.toNat = n → c = Char.ofNat n := fun n hn => hn ▸ (Char.ofNat_toNat c).symm
  obtain ⟨d, hd⟩ := exists_mem_lowerCaseChar c
  rcases ascii_of_mem_lowerCaseChar hd (hforms d hd).1 with hc | hc | hc
  · exact hc
  · have hdot : lowerCaseChar (Char.ofNat 0x130) = ['i', Char.ofNat 0x307] := by decide +kernel
    rw [hchar _ hc, hdot] at hforms
    exact absurd (hforms (Char.ofNat 0x307) (by simp)).1 (by decide)
  · have hkelvin : lowerCaseChar (Char.ofNat 0x212a) = ['k'] := by decide +kernel
    rw [hchar _ hc, hkelvin] at hforms
    exact absurd rfl (hforms 'k' (by simp)).2

/-- A text has an ASCII word without the letter `k` as its lower-case form exactly if it is that
word but for the case of ASCII letters. -/
theorem lowerCase_eq_iff {text word : List Char} (hword : ∀ d ∈ word, d.toNat < 128 ∧ d ≠ 'k') :
    lowerCase text = word ↔ text.map Char.toLower = word := by
  constructor
  · rintro rfl
    refine (lowerCase_of_ascii fun c hc => ascii_of_lowerCaseChar fun d hd => ?_).symm
    exact hword d (List.mem_flatMap.mpr ⟨c, hc, hd⟩)
  · rintro rfl
    refine lowerCase_of_ascii fun c hc => ascii_of_toLower ?_
    exact (hword _ (List.mem_map_of_mem hc)).1

end Folding

/-- A text spells a word: it is the word in any mixture of ASCII cases, with blanks around it. -/
def Spells (text word : String) : Prop :=
  ∃ before spelled after : List Char, text.toList = before ++ spelled ++ after ∧
    (∀ c ∈ before, isBlank c = true) ∧ (∀ c ∈ after, isBlank c = true) ∧
    spelled.map Char.toLower = word.toList

/-- The characters of the words: they are in ASCII and not blank, and `k` is not among them. -/
def IsPlainWord (word : String) : Prop :=
  ∀ d ∈ word.toList, d.toNat < 128 ∧ d ≠ 'k' ∧ isBlank d = false

instance (word : String) : Decidable (IsPlainWord word) :=
  List.decidableBAll _ word.toList

/-- A text is compared as equal with a plain word exactly if it spells the word. -/
theorem foldedWord_eq_iff {word : String} (hword : IsPlainWord word) (text : String) :
    foldedWord text = word.toList ↔ Spells text word := by
  have hplain : ∀ d ∈ word.toList, d.toNat < 128 ∧ d ≠ 'k' := fun d hd =>
    ⟨(hword d hd).1, (hword d hd).2.1⟩
  constructor
  · intro h
    obtain ⟨before, after, htext, hbefore, hafter⟩ := exists_trimBlanks text.toList
    exact ⟨before, trimBlanks text.toList, after, htext, hbefore, hafter,
      (lowerCase_eq_iff hplain).mp h⟩
  · rintro ⟨before, spelled, after, htext, hbefore, hafter, hspelled⟩
    have hnone : ∀ c ∈ spelled, isBlank c = false := by
      intro c hc
      have hmem : c.toLower ∈ word.toList := hspelled ▸ List.mem_map_of_mem hc
      rw [← isBlank_toLower, (hword _ hmem).2.2]
    rw [foldedWord, htext, trimBlanks_surrounded spelled hbefore hafter,
      trimBlanks_of_no_blank hnone]
    exact (lowerCase_eq_iff hplain).mpr hspelled

/-- Blanks around a text make no difference to what it spells. -/
theorem spells_surrounded {before after : List Char} (hbefore : ∀ c ∈ before, isBlank c = true)
    (hafter : ∀ c ∈ after, isBlank c = true) {word : String} (hword : IsPlainWord word)
    (text : String) :
    Spells (String.ofList (before ++ text.toList ++ after)) word ↔ Spells text word := by
  rw [← foldedWord_eq_iff hword, ← foldedWord_eq_iff hword, foldedWord, foldedWord,
    String.toList_ofList, trimBlanks_surrounded text.toList hbefore hafter]

/-- The case of ASCII letters makes no difference to what a text spells. -/
theorem Spells.of_same_letters {text text' word : String} (h : Spells text word)
    (hsame : text'.toList.map Char.toLower = text.toList.map Char.toLower) : Spells text' word := by
  obtain ⟨before, spelled, after, htext, hbefore, hafter, hspelled⟩ := h
  rw [htext, List.map_append, List.map_append] at hsame
  obtain ⟨front, after', htext', hfront, hafter'⟩ := List.map_eq_append_iff.mp hsame
  obtain ⟨before', spelled', rfl, hbefore', hspelled'⟩ := List.map_eq_append_iff.mp hfront
  -- The two texts have their blanks at the same places.
  have hblank (part part' : List Char) (hpart : ∀ c ∈ part, isBlank c = true)
      (hmap : part'.map Char.toLower = part.map Char.toLower) : ∀ c ∈ part', isBlank c = true := by
    intro c hc
    have hmem : c.toLower ∈ part.map Char.toLower := hmap ▸ List.mem_map_of_mem hc
    obtain ⟨d, hd, hlower⟩ := List.mem_map.mp hmem
    rw [← isBlank_toLower, ← hlower, isBlank_toLower, hpart d hd]
  exact ⟨before', spelled', after', htext', hblank before before' hbefore hbefore',
    hblank after after' hafter hafter', hspelled'.trans hspelled⟩

/-- A character outside of ASCII with an ASCII character in its lower-case form spells nothing. -/
theorem not_spells_of_foreign {text word : String} (hword : IsPlainWord word) {c d : Char}
    (hc : c ∈ text.toList) (hforeign : 128 ≤ c.toNat) (hd : d ∈ lowerCaseChar c)
    (hascii : d.toNat < 128) : ¬Spells text word := by
  rintro ⟨before, spelled, after, htext, hbefore, hafter, hspelled⟩
  have hcode := (ascii_of_mem_lowerCaseChar hd hascii).resolve_left (Nat.not_lt.mpr hforeign)
  have hnoBlank : isBlank c = false := by
    rw [← Char.ofNat_toNat c]
    rcases hcode with hcode | hcode <;> rw [hcode] <;> decide
  rw [htext, List.mem_append, List.mem_append] at hc
  rcases hc with (hc | hc) | hc
  · rw [hbefore c hc] at hnoBlank
    cases hnoBlank
  · have hmem : c.toLower ∈ word.toList := hspelled ▸ List.mem_map_of_mem hc
    exact absurd (ascii_of_toLower (hword _ hmem).1) (Nat.not_lt.mpr hforeign)
  · rw [hafter c hc] at hnoBlank
    cases hnoBlank

/-- A reader of words: it reads the texts that spell a word and no others, and refuses a text with
an error that keeps it as it was given. -/
structure ReadsWords {α : Type} (read : String → Except OptimizerError α) (word : α → String)
    (unknown : String → OptimizerError) : Prop where
  ok_iff : ∀ text a, read text = .ok a ↔ Spells text (word a)
  error_iff : ∀ text e, read text = .error e ↔ e = unknown text ∧ ∀ a, ¬Spells text (word a)
  /-- The words themselves are read. -/
  word : ∀ a, read (word a) = .ok a
  /-- Blanks around a text do not matter. -/
  blanks : ∀ before after : List Char, (∀ c ∈ before, isBlank c = true) →
    (∀ c ∈ after, isBlank c = true) → ∀ text a,
      read (String.ofList (before ++ text.toList ++ after)) = .ok a ↔ read text = .ok a
  /-- The case of ASCII letters does not matter. -/
  letters : ∀ text text' : String,
    text'.toList.map Char.toLower = text.toList.map Char.toLower →
      ∀ a, read text' = .ok a ↔ read text = .ok a
  /-- No other character counts as an ASCII letter, whatever its lower-case form is. -/
  foreign : ∀ text : String, ∀ c ∈ text.toList, 128 ≤ c.toNat →
    ∀ d ∈ lowerCaseChar c, d.toNat < 128 → read text = .error (unknown text)

section Readers

variable {α : Type} {word : α → String}

/-- The first word that a text is compared with as equal is the one that the text spells. -/
theorem find?_word_eq_some_iff {all : List α} (hall : ∀ a, a ∈ all)
    (hinj : ∀ a b, word a = word b → a = b) (hplain : ∀ a, IsPlainWord (word a)) (text : String)
    (a : α) :
    all.find? (fun b => (word b).toList == foldedWord text) = some a ↔ Spells text (word a) := by
  rw [← foldedWord_eq_iff (hplain a)]
  constructor
  · intro hfound
    exact (eq_of_beq (List.find?_some (p := fun b => (word b).toList == foldedWord text)
      hfound)).symm
  · intro hfolded
    cases hfound : all.find? fun b => (word b).toList == foldedWord text with
    | none =>
      have hdiffers := List.find?_eq_none.mp hfound a (hall a)
      exact absurd (beq_iff_eq.mpr hfolded.symm) hdiffers
    | some b =>
      have hsame : (word b).toList = foldedWord text :=
        eq_of_beq (List.find?_some (p := fun b => (word b).toList == foldedWord text) hfound)
      rw [hfolded] at hsame
      rw [hinj b a (String.toList_inj.mp hsame)]

/-- A reader that looks for the word with which a text is compared as equal reads words. -/
theorem readsWords_of_find? {read : String → Except OptimizerError α}
    {unknown : String → OptimizerError} (all : List α)
    (hread : ∀ text, read text =
      (all.find? fun a => (word a).toList == foldedWord text).elim (.error (unknown text)) .ok)
    (hall : ∀ a, a ∈ all) (hinj : ∀ a b, word a = word b → a = b)
    (hplain : ∀ a, IsPlainWord (word a))
    (hlower : ∀ a, (word a).toList.map Char.toLower = (word a).toList) :
    ReadsWords read word unknown := by
  have hok (text : String) (a : α) : read text = .ok a ↔ Spells text (word a) := by
    rw [← find?_word_eq_some_iff hall hinj hplain, hread]
    cases all.find? fun a => (word a).toList == foldedWord text <;> simp
  have herror (text : String) (h : ∀ a, ¬Spells text (word a)) :
      read text = .error (unknown text) := by
    have hnone : all.find? (fun a => (word a).toList == foldedWord text) = none :=
      Option.eq_none_iff_forall_ne_some.mpr fun a hfound =>
        h a ((find?_word_eq_some_iff hall hinj hplain text a).mp hfound)
    rw [hread, hnone]
    rfl
  refine ⟨hok, fun text e => ⟨fun hrefused => ?_, ?_⟩, fun a => ?_, ?_, ?_, ?_⟩
  · have hnone : ∀ a, ¬Spells text (word a) := fun a hspells => by
      rw [(hok text a).mpr hspells] at hrefused
      cases hrefused
    rw [herror text hnone] at hrefused
    exact ⟨(Except.error.inj hrefused).symm, hnone⟩
  · rintro ⟨rfl, hnone⟩
    exact herror text hnone
  · exact (hok _ a).mpr ⟨[], (word a).toList, [], by simp, nofun, nofun, hlower a⟩
  · intro before after hbefore hafter text a
    rw [hok, hok, spells_surrounded hbefore hafter (hplain a)]
  · intro text text' hsame a
    rw [hok, hok]
    exact ⟨fun h => h.of_same_letters hsame.symm, fun h => h.of_same_letters hsame⟩
  · intro text c hc hforeign d hd hascii
    exact herror text fun a => not_spells_of_foreign (hplain a) hc hforeign hd hascii

end Readers

/-- Strategies are read as words. -/
theorem Algorithm.readsWords : ReadsWords read text .unknownAlgorithm := by
  refine readsWords_of_find? all (fun text => ?_) (fun a => ?_) (fun a b => ?_) (fun a => ?_)
    fun a => ?_
  · unfold read parse?
    cases all.find? _ <;> rfl
  · cases a <;> decide
  · cases a <;> cases b <;> decide
  · cases a <;> decide
  · cases a <;> rfl

/-- Approximations are read as words. -/
theorem QuasiNewtonKind.readsWords : ReadsWords read text .unknownQuasiNewtonKind := by
  refine readsWords_of_find? all (fun text => ?_) (fun a => ?_) (fun a b => ?_) (fun a => ?_)
    fun a => ?_
  · unfold read parse?
    cases all.find? _ <;> rfl
  · cases a <;> decide
  · cases a <;> cases b <;> decide
  · cases a <;> decide
  · cases a <;> rfl

/-- Strategies and approximations are read from exactly the texts that spell one of their words, in
any mixture of ASCII cases and with any blanks around it. Any other text is refused with an error
that keeps it as it was given, also if lower-casing turns a character outside of ASCII into a
letter of a word. -/
theorem words_read_exactly :
    ReadsWords Algorithm.read Algorithm.text .unknownAlgorithm ∧
      ReadsWords QuasiNewtonKind.read QuasiNewtonKind.text .unknownQuasiNewtonKind :=
  ⟨Algorithm.readsWords, QuasiNewtonKind.readsWords⟩

/-- Words with blanks around them and of mixed cases are read. A capital I with a dot above and a
Kelvin sign are refused as they are. -/
theorem spelled_words_read :
    Algorithm.read "\u2003Tr\t" = .ok .trustRegion ∧
      QuasiNewtonKind.read "BFGS\n" = .ok .bfgs ∧
      Algorithm.read "\u0130p" = .error (.unknownAlgorithm "\u0130p") ∧
      QuasiNewtonKind.read " \u212a" = .error (.unknownQuasiNewtonKind " \u212a") := by
  obtain ⟨halgorithm, hkind⟩ := words_read_exactly
  refine ⟨?_, ?_, ?_, ?_⟩
  · exact (halgorithm.ok_iff _ _).mpr
      ⟨['\u2003'], ['T', 'r'], ['\t'], by decide, List.forall_mem_singleton.mpr (by decide),
        List.forall_mem_singleton.mpr (by decide), by decide⟩
  · exact (hkind.ok_iff _ _).mpr
      ⟨[], ['B', 'F', 'G', 'S'], ['\n'], by decide, nofun,
        List.forall_mem_singleton.mpr (by decide), by decide⟩
  · exact halgorithm.foreign _ '\u0130' (by decide) (by decide) 'i' (by decide) (by decide)
  · exact hkind.foreign _ '\u212a' (by decide) (by decide) 'k' (by decide +kernel) (by decide)

end StrategyCoordinator
