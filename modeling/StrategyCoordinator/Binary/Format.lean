import StrategyCoordinator.NameMap

/-!
# Binary formats

A format writes a value as bytes and reads a value from the front of a byte list, together
with the bytes it left unread. Words are little-endian and of fixed width. A text is its
length in bytes followed by its UTF-8 bytes, a list is its length followed by its items, and
an optional value is a byte zero or a byte one followed by the value.

A length is written in eight bytes, so a format carries only values whose lengths fit; it
states them by the predicate `fits`. Reading fails as soon as the bytes run out, whatever
length was claimed, and on every tag that no value has.
-/

namespace StrategyCoordinator

/-- How values of a type are written as bytes and read back. -/
structure Format (α : Type) where
  /-- The bytes of a value. -/
  bytes : α → List UInt8
  /-- The value at the front of the bytes, with the bytes after it. -/
  read : List UInt8 → Option (α × List UInt8)
  /-- The values that the format can carry. -/
  fits : α → Prop

namespace Format

variable {α β : Type}

/-- The `width` base-256 digits of a number, the lowest first. -/
def wordBytes : Nat → Nat → List UInt8
  | 0, _ => []
  | width + 1, n => UInt8.ofNat n :: wordBytes width (n / 256)

/-- The number given by `width` base-256 digits, the lowest first. -/
def readWord : Nat → List UInt8 → Option (Nat × List UInt8)
  | 0, bytes => some (0, bytes)
  | _ + 1, [] => none
  | width + 1, digit :: bytes => do
    let (high, rest) ← readWord width bytes
    return (digit.toNat + 256 * high, rest)

/-- A word has as many bytes as its width. -/
theorem wordBytes_length (width n : Nat) : (wordBytes width n).length = width := by
  induction width generalizing n with
  | zero => rfl
  | succ width ih => simp [wordBytes, ih]

/-- The number of words of a width. -/
def wordCount (width : Nat) : Nat :=
  Nat.pow 256 width

/-- A little-endian word of a fixed number of bytes. -/
def word (width : Nat) : Format Nat where
  bytes := wordBytes width
  read := readWord width
  fits n := n < wordCount width

/-- One value followed by another. -/
def pair (first : Format α) (second : Format β) : Format (α × β) where
  bytes value := first.bytes value.1 ++ second.bytes value.2
  read bytes := do
    let (a, rest) ← first.read bytes
    let (b, rest) ← second.read rest
    return ((a, b), rest)
  fits value := first.fits value.1 ∧ second.fits value.2

/-- The format of a type whose values are in correspondence with those of another one. -/
def via (format : Format α) (make : α → β) (view : β → α) : Format β where
  bytes value := format.bytes (view value)
  read bytes := do
    let (a, rest) ← format.read bytes
    return (make a, rest)
  fits value := format.fits (view value)

/-- Read with a format and keep the value only if it has a counterpart. -/
def readWith (format : Format α) (make : α → Option β) (bytes : List UInt8) :
    Option (β × List UInt8) := do
  let (a, rest) ← format.read bytes
  let b ← make a
  return (b, rest)

/-- The boolean of a byte, which is zero or one. -/
def boolOfWord? : Nat → Option Bool
  | 0 => some false
  | 1 => some true
  | _ => none

/-- A boolean, as a byte zero or one. -/
def bool : Format Bool where
  bytes value := wordBytes 1 value.toNat
  read := (word 1).readWith boolOfWord?
  fits _ := True

/-- A signed 64-bit integer in two's complement. -/
def int64 : Format Int64 where
  bytes value := wordBytes 8 value.toUInt64.toNat
  read := (word 8).readWith fun n => some (Int64.ofUInt64 (UInt64.ofNat n))
  fits _ := True

/-- The first `count` bytes, with the bytes after them. -/
def takeBytes (count : Nat) (bytes : List UInt8) : Option (List UInt8 × List UInt8) :=
  if count ≤ bytes.length then some (bytes.splitAt count) else none

/-- The text with the given UTF-8 bytes, if they are well formed. -/
def textOfBytes? (bytes : List UInt8) : Option String :=
  String.fromUTF8? ⟨bytes.toArray⟩

/-- A text, as its length in bytes and its UTF-8 bytes. -/
def text : Format String where
  bytes value := wordBytes 8 (utf8Bytes value).length ++ utf8Bytes value
  read bytes := do
    let (count, rest) ← readWord 8 bytes
    let (content, rest) ← takeBytes count rest
    let value ← textOfBytes? content
    return (value, rest)
  fits value := (utf8Bytes value).length < wordCount 8

/-- Read `count` values one after another. -/
def readMany (format : Format α) : Nat → List UInt8 → Option (List α × List UInt8)
  | 0, bytes => some ([], bytes)
  | count + 1, bytes => do
    let (first, rest) ← format.read bytes
    let (others, rest) ← readMany format count rest
    return (first :: others, rest)

/-- A list, as its length and its items. -/
def list (format : Format α) : Format (List α) where
  bytes values := wordBytes 8 values.length ++ values.flatMap format.bytes
  read bytes := do
    let (count, rest) ← readWord 8 bytes
    readMany format count rest
  fits values := values.length < wordCount 8 ∧ ∀ value ∈ values, format.fits value

/-- An optional value, as a byte zero, or a byte one and the value. -/
def optional (format : Format α) : Format (Option α) where
  bytes
    | none => wordBytes 1 0
    | some value => wordBytes 1 1 ++ format.bytes value
  read bytes := do
    let (tag, rest) ← readWord 1 bytes
    match tag with
    | 0 => return (none, rest)
    | 1 => format.readWith (fun value => some (some value)) rest
    | _ => none
  fits
    | none => True
    | some value => format.fits value

end Format

end StrategyCoordinator
