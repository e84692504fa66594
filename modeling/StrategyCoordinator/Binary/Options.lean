import StrategyCoordinator.Binary.Format
import StrategyCoordinator.Options.Store

/-!
# The binary format of option stores

Values and kinds are tagged by a four-byte number in the order of their constructors. A
number in double precision is its 64 bits. An option is its kind, default, value and
description, and a store is the list of its names and options in name order.

Reading a store puts the options into it one after another, so the last of equal names wins
and the names may come in any order. Nothing that is read is checked against its kind.
-/

namespace StrategyCoordinator

/-- A double-precision number, as its 64 bits. -/
def Binary64.binary : Format Binary64 where
  bytes x := Format.wordBytes 8 x.bits.toNat
  read := (Format.word 8).readWith fun n => some ⟨UInt64.ofNat n⟩
  fits _ := True

namespace OptionValue

/-- The bytes of a value after its tag. -/
def binary : Format OptionValue where
  bytes
    | .bool value => Format.wordBytes 4 0 ++ Format.bool.bytes value
    | .int value => Format.wordBytes 4 1 ++ Format.int64.bytes value
    | .float value => Format.wordBytes 4 2 ++ Binary64.binary.bytes value
    | .str value => Format.wordBytes 4 3 ++ Format.text.optional.bytes value
    | .choice value => Format.wordBytes 4 4 ++ Format.text.bytes value
  read bytes := do
    let (tag, rest) ← Format.readWord 4 bytes
    match tag with
    | 0 => Format.bool.readWith (fun value => some (.bool value)) rest
    | 1 => Format.int64.readWith (fun value => some (.int value)) rest
    | 2 => Binary64.binary.readWith (fun value => some (.float value)) rest
    | 3 => Format.text.optional.readWith (fun value => some (.str value)) rest
    | 4 => Format.text.readWith (fun value => some (.choice value)) rest
    | _ => none
  fits
    | .str value => Format.text.optional.fits value
    | .choice value => Format.text.fits value
    | _ => True

end OptionValue

namespace OptionKind

/-- The bounds of an integer range, the lower one first. -/
def intBounds : Format (Int64 × Int64) :=
  Format.int64.pair Format.int64

/-- The bounds of a floating range, the lower one first. -/
def floatBounds : Format (Binary64 × Binary64) :=
  Binary64.binary.pair Binary64.binary

/-- The bytes of a kind: its tag, then its bounds or choices. -/
def binary : Format OptionKind where
  bytes
    | .bool => Format.wordBytes 4 0
    | .int lower upper => Format.wordBytes 4 1 ++ intBounds.bytes (lower, upper)
    | .float lower upper => Format.wordBytes 4 2 ++ floatBounds.bytes (lower, upper)
    | .str => Format.wordBytes 4 3
    | .choice values => Format.wordBytes 4 4 ++ Format.text.list.bytes values
  read bytes := do
    let (tag, rest) ← Format.readWord 4 bytes
    match tag with
    | 0 => return (.bool, rest)
    | 1 => intBounds.readWith (fun bounds => some (.int bounds.1 bounds.2)) rest
    | 2 => floatBounds.readWith (fun bounds => some (.float bounds.1 bounds.2)) rest
    | 3 => return (.str, rest)
    | 4 => Format.text.list.readWith (fun values => some (.choice values)) rest
    | _ => none
  fits
    | .choice values => Format.text.list.fits values
    | _ => True

end OptionKind

/-- The bytes of an option: its kind, default, value and description. -/
def OptionEntry.binary : Format OptionEntry :=
  (OptionKind.binary.pair
    (OptionValue.binary.pair (OptionValue.binary.pair Format.text))).via
    (fun (kind, default, value, description) => ⟨kind, default, value, description⟩)
    (fun entry => (entry.kind, entry.default, entry.value, entry.description))

/-- The bytes of a store: the number of its options, then each name and option. -/
def OptionStore.binary : Format OptionStore :=
  (Format.text.pair OptionEntry.binary).list.via
    (fun pairs => ⟨NameMap.ofList pairs⟩)
    OptionStore.toList

end StrategyCoordinator
