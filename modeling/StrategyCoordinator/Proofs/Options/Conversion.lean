import StrategyCoordinator.Proofs.Numeric.Rounding
import StrategyCoordinator.Proofs.Options.Validity

/-!
# Integers on floating options

An integer that is offered to a floating option is rounded first and then compared with the bounds.
Bounds are numbers themselves, so rounding moves no integer across one. An integer within the bounds
is therefore accepted, and one beyond a bound only if it is rounded onto that bound, which cannot
happen to an integer that a number stands for.
-/

namespace StrategyCoordinator

namespace Binary64

/-- A bound that is not above a rational is not above a number that is nearest to it. -/
theorem NearestTo.le_extended {x bound : Binary64} {q : ℚ} (h : x.NearestTo q)
    (hbound : bound.isNaN = false) (hle : bound.extended ≤ .ofRat q) :
    bound.extended ≤ x.extended := by
  rw [h.finite.extended_eq]
  rcases finite_or_infinite hbound with hfinite | ⟨hbot, -⟩ | ⟨htop, -⟩
  · rw [hfinite.extended_eq, ExtendedRat.ofRat_le_ofRat] at hle ⊢
    exact h.ge_of_ge hfinite hle
  · exact hbot ▸ bot_le
  · rw [htop, top_le_iff] at hle
    exact absurd hle (ExtendedRat.ofRat_ne_top q)

/-- A bound that is not below a rational is not below a number that is nearest to it. -/
theorem NearestTo.extended_le {x bound : Binary64} {q : ℚ} (h : x.NearestTo q)
    (hbound : bound.isNaN = false) (hle : .ofRat q ≤ bound.extended) :
    x.extended ≤ bound.extended := by
  rw [h.finite.extended_eq]
  rcases finite_or_infinite hbound with hfinite | ⟨hbot, -⟩ | ⟨htop, -⟩
  · rw [hfinite.extended_eq, ExtendedRat.ofRat_le_ofRat] at hle ⊢
    exact h.le_of_le hfinite hle
  · rw [hbot, le_bot_iff] at hle
    exact absurd hle (ExtendedRat.ofRat_ne_bot q)
  · exact htop ▸ le_top

/-- A 64-bit integer is rounded to a number that is nearest to it. -/
theorem ofInt_toInt_nearestTo (n : Int64) : (ofInt n.toInt).NearestTo n.toInt := by
  have hlower := n.le_toInt
  have hupper := n.toInt_lt
  exact ofInt_nearestTo (by omega)

end Binary64

namespace OptionStore

variable {store store' : OptionStore} {name : String} {entry : OptionEntry}
  {lower upper : Binary64}

/-- A floating option with numbers as bounds accepts the integers that are rounded to numbers
within the bounds, and then holds the rounded integer. -/
theorem set_int_eq_ok (hentry : store.entries.find? name = some entry)
    (hkind : entry.kind = .float lower upper) (hbounds : lower.numLe upper = true) {n : Int64} :
    store.set name (.int n) = .ok store' ↔
      (lower.extended ≤ (Binary64.ofInt n.toInt).extended ∧
        (Binary64.ofInt n.toInt).extended ≤ upper.extended) ∧
      store' = store.put name { entry with value := .float (Binary64.ofInt n.toInt) } := by
  obtain ⟨hlower, hupper⟩ := Binary64.isNaN_of_numLe hbounds
  have hnumber := (Binary64.ofInt_toInt_nearestTo n).finite.isNaN
  have hheld : entry.kind.canonical (.int n) = .float (Binary64.ofInt n.toInt) := by
    rw [hkind]
    rfl
  have hadmits : entry.kind.Admits (.float (Binary64.ofInt n.toInt)) ↔
      lower.extended ≤ (Binary64.ofInt n.toInt).extended ∧
        (Binary64.ofInt n.toInt).extended ≤ upper.extended := by
    rw [hkind, ← Binary64.numLe_iff hlower hnumber, ← Binary64.numLe_iff hnumber hupper]
    constructor
    · intro h
      cases h with
      | float hle hge => exact ⟨hle, hge⟩
    · rintro ⟨hle, hge⟩
      exact .float hle hge
  simp only [set_eq_ok, hentry, Option.some.injEq, exists_eq_left', OptionEntry.holding, hheld,
    hadmits]

/-- An integer and the number it is rounded to are the same to a floating option, whether it is
accepted or refused. -/
theorem set_int_eq_set_float (hentry : store.entries.find? name = some entry)
    (hkind : entry.kind = .float lower upper) (n : Int64) :
    store.set name (.int n) = store.set name (.float (Binary64.ofInt n.toInt)) := by
  have haccept : entry.kind.accept name (.int n) =
      entry.kind.accept name (.float (Binary64.ofInt n.toInt)) := by
    rw [hkind]
    rfl
  rw [set, set, lookup_eq_ok.mpr hentry]
  change entry.kind.accept name (.int n) >>= _ = _
  rw [haccept]
  rfl

/-- An integer that is offered to a floating option with numbers as bounds is rounded to a nearest
number. If the integer is within the bounds, then it is accepted. If it is accepted, then the
rounded integer is read back and is within the bounds; an integer beyond a bound was rounded onto
that bound, and none is beyond a bound that is at most `2 ^ 53` away from zero. Whether accepted or
refused, the answer and the store are those for the rounded integer. -/
theorem integers_held_as_nearest (hentry : store.entries.find? name = some entry)
    (hkind : entry.kind = .float lower upper) (hbounds : lower.numLe upper = true) (n : Int64) :
    let offered : ExtendedRat := .ofRat n.toInt
    let rounded := Binary64.ofInt n.toInt
    rounded.NearestTo n.toInt ∧
    (lower.extended ≤ offered → offered ≤ upper.extended →
      ∃ store', store.set name (.int n) = .ok store') ∧
    (∀ store', store.set name (.int n) = .ok store' →
      store'.getFloat name = .ok rounded ∧
      lower.extended ≤ rounded.extended ∧ rounded.extended ≤ upper.extended ∧
      (offered < lower.extended → rounded.extended = lower.extended) ∧
      (upper.extended < offered → rounded.extended = upper.extended) ∧
      (n.toInt.natAbs ≤ 2 ^ 53 → lower.extended ≤ offered ∧ offered ≤ upper.extended)) ∧
    (StoreEdit.set name (.int n)).apply store =
      (StoreEdit.set name (.float rounded)).apply store := by
  intro offered rounded
  have hnearest : rounded.NearestTo n.toInt := Binary64.ofInt_toInt_nearestTo n
  obtain ⟨hlower, hupper⟩ := Binary64.isNaN_of_numLe hbounds
  refine ⟨hnearest, fun hle hge => ⟨_, (set_int_eq_ok hentry hkind hbounds).mpr ⟨?_, rfl⟩⟩, ?_, ?_⟩
  · exact ⟨hnearest.le_extended hlower hle, hnearest.extended_le hupper hge⟩
  · intro store' hset
    obtain ⟨⟨hle, hge⟩, rfl⟩ := (set_int_eq_ok hentry hkind hbounds).mp hset
    refine ⟨?_, hle, hge, fun hlt => ?_, fun hlt => ?_, fun hsmall => ?_⟩
    · exact getFloat_of_find? (store.find?_put_self name _)
    · exact le_antisymm (hnearest.extended_le hlower hlt.le) hle
    · exact le_antisymm hge (hnearest.le_extended hupper hlt.le)
    · have hexact : rounded.extended = offered := by
        rw [hnearest.finite.extended_eq, Binary64.toRat_ofInt hsmall]
      rw [← hexact]
      exact ⟨hle, hge⟩
  · have hset := set_int_eq_set_float hentry hkind n
    simp only [StoreEdit.apply, StoreEdit.result, hset, rounded]

/-- A step size without a lower bound is at most the first integer that is followed by one which no
number stands for. That one is rounded onto the bound and accepted, the next one is a number again
and is refused, and the least 64-bit integer is accepted. -/
theorem integer_past_bound_held_as_bound :
    let upper := Binary64.ofInt 9007199254740992
    let item : Registration := .float "step" 0 (.infinity true) upper "Step size"
    let store := empty.applyAll [.register item]
    let beyond : Int64 := 9007199254740993
    store.entries.find? "step" = some item.entry ∧ (Binary64.infinity true).numLe upper = true ∧
      upper.extended < .ofRat beyond.toInt ∧
      (∃ store', store.set "step" (.int beyond) = .ok store' ∧
        store'.getFloat "step" = .ok (Binary64.ofInt beyond.toInt) ∧
        (Binary64.ofInt beyond.toInt).NearestTo beyond.toInt ∧
        (Binary64.ofInt beyond.toInt).extended = upper.extended) ∧
      (StoreEdit.set "step" (.int (beyond + 1))).apply store =
        (store, .error (.floatOutOfRange "step" (.ofInt 9007199254740994) (.infinity true) upper)) ∧
      ∃ store', store.set "step" (.int Int64.minValue) = .ok store' := by
  intro upper item store beyond
  have hentry : store.entries.find? "step" = some item.entry := by decide
  have hbounds : (Binary64.infinity true).numLe upper = true := by decide +kernel
  have hupper : upper.extended = .ofRat 9007199254740992 := by
    rw [(Binary64.ofInt_nearestTo (by decide)).finite.extended_eq,
      Binary64.toRat_ofInt (by decide)]
    rfl
  have hbeyond : upper.extended < .ofRat beyond.toInt := by
    rw [hupper, ← not_le, ExtendedRat.ofRat_le_ofRat, not_le]
    exact_mod_cast (by decide : 9007199254740992 < beyond.toInt)
  have hset : store.set "step" (.int beyond) = .ok (store.put "step"
      { item.entry with value := .float (.ofInt beyond.toInt) }) := by decide +kernel
  obtain ⟨hnearest, -, haccepted, -⟩ := integers_held_as_nearest hentry rfl hbounds beyond
  obtain ⟨hread, -, -, -, honto, -⟩ := haccepted _ hset
  obtain ⟨-, -, -, hsame⟩ := integers_held_as_nearest hentry rfl hbounds (beyond + 1)
  obtain ⟨-, hwithin, -⟩ := integers_held_as_nearest hentry rfl hbounds Int64.minValue
  refine ⟨hentry, hbounds, hbeyond, ⟨_, hset, hread, hnearest, honto hbeyond⟩,
    hsame.trans (by decide +kernel), hwithin ?_ ?_⟩
  · rw [show (Binary64.infinity true).extended = ⊥ from rfl]
    exact bot_le
  · rw [hupper, ExtendedRat.ofRat_le_ofRat]
    exact_mod_cast (by decide : Int64.minValue.toInt ≤ 9007199254740992)

end OptionStore

end StrategyCoordinator
