/-
# `LoxScan.Binary64.Shortest` — the shortest decimal that reads back

A decimal reads back to a double when the double is the nearest one to it.  Of
all decimals that do, `shortest` gives one with the fewest digits, and of those
the one nearest to the double's value.

The search runs over grids.  Decimals with `n` significant digits lie on a grid
of some power of ten, and the two neighbours of the value on that grid are the
only ones worth a test: if any decimal of the grid reads back, one of them does.
The grids are tried from the coarsest on, and the finest holds the value itself.
All decimals are counted in units of `10 ^ -1074`, in which the value of every
finite double is a natural number.
-/
import LoxScan.Binary64

namespace LoxScan.Binary64

/-- A decimal: `digits` times ten to the power `places - 1074`. -/
structure Decimal where
  digits : Nat
  places : Nat
deriving DecidableEq

/-- The value of a finite magnitude, counted in units of `10 ^ -1074`. -/
def tenUnits (m : Nat) : Nat :=
  units m * power 5 1074

/-- Whether the double nearest to a decimal is the one with magnitude `m`. -/
def readsBack (m : Nat) (d : Decimal) : Bool :=
  nearestMagnitude (d.digits * power 10 d.places) (power 10 1074) == m

/-- Of the two neighbours of `value` on the grid of `10 ^ places` units, the one that passes a test;
the nearer if both do, and the larger if it lies halfway between them. -/
def neighbour? (passes : Decimal → Bool) (value places : Nat) : Option Decimal :=
  let step := power 10 places
  let below : Decimal := ⟨value / step, places⟩
  let above : Decimal := ⟨value / step + 1, places⟩
  match passes below, passes above with
  | true, true => some (if 2 * (value % step) < step then below else above)
  | true, false => some below
  | false, true => some above
  | false, false => none

/-- The neighbour of `value` on the grid of `10 ^ places` units that reads back. -/
def onGrid? (m value places : Nat) : Option Decimal :=
  neighbour? (readsBack m) value places

/-- The first hit on the grids of `places` and fewer places; the value itself if none is hit. -/
def search (m value : Nat) : Nat → Decimal
  | 0 => ⟨value, 0⟩
  | places + 1 => (onGrid? m value (places + 1)).getD (search m value places)

/-- The shortest decimal that reads back to a finite magnitude. -/
def shortest (m : Nat) : Decimal :=
  search m (tenUnits m) ((Nat.toDigits 10 (tenUnits m)).length - 1)

end LoxScan.Binary64
