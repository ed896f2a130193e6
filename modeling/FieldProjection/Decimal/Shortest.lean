/-!
# Shortest decimals

The decimal with the fewest digits that reads back as a given binary fraction, and of those the
nearest one. A binary fraction of fixed precision stands for an interval of real numbers: all
that are nearer to it than to its neighbours, ends included when its significand is even. The
grids of multiples of `10 ^ i` are searched from the coarsest down, and the first one with a
point in the interval wins. On each grid only the two points around the fraction can be in the
interval without a coarser grid having had one, so only these are tested.
-/

namespace FieldProjection

/-- The number `significand * 2 ^ exponent` in a format of fixed precision. -/
structure BinaryFraction where
  significand : Nat
  exponent : Int
  /-- The neighbour below is half as far away as the one above, as at a power of two. -/
  narrow : Bool

/-- A decimal `digits * 10 ^ exponent`. -/
structure Decimal where
  digits : Nat
  exponent : Int
deriving Repr, DecidableEq

namespace BinaryFraction

/-- The power `base ^ exponent`, or one when the exponent is negative. -/
def scale (base : Nat) (exponent : Int) : Nat := base.pow exponent.toNat

/-- Compares `count * 10 ^ grid` with `quarters / 4 * 2 ^ exponent`, without rounding. -/
def compareGrid (fraction : BinaryFraction) (grid : Int) (count quarters : Nat) : Ordering :=
  let power := fraction.exponent - 2
  compare (count * scale 10 grid * scale 2 (-power)) (quarters * scale 2 power * scale 10 (-grid))

/-- Whether `count * 10 ^ grid` lies in the interval of reals that the fraction stands for. -/
def covers (fraction : BinaryFraction) (grid : Int) (count : Nat) : Bool :=
  let quarters := 4 * fraction.significand
  let low := fraction.compareGrid grid count (quarters - if fraction.narrow then 1 else 2)
  let high := fraction.compareGrid grid count (quarters + 2)
  if fraction.significand % 2 = 0 then low.isGE && high.isLE else low.isGT && high.isLT

/-- The greatest `count` with `count * 10 ^ grid` at most the fraction. -/
def floorOn (fraction : BinaryFraction) (grid : Int) : Nat :=
  (fraction.significand * scale 2 fraction.exponent * scale 10 (-grid)) /
    (scale 10 grid * scale 2 (-fraction.exponent))

/-- The point of the grid in the interval; of two the nearer, of two equally near the even one. -/
def pointOn? (fraction : BinaryFraction) (grid : Int) : Option Nat :=
  let below := fraction.floorOn grid
  let above := below + 1
  match below != 0 && fraction.covers grid below, fraction.covers grid above with
  | true, true =>
    let middle := fraction.compareGrid grid (below + above) (8 * fraction.significand)
    match middle with
    | .gt => some below
    | .lt => some above
    | .eq => some (if below % 2 = 0 then below else above)
  | true, false => some below
  | false, true => some above
  | false, false => none

/-- The first grid with a point in the interval, searched from `10 ^ grid` downwards. -/
def search (fraction : BinaryFraction) : Nat → Int → Decimal
  | 0, grid => ⟨fraction.floorOn grid, grid⟩
  | steps + 1, grid =>
    match fraction.pointOn? grid with
    | some count => ⟨count, grid⟩
    | none => fraction.search steps (grid - 1)

/-- The shortest decimal of a fraction below `10 ^ 309` and above `10 ^ (-324)`. -/
def shortest (fraction : BinaryFraction) : Decimal :=
  fraction.search 650 309

end BinaryFraction

/-- The fraction that is two has the digit two. -/
example : (⟨2 ^ 52, -51, true⟩ : BinaryFraction).shortest = ⟨2, 0⟩ := by decide +kernel

/-- The fraction nearest to one tenth has a single digit. -/
example : (⟨7205759403792794, -56, false⟩ : BinaryFraction).shortest = ⟨1, -1⟩ := by
  decide +kernel

end FieldProjection
