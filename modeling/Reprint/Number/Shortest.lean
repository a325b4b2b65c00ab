import Reprint.Number.Decimal

set_option autoImplicit false

/-!
# Numbers: the shortest decimal of a floating-point number

Between a floating-point number and its two neighbours lie the reals that round to it.  Of the
decimals among them the shortest is the one on the coarsest grid of multiples of a power of ten, and
of two on one grid the nearer is taken; a tie goes to the even one.  All comparisons are made on
natural numbers, so no rounding enters.
-/

namespace Reprint

/-- The positive value `mantissa · 2 ^ exponent`, as a 64-bit floating-point number holds it. -/
structure Binary64 where
  mantissa : Nat
  exponent : Int
  deriving DecidableEq, Repr

namespace Binary64

/-- Takes the bits of a finite floating-point number apart and drops the sign. -/
def ofFloat (x : Float) : Binary64 :=
  let bits := x.toBits.toNat
  let fraction := bits % Nat.pow 2 52
  let biased : Nat := bits / Nat.pow 2 52 % Nat.pow 2 11
  if biased = 0 then ⟨fraction, -1074⟩ else ⟨Nat.pow 2 52 + fraction, (biased : Int) - 1075⟩

/-- Four times the mantissa, so that half and quarter units are whole. -/
def middle (b : Binary64) : Nat := 4 * b.mantissa

/-- The lower end of the reals that round to `b`, in units of `middle`.  Below a power of two the
neighbour is only half as far. -/
def lower (b : Binary64) : Nat :=
  if b.mantissa = Nat.pow 2 52 ∧ -1074 < b.exponent then b.middle - 1 else b.middle - 2

/-- The upper end of the reals that round to `b`, in units of `middle`. -/
def upper (b : Binary64) : Nat := b.middle + 2

/-- The ends themselves round to `b` when its mantissa is even. -/
def closed (b : Binary64) : Bool := b.mantissa % 2 = 0

/-- The binary scale of a unit of `middle` over `10 ^ grid`, as a numerator and a denominator. -/
def ratio (b : Binary64) (grid : Int) : Nat × Nat :=
  (Nat.pow 2 (b.exponent - 2).toNat * Nat.pow 10 (-grid).toNat,
    Nat.pow 2 (2 - b.exponent).toNat * Nat.pow 10 grid.toNat)

/-- The decimal `d · 10 ^ grid` rounds to `b`. -/
def admits (b : Binary64) (grid : Int) (d : Nat) : Bool :=
  let (p, q) := b.ratio grid
  if b.closed then b.lower * p ≤ d * q && d * q ≤ b.upper * p
  else b.lower * p < d * q && d * q < b.upper * p

/-- The multiple of `10 ^ grid` nearest to `b`, an even one in case of a tie. -/
def nearest (b : Binary64) (grid : Int) : Nat :=
  let (p, q) := b.ratio grid
  let below := b.middle * p / q
  let rest := b.middle * p % q
  if 2 * rest < q ∨ 2 * rest = q ∧ below % 2 = 0 then below else below + 1

/-- The nearest multiple of `10 ^ grid` that rounds to `b`.  When the interval reaches less far down
than up, only the multiple above may lie in it. -/
def pick (b : Binary64) (grid : Int) : Option Nat :=
  let (p, q) := b.ratio grid
  let candidates := [b.nearest grid, b.middle * p / q, b.middle * p / q + 1]
  candidates.find? (b.admits grid)

/-- Tries `count` finer and finer grids and takes the first with a decimal that rounds to `b`. -/
def search (b : Binary64) (grid : Int) : Nat → Decimal
  | 0 => ⟨b.nearest grid, grid⟩
  | count + 1 =>
    match b.pick grid with
    | some d => ⟨d, grid⟩
    | none => b.search (grid - 1) count

/-- A power of ten above the value: `30103 / 100000` is the logarithm of two to the base ten. -/
def coarsest (b : Binary64) : Int :=
  Int.fdiv ((b.mantissa.log2 + b.exponent) * 30103) 100000 + 2

/-- The shortest decimal that rounds to `b`.  Seventeen digits always suffice, and the search starts
at most two grids above the first digit. -/
def shortest (b : Binary64) : Decimal :=
  b.search b.coarsest 19

end Binary64

end Reprint
