import WallClock.Binary64.Rounding

/-! # Double precision numbers

A double is not a number, one of the two infinities, or a sign with a magnitude on the grid of
`Binary64.Fits`; both zeros are kept apart. Sums and products are the exact results rounded
once, to nearest with ties to even, and a result that rounds to `2 ^ 1024` or more is infinite.

`Binary64.place?` puts every double but the missing one on the line of integers, so that order
is order of integers. -/

namespace WallClock

/-- A double precision number. A finite one is `units * 2 ^ -1074`, with a minus sign when
`negative` holds. -/
inductive Binary64
  | nan
  | infinite (negative : Bool)
  | finite (negative : Bool) (units : Nat) (fits : Binary64.Fits units)
  deriving DecidableEq

namespace Binary64

/-- The double nearest to `num / den` units, with a minus sign when `negative` holds. -/
def ofQuotient (negative : Bool) (num den : Nat) : Binary64 :=
  if h : roundUnits num den < unitsCeiling then
    .finite negative (roundUnits num den) ⟨h, spacing_dvd_roundUnits num den⟩
  else .infinite negative

/-- The double nearest to an integer; zero is positive. -/
def ofInt (n : Int) : Binary64 := ofQuotient (n < 0) (n.natAbs * unitsPerOne) 1

/-- The number of units from zero, counted downwards for a negative number. -/
def signedUnits (negative : Bool) (units : Nat) : Int :=
  if negative then -(units : Int) else units

theorem natAbs_signedUnits (negative : Bool) (units : Nat) :
    (signedUnits negative units).natAbs = units := by
  cases negative
  · exact Int.natAbs_natCast units
  · exact (Int.natAbs_neg _).trans (Int.natAbs_natCast units)

def neg : Binary64 → Binary64
  | nan => nan
  | infinite negative => infinite !negative
  | finite negative units fits => finite (!negative) units fits

/-- The sum. Infinities of opposite signs have none, and an exact sum of zero is negative only
when both numbers are. -/
def add : Binary64 → Binary64 → Binary64
  | nan, _ => nan
  | _, nan => nan
  | infinite s, infinite t => if s = t then infinite s else nan
  | infinite s, finite _ _ _ => infinite s
  | finite _ _ _, infinite t => infinite t
  | finite s m _, finite t n _ =>
    let sum := signedUnits s m + signedUnits t n
    if sum = 0 then finite (s && t) 0 fits_zero
    else ofQuotient (sum < 0) sum.natAbs 1

/-- The product. Zero times infinity has none; the sign is negative when one of the two is. -/
def mul : Binary64 → Binary64 → Binary64
  | nan, _ => nan
  | _, nan => nan
  | infinite s, infinite t => infinite (s ^^ t)
  | infinite s, finite t n _ => if n = 0 then nan else infinite (s ^^ t)
  | finite s m _, infinite t => if m = 0 then nan else infinite (s ^^ t)
  | finite s m _, finite t n _ => ofQuotient (s ^^ t) (m * n) unitsPerOne

instance : Neg Binary64 := ⟨neg⟩

instance : Add Binary64 := ⟨add⟩

instance : Mul Binary64 := ⟨mul⟩

/-- Where the number lies, in units from zero. Both zeros lie at zero, the infinities just
outside all finite numbers, and what is not a number lies nowhere. -/
def place? : Binary64 → Option Int
  | nan => none
  | infinite negative => some (signedUnits negative unitsCeiling)
  | finite negative units _ => some (signedUnits negative units)

/-- Whether the first number is at most the second; false when either is not a number. -/
def atMost (a b : Binary64) : Bool :=
  match a.place?, b.place? with
  | some x, some y => x ≤ y
  | _, _ => false

instance : LE Binary64 := ⟨fun a b => a.atMost b⟩

instance (a b : Binary64) : Decidable (a ≤ b) := inferInstanceAs (Decidable (a.atMost b = true))

end Binary64
end WallClock
