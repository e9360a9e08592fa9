/-!
# Shortest decimals

The decimal with the fewest digits that a double-precision number is nearest to. A finite number is
`m * 2 ^ q`; the reals that round to it reach half a unit `2 ^ q` to either side, and only a quarter
below a power of two. The grids of one, two, … seventeen significant digits are tried in turn, on
each the two neighbours of the number.
-/

namespace Teller

/-- The number `digits * 10 ^ exponent`. -/
structure Decimal where
  digits : Nat
  exponent : Int
deriving DecidableEq

namespace Decimal

/-- A positive binary fraction `m * 2 ^ q`; `narrow` if the gap below it is half the gap above. -/
structure Binary where
  m : Nat
  q : Int
  narrow : Bool

/-- The fraction in the bits of a finite double, its sign aside. -/
def Binary.ofBits (bits : UInt64) : Binary :=
  let e := (bits.toNat >>> 52) % 2048
  let f := bits.toNat % (1 <<< 52)
  if e = 0 then ⟨f, -1074, false⟩ else ⟨(1 <<< 52) + f, Int.ofNat e - 1075, f = 0 ∧ e > 1⟩

/-- The numerator and denominator of a binary fraction. -/
def Binary.ratio (x : Binary) : Nat × Nat := (x.m <<< x.q.toNat, 1 <<< (-x.q).toNat)

/-- The exponent of the leading decimal digit of `num / den`, looked for among `e`, `e - 1`, …. -/
def leadingExponent (num den : Nat) : Nat → Int → Int
  | 0, e => e
  | fuel + 1, e =>
    if den * Nat.pow 10 e.toNat ≤ num * Nat.pow 10 (-e).toNat then e
    else leadingExponent num den fuel (e - 1)

/-- The nearest point of the grid of multiples of `10 ^ k` that still rounds to `x`. -/
def onGrid? (x : Binary) (k : Int) : Option Decimal :=
  let (num, den) := x.ratio
  let fine := Nat.pow 10 (-k).toNat
  let value := num * fine
  let unit := den * Nat.pow 10 k.toNat
  let gap := fine <<< x.q.toNat
  let within (reach : Nat) : Bool := if x.m % 2 = 0 then reach ≤ gap else reach < gap
  let below := value / unit
  let down := value - below * unit
  let up := (below + 1) * unit - value
  let downOk := below > 0 && within (if x.narrow then 4 * down else 2 * down)
  let upOk := within (2 * up)
  let nearerBelow := down < up || (down == up && below % 2 == 0)
  if downOk && (nearerBelow || !upOk) then some ⟨below, k⟩
  else if upOk then some ⟨below + 1, k⟩
  else none

/-- Moves trailing zeros of the digits into the exponent. -/
def strip : Nat → Decimal → Decimal
  | 0, d => d
  | fuel + 1, d =>
    if d.digits ≠ 0 ∧ d.digits % 10 = 0 then strip fuel ⟨d.digits / 10, d.exponent + 1⟩ else d

/-- The decimal with the fewest digits that reads back as the number. -/
def shortest (x : Binary) : Decimal :=
  let (num, den) := x.ratio
  let top := leadingExponent num den 700 330
  let grids := (List.range 17).map fun n => top - Int.ofNat n
  match grids.findSome? (onGrid? x) with
  | some d => strip 20 d
  | none => ⟨x.m, 0⟩

/-- Where a decimal is written with a point and no exponent. -/
structure Layout where
  plainFrom : Int
  plainBelow : Int

/-- Such as `12.5`, `0.001`, `120.0` inside the plain range; `1.25e+20`, `1e-7` outside it. -/
def text (layout : Layout) (d : Decimal) : List Char :=
  let digits := (toString d.digits).toList
  let lead := d.exponent + digits.length - 1
  let zeros (n : Nat) := List.replicate n '0'
  if layout.plainFrom ≤ lead ∧ lead < layout.plainBelow then
    if 0 ≤ d.exponent then digits ++ zeros d.exponent.toNat ++ ['.', '0']
    else if 0 ≤ lead then
      digits.take (lead.toNat + 1) ++ '.' :: digits.drop (lead.toNat + 1)
    else ['0', '.'] ++ zeros ((-lead).toNat - 1) ++ digits
  else
    let fraction := if digits.length = 1 then [] else '.' :: digits.drop 1
    let mark := if lead < 0 then ['e', '-'] else ['e', '+']
    digits.take 1 ++ fraction ++ mark ++ (toString lead.natAbs).toList

/-- The text of a finite double. -/
def ofFloat (layout : Layout) (x : Float) : String :=
  let bits := x.toBits
  let negative := bits >>> 63 = 1
  let binary := Binary.ofBits bits
  let magnitude := if binary.m = 0 then ['0', '.', '0'] else text layout (shortest binary)
  String.ofList (if negative then '-' :: magnitude else magnitude)

end Decimal

end Teller
