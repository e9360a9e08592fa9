/-!
# Punycode

A label of arbitrary characters spelled in ASCII: its basic characters, a hyphen if there are any,
and then, for each further character in order of code points and positions, the distance from the
previous one as a number of variable base.
-/

namespace Teller.Text.Punycode

def base : Nat := 36
def leastThreshold : Nat := 1
def mostThreshold : Nat := 26
def skew : Nat := 38
def damping : Nat := 700
def initialBias : Nat := 72

/-- The digits are `a` to `z`, then `0` to `9`. -/
def digit (n : Nat) : Char := if n < 26 then Char.ofNat (97 + n) else Char.ofNat (22 + n)

/-- The threshold of the digit at position `k`, a multiple of the base. -/
def threshold (k bias : Nat) : Nat := min mostThreshold (max leastThreshold (k - bias))

/-- A number of variable base, lowest digit first. -/
def number : Nat → Nat → Nat → Nat → List Char
  | 0, _, _, _ => []
  | fuel + 1, q, k, bias =>
    let t := threshold k bias
    if q < t then [digit q]
    else digit (t + (q - t) % (base - t)) :: number fuel ((q - t) / (base - t)) (k + base) bias

/-- Divides until the thresholds fit; how often goes into the bias. -/
def settle : Nat → Nat → Nat → Nat
  | 0, _, k => k
  | fuel + 1, delta, k =>
    if delta > (base - leastThreshold) * mostThreshold / 2 then
      settle fuel (delta / (base - leastThreshold)) (k + base)
    else k + (base - leastThreshold + 1) * delta / (delta + skew)

/-- The bias after a difference was written. -/
def adapt (delta count : Nat) (isFirst : Bool) : Nat :=
  let scaled := if isFirst then delta / damping else delta / 2
  settle 64 (scaled + scaled / count) 0

/-- What the encoder has written, and where it stands in the label. -/
structure State where
  next : Nat
  delta : Nat
  bias : Nat
  handled : Nat
  written : List Char

/-- Passes one input character while the code point `m` is handled. -/
def pass (basic m : Nat) (s : State) (c : Char) : State :=
  if c.toNat < m then { s with delta := s.delta + 1 }
  else if c.toNat = m then
    { s with
      written := s.written ++ number 64 s.delta base s.bias
      bias := adapt s.delta (s.handled + 1) (s.handled = basic)
      delta := 0
      handled := s.handled + 1 }
  else s

/-- Writes all occurrences of the code point `m`. -/
def round (label : List Char) (basic : Nat) (s : State) (m : Nat) : State :=
  let s := label.foldl (pass basic m) { s with delta := s.delta + (m - s.next) * (s.handled + 1) }
  { s with next := m + 1, delta := s.delta + 1 }

/-- The characters of ASCII come first; the others follow as differences in letters and digits. -/
def encode (label : List Char) : List Char :=
  let plain := label.filter fun c => c.toNat < 128
  let others := (label.filterMap fun c => if c.toNat < 128 then none else some c.toNat).eraseDups
  let start := if plain.isEmpty then [] else plain ++ ['-']
  let ordered := others.mergeSort fun a b => a ≤ b
  (ordered.foldl (round label plain.length) ⟨128, 0, initialBias, plain.length, start⟩).written

end Teller.Text.Punycode
