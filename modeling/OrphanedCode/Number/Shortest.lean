import OrphanedCode.Number.Binary64
/-!
The shortest decimal of a binary64 value.

The values that round to `m · 2^e` form an interval around it: halfway to each neighbour, where the
neighbour below is half as far when `m` starts a binade, and the ends belong to it exactly when
`m` is even. The shortest decimal is found on the grids `10^p`, coarsest first: on each grid only
the two neighbours of the value can lie in the interval, the first grid with a hit wins, and of two
hits the nearer (an exact tie goes to the even digit string). All comparisons are exact in `Nat`.
-/

namespace OrphanedCode.Binary64

/-- Compares `a · 10^p` with `b · 2^q` exactly. -/
def compareDecBin (a : Nat) (p : Int) (b : Nat) (q : Int) : Ordering :=
  compare (a * Nat.pow 10 p.toNat * Nat.pow 2 (-q).toNat) (b * Nat.pow 2 q.toNat * Nat.pow 10 (-p).toNat)

/-- Whether `c · 10^p` lies in the rounding interval of `m · 2^e`, for `m > 0`. -/
def inInterval (m : Nat) (e : Int) (c : Nat) (p : Int) : Bool :=
  let inclusive := m % 2 == 0
  let (lo, loExp) :=
    if m == Nat.pow 2 52 && decide (e > -1074) then (4 * m - 1, e - 2) else (2 * m - 1, e - 1)
  let above := compareDecBin c p lo loExp
  let below := compareDecBin c p (2 * m + 1) (e - 1)
  (above == .gt || (inclusive && above == .eq)) && (below == .lt || (inclusive && below == .eq))

/-- The exponent `L` with `10^L ≤ m · 2^e < 10^(L+1)`, for `m > 0`. -/
def decimalLog (m : Nat) (e : Int) : Int :=
  let estimate : Int := ((Nat.log2 m : Int) + e) * 78913 / 262144
  let fits (L : Int) : Bool := compareDecBin 1 L m e != .gt && compareDecBin 1 (L + 1) m e == .gt
  ([estimate - 1, estimate, estimate + 1, estimate + 2].find? fits).getD estimate

/-- The largest `c` with `c · 10^p ≤ m · 2^e`. -/
def gridFloor (m : Nat) (e : Int) (p : Int) : Nat :=
  (m * Nat.pow 2 e.toNat * Nat.pow 10 (-p).toNat) / (Nat.pow 2 (-e).toNat * Nat.pow 10 p.toNat)

/-- The point of the grid `10^p` that is nearest to `m · 2^e` among the interval's points, if the
interval holds one of the value's two neighbours on that grid. -/
def pickOnGrid (m : Nat) (e : Int) (p : Int) : Option Nat :=
  let c := gridFloor m e p
  let lowIn := inInterval m e c p
  let highIn := inInterval m e (c + 1) p
  if lowIn && highIn then
    match compareDecBin (2 * c + 1) p m (e + 1) with
    | .lt => some (c + 1)
    | .gt => some c
    | .eq => some (if c % 2 == 0 then c else c + 1)
  else if lowIn then some c
  else if highIn then some (c + 1)
  else none

/-- Moves trailing zeros of the digits into the exponent. -/
def stripZeros (c : Nat) (p : Int) : Nat × Int :=
  if h : 0 < c ∧ c % 10 = 0 then stripZeros (c / 10) (p + 1) else (c, p)
  termination_by c
  decreasing_by omega

/-- The shortest decimal `digits · 10^exponent` that rounds to `m · 2^e`, for `m > 0`; the
digits end in no zero. -/
def shortest (m : Nat) (e : Int) : Nat × Int :=
  let L := decimalLog m e
  let found := (List.range 17).findSome? fun (i : Nat) =>
    (pickOnGrid m e (L - (i : Int))).map fun c => (c, L - (i : Int))
  let (c, p) := found.getD (gridFloor m e (L - 16), L - 16)
  stripZeros c p

end OrphanedCode.Binary64
