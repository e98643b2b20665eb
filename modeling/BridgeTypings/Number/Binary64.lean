namespace BridgeTypings.Number

structure Decimal where
  negative : Bool
  coefficient : Nat
  exponent : Int
deriving DecidableEq, Repr

inductive Binary64 where
  | zero
  | finite (mantissa : Nat) (exponent : Int)
  | infinite
deriving DecidableEq, Repr

def roundDiv (num den : Nat) : Nat :=
  let q := num / den
  let r := num % den
  if 2 * r < den then q
  else if den < 2 * r then q + 1
  else if q % 2 = 0 then q else q + 1

def scale (n : Nat) (e : Int) : Nat × Nat :=
  if 0 ≤ e then (n * Nat.pow 2 e.toNat, 1) else (n, Nat.pow 2 (-e).toNat)

def unitsOf (num den : Nat) (e : Int) : Nat :=
  if 0 ≤ e then roundDiv num (den * Nat.pow 2 e.toNat) else roundDiv (num * Nat.pow 2 (-e).toNat) den

def nearestFraction (num den : Nat) : Binary64 :=
  let estimate : Int := (Nat.log2 num : Int) - (Nat.log2 den : Int) - 53
  let low := max estimate (-1074)
  let e :=
    let whole := if 0 ≤ low then num / (den * Nat.pow 2 low.toNat) else num * Nat.pow 2 (-low).toNat / den
    if Nat.pow 2 53 ≤ whole then low + 1 else low
  let m := unitsOf num den e
  let (m, e) := if m = Nat.pow 2 53 then (Nat.pow 2 52, e + 1) else (m, e)
  if m = 0 then .zero
  else if 971 < e then .infinite
  else .finite m e

def digitCount (n : Nat) : Nat :=
  (Nat.toDigits 10 n).length

def Decimal.nearest (d : Decimal) : Binary64 :=
  let size : Int := digitCount d.coefficient + d.exponent
  if d.coefficient = 0 || size < -400 then .zero
  else if 400 < size then .infinite
  else if 0 ≤ d.exponent then nearestFraction (d.coefficient * Nat.pow 10 d.exponent.toNat) 1
  else nearestFraction d.coefficient (Nat.pow 10 (-d.exponent).toNat)

def tenths (num den : Nat) (x : Int) : Nat × Nat × Nat :=
  let (n, d) := if 0 ≤ x then (num, den * Nat.pow 10 x.toNat) else (num * Nat.pow 10 (-x).toNat, den)
  (n / d, n % d, d)

def between (low high den : Nat) (closed : Bool) (n : Nat) (x : Int) : Bool :=
  let value := if 0 ≤ x then n * Nat.pow 10 x.toNat * den else n * den
  let unit := if 0 ≤ x then 1 else Nat.pow 10 (-x).toNat
  if closed then low * unit ≤ value && value ≤ high * unit
  else low * unit < value && value < high * unit

def withDigits (m : Nat) (e : Int) (top : Int) (count : Nat) : Option (Nat × Int) :=
  let (num, den) := scale (4 * m) (e - 2)
  let (low, _) := scale (if m = Nat.pow 2 52 && -1074 < e then 4 * m - 1 else 4 * m - 2) (e - 2)
  let (high, _) := scale (4 * m + 2) (e - 2)
  let closed := m % 2 = 0
  let x := top - count
  let (floor, rest, unit) := tenths num den x
  let down := between low high den closed floor x
  let up := between low high den closed (floor + 1) x
  if down && (!up || 2 * rest ≤ unit) then some (floor, x)
  else if up then
    some (if floor + 1 = Nat.pow 10 count then (1, x + count) else (floor + 1, x))
  else none

def firstPlace (num den : Nat) : Int → Nat → Int
  | low, 0 => low
  | low, fuel + 1 => if (tenths num den low).1 = 0 then low else firstPlace num den (low + 1) fuel

def shortest (m : Nat) (e : Int) : Nat × Int :=
  let (num, den) := scale m e
  let top := firstPlace num den (-324) 700
  ((List.range 17).findSome? (fun n => withDigits m e top (n + 1))).getD (m, 0)

def positional (digits : Nat) (place : Int) : String :=
  let ds := Nat.toDigits 10 digits
  if 0 ≤ place then String.ofList (ds ++ List.replicate place.toNat '0') ++ ".0"
  else
    let k := (-place).toNat
    let padded := List.replicate (k + 1 - ds.length) '0' ++ ds
    String.ofList (padded.take (padded.length - k)) ++ "."
      ++ String.ofList (padded.drop (padded.length - k))

def Decimal.shortText (d : Decimal) : String :=
  (if d.negative then "-" else "") ++
    match d.nearest with
    | .zero => "0.0"
    | .infinite => "inf"
    | .finite m e => let (digits, place) := shortest m e; positional digits place

end BridgeTypings.Number
