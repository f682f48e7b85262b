/-! # Binary floating-point numbers

A finite number is a significand times a power of two, within the bounds of its format.  Decimals are
rounded to the nearest number, halfway cases to the even significand, and a number is written with the
fewest decimal digits that are rounded back to it.
-/

namespace Debugger.Decimal

/-- A format of floating-point numbers. -/
structure Format where
  /-- Significands are below two to this power. -/
  precision : Nat
  /-- The least and the greatest power of two that a significand is multiplied with. -/
  minExponent : Int
  maxExponent : Int
  deriving DecidableEq, Repr, Inhabited

/-- Numbers of 32 bits. -/
def Format.single : Format := ⟨24, -149, 104⟩

/-- Numbers of 64 bits. -/
def Format.double : Format := ⟨53, -1074, 971⟩

/-- A floating-point number. -/
inductive Binary where
  | finite (negative : Bool) (significand : Nat) (exponent : Int)
  | infinite (negative : Bool)
  | nan
  deriving DecidableEq, Repr, Inhabited

/-- `num / den` to the nearest whole number, halfway cases to the even one. -/
def roundDiv (num den : Nat) : Nat :=
  let q := num / den
  let twice := 2 * (num % den)
  if twice > den || twice = den && q % 2 = 1 then q + 1 else q

/-- A fraction times a power, as numerator and denominator. -/
private def scale (num den base : Nat) (e : Int) : Nat × Nat :=
  if e ≥ 0 then (num * Nat.pow base e.toNat, den) else (num, den * Nat.pow base (-e).toNat)

namespace Binary

/-- The number with the given bits: a sign, the exponent, and the significand without its first digit. -/
def ofBits (f : Format) (width bits : Nat) : Binary :=
  let stored := f.precision - 1
  let negative := bits / Nat.pow 2 (width - 1) % 2 = 1
  let top := Nat.pow 2 (width - 1 - stored) - 1
  let exponent := bits / Nat.pow 2 stored % (top + 1)
  let significand := bits % Nat.pow 2 stored
  if exponent = top then (if significand = 0 then infinite negative else nan)
  else if exponent = 0 then finite negative significand f.minExponent
  else finite negative (Nat.pow 2 stored + significand) (f.minExponent + exponent - 1)

/-- The fraction rounded to a significand and an exponent. -/
private def round (f : Format) (num den : Nat) : Nat × Int :=
  let least := Nat.pow 2 (f.precision - 1)
  let guess : Int := (num.log2 : Int) - den.log2 - (f.precision - 1 : Nat)
  -- the significand has all its digits with this exponent or with the next lower one
  let fits : Bool :=
    let (n, d) := scale num den 2 (-guess)
    n / d ≥ least
  let e := max f.minExponent (if fits then guess else guess - 1)
  let (n, d) := scale num den 2 (-e)
  let m := roundDiv n d
  if m = 2 * least then (least, e + 1) else (m, e)

/-- The number nearest to the decimal `digits * 10^exponent`. -/
def ofDecimal (f : Format) (negative : Bool) (digits : Nat) (exponent : Int) : Binary :=
  let magnitude : Int := exponent + (Nat.toDigits 10 digits).length
  if digits = 0 || magnitude < -330 then finite negative 0 f.minExponent
  else if magnitude > 330 then infinite negative
  else
    let (num, den) := scale digits 1 10 exponent
    let (m, e) := round f num den
    if e > f.maxExponent then infinite negative else finite negative m e

/-- Whether a decimal `n * 10^k` is rounded to the number `m * 2^e`. -/
private def roundsTo (f : Format) (m : Nat) (e : Int) (n : Nat) (k : Int) : Bool :=
  ofDecimal f false n k = finite false m e

/-- The fewest digits that are rounded back to `m * 2^e`, and the exponent of the last one: of the two
neighbours on each decimal grid the nearer one, `places` being left to try below the exponent `k`. -/
private def shortestFrom (f : Format) (m : Nat) (e : Int) : (places : Nat) → (k : Int) → Nat × Int
  | 0, k => (0, k)
  | places + 1, k =>
    let (n, d) := scale m 1 2 e
    let (n, d) := scale n d 10 (-k)
    let low := n / d
    let near := if 2 * (n % d) < d then [low, low + 1] else [low + 1, low]
    match near.find? fun c => roundsTo f m e c k with
    | some c => (c, k)
    | none => shortestFrom f m e places (k - 1)

/-- The digits of a number that is not zero, without zeros at the end, and the exponent of the last. -/
def shortest (f : Format) (m : Nat) (e : Int) : Nat × Int :=
  let (n, d) := scale m 1 2 e
  -- the exponent of the first digit is at most this
  let top : Int :=
    if n / d = 0 then 2 - ((Nat.toDigits 10 (d / n)).length : Int)
    else (Nat.toDigits 10 (n / d)).length
  let rec trim : (fuel n : Nat) → Int → Nat × Int
    | 0, n, k => (n, k)
    | fuel + 1, n, k => if n ≠ 0 && n % 10 = 0 then trim fuel (n / 10) (k + 1) else (n, k)
  let (n, k) := shortestFrom f m e 20 top
  trim 400 n k

/-- Digits with the point in its place, and no exponent. -/
private def positional (digits : List Char) (exponent : Int) : List Char :=
  if exponent ≥ 0 then digits ++ List.replicate exponent.toNat '0'
  else
    let places := (-exponent).toNat
    let padded := List.replicate (places + 1 - digits.length) '0' ++ digits
    padded.take (padded.length - places) ++ '.' :: padded.drop (padded.length - places)

/-- Digits with the point behind the first, and an exponent. -/
private def scientific (digits : List Char) (exponent : Int) : List Char :=
  let power := exponent + (digits.length - 1 : Nat)
  digits.take 1 ++ (if digits.length > 1 then '.' :: digits.drop 1 else []) ++
    'e' :: (toString power).toList

/-- How the digits of a number are written. -/
inductive Style where
  /-- Without exponent, and with a point only if there is something behind it. -/
  | plain
  /-- Without exponent, and always with a point. -/
  | withPoint
  /-- With a point, or with an exponent from 10^16 on and below 10^-4. -/
  | general
  deriving DecidableEq, Repr

/-- The number as a text. -/
def text (f : Format) (style : Style) : Binary → String
  | finite negative m e =>
    let (n, k) := if m = 0 then (0, 0) else shortest f m e
    let digits := Nat.toDigits 10 n
    let power := k + (digits.length - 1 : Nat)
    let cs :=
      if style = .general && m ≠ 0 && (power ≥ 16 || power < -4) then scientific digits k
      else
        let cs := positional digits k
        if style = .plain || cs.contains '.' then cs else cs ++ ['.', '0']
    (if negative then "-" else "") ++ String.ofList cs
  | infinite negative => if negative then "-inf" else "inf"
  | nan => "NaN"

end Binary

end Debugger.Decimal
