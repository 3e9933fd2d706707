/-!
# Numerals as binary numbers

A decimal numeral names the nearest floating-point number of 64 bits, ties going
to the even one; a number is shown with the fewest digits that name it, and
among those the nearest. All of this is exact arithmetic on natural numbers.
-/

namespace DocSite.Text

/-- The number `mantissa * 2 ^ exponent / 2 ^ 1074`. -/
structure Binary64 where
  mantissa : Nat
  exponent : Nat
  deriving DecidableEq, Repr

namespace Binary64

/-- `num / den` to the nearest whole number, a half to the even one. -/
def roundDiv (num den : Nat) : Nat :=
  let q := num / den
  let twice := 2 * (num % den)
  if den < twice || (twice = den && q % 2 = 1) then q + 1 else q

/-- The number nearest to `num / den`; none if it is too large. -/
def ofRatio? (num den : Nat) : Option Binary64 :=
  let scaled := num * Nat.pow 2 1074
  let exponent := Nat.log2 (scaled / den) - 52
  let mantissa := roundDiv scaled (den * Nat.pow 2 exponent)
  let (mantissa, exponent) :=
    if mantissa = Nat.pow 2 53 then (Nat.pow 2 52, exponent + 1) else (mantissa, exponent)
  if 2045 < exponent then none else some ⟨mantissa, exponent⟩

/-- How many decimal digits a whole number has. -/
def digitCount (n : Nat) : Nat := (Nat.toDigits 10 n).length

/-- The number nearest to `digits * 10 ^ power`. Numbers of more than 310 digits
are too large, and those with 330 zeros behind the point are zero. -/
def ofDecimal? (digits : Nat) (power : Int) : Option Binary64 :=
  let magnitude := power + digitCount digits
  if digits = 0 || magnitude < -330 then some ⟨0, 0⟩
  else if 310 < magnitude then none
  else if 0 ≤ power then ofRatio? (digits * Nat.pow 10 power.toNat) 1
  else ofRatio? digits (Nat.pow 10 (-power).toNat)

def numerator (b : Binary64) : Nat := b.mantissa * Nat.pow 2 b.exponent

/-- The power of ten of a number's first digit. -/
def leading (b : Binary64) : Int :=
  let whole := b.numerator / Nat.pow 2 1074
  if whole ≠ 0 then (digitCount whole : Int) - 1
  else
    -- Enough places for the smallest number to show.
    let shifted := b.numerator * Nat.pow 10 400 / Nat.pow 2 1074
    (digitCount shifted : Int) - 1 - 400

/-- The decimals with `n` digits next to a number, and their power of ten: the
nearer one first. -/
def neighbours (b : Binary64) (n : Nat) : List (Nat × Int) :=
  let power := b.leading - (n : Int) + 1
  let (num, den) :=
    if 0 ≤ power then (b.numerator, Nat.pow 2 1074 * Nat.pow 10 power.toNat)
    else (b.numerator * Nat.pow 10 (-power).toNat, Nat.pow 2 1074)
  let low := num / den
  let nearer := roundDiv num den
  [(nearer, power), (if nearer = low then low + 1 else low, power)]

/-- The shortest decimal that names a number. -/
def shortest (b : Binary64) : Nat × Int :=
  if b.mantissa = 0 then (0, 0)
  else
    let candidates := (List.range 17).flatMap fun n => b.neighbours (n + 1)
    (candidates.find? fun (d, p) => ofDecimal? d p == some b).getD (0, 0)

/-- A number in positional notation, with at least one place. -/
def toText (b : Binary64) : List Char :=
  let (d, p) := b.shortest
  let digits := Nat.toDigits 10 d
  if 0 ≤ p then
    if d = 0 then "0.0".toList else digits ++ List.replicate p.toNat '0' ++ ['.', '0']
  else
    let places := (-p).toNat
    let padded := List.replicate (places + 1 - digits.length) '0' ++ digits
    let whole := padded.take (padded.length - places)
    let fraction := ((padded.drop (padded.length - places)).reverse.dropWhile (· == '0')).reverse
    whole ++ '.' :: (if fraction.isEmpty then ['0'] else fraction)

end Binary64

/-- A decimal numeral with an optional point and an optional exponent, as digits
and a power of ten. -/
def numeral? (s : List Char) : Option (Nat × Int) := do
  let value (ds : List Char) : Nat := ds.foldl (fun n c => 10 * n + (c.toNat - 48)) 0
  let whole := s.takeWhile Char.isDigit
  let rest := s.drop whole.length
  let (fraction, rest) := match rest with
    | '.' :: rest => (rest.takeWhile Char.isDigit, rest.dropWhile Char.isDigit)
    | rest => ([], rest)
  if whole.isEmpty && fraction.isEmpty then none
  else
    let power : Int ← match rest with
      | [] => some 0
      | c :: rest =>
        if c != 'e' && c != 'E' then none
        else
          let (sign, ds) : Int × List Char := match rest with
            | '-' :: ds => (-1, ds)
            | '+' :: ds => (1, ds)
            | ds => (1, ds)
          if ds.isEmpty || !ds.all Char.isDigit then none else some (sign * value ds)
    some (value (whole ++ fraction), power - fraction.length)

end DocSite.Text
