import PatternLint.Yaml.Token

/-! Numbers and dates among plain scalars. Underscores between digits have no meaning, and parts
between colons are sixtieths. -/

namespace PatternLint.Yaml

def digitsToNat (base : Nat) (digit : Char → Nat) (cs : List Char) : Nat :=
  cs.foldl (fun n c => base * n + digit c) 0

def decimalDigit (c : Char) : Nat := c.toNat - '0'.toNat

def hexDigit (c : Char) : Nat :=
  if c.isDigit then decimalDigit c else c.toLower.toNat - 'a'.toNat + 10

def decimal (cs : List Char) : Nat := digitsToNat 10 decimalDigit cs

/-- A sign, if there is one; whether it is a minus. -/
def sign : Text → Bool × Text
  | '-' :: s => (true, s)
  | '+' :: s => (false, s)
  | s => (false, s)

def signed (negative : Bool) (n : Int) : Int := if negative then -n else n

def dropUnderscores (s : Text) : Text := s.filter (· ≠ '_')

def isOneOf (chars : String) (c : Char) : Bool := chars.toList.contains c

/-- A digit, then digits and underscores. -/
def isPlainDigits : Text → Bool
  | [] => false
  | c :: s => c.isDigit && s.all fun d => d.isDigit || d = '_'

/-- Cuts a text at its colons. -/
def colonParts : Text → List Text
  | [] => [[]]
  | c :: s =>
    match colonParts s with
    | [] => [[c]]
    | part :: parts => if c = ':' then [] :: part :: parts else (c :: part) :: parts

/-- Up to two digits below sixty. -/
def isSixtieth : Text → Bool
  | [c] => c.isDigit
  | [c, d] => isOneOf "012345" c && d.isDigit
  | _ => false

def unsigned? : Text → Option Int
  | ['0'] => some 0
  | '0' :: 'b' :: s =>
    let digits := dropUnderscores s
    if s.all (isOneOf "01_") ∧ digits ≠ [] then some (digitsToNat 2 decimalDigit digits) else none
  | '0' :: 'x' :: s =>
    let digits := dropUnderscores s
    if s.all (isOneOf "0123456789abcdefABCDEF_") ∧ digits ≠ [] then
      some (digitsToNat 16 hexDigit digits)
    else none
  | '0' :: s =>
    if s.all (isOneOf "01234567_") then some (digitsToNat 8 decimalDigit (dropUnderscores s))
    else none
  | s =>
    match colonParts s with
    | [] => none
    | first :: others =>
      if isPlainDigits first && others.all isSixtieth then
        some (others.foldl (fun n part => 60 * n + decimal part) (decimal (dropUnderscores first)))
      else none

/-- A binary or hexadecimal number that has underscores for its digits. -/
def isDigitless (s : Text) : Bool :=
  match (sign s).2 with
  | '0' :: c :: digits => (c = 'b' || c = 'x') && digits ≠ [] && digits.all (· = '_')
  | _ => false

def int? (s : Text) : Option Int :=
  let (negative, rest) := sign s
  (unsigned? rest).map (signed negative)

/-- How many digits a decimal number has before its first colon; other numbers have none. -/
def decimalLength (s : Text) : Nat :=
  match (sign s).2 with
  | '0' :: _ => 0
  | digits => (dropUnderscores (digits.takeWhile (· ≠ ':'))).length

/-- An exponent with its sign; none is 0. -/
def exponent? : Text → Option Int
  | [] => some 0
  | e :: s =>
    if e = 'e' ∨ e = 'E' then
      match s with
      | c :: digits =>
        if (c = '-' ∨ c = '+') ∧ digits ≠ [] ∧ digits.all Char.isDigit then
          some (signed (c = '-') (decimal digits))
        else none
      | [] => none
    else none

/-- The number `m · 10 ^ e`; exponents beyond all numbers are cut. -/
def scientific (m : Nat) (e : Int) : Float :=
  let bound : Int := 400 + (Nat.toDigits 10 m).length
  let e := max (-bound) (min bound e)
  Float.ofScientific m (e < 0) e.natAbs

def isFractionChar (c : Char) : Bool := c.isDigit || c = '_'

/-- A point with digits around it, and perhaps an exponent; `whole` may be empty where a digit
follows the point. -/
def pointed? (whole fraction : Text) : Option Float :=
  let shown := fraction.takeWhile isFractionChar
  let digits := dropUnderscores shown
  if whole = [] ∧ !shown.head?.any Char.isDigit then none
  else
    (exponent? (fraction.dropWhile isFractionChar)).map fun e =>
      scientific (decimal (dropUnderscores whole ++ digits)) (e - digits.length)

/-- Sixtieths with a point in the last part. -/
def sixtieths? (parts : List Text) (fraction : Text) : Option Float :=
  match parts with
  | first :: others@(_ :: _) =>
    if isPlainDigits first && others.all isSixtieth && fraction.all isFractionChar then
      let digits := dropUnderscores fraction
      let last := scientific (decimal (others.getLastD [] ++ digits)) (-digits.length)
      let before := (first :: others.dropLast).reverse
      let (sum, _) := before.foldl (fun (sum, base) part =>
        (sum + Float.ofNat (decimal (dropUnderscores part)) * base, base * 60)) (last, 60)
      some sum
    else none
  | _ => none

def unsignedFloat? (s : Text) : Option Float :=
  let whole := s.takeWhile (· ≠ '.')
  match s.dropWhile (· ≠ '.') with
  | [] => none
  | _ :: fraction =>
    if whole = [] ∨ isPlainDigits whole then pointed? whole fraction
    else sixtieths? (colonParts whole) fraction

def negate (negative : Bool) (x : Float) : Float := if negative then -x else x

def infinities : List String := [".inf", ".Inf", ".INF"]

def nans : List String := [".nan", ".NaN", ".NAN"]

/-- A number that begins with its point has no sign, unless it is infinite. -/
def float? (s : Text) : Option Float :=
  let (negative, rest) := sign s
  let named := String.ofList rest
  if infinities.contains named then some (negate negative (1 / 0))
  else if nans.contains (String.ofList s) then some (0 / 0)
  else if rest.head? = some '.' ∧ rest.length < s.length then none
  else (unsignedFloat? rest).map (negate negative)

/-- A year, a month and a day. -/
def date? : Text → Option (Nat × Nat × Nat)
  | [a, b, c, d, '-', e, f, '-', g, h] =>
    if [a, b, c, d, e, f, g, h].all Char.isDigit then
      some (decimal [a, b, c, d], decimal [e, f], decimal [g, h])
    else none
  | _ => none

def isLeap (year : Nat) : Bool := year % 4 = 0 && (year % 100 ≠ 0 || year % 400 = 0)

def monthLength (year month : Nat) : Nat :=
  if month = 2 then if isLeap year then 29 else 28
  else if month ∈ [4, 6, 9, 11] then 30
  else 31

def isDate (year month day : Nat) : Bool :=
  1 ≤ year && 1 ≤ month && month ≤ 12 && 1 ≤ day && day ≤ monthLength year month

end PatternLint.Yaml
