import PatternLint.Decimal.Binary
import PatternLint.Unforeseen

/-! Values as configurations hold them. -/

namespace PatternLint

inductive Value where
  | null
  | bool (b : Bool)
  | int (n : Int)
  | float (x : Float)
  | text (s : String)
  | date (year month day : Nat)
  | list (items : List Value)
  | mapping (entries : List (Value × Value))
  /-- Any other object, known by what printing it comes to: plain, and inside another value. -/
  | object (shown quoted : Except Unforeseen String)

namespace Value

/-- The exact fraction that a value is; a truth value counts as 0 or 1. -/
def fraction? : Value → Option (Int × Nat)
  | bool b => some (if b then 1 else 0, 1)
  | int n => some (n, 1)
  | float x =>
    match Decimal.Binary.ofFloat x with
    | .finite negative m q =>
      let n : Nat := m <<< q.toNat
      some (if negative then -n else n, 1 <<< (-q).toNat)
    | _ => none
  | _ => none

/-- Whether two scalars are the same key: numbers of one value are, whatever their kind. -/
def sameKey : Value → Value → Bool
  | null, null => true
  | text a, text b => a = b
  | date y m d, date y' m' d' => y = y' && m = m' && d = d'
  | a, b =>
    match fraction? a, fraction? b with
    | some (m, p), some (n, q) => m * q == n * p
    | _, _ =>
      match a, b with
      | float x, float y => x == y
      | _, _ => false

/-- Only scalars are keys. -/
def isScalar : Value → Bool
  | list _ => false
  | mapping _ => false
  | _ => true

/-- Adds an entry, or gives a present key its new value. -/
def put (entries : List (Value × Value)) (key value : Value) : List (Value × Value) :=
  if entries.any fun e => e.1.sameKey key then
    entries.map fun e => if e.1.sameKey key then (e.1, value) else e
  else entries ++ [(key, value)]

/-- The mapping with these entries; of equal keys the first place and the last value stay. -/
def ofEntries (entries : List (Value × Value)) : Value :=
  mapping (entries.foldl (fun es e => put es e.1 e.2) [])

/-- The value of a text key. -/
def get? (entries : List (Value × Value)) (key : String) : Option Value :=
  (entries.find? fun e => e.1.sameKey (text key)).map Prod.snd

/-- No text is the key of two entries. -/
def DistinctKeys (entries : List (Value × Value)) : Prop :=
  entries.Pairwise fun e e' => ∀ key, e.1 = .text key → e'.1 ≠ .text key

/-- If the value is a mapping, no text is the key of two of its entries. -/
def Keyed : Value → Prop
  | mapping entries => DistinctKeys entries
  | _ => True

/-- If the value is a mapping, so it is with its keys, and with those of each mapping under them. -/
def WellKeyed : Value → Prop
  | mapping entries => DistinctKeys entries ∧ ∀ e ∈ entries, Keyed e.2
  | _ => True

end Value

end PatternLint
