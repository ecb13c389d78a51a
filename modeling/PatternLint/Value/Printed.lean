import PatternLint.Decimal.Layout
import PatternLint.Text.Quoted
import PatternLint.Value.Basic

/-! Values as messages show them: a text stands plain where it is the whole value, and quoted
inside another. An integer of too many digits is not printed, nor what holds one. -/

namespace PatternLint.Value

def pad (width n : Nat) : String :=
  let digits := Nat.toDigits 10 n
  String.ofList (List.replicate (width - digits.length) '0' ++ digits)

def enclosed (opening closing : Char) (parts : List String) : String :=
  String.singleton opening ++ String.intercalate ", " parts ++ String.singleton closing

def tooManyDigits : Unforeseen :=
  .badValue (s!"Exceeds the limit ({maxDigits} digits) for integer string conversion; " ++
    "use sys.set_int_max_str_digits() to increase the limit")

def printedInt (n : Int) : Except Unforeseen String :=
  if n.natAbs < Nat.pow 10 maxDigits then .ok (toString n) else .error tooManyDigits

mutual

def quoted : Value → Except Unforeseen String
  | null => .ok "None"
  | bool b => .ok (if b then "True" else "False")
  | int n => printedInt n
  | float x => .ok (Decimal.Layout.ofValues.render x)
  | text s => .ok (PatternLint.quoted s)
  | date year month day => .ok s!"datetime.date({year}, {month}, {day})"
  | list items => return enclosed '[' ']' (← quotedItems items)
  | mapping entries => return enclosed '{' '}' (← quotedEntries entries)
  | object _ quoted => quoted

def quotedItems : List Value → Except Unforeseen (List String)
  | [] => .ok []
  | v :: vs => return (← quoted v) :: (← quotedItems vs)

def quotedEntries : List (Value × Value) → Except Unforeseen (List String)
  | [] => .ok []
  | (k, v) :: es => return ((← quoted k) ++ ": " ++ (← quoted v)) :: (← quotedEntries es)

end

def shown : Value → Except Unforeseen String
  | text s => .ok s
  | date year month day => .ok s!"{pad 4 year}-{pad 2 month}-{pad 2 day}"
  | object shown _ => shown
  | v => quoted v

end PatternLint.Value
