import PatternLint.Text.Basic
import PatternLint.Text.Printable

/-! Quoted texts: single quotes, unless the text holds one and no double quote. The quote and the
backslash are escaped, and so is every unprintable character. -/

namespace PatternLint.Quoted

def hex (width n : Nat) : Text :=
  let digits := Nat.toDigits 16 n
  List.replicate (width - digits.length) '0' ++ digits

/-- The code of an unprintable character, in the shortest of three forms. -/
def codeEscape (c : Char) : Text :=
  let n := c.toNat
  if n < 0x100 then '\\' :: 'x' :: hex 2 n
  else if n < 0x10000 then '\\' :: 'u' :: hex 4 n
  else '\\' :: 'U' :: hex 8 n

def encodeChar (quote c : Char) : Text :=
  if c = quote ∨ c = '\\' then ['\\', c]
  else if c = '\n' then ['\\', 'n']
  else if c = '\r' then ['\\', 'r']
  else if c = '\t' then ['\\', 't']
  else if isPrintable c then [c]
  else codeEscape c

def quoteFor (s : Text) : Char :=
  if s.contains '\'' && !s.contains '"' then '"' else '\''

def encode (s : Text) : Text :=
  let quote := quoteFor s
  quote :: s.flatMap (encodeChar quote) ++ [quote]

end PatternLint.Quoted

namespace PatternLint

def Text.quoted (s : Text) : String := String.ofList (Quoted.encode s)

/-- The quoted form of `s`. -/
def quoted (s : String) : String := Text.quoted s.toList

end PatternLint
