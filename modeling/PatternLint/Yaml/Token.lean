import PatternLint.Text.Quoted
import PatternLint.Unforeseen

/-! Tokens of block and flow notation, and the characters that separate them. -/

namespace PatternLint.Yaml

/-- A scalar of a good form that has no value. -/
inductive Valueless where
  | date (year month day : Nat)
  | truth (text : Text)
  | number (text : Text)
  /-- A decimal number of too many digits. -/
  | long (digits : Nat)
  /-- The code of an escape is beyond all characters. -/
  | character (code : Nat)
deriving DecidableEq

/-- The error that making its value ends in. -/
def Valueless.unforeseen : Valueless → Unforeseen
  | date year month _ =>
    .badValue <|
      if year = 0 then "year 0 is out of range"
      else if month = 0 || 12 < month then "month must be in 1..12"
      else "day is out of range for month"
  | truth text => .other text.quoted
  | number text => .badValue s!"could not convert string to number: {text.quoted}"
  | long digits => .tooManyDigits digits
  | character code =>
    if code < 0x80000000 then .badValue "chr() arg not in range(0x110000)"
    else .tooLarge "int too large to convert"

/-- What makes a text no document. -/
inductive Error where
  | unprintable
  | strayCharacter
  | keyWithoutColon
  | misplacedEntry
  | misplacedKey
  | misplacedValue
  | badAnchor
  | badTag
  | badBlockHeader
  | unclosedQuote
  | unknownEscape
  | separatorInQuote
  | unexpectedToken
  | undefinedAlias
  | repeatedAnchor
  | secondDocument
  | unknownTag
  | valueless (scalar : Valueless)
  | compoundKey
  | badMerge
deriving DecidableEq

def Error.message : Error → String
  | unprintable => "special characters are not allowed"
  | strayCharacter => "found character that cannot start any token"
  | keyWithoutColon => "could not find expected ':'"
  | misplacedEntry => "sequence entries are not allowed here"
  | misplacedKey => "mapping keys are not allowed here"
  | misplacedValue => "mapping values are not allowed here"
  | badAnchor => "expected alphabetic or numeric character"
  | badTag => "expected a tag"
  | badBlockHeader => "expected chomping or indentation indicators"
  | unclosedQuote => "found unexpected end of stream"
  | unknownEscape => "found unknown escape character"
  | separatorInQuote => "found unexpected document separator"
  | unexpectedToken => "found a token that is not expected"
  | undefinedAlias => "found undefined alias"
  | repeatedAnchor => "found duplicate anchor"
  | secondDocument => "expected a single document in the stream"
  | unknownTag => "could not determine a constructor for the tag"
  | valueless scalar => scalar.unforeseen.message
  | compoundKey => "found unhashable key"
  | badMerge => "expected a mapping or list of mappings for merging"

inductive Token where
  | documentStart
  | documentEnd
  | blockSequence
  | blockMapping
  | blockEnd
  | flowSequence
  | flowSequenceEnd
  | flowMapping
  | flowMappingEnd
  | blockEntry
  | flowEntry
  | key
  | value
  | alias (name : String)
  | anchor (name : String)
  | tag (name : String)
  | scalar (text : Text) (plain : Bool)
deriving DecidableEq

def isBreak (c : Char) : Bool := c = '\n' || c = '\u0085' || c = '\u2028' || c = '\u2029'

/-- The break that a text gets for a break in its notation. -/
def normalBreak (c : Char) : Char := if c = '\u0085' then '\n' else c

def isBlank (c : Char) : Bool := c = ' ' || c = '\t'

def isGap (c : Char) : Bool := isBlank c || isBreak c

/-- A gap or the end follows. -/
def atGap (s : Text) : Bool := s.head?.all isGap

/-- A line that begins here separates documents. -/
def atSeparator : Text → Bool
  | '-' :: '-' :: '-' :: s => atGap s
  | '.' :: '.' :: '.' :: s => atGap s
  | _ => false

def isPrintable (c : Char) : Bool :=
  let n := c.toNat
  c = '\t' || c = '\n' || c = '\r' || (0x20 ≤ n && n ≤ 0x7e) || n = 0x85 ||
    (0xa0 ≤ n && n ≤ 0xfffd) || 0x10000 ≤ n

/-- Every way to end a line becomes a line feed. -/
def unifyLines : Text → Text
  | '\r' :: '\n' :: s => '\n' :: unifyLines s
  | '\r' :: s => '\n' :: unifyLines s
  | c :: s => c :: unifyLines s
  | [] => []

end PatternLint.Yaml
