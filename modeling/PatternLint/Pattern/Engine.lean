import PatternLint.Pattern.Dialect
import PatternLint.Pattern.Template
import PatternLint.Proofs.Pattern.Search

/-! The engine of read patterns, which are tried at one place after another, and the library that
goes with it. It is made for the notation of the rules: to it a pattern is invalid that looks
behind, refers back to a group or has flags within. What is wrong with a text it says without the
place. -/

namespace PatternLint

def Regex.matcher (regex : Regex) : Matcher where
  groupCount := regex.groupCount
  names := regex.names
  matchAt contents place := regex.pattern.matchState (.ofPlace contents place)
  search := regex.pattern.search
  start_matchAt := Pattern.start_of_matchState
  search_eq_some_iff := Pattern.search_eq_some_iff

namespace Flags

def bit (flags weight : Int) : Bool := flags / weight % 2 == 1

def ofBits (flags : Int) : Flags where
  ignoreCase := bit flags 2
  multiline := bit flags 8
  dotMatchesNewline := bit flags 16

/-- What is wrong with flags, whatever the pattern; it is noticed after the pattern is read. -/
def fault? (flags : Int) : Option Unforeseen :=
  if bit flags 4 then some (.badValue "cannot use LOCALE flag with a str pattern")
  else if bit flags 32 && bit flags 256 then
    some (.badValue "ASCII and UNICODE flags are incompatible")
  else if flags < -2147483648 || 2147483647 < flags then
    some (.tooLarge "flags out of range")
  else none

end Flags

def PatternError.fault : PatternError → Fault
  | loneBackslash => .invalid "bad escape (end of pattern)"
  | unknownEscape => .invalid "bad escape"
  | unclosedClass => .invalid "unterminated character set"
  | badRange => .invalid "bad character range"
  | nothingToRepeat => .invalid "nothing to repeat"
  | repeatedTwice => .invalid "multiple repeat"
  | emptyBounds => .invalid "min repeat greater than max repeat"
  | unknownExtension => .invalid "unknown extension"
  | badGroupName => .invalid "bad character in group name"
  | groupNameTwice => .invalid "redefinition of group name"
  | unclosedGroup => .invalid "missing ), unterminated subpattern"
  | unopenedGroup => .invalid "unbalanced parenthesis"
  | hugeCount => .unforeseen (.tooLarge "the repetition number is too large")
  | hugeNumber digits => .unforeseen (.tooManyDigits digits)

def TemplateError.detail : TemplateError → String
  | loneBackslash => "bad escape (end of pattern)"
  | unknownEscape => "bad escape"
  | badGroupName => "bad character in group name"
  | unknownGroup => "invalid group reference"
  | badOctal => "octal escape value outside of range 0-0o377"

namespace Regex

def template (regex : Regex) (written : Text) : Except Fault Expansion :=
  match Template.read regex written with
  | .ok template => .ok template.expand
  | .error e => .error (.invalid e.detail)

def compiled (regex : Regex) : Compiled := ⟨regex.matcher, regex.template⟩

def compile (flags : Int) (written : Text) : Except Fault Compiled :=
  match Regex.read (.ofBits flags) written, Flags.fault? flags with
  | .error .unopenedGroup, some e => .error (.unforeseen e)
  | .error e, _ => .error e.fault
  | .ok _, some e => .error (.unforeseen e)
  | .ok regex, none => .ok regex.compiled

end Regex

/-- The library of the rules' notation. -/
def Dialect.standard : Dialect where
  compile := Regex.compile

end PatternLint
