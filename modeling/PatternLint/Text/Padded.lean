/-! Texts padded with blanks to a width; a longer text keeps its length. -/

namespace PatternLint

def padRight (width : Nat) (s : String) : String :=
  s ++ String.ofList (List.replicate (width - s.length) ' ')

def padLeft (width : Nat) (s : String) : String :=
  String.ofList (List.replicate (width - s.length) ' ') ++ s

end PatternLint
