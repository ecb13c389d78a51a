import PatternLint.Pattern.Basic
import PatternLint.Pattern.Matcher

/-! Matching. A run starts in a state and hands each state in which the pattern may end, in order
of preference, to what is to follow, until that succeeds. -/

namespace PatternLint

/-- A place in a text, with the ranges that groups have taken so far, the latest first. -/
structure State where
  /-- The character before this place. -/
  before : Option Char
  place : Nat
  rest : Text
  /-- The number of characters that follow. -/
  left : Nat
  left_eq : left = rest.length
  groups : List (Nat × Span)

namespace State

/-- The state at `place`, without groups. -/
def ofPlace (contents : Text) (place : Nat) : State where
  before := if place = 0 then none else contents[place - 1]?
  place := place
  rest := contents.drop place
  left := contents.length - place
  left_eq := by simp
  groups := []

/-- The next character, and the state after it. -/
def next? (s : State) : Option (Char × State) :=
  match h : s.rest with
  | [] => none
  | c :: rest => some (c, {
      before := some c, place := s.place + 1, rest := rest, left := s.left - 1
      left_eq := by simp [s.left_eq, h], groups := s.groups })

/-- Records that a group took the text from `start` to here. -/
def capture (s : State) (index start : Nat) : State :=
  { s with groups := (index, .between start s.place) :: s.groups }

end State

def Anchor.holds (s : State) : Anchor → Bool
  | textStart => s.before.isNone
  | lineStart => s.before.all (· == '\n')
  | textEnd => s.rest.isEmpty || s.rest == ['\n']
  | lineEnd => s.rest.head?.all (· == '\n')
  | wordEdge => s.before.any isWord != s.rest.head?.any isWord

/-- What is to follow in a run. -/
abbrev Continuation := State → Option State

namespace Pattern

/-- Runs `body` exactly `n` times. -/
def times (body : State → Continuation → Option State) : Nat → State → Continuation → Option State
  | 0, s, k => k s
  | n + 1, s, k => body s fun t => times body n t k

/-- Runs `body` up to `most` times. A turn that takes no text is the last. -/
def upTo (body : State → Continuation → Option State) (greedy : Bool) (k : Continuation)
    (most : Option Nat) (s : State) : Option State :=
  if most = some 0 then k s
  else if greedy then
    (body s fun t => if t.left < s.left then upTo body greedy k (most.map (· - 1)) t else k t)
      <|> k s
  else
    k s <|>
      body s fun t => if t.left < s.left then upTo body greedy k (most.map (· - 1)) t else k t
termination_by s.left

/-- Groups taken in a wanted body that lies ahead are kept; its other ways to match are not tried. -/
def run : Pattern → State → Continuation → Option State
  | empty, s, k => k s
  | chars set, s, k =>
    match s.next? with
    | some (c, t) => if set.has c then k t else none
    | none => none
  | anchor condition, s, k => if condition.holds s then k s else none
  | seq p q, s, k => run p s fun t => run q t k
  | alt p q, s, k => run p s k <|> run q s k
  | group index p, s, k => run p s fun t => k (t.capture index s.place)
  | loop least most greedy p, s, k =>
    times (run p) least s fun t => upTo (run p) greedy k (most.map (· - least)) t
  | ahead wanted p, s, k =>
    match run p s some with
    | some t => if wanted then k { s with groups := t.groups } else none
    | none => if wanted then none else k s

/-- The match that begins at `s`. -/
def matchState (p : Pattern) (s : State) : Option Found :=
  (p.run s some).map fun t => ⟨.between s.place t.place, t.groups⟩

/-- The leftmost match that begins at `s` or later. -/
def searchState (p : Pattern) (s : State) : Option Found :=
  match p.matchState s with
  | some f => some f
  | none =>
    match _h : s.next? with
    | some (_, t) => searchState p t
    | none => none
termination_by s.left
decreasing_by
  unfold State.next? at _h
  split at _h
  · simp at _h
  · simp only [Option.some.injEq, Prod.mk.injEq] at _h
    rename_i h
    have := s.left_eq
    simp only [← _h.2, this, h, List.length_cons]
    omega

/-- The leftmost match that begins at `place` or later; what stands before `place` is still seen. -/
def search (p : Pattern) (contents : Text) (place : Nat) : Option Found :=
  p.searchState (.ofPlace contents place)

end Pattern

end PatternLint
