import PatternLint.Source
import PatternLint.Syntax.ExcludedSet

/-! Directives: comments that switch rules on or off, from their own place onwards or for a single
line. A directive is written `swiftguard:disable` or `swiftguard:enable`, perhaps with one of
`:previous`, `:this` and `:next`, and then the names of rules after blanks. -/

namespace PatternLint.Region

inductive Action where
  | enable
  | disable
deriving DecidableEq

namespace Action

def name : Action → String
  | enable => "enable"
  | disable => "disable"

def ofName? : String → Option Action
  | "enable" => some enable
  | "disable" => some disable
  | _ => none

end Action

/-- The single line that a directive is about. -/
inductive Modifier where
  | previous
  | this
  | next
deriving DecidableEq

namespace Modifier

def name : Modifier → String
  | previous => "previous"
  | this => "this"
  | next => "next"

def ofName? : String → Option Modifier
  | "previous" => some previous
  | "this" => some this
  | "next" => some next
  | _ => none

def line (line : Nat) : Modifier → Nat
  | previous => line - 1
  | this => line
  | next => line + 1

end Modifier

structure Directive where
  action : Action
  rules : List String
  line : Nat
  offset : Nat
  modifier : Option Modifier := none
deriving DecidableEq

namespace Directive

def enables (d : Directive) : Bool := d.action = .enable

def targetLine (d : Directive) : Option Nat := d.modifier.map (·.line d.line)

/-- The name `all` stands for every rule. -/
def appliesTo (d : Directive) (rule : String) : Bool :=
  d.rules.contains "all" || d.rules.contains rule

/-- The rules in order, each once. -/
def sortedRules (d : Directive) : List String :=
  d.rules.eraseDups.mergeSort fun a b => decide (a ≤ b)

end Directive

def isGap (c : Char) : Bool := c = ' ' || c = '\t'

def isRuleChar (c : Char) : Bool := c.isAlphanum || c = '_' || c = '-'

theorem length_dropWhile_le {α : Type} (p : α → Bool) (s : List α) :
    (s.dropWhile p).length ≤ s.length :=
  (List.dropWhile_sublist p).length_le

/-- The names that follow, each after blanks, and the text after the last. -/
def ruleNames (s : Text) : List String × Text :=
  let start := s.dropWhile isGap
  let name := start.takeWhile isRuleChar
  if start.length < s.length ∧ name ≠ [] then
    let (names, rest) := ruleNames (start.dropWhile isRuleChar)
    (String.ofList name :: names, rest)
  else ([], s)
termination_by s.length
decreasing_by
  rename_i h
  exact Nat.lt_of_le_of_lt (length_dropWhile_le _ _) h.1

theorem length_ruleNames_le (s : Text) : (ruleNames s).2.length ≤ s.length := by
  fun_induction ruleNames s with
  | case1 s start name h names rest e ih =>
    rw [e] at ih
    exact Nat.le_trans ih (Nat.le_trans (length_dropWhile_le _ _) (Nat.le_of_lt h.1))
  | case2 => exact Nat.le_refl _

def modifierAt (s : Text) : Option Modifier × Text :=
  match Text.after? ":previous".toList s with
  | some r => (some .previous, r)
  | none =>
    match Text.after? ":this".toList s with
    | some r => (some .this, r)
    | none =>
      match Text.after? ":next".toList s with
      | some r => (some .next, r)
      | none => (none, s)

theorem length_modifierAt_le (s : Text) : (modifierAt s).2.length ≤ s.length := by
  fun_cases modifierAt s with
  | case1 r h => exact Text.length_after?_le h
  | case2 _ r h => exact Text.length_after?_le h
  | case3 _ _ r h => exact Text.length_after?_le h
  | case4 => exact Nat.le_refl _

def actionAt? (s : Text) : Option (Action × Text) :=
  match Text.after? "enable".toList s with
  | some r => some (.enable, r)
  | none => (Text.after? "disable".toList s).map (Action.disable, ·)

theorem length_actionAt?_le {s r : Text} {a : Action} (h : actionAt? s = some (a, r)) :
    r.length ≤ s.length := by
  unfold actionAt? at h
  split at h
  next e =>
    obtain ⟨-, rfl⟩ := Prod.mk.inj (Option.some.inj h)
    exact Text.length_after?_le e
  next =>
    obtain ⟨_, e, he⟩ := Option.map_eq_some_iff.1 h
    obtain ⟨-, rfl⟩ := Prod.mk.inj he
    exact Text.length_after?_le e

/-- What a directive says, without its place. -/
structure Order where
  action : Action
  modifier : Option Modifier
  rules : List String

/-- The order that begins a text, and what follows it. -/
def order? (s : Text) : Option (Order × Text) := do
  let s ← Text.after? "swiftguard:".toList s
  let (action, s) ← actionAt? s
  let (modifier, s) := modifierAt s
  let (rules, s) := ruleNames s
  if rules = [] then none else some (⟨action, modifier, rules⟩, s)

theorem length_order?_lt {s rest : Text} {o : Order} (h : order? s = some (o, rest)) :
    rest.length < s.length := by
  simp only [order?, Option.bind_eq_bind, Option.bind_eq_some_iff] at h
  obtain ⟨r, e, ⟨a, r'⟩, e', h⟩ := h
  split at h
  · contradiction
  · obtain ⟨-, rfl⟩ := Prod.mk.inj (Option.some.inj h)
    calc (ruleNames (modifierAt r').2).2.length
        ≤ (modifierAt r').2.length := length_ruleNames_le _
      _ ≤ r'.length := length_modifierAt_le r'
      _ ≤ r.length := length_actionAt?_le e'
      _ < "swiftguard:".toList.length + r.length := Nat.lt_add_of_pos_left (by decide)
      _ = s.length := (Text.length_after? e).symm

/-- The orders in a text that begins at `offset`, each with its own offset. The search goes on
behind an order. -/
def ordersFrom (offset : Nat) : Text → List (Nat × Order)
  | [] => []
  | c :: s =>
    match h : order? (c :: s) with
    | some (order, rest) =>
      (offset, order) :: ordersFrom (offset + ((c :: s).length - rest.length)) rest
    | none => ordersFrom (offset + 1) s
termination_by s => s.length
decreasing_by
  · exact length_order?_lt h
  · exact Nat.lt_succ_self _

/-- The directives in the comments of a buffer, in order. -/
def directives (source : Source) (excluded : Syntax.ExcludedSet) : List Directive :=
  (excluded.ofKind .comment).flatMap fun comment =>
    (ordersFrom comment.start (source.text comment)).map fun (offset, order) =>
      { action := order.action, rules := order.rules, line := source.lineOf offset,
        offset := offset, modifier := order.modifier }

end PatternLint.Region
