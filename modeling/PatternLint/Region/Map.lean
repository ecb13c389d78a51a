import PatternLint.Region.Directive

/-! Where rules are enabled. A rule is enabled until a plain directive before the place says
otherwise; a directive about the line of the place overrides that, and of several the last
decides. -/

namespace PatternLint

/-- The directives of a file in order of their offsets. -/
structure Regions where
  source : Source
  directives : List Region.Directive

namespace Regions

/-- Directives of equal offset keep their order. -/
def ofList (source : Source) (directives : List Region.Directive) : Regions where
  source := source
  directives := directives.mergeSort fun a b => a.offset ≤ b.offset

def ofSource (source : Source) (excluded : Syntax.ExcludedSet) : Regions :=
  ofList source (Region.directives source excluded)

def any (r : Regions) : Bool := !r.directives.isEmpty

/-- The last directive with a property decides, if there is one. -/
def decide (directives : List Region.Directive) (relevant : Region.Directive → Bool)
    (otherwise : Bool) : Bool :=
  directives.foldl (fun enabled d => if relevant d then d.enables else enabled) otherwise

/-- For an offset within the buffer. -/
def enabledAt (r : Regions) (rule : String) (offset : Nat) : Bool :=
  let line := r.source.lineOf offset
  let plain := decide r.directives
    (fun d => d.modifier.isNone && d.offset ≤ offset && d.appliesTo rule) true
  decide r.directives (fun d => d.targetLine == some line && d.appliesTo rule) plain

def enabled? (r : Regions) (rule : String) (offset : Int) : Except OutsideBuffer Bool := do
  let _ ← r.source.line? offset
  return r.enabledAt rule offset.toNat

/-- The items at whose places the rule is enabled. -/
def filter {α : Type} (r : Regions) (rule : String) (items : List α) (place : α → Nat) : List α :=
  if r.any then items.filter fun item => r.enabledAt rule (place item) else items

/-- As `filter`, for places that may lie outside the buffer. Without directives no place is looked
at. -/
def filter? (r : Regions) (rule : String) (offsets : List Int) :
    Except OutsideBuffer (List Int) :=
  if r.any then do
    let enabled ← offsets.mapM (r.enabled? rule)
    return ((offsets.zip enabled).filter Prod.snd).map Prod.fst
  else .ok offsets

end Regions

end PatternLint
