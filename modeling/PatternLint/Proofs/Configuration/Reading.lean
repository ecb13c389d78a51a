import Mathlib.Data.List.Basic
import Mathlib.Data.List.Pairwise
import PatternLint.Configuration.Basic
import PatternLint.Proofs.Configuration.Keys
import PatternLint.Proofs.Configuration.Printing
import PatternLint.Yaml.Loader

/-! Configurations as they are read from values. A mapping is taken as the set of its entries under
the keys that a configuration knows: whether anything is at fault in it, and what the configuration
holds if nothing is, depends on these alone. That a value is at fault can be told only if it can be
printed. -/

namespace PatternLint

namespace Configuration

open Value (DistinctKeys Keyed Unprintable WellKeyed)

variable {known : List String} {source : Option Path} {value v : Value} {es es' : Entries}
  {key rule : String} {ss : List String} {s : Severity} {e : ConfigurationError} {f : Failure}
  {c : Configuration}

/-! The parts of a value. -/

/-- The entries that a value stands for; null stands for none. -/
inductive Stands : Value → Entries → Prop
  | null : Stands .null []
  | mapping (es : Entries) : Stands (.mapping es) es

/-- The strings that a value lists; one string is a list of it, and null is the empty list. -/
inductive Lists : Value → List String → Prop
  | null : Lists .null []
  | one (s : String) : Lists (.text s) [s]
  | many (ss : List String) : Lists (.list (ss.map .text)) ss

/-- What is to name a severity: the value, or in a mapping the value under `severity`, null if there
is none. -/
inductive Designates : Value → Value → Prop
  | plain {v : Value} (scalar : ∀ es, v ≠ .mapping es) : Designates v v
  | entry {es : Entries} {v : Value} (present : (.text "severity", v) ∈ es) :
    Designates (.mapping es) v
  | none {es : Entries} (absent : ∀ v, (.text "severity", v) ∉ es) :
    Designates (.mapping es) .null

/-- Printed in lower case, the value is the name of the severity. -/
def NamesSeverity (v : Value) (s : Severity) : Prop :=
  ∃ printed, v.shown = .ok printed ∧ printed.toLower = s.name

/-- That the value names no severity cannot be told. Printing it fails: over something else than the
value, or else once more where the error is to show it. -/
inductive Mute (v : Value) : Prop
  | foreign {e : Unforeseen} (failed : v.shown = .error e)
    (other : ∀ message, e ≠ .badValue message)
  | unprintable (unnamed : ∀ s, ¬NamesSeverity v s) (unprintable : Unprintable v)

theorem entries_eq_ok_iff : entries source value = .ok es ↔ Stands value es := by
  constructor
  · intro h
    cases value with
    | null => cases h; exact .null
    | mapping entries => cases h; exact .mapping es
    | bool _ | int _ | float _ | text _ | date _ _ _ | list _ | object _ _ => cases h
  · rintro (_ | es)
    · rfl
    · rfl

theorem entries_eq_error (h : entries source value = .error f) :
    f = .fault (.notMapping source) ∧ ∀ es, ¬Stands value es := by
  refine ⟨?_, fun es hstands => ?_⟩
  · cases value with
    | null | mapping _ => cases h
    | bool _ | int _ | float _ | text _ | date _ _ _ | list _ | object _ _ => cases h; rfl
  · rw [entries_eq_ok_iff.2 hstands] at h
    cases h

theorem strings?_eq_some_iff {items : List Value} :
    strings? items = some ss ↔ items = ss.map .text := by
  fun_induction strings? items generalizing ss with
  | case1 => simp [eq_comm]
  | case2 s items ih =>
    rw [Option.map_eq_some_iff]
    constructor
    · rintro ⟨ss, hss, rfl⟩
      rw [ih.1 hss, List.map_cons]
    · intro heq
      cases ss with
      | nil => cases heq
      | cons s' ss =>
        obtain ⟨hs, hitems⟩ := List.cons.inj heq
        cases hs
        exact ⟨ss, ih.2 hitems, rfl⟩
  | case3 items hnil htext =>
    refine iff_of_false nofun fun heq => ?_
    cases ss with
    | nil => exact hnil heq
    | cons s ss => exact htext s _ heq

/-! The lists. -/

/-- What a mapping lists under a key; without the key, it lists nothing there. -/
def ListedAt (es : Entries) (key : String) (ss : List String) : Prop :=
  (∃ v, (.text key, v) ∈ es ∧ Lists v ss) ∨ ((∀ v, (.text key, v) ∉ es) ∧ ss = [])

/-- Under the key is a value that lists no strings. -/
def Unlistable (es : Entries) (key : String) : Prop :=
  ∃ v, (.text key, v) ∈ es ∧ ∀ ss, ¬Lists v ss

theorem stringsAt_eq_ok_iff (hdistinct : DistinctKeys es) :
    stringsAt es key = .ok ss ↔ ListedAt es key ss := by
  constructor
  · intro h
    unfold stringsAt at h
    split at h
    · rename_i hget
      cases h
      exact .inr ⟨Value.get?_eq_none_iff.1 hget, rfl⟩
    · rename_i hget
      cases h
      exact .inl ⟨.null, Value.mem_of_get? hget, .null⟩
    · rename_i s hget
      cases h
      exact .inl ⟨.text s, Value.mem_of_get? hget, .one s⟩
    · rename_i items hget
      split at h
      · rename_i hstrings
        cases h
        obtain rfl := strings?_eq_some_iff.1 hstrings
        exact .inl ⟨_, Value.mem_of_get? hget, .many ss⟩
      · cases h
    · cases h
  · rintro (⟨v, hv, hlists⟩ | ⟨habsent, rfl⟩)
    · have hget := hdistinct.get?_eq_some_iff.2 hv
      cases hlists with
      | null | one s => rw [stringsAt, hget]
      | many =>
        rw [stringsAt, hget]
        dsimp only
        rw [strings?_eq_some_iff.2 rfl]
    · rw [stringsAt, Value.get?_eq_none_iff.2 habsent]

theorem stringsAt_eq_error (h : stringsAt es key = .error f) :
    f = .fault (.notStrings key) ∧ Unlistable es key := by
  unfold stringsAt at h
  split at h
  · cases h
  · cases h
  · cases h
  · rename_i items hget
    split at h
    · cases h
    · rename_i hstrings
      cases h
      refine ⟨rfl, _, Value.mem_of_get? hget, fun ss hlists => ?_⟩
      cases hlists
      rw [strings?_eq_some_iff.2 rfl] at hstrings
      cases hstrings
  · rename_i v hnull htext hlist hget
    cases h
    refine ⟨rfl, v, Value.mem_of_get? hget, fun ss hlists => ?_⟩
    cases hlists with
    | null => exact hnull rfl
    | one s => exact htext s rfl
    | many ss => exact hlist _ rfl

theorem not_unlistable_of_listedAt (hdistinct : DistinctKeys es) (h : ListedAt es key ss) :
    ¬Unlistable es key := by
  rintro ⟨v, hv, hunlisted⟩
  rcases h with ⟨v', hv', hlists⟩ | ⟨habsent, -⟩
  · exact hunlisted ss (hdistinct.eq_of_mem hv' hv ▸ hlists)
  · exact habsent v hv

theorem exists_stringsAt_iff (hdistinct : DistinctKeys es) :
    (∃ ss, stringsAt es key = .ok ss) ↔ ¬Unlistable es key := by
  constructor
  · rintro ⟨ss, hss⟩
    exact not_unlistable_of_listedAt hdistinct ((stringsAt_eq_ok_iff hdistinct).1 hss)
  · intro hlistable
    cases hstrings : stringsAt es key with
    | ok ss => exact ⟨ss, rfl⟩
    | error f => exact absurd (stringsAt_eq_error hstrings).2 hlistable

/-! The severities. -/

theorem designates_iff (hkeyed : Keyed v) {v' : Value} :
    Designates v v' ↔ v' = severityValue v := by
  constructor
  · rintro (hscalar | hpresent | habsent)
    · cases v with
      | mapping es => exact absurd rfl (hscalar es)
      | _ => rfl
    · have hdistinct : DistinctKeys _ := hkeyed
      rw [severityValue, hdistinct.get?_eq_some_iff.2 hpresent, Option.getD_some]
    · rw [severityValue, Value.get?_eq_none_iff.2 habsent, Option.getD_none]
  · rintro rfl
    cases v with
    | mapping es =>
      rw [severityValue]
      cases hget : Value.get? es "severity" with
      | none => exact .none (Value.get?_eq_none_iff.1 hget)
      | some v => exact .entry (Value.mem_of_get? hget)
    | _ => exact .plain nofun

theorem ofName_eq_ok_iff {name : String} : Severity.ofName name = .ok s ↔ name = s.name := by
  constructor
  · intro h
    unfold Severity.ofName at h
    split at h
    · rename_i hname
      cases h
      exact hname
    · split at h
      · rename_i hname
        cases h
        exact hname
      · cases h
  · rintro rfl
    exact Severity.ofName_name s

theorem not_mute {shown : String}
    (hcaught : ∀ e, v.shown = .error e → ∃ message, e = .badValue message)
    (hquoted : v.quoted = .ok shown) : ¬Mute v := by
  rintro (⟨hfailed, hother⟩ | ⟨-, hunprintable⟩)
  · obtain ⟨message, rfl⟩ := hcaught _ hfailed
    exact hother message rfl
  · obtain ⟨e, he⟩ := (Value.exists_error_quoted_iff v).2 hunprintable
    cases hquoted.symm.trans he

/-- What a value comes to that names no severity, if printing it fails in no other way than is
caught. -/
theorem refusal_cases (rule : String) (hunnamed : ∀ s, ¬NamesSeverity v s)
    (hcaught : ∀ e, v.shown = .error e → ∃ message, e = .badValue message) :
    (∃ shown, ¬Mute v ∧ v.quoted = .ok shown ∧
        refusal rule v = .fault (.invalidSeverity shown rule)) ∨
      Mute v ∧ ∃ e, refusal rule v = .unforeseen e := by
  unfold refusal
  cases hquoted : v.quoted with
  | ok shown => exact .inl ⟨shown, not_mute hcaught hquoted, rfl, rfl⟩
  | error e =>
    have hunprintable := (Value.exists_error_quoted_iff v).1 ⟨e, hquoted⟩
    exact .inr ⟨.unprintable hunnamed hunprintable, e, rfl⟩

/-- A value names a severity, or the error shows it, or it is mute. -/
theorem severityOf_cases (rule : String) (v : Value) :
    (∃ s, NamesSeverity (severityValue v) s ∧ severityOf rule v = .ok s) ∨
      (∀ s, ¬NamesSeverity (severityValue v) s) ∧
        ((∃ shown, ¬Mute (severityValue v) ∧ (severityValue v).quoted = .ok shown ∧
            severityOf rule v = .error (.fault (.invalidSeverity shown rule))) ∨
          Mute (severityValue v) ∧ ∃ e, severityOf rule v = .error (.unforeseen e)) := by
  unfold severityOf
  dsimp only
  generalize severityValue v = v
  cases hshown : v.shown with
  | error e =>
    have hunnamed : ∀ s, ¬NamesSeverity v s := by
      rintro s ⟨printed, hprinted, -⟩
      cases hshown.symm.trans hprinted
    refine .inr ⟨hunnamed, ?_⟩
    cases e with
    | badValue message =>
      simp only [Except.error.injEq]
      refine refusal_cases rule hunnamed fun e he => ⟨message, ?_⟩
      exact (Except.error.inj (hshown.symm.trans he)).symm
    | tooLarge message | other message => exact .inr ⟨.foreign hshown nofun, _, rfl⟩
  | ok printed =>
    cases hname : Severity.ofName printed.toLower with
    | ok s => exact .inl ⟨s, ⟨printed, hshown, ofName_eq_ok_iff.1 hname⟩, by simp only [hname]⟩
    | error _ =>
      have hunnamed : ∀ s, ¬NamesSeverity v s := by
        rintro s ⟨printed', hprinted, hs⟩
        cases hshown.symm.trans hprinted
        cases hname.symm.trans (ofName_eq_ok_iff.2 hs)
      simp only [hname, Except.error.injEq]
      refine .inr ⟨hunnamed, refusal_cases rule hunnamed fun e he => ?_⟩
      cases hshown.symm.trans he

theorem NamesSeverity.unique {s' : Severity} (h : NamesSeverity v s) (h' : NamesSeverity v s') :
    s = s' := by
  obtain ⟨printed, hprinted, hs⟩ := h
  obtain ⟨printed', hprinted', hs'⟩ := h'
  cases hprinted.symm.trans hprinted'
  rw [← ofName_eq_ok_iff] at hs hs'
  exact Except.ok.inj (hs.symm.trans hs')

theorem NamesSeverity.not_mute (h : NamesSeverity v s) : ¬Mute v := by
  rintro (⟨hfailed, -⟩ | ⟨hunnamed, -⟩)
  · obtain ⟨printed, hprinted, -⟩ := h
    cases hfailed.symm.trans hprinted
  · exact hunnamed s h

theorem severityOf_eq_ok_iff (hkeyed : Keyed v) :
    severityOf rule v = .ok s ↔ ∃ v', Designates v v' ∧ NamesSeverity v' s := by
  simp only [designates_iff hkeyed, exists_eq_left]
  rcases severityOf_cases rule v with ⟨s', hnames, h⟩ | ⟨hunnamed, ⟨_, -, -, h⟩ | ⟨-, _, h⟩⟩
  · rw [h]
    exact ⟨fun heq => Except.ok.inj heq ▸ hnames, fun hs => by rw [hnames.unique hs]⟩
  · rw [h]
    exact iff_of_false nofun (hunnamed s)
  · rw [h]
    exact iff_of_false nofun (hunnamed s)

theorem exists_severityOf_error_iff (hkeyed : Keyed v) :
    (∃ f, severityOf rule v = .error f) ↔ ∃ v', Designates v v' ∧ ∀ s, ¬NamesSeverity v' s := by
  simp only [designates_iff hkeyed, exists_eq_left]
  rcases severityOf_cases rule v with ⟨s', hnames, h⟩ | ⟨hunnamed, ⟨_, -, -, h⟩ | ⟨-, _, h⟩⟩
  · rw [h]
    exact iff_of_false nofun fun hunnamed => hunnamed s' hnames
  · exact iff_of_true ⟨_, h⟩ hunnamed
  · exact iff_of_true ⟨_, h⟩ hunnamed

theorem severityOf_eq_fault (hkeyed : Keyed v) (h : severityOf rule v = .error (.fault e)) :
    ∃ v' shown, Designates v v' ∧ (∀ s, ¬NamesSeverity v' s) ∧ v'.quoted = .ok shown ∧
      e = .invalidSeverity shown rule := by
  rcases severityOf_cases rule v with ⟨_, -, h'⟩ | ⟨hunnamed, ⟨shown, -, hquoted, h'⟩ | ⟨-, _, h'⟩⟩
  · cases h.symm.trans h'
  · cases h.symm.trans h'
    exact ⟨_, shown, (designates_iff hkeyed).2 rfl, hunnamed, hquoted, rfl⟩
  · cases h.symm.trans h'

theorem exists_severityOf_unforeseen_iff (hkeyed : Keyed v) :
    (∃ e, severityOf rule v = .error (.unforeseen e)) ↔ ∃ v', Designates v v' ∧ Mute v' := by
  simp only [designates_iff hkeyed, exists_eq_left]
  rcases severityOf_cases rule v with ⟨_, hnames, h⟩ | ⟨-, ⟨_, hmute, -, h⟩ | ⟨hmute, _, h⟩⟩
  · rw [h]
    exact iff_of_false nofun hnames.not_mute
  · rw [h]
    exact iff_of_false nofun hmute
  · exact iff_of_true ⟨_, h⟩ hmute

/-- The mapping has the value under a rule that it can set the severity of. -/
def Sets (known : List String) (es : Entries) (rule : String) (v : Value) : Prop :=
  rule ∈ known ∧ rule ∉ listKeys ∧ (.text rule, v) ∈ es

theorem ruleOf?_eq_some_iff {k : Value} :
    ruleOf? known k = some rule ↔ k = .text rule ∧ rule ∈ known ∧ rule ∉ listKeys := by
  unfold ruleOf?
  split
  · rename_i key
    simp only [Option.ite_none_right_eq_some, Bool.and_eq_true, Bool.not_eq_true',
      List.contains_eq_mem, decide_eq_false_iff_not, decide_eq_true_eq, Option.some.injEq,
      Value.text.injEq]
    constructor
    · rintro ⟨⟨hlist, hknown⟩, rfl⟩
      exact ⟨rfl, hknown, hlist⟩
    · rintro ⟨rfl, hknown, hlist⟩
      exact ⟨⟨hlist, hknown⟩, rfl⟩
  · rename_i hkey
    exact iff_of_false nofun fun h => hkey rule h.1

theorem severityError?_eq_some_iff {entry : Value × Value} :
    severityError? known entry = some f ↔
      ∃ rule, ruleOf? known entry.1 = some rule ∧ severityOf rule entry.2 = .error f := by
  unfold severityError?
  cases ruleOf? known entry.1 with
  | none => simp
  | some rule => cases hseverity : severityOf rule entry.2 <;> simp [hseverity]

theorem readSeverities_eq_error_iff :
    readSeverities known es = .error f ↔ es.findSome? (severityError? known) = some f := by
  unfold readSeverities
  cases es.findSome? (severityError? known) with
  | none => exact iff_of_false nofun nofun
  | some f' => simp

theorem severityError_of_readSeverities (h : readSeverities known es = .error f) :
    ∃ rule v, Sets known es rule v ∧ severityOf rule v = .error f := by
  unfold readSeverities at h
  split at h
  · rename_i e' hfind
    cases h
    obtain ⟨⟨k, v⟩, hmem, herror⟩ := List.exists_of_findSome?_eq_some hfind
    obtain ⟨rule, hrule, hseverity⟩ := severityError?_eq_some_iff.1 herror
    obtain ⟨rfl, hknown, hlist⟩ := ruleOf?_eq_some_iff.1 hrule
    exact ⟨rule, v, ⟨hknown, hlist, hmem⟩, hseverity⟩
  · cases h

/-- The rules whose severity is set, each with it. -/
def severitiesOf (known : List String) (es : Entries) : List (String × Severity) :=
  (known.filter fun rule => !listKeys.contains rule).eraseDups.filterMap (severityFor? es)

theorem readSeverities_eq_ok_iff {severities : List (String × Severity)} :
    readSeverities known es = .ok severities ↔
      (∀ rule v, Sets known es rule v → ∃ s, severityOf rule v = .ok s) ∧
        severities = severitiesOf known es := by
  constructor
  · intro h
    unfold readSeverities at h
    split at h
    · cases h
    · rename_i hfind
      cases h
      refine ⟨fun rule v ⟨hknown, hlist, hmem⟩ => ?_, rfl⟩
      cases hseverity : severityOf rule v with
      | ok s => exact ⟨s, rfl⟩
      | error e =>
        have hrule := ruleOf?_eq_some_iff.2 ⟨rfl, hknown, hlist⟩
        have herror : severityError? known (.text rule, v) = some e :=
          severityError?_eq_some_iff.2 ⟨rule, hrule, hseverity⟩
        rw [List.findSome?_eq_none_iff.1 hfind _ hmem] at herror
        cases herror
  · rintro ⟨hfine, rfl⟩
    cases hread : readSeverities known es with
    | ok severities =>
      unfold readSeverities at hread
      split at hread
      · cases hread
      · cases hread
        rfl
    | error e =>
      obtain ⟨rule, v, hsets, herror⟩ := severityError_of_readSeverities hread
      obtain ⟨s, hs⟩ := hfine rule v hsets
      rw [hs] at herror
      cases herror

theorem severityFor?_eq_some_iff {p : String × Severity} :
    severityFor? es rule = some p ↔
      ∃ v s, Value.get? es rule = some v ∧ severityOf rule v = .ok s ∧ p = (rule, s) := by
  unfold severityFor?
  cases Value.get? es rule with
  | none => simp
  | some v => cases hseverity : severityOf rule v <;> simp [hseverity, eq_comm]

theorem lookup_severityFor? (rules : List String) :
    (rules.filterMap (severityFor? es)).lookup rule = some s ↔
      rule ∈ rules ∧ severityFor? es rule = some (rule, s) := by
  induction rules with
  | nil => simp
  | cons first rules ih =>
    rw [List.filterMap_cons]
    cases hfirst : severityFor? es first with
    | none =>
      dsimp only
      rw [ih, List.mem_cons]
      refine and_congr_left fun hrule => (or_iff_right ?_).symm
      rintro rfl
      rw [hrule] at hfirst
      cases hfirst
    | some p =>
      obtain ⟨v, s', hget, hseverity, rfl⟩ := severityFor?_eq_some_iff.1 hfirst
      dsimp only
      rw [List.lookup_cons, List.mem_cons]
      by_cases hrule : rule = first
      · subst hrule
        simp [hfirst]
      · rw [beq_false_of_ne hrule]
        dsimp only
        rw [ih, or_iff_right hrule]

theorem lookup_severitiesOf_eq_some_iff (hdistinct : DistinctKeys es) :
    (severitiesOf known es).lookup rule = some s ↔
      ∃ v, Sets known es rule v ∧ severityOf rule v = .ok s := by
  rw [severitiesOf, lookup_severityFor?, List.mem_eraseDups, List.mem_filter,
    severityFor?_eq_some_iff]
  simp only [Sets, hdistinct.get?_eq_some_iff, Bool.not_eq_true', List.contains_eq_mem,
    decide_eq_false_iff_not, Prod.mk.injEq, true_and]
  constructor
  · rintro ⟨⟨hknown, hlist⟩, v, s', hmem, hseverity, rfl⟩
    exact ⟨v, ⟨hknown, hlist, hmem⟩, hseverity⟩
  · rintro ⟨v, ⟨hknown, hlist, hmem⟩, hseverity⟩
    exact ⟨⟨hknown, hlist⟩, v, s, hmem, hseverity, rfl⟩

/-- The first entry to name no severity is mute. -/
inductive FirstMute (known : List String) (es : Entries) : Prop
  | intro {before after : Entries} {rule : String} {v v' : Value}
    (split : es = before ++ (.text rule, v) :: after) (sets : Sets known es rule v)
    (designates : Designates v v') (mute : Mute v')
    (first : ∀ rule v, Sets known before rule v → ∃ s v', Designates v v' ∧ NamesSeverity v' s)

theorem forall_severityError?_eq_none_iff (hvalues : ∀ e ∈ es, Keyed e.2) :
    (∀ entry ∈ es, severityError? known entry = none) ↔
      ∀ rule v, Sets known es rule v → ∃ s v', Designates v v' ∧ NamesSeverity v' s := by
  constructor
  · rintro h rule v ⟨hknown, hlist, hmem⟩
    cases hseverity : severityOf rule v with
    | ok s => exact ⟨s, (severityOf_eq_ok_iff (hvalues _ hmem)).1 hseverity⟩
    | error f =>
      have hrule := ruleOf?_eq_some_iff.2 ⟨rfl, hknown, hlist⟩
      have herror : severityError? known (.text rule, v) = some f :=
        severityError?_eq_some_iff.2 ⟨rule, hrule, hseverity⟩
      cases herror.symm.trans (h _ hmem)
  · rintro h ⟨k, v⟩ hmem
    cases herror : severityError? known (k, v) with
    | none => rfl
    | some f =>
      obtain ⟨rule, hrule, hseverity⟩ := severityError?_eq_some_iff.1 herror
      obtain ⟨rfl, hknown, hlist⟩ := ruleOf?_eq_some_iff.1 hrule
      obtain ⟨s, hs⟩ := h rule v ⟨hknown, hlist, hmem⟩
      cases hseverity.symm.trans ((severityOf_eq_ok_iff (hvalues _ hmem)).2 hs)

theorem exists_readSeverities_unforeseen_iff (hvalues : ∀ e ∈ es, Keyed e.2) :
    (∃ e, readSeverities known es = .error (.unforeseen e)) ↔ FirstMute known es := by
  simp only [readSeverities_eq_error_iff, List.findSome?_eq_some_iff]
  constructor
  · rintro ⟨e, before, ⟨k, v⟩, after, rfl, herror, hbefore⟩
    obtain ⟨rule, hrule, hseverity⟩ := severityError?_eq_some_iff.1 herror
    obtain ⟨rfl, hknown, hlist⟩ := ruleOf?_eq_some_iff.1 hrule
    have hmem : (.text rule, v) ∈ before ++ (.text rule, v) :: after := by simp
    obtain ⟨v', hdesignates, hmute⟩ :=
      (exists_severityOf_unforeseen_iff (hvalues _ hmem)).1 ⟨e, hseverity⟩
    refine .intro rfl ⟨hknown, hlist, hmem⟩ hdesignates hmute ?_
    exact (forall_severityError?_eq_none_iff fun e he =>
      hvalues e (List.mem_append_left _ he)).1 hbefore
  · rintro ⟨rfl, ⟨hknown, hlist, hmem⟩, hdesignates, hmute, hfirst⟩
    obtain ⟨e, hseverity⟩ :=
      (exists_severityOf_unforeseen_iff (hvalues _ hmem)).2 ⟨_, hdesignates, hmute⟩
    refine ⟨e, _, _, _, rfl, ?_, ?_⟩
    · exact severityError?_eq_some_iff.2
        ⟨_, ruleOf?_eq_some_iff.2 ⟨rfl, hknown, hlist⟩, hseverity⟩
    · exact (forall_severityError?_eq_none_iff fun e he =>
        hvalues e (List.mem_append_left _ he)).2 hfirst

/-! Whole configurations. -/

theorem bind_eq_error_iff {α β ε : Type} {x : Except ε α} {f : α → Except ε β} {e : ε} :
    x >>= f = .error e ↔ x = .error e ∨ ∃ a, x = .ok a ∧ f a = .error e := by
  cases x with
  | error e => simp [bind, Except.bind]
  | ok a => simp [bind, Except.bind]

theorem ofValue_eq_ok_iff :
    ofValue known source value = .ok c ↔
      ∃ es, Stands value es ∧ stringsAt es "disabled_rules" = .ok c.disabledRules ∧
        stringsAt es "opt_in_rules" = .ok c.optInRules ∧
        stringsAt es "only_rules" = .ok c.onlyRules ∧ stringsAt es "included" = .ok c.included ∧
        stringsAt es "excluded" = .ok c.excluded ∧
        readSeverities known es = .ok c.severities ∧ c.source = source := by
  simp only [ofValue, bind_eq_ok_iff, entries_eq_ok_iff, pure, Except.pure, Except.ok.injEq]
  constructor
  · rintro ⟨es, hes, _, h₁, _, h₂, _, h₃, _, h₄, _, h₅, _, h₆, rfl⟩
    exact ⟨es, hes, h₁, h₂, h₃, h₄, h₅, h₆, rfl⟩
  · rintro ⟨es, hes, h₁, h₂, h₃, h₄, h₅, h₆, rfl⟩
    exact ⟨es, hes, _, h₁, _, h₂, _, h₃, _, h₄, _, h₅, _, h₆, rfl⟩

/-- The entries fail, or one of the lists does, or all lists are read and the severities fail. -/
theorem ofValue_eq_error (h : ofValue known source value = .error f) :
    entries source value = .error f ∨ ∃ es, Stands value es ∧
      ((∃ key ∈ listKeys, stringsAt es key = .error f) ∨
        (∀ key ∈ listKeys, ∃ ss, stringsAt es key = .ok ss) ∧
          readSeverities known es = .error f) := by
  simp only [ofValue, bind_eq_error_iff, entries_eq_ok_iff, pure, Except.pure] at h
  rcases h with hes | ⟨es, hes, h⟩
  · exact .inl hes
  refine .inr ⟨es, hes, ?_⟩
  rcases h with h | ⟨_, h₁, h | ⟨_, h₂, h | ⟨_, h₃, h | ⟨_, h₄, h | ⟨_, h₅, h | ⟨_, -, h⟩⟩⟩⟩⟩⟩
  · exact .inl ⟨_, by decide, h⟩
  · exact .inl ⟨_, by decide, h⟩
  · exact .inl ⟨_, by decide, h⟩
  · exact .inl ⟨_, by decide, h⟩
  · exact .inl ⟨_, by decide, h⟩
  · refine .inr ⟨?_, h⟩
    simp only [listKeys, List.forall_mem_cons, h₁, h₂, h₃, h₄, h₅, Except.ok.injEq, exists_eq',
      true_and]
    nofun
  · cases h

theorem ofValue_of_readSeverities (hes : Stands value es)
    (hlists : ∀ key ∈ listKeys, ∃ ss, stringsAt es key = .ok ss)
    (h : readSeverities known es = .error f) : ofValue known source value = .error f := by
  obtain ⟨_, h₁⟩ := hlists "disabled_rules" (by decide)
  obtain ⟨_, h₂⟩ := hlists "opt_in_rules" (by decide)
  obtain ⟨_, h₃⟩ := hlists "only_rules" (by decide)
  obtain ⟨_, h₄⟩ := hlists "included" (by decide)
  obtain ⟨_, h₅⟩ := hlists "excluded" (by decide)
  simp only [ofValue, entries_eq_ok_iff.2 hes, h₁, h₂, h₃, h₄, h₅, h, bind, Except.bind]

/-- What makes a value no configuration. -/
inductive Unfit (known : List String) (value : Value) : Prop
  | notMapping (unfit : ∀ es, ¬Stands value es)
  | unlistable {es : Entries} {key : String} (stands : Stands value es) (list : key ∈ listKeys)
    (unlistable : Unlistable es key)
  | unnamed {es : Entries} {rule : String} {v v' : Value} (stands : Stands value es)
    (sets : Sets known es rule v) (designates : Designates v v')
    (unnamed : ∀ s, ¬NamesSeverity v' s)

/-- What can be at fault in a value, and the error that tells of it. -/
inductive Fault (known : List String) (source : Option Path) (value : Value) :
    ConfigurationError → Prop
  | notMapping (unfit : ∀ es, ¬Stands value es) : Fault known source value (.notMapping source)
  | notStrings {es : Entries} {key : String} (stands : Stands value es) (list : key ∈ listKeys)
    (unlistable : Unlistable es key) : Fault known source value (.notStrings key)
  | invalidSeverity {es : Entries} {rule shown : String} {v v' : Value} (stands : Stands value es)
    (sets : Sets known es rule v) (designates : Designates v v')
    (unnamed : ∀ s, ¬NamesSeverity v' s)
    (printed : v'.quoted = .ok shown) : Fault known source value (.invalidSeverity shown rule)

/-- The lists are in order, and the first entry to name no severity is mute. -/
inductive Untold (known : List String) (value : Value) : Prop
  | intro {es : Entries} (stands : Stands value es) (lists : ∀ key ∈ listKeys, ¬Unlistable es key)
    (severities : FirstMute known es)

/-- What a configuration takes from the entries of a mapping. -/
structure Takes (known : List String) (source : Option Path) (es : Entries) (c : Configuration) :
    Prop where
  disabledRules : ListedAt es "disabled_rules" c.disabledRules
  optInRules : ListedAt es "opt_in_rules" c.optInRules
  onlyRules : ListedAt es "only_rules" c.onlyRules
  included : ListedAt es "included" c.included
  excluded : ListedAt es "excluded" c.excluded
  severities : ∀ rule s, c.severities.lookup rule = some s ↔
    ∃ v v', Sets known es rule v ∧ Designates v v' ∧ NamesSeverity v' s
  source : c.source = source

theorem Stands.wellKeyed (h : Stands value es) (hkeyed : WellKeyed value) :
    DistinctKeys es ∧ ∀ e ∈ es, Keyed e.2 := by
  cases h with
  | null => exact ⟨.nil, nofun⟩
  | mapping => exact hkeyed

theorem fault_of_error (hkeyed : WellKeyed value)
    (h : ofValue known source value = .error (.fault e)) : Fault known source value e := by
  rcases ofValue_eq_error h with hes | ⟨es, hes, ⟨key, hkey, herror⟩ | ⟨-, herror⟩⟩
  · obtain ⟨heq, hunfit⟩ := entries_eq_error hes
    cases heq
    exact .notMapping hunfit
  · obtain ⟨heq, hunlistable⟩ := stringsAt_eq_error herror
    cases heq
    exact .notStrings hes hkey hunlistable
  · obtain ⟨rule, v, hsets, hseverity⟩ := severityError_of_readSeverities herror
    have hvalue := (hes.wellKeyed hkeyed).2 _ hsets.2.2
    obtain ⟨v', shown, hdesignates, hunnamed, hprinted, rfl⟩ := severityOf_eq_fault hvalue hseverity
    exact .invalidSeverity hes hsets hdesignates hunnamed hprinted

theorem unfit_of_error (hkeyed : WellKeyed value) (h : ofValue known source value = .error f) :
    Unfit known value := by
  rcases ofValue_eq_error h with hes | ⟨es, hes, ⟨key, hkey, herror⟩ | ⟨-, herror⟩⟩
  · exact .notMapping (entries_eq_error hes).2
  · exact .unlistable hes hkey (stringsAt_eq_error herror).2
  · obtain ⟨rule, v, hsets, hseverity⟩ := severityError_of_readSeverities herror
    have hvalue := (hes.wellKeyed hkeyed).2 _ hsets.2.2
    obtain ⟨v', hdesignates, hunnamed⟩ := (exists_severityOf_error_iff hvalue).1 ⟨f, hseverity⟩
    exact .unnamed hes hsets hdesignates hunnamed

theorem Stands.unique (h : Stands value es) (h' : Stands value es') : es = es' := by
  cases h <;> cases h' <;> rfl

theorem takes_of_ok (hkeyed : WellKeyed value) (h : ofValue known source value = .ok c) :
    ∃ es, Stands value es ∧ Takes known source es c := by
  obtain ⟨es, hes, h₁, h₂, h₃, h₄, h₅, h₆, hsource⟩ := ofValue_eq_ok_iff.1 h
  obtain ⟨hdistinct, hvalues⟩ := hes.wellKeyed hkeyed
  refine ⟨es, hes, ?_⟩
  constructor
  · exact (stringsAt_eq_ok_iff hdistinct).1 h₁
  · exact (stringsAt_eq_ok_iff hdistinct).1 h₂
  · exact (stringsAt_eq_ok_iff hdistinct).1 h₃
  · exact (stringsAt_eq_ok_iff hdistinct).1 h₄
  · exact (stringsAt_eq_ok_iff hdistinct).1 h₅
  · intro rule s
    rw [(readSeverities_eq_ok_iff.1 h₆).2, lookup_severitiesOf_eq_some_iff hdistinct]
    refine exists_congr fun v => ?_
    rw [exists_and_left]
    refine and_congr_right fun hsets => ?_
    exact severityOf_eq_ok_iff (hvalues _ hsets.2.2)
  · exact hsource

theorem not_unfit_of_ok (hkeyed : WellKeyed value) (h : ofValue known source value = .ok c) :
    ¬Unfit known value := by
  obtain ⟨es, hes, h₁, h₂, h₃, h₄, h₅, h₆, -⟩ := ofValue_eq_ok_iff.1 h
  obtain ⟨hdistinct, hvalues⟩ := hes.wellKeyed hkeyed
  intro hunfit
  cases hunfit with
  | notMapping hunfit => exact hunfit es hes
  | unlistable hes' hkey hunlistable =>
    obtain rfl := hes.unique hes'
    have hlisted {key : String} {ss : List String} (hlist : stringsAt es key = .ok ss) :
        ¬Unlistable es key :=
      (exists_stringsAt_iff hdistinct).1 ⟨ss, hlist⟩
    simp only [listKeys, List.mem_cons, List.not_mem_nil, or_false] at hkey
    rcases hkey with rfl | rfl | rfl | rfl | rfl
    · exact hlisted h₁ hunlistable
    · exact hlisted h₂ hunlistable
    · exact hlisted h₃ hunlistable
    · exact hlisted h₄ hunlistable
    · exact hlisted h₅ hunlistable
  | unnamed hes' hsets hdesignates hunnamed =>
    obtain rfl := hes.unique hes'
    obtain ⟨f, hf⟩ :=
      (exists_severityOf_error_iff (hvalues _ hsets.2.2)).2 ⟨_, hdesignates, hunnamed⟩
    obtain ⟨s, hs⟩ := (readSeverities_eq_ok_iff.1 h₆).1 _ _ hsets
    cases hf.symm.trans hs

theorem exists_error_iff (hkeyed : WellKeyed value) :
    (∃ f, ofValue known source value = .error f) ↔ Unfit known value := by
  constructor
  · rintro ⟨f, hf⟩
    exact unfit_of_error hkeyed hf
  · intro hunfit
    cases hread : ofValue known source value with
    | error f => exact ⟨f, rfl⟩
    | ok c => exact absurd hunfit (not_unfit_of_ok hkeyed hread)

/-- What a reader makes of a document is refused for nothing but a fault in it. -/
theorem exists_error_iff_of_load {loader : Yaml.Loader} {stream : TextStream}
    (h : loader.load stream = .ok value) :
    (∃ f, ofValue known source value = .error f) ↔ Unfit known value :=
  exists_error_iff (loader.wellKeyed_of_value h)

theorem exists_unforeseen_iff (hkeyed : WellKeyed value) :
    (∃ e, ofValue known source value = .error (.unforeseen e)) ↔ Untold known value := by
  constructor
  · rintro ⟨e, he⟩
    rcases ofValue_eq_error he with hes | ⟨es, hes, ⟨key, -, herror⟩ | ⟨hlists, herror⟩⟩
    · cases (entries_eq_error hes).1
    · cases (stringsAt_eq_error herror).1
    · obtain ⟨hdistinct, hvalues⟩ := hes.wellKeyed hkeyed
      refine .intro hes (fun key hkey => (exists_stringsAt_iff hdistinct).1 (hlists key hkey)) ?_
      exact (exists_readSeverities_unforeseen_iff hvalues).1 ⟨e, herror⟩
  · rintro ⟨hes, hlists, hseverities⟩
    obtain ⟨hdistinct, hvalues⟩ := hes.wellKeyed hkeyed
    obtain ⟨e, herror⟩ := (exists_readSeverities_unforeseen_iff hvalues).2 hseverities
    refine ⟨e, ofValue_of_readSeverities hes (fun key hkey => ?_) herror⟩
    exact (exists_stringsAt_iff hdistinct).2 (hlists key hkey)

/-- The mappings have the same entries under the list keys and the known rules. -/
def Agree (known : List String) (es es' : Entries) : Prop :=
  ∀ key, key ∈ listKeys ∨ key ∈ known → ∀ v, (.text key, v) ∈ es ↔ (.text key, v) ∈ es'

theorem Agree.get?_eq (h : Agree known es es') (hdistinct : DistinctKeys es)
    (hdistinct' : DistinctKeys es') (hkey : key ∈ listKeys ∨ key ∈ known) :
    Value.get? es key = Value.get? es' key := by
  ext v
  rw [hdistinct.get?_eq_some_iff, hdistinct'.get?_eq_some_iff]
  exact h key hkey v

/-- Neither the order of the entries nor those under other keys matter. -/
theorem ofValue_of_agree (hdistinct : DistinctKeys es) (hdistinct' : DistinctKeys es')
    (hagree : Agree known es es') (h : ofValue known source (.mapping es) = .ok c) :
    ofValue known source (.mapping es') = .ok c := by
  have hget {key : String} (hkey : key ∈ listKeys ∨ key ∈ known) :=
    hagree.get?_eq hdistinct hdistinct' hkey
  have hlist {key : String} {ss : List String} (hkey : key ∈ listKeys)
      (hstrings : stringsAt es key = .ok ss) : stringsAt es' key = .ok ss := by
    rwa [stringsAt, ← hget (.inl hkey)]
  obtain ⟨_, ⟨⟩, h₁, h₂, h₃, h₄, h₅, h₆, hsource⟩ := ofValue_eq_ok_iff.1 h
  obtain ⟨hfine, hseverities⟩ := readSeverities_eq_ok_iff.1 h₆
  refine ofValue_eq_ok_iff.2 ⟨es', .mapping es', hlist (by decide) h₁, hlist (by decide) h₂,
    hlist (by decide) h₃, hlist (by decide) h₄, hlist (by decide) h₅, ?_, hsource⟩
  refine readSeverities_eq_ok_iff.2 ⟨fun rule v ⟨hknown, hunlisted, hmem⟩ => ?_, ?_⟩
  · exact hfine rule v ⟨hknown, hunlisted, (hagree rule (.inr hknown) v).2 hmem⟩
  · rw [hseverities, severitiesOf, severitiesOf]
    refine List.filterMap_congr fun rule hrule => ?_
    have hknown := (List.mem_filter.1 (List.mem_eraseDups.1 hrule)).1
    rw [severityFor?, hget (.inr hknown), severityFor?]

/-! The rules that run. -/

/-- Rules that are named alone exclude all others; where none is, a rule runs unless it is disabled,
and if it is opt-in only where it is opted in. -/
def Runs (c : Configuration) (rule : Rule) : Prop :=
  (c.onlyRules ≠ [] ∧ rule.id ∈ c.onlyRules) ∨
    (c.onlyRules = [] ∧ rule.id ∉ c.disabledRules ∧
      (rule.optIn = false ∨ rule.id ∈ c.optInRules))

/-- The rules that run of those given, in their order, each with the severity that is configured for
it or else its own. -/
inductive Keeps (c : Configuration) : List Rule → List Rule → Prop
  | nil : Keeps c [] []
  | configured {rule : Rule} {rules kept : List Rule} {s : Severity} (runs : Runs c rule)
    (severity : c.severities.lookup rule.id = some s) (rest : Keeps c rules kept) :
    Keeps c (rule :: rules) ({ rule with severity := s } :: kept)
  | own {rule : Rule} {rules kept : List Rule} (runs : Runs c rule)
    (severity : c.severities.lookup rule.id = none) (rest : Keeps c rules kept) :
    Keeps c (rule :: rules) (rule :: kept)
  | skip {rule : Rule} {rules kept : List Rule} (idle : ¬Runs c rule) (rest : Keeps c rules kept) :
    Keeps c (rule :: rules) kept

theorem isEnabled_iff {rule : Rule} : c.isEnabled rule.id rule.optIn = true ↔ Runs c rule := by
  unfold isEnabled Runs
  by_cases honly : c.onlyRules = []
  · by_cases hdisabled : rule.id ∈ c.disabledRules <;> simp [honly, hdisabled]
  · simp [honly]

theorem enabledRules_cons_of_runs {rule : Rule} (h : Runs c rule) (rules : List Rule) :
    c.enabledRules (rule :: rules) =
      { rule with severity := (c.severities.lookup rule.id).getD rule.severity } ::
        c.enabledRules rules := by
  simp only [enabledRules, List.filter_cons, isEnabled_iff.2 h, if_true, List.map_cons]

theorem enabledRules_cons_of_not_runs {rule : Rule} (h : ¬Runs c rule) (rules : List Rule) :
    c.enabledRules (rule :: rules) = c.enabledRules rules := by
  simp only [enabledRules, List.filter_cons, if_neg (mt isEnabled_iff.1 h)]

theorem keeps_enabledRules (c : Configuration) (rules : List Rule) :
    Keeps c rules (c.enabledRules rules) := by
  induction rules with
  | nil => exact .nil
  | cons rule rules ih =>
    by_cases hruns : Runs c rule
    · rw [enabledRules_cons_of_runs hruns]
      cases hseverity : c.severities.lookup rule.id with
      | some s => exact .configured hruns hseverity ih
      | none => exact .own hruns hseverity ih
    · rw [enabledRules_cons_of_not_runs hruns]
      exact .skip hruns ih

theorem Keeps.eq_enabledRules {rules kept : List Rule} (h : Keeps c rules kept) :
    c.enabledRules rules = kept := by
  induction h with
  | nil => rfl
  | configured hruns hseverity _ ih => rw [enabledRules_cons_of_runs hruns, hseverity, ih]; rfl
  | own hruns hseverity _ ih => rw [enabledRules_cons_of_runs hruns, hseverity, ih]; rfl
  | skip hidle _ ih => rw [enabledRules_cons_of_not_runs hidle, ih]

/-- Reading a value fails exactly if the value is unfit. Then the error tells of something that is
at fault in the value, unless the first that is cannot be printed. Otherwise the configuration holds
what the value says; any mapping that agrees with the value under the keys that matter gives the
same configuration, and of any rules the configuration keeps those that run under it. -/
theorem ofValue_reads (known : List String) (source : Option Path) (value : Value)
    (hkeyed : WellKeyed value) :
    ((∃ f, ofValue known source value = .error f) ↔ Unfit known value) ∧
      (∀ e, ofValue known source value = .error (.fault e) → Fault known source value e) ∧
      ((∃ e, ofValue known source value = .error (.unforeseen e)) ↔ Untold known value) ∧
      ∀ c, ofValue known source value = .ok c →
        (∃ es, Stands value es ∧ Takes known source es c) ∧
          (∀ es es', Stands value es → DistinctKeys es' → Agree known es es' →
            ofValue known source (.mapping es') = .ok c) ∧
          ∀ rules kept, c.enabledRules rules = kept ↔ Keeps c rules kept := by
  refine ⟨exists_error_iff hkeyed, fun e => fault_of_error hkeyed, exists_unforeseen_iff hkeyed,
    fun c hc => ⟨takes_of_ok hkeyed hc, ?_, ?_⟩⟩
  · intro es es' hes hdistinct' hagree
    have hdistinct := (hes.wellKeyed hkeyed).1
    cases hes with
    | null => exact ofValue_of_agree hdistinct hdistinct' hagree hc
    | mapping => exact ofValue_of_agree hdistinct hdistinct' hagree hc
  · intro rules kept
    constructor
    · rintro rfl
      exact keeps_enabledRules c rules
    · exact Keeps.eq_enabledRules

/-- A rule is opted in by one string, and its severity is named in letters of either case; there is
nothing under `disabled_rules`, and no configuration knows the key 1. -/
theorem ofValue_reads_mapping :
    let known := ["optional_initialization"]
    let es : Entries := [(.text "opt_in_rules", .text "optional_initialization"),
      (.int 1, .bool true), (.text "disabled_rules", .null),
      (.text "optional_initialization", .mapping [(.text "severity", .text "Error")])]
    let c : Configuration :=
      { optInRules := known, severities := [("optional_initialization", .error)] }
    WellKeyed (.mapping es) ∧ ofValue known none (.mapping es) = .ok c ∧
      ¬Unfit known (.mapping es) ∧
      ∀ es', DistinctKeys es' → Agree known es es' → ofValue known none (.mapping es') = .ok c := by
  intro known es c
  have hkeyed : WellKeyed (.mapping es) := by
    simp [es, WellKeyed, DistinctKeys, Keyed]
  have hnames : NamesSeverity (.text "Error") .error := by
    refine ⟨"Error", rfl, ?_⟩
    change String.map Char.toLower "Error" = "error"
    rw [← String.toList_inj, String.toList_map]
    rfl
  have hvalue : Keyed (.mapping [(.text "severity", .text "Error")]) :=
    List.pairwise_singleton _ _
  have hseverity : severityOf "optional_initialization"
      (.mapping [(.text "severity", .text "Error")]) = .ok .error :=
    (severityOf_eq_ok_iff hvalue).2 ⟨_, .entry List.mem_cons_self, hnames⟩
  have hfor : severityFor? es "optional_initialization" =
      some ("optional_initialization", .error) :=
    severityFor?_eq_some_iff.2 ⟨_, .error, rfl, hseverity, rfl⟩
  have hseverities : readSeverities known es = .ok c.severities := by
    refine readSeverities_eq_ok_iff.2 ⟨fun rule v ⟨hknown, _, hmem⟩ => ⟨.error, ?_⟩, ?_⟩
    · obtain rfl := List.mem_singleton.1 hknown
      rw [hkeyed.1.eq_of_mem hmem (Value.mem_of_get? rfl)]
      exact hseverity
    · change _ = known.filterMap (severityFor? es)
      rw [List.filterMap_cons_some hfor]
      rfl
  have hread : ofValue known none (.mapping es) = .ok c :=
    ofValue_eq_ok_iff.2 ⟨es, .mapping es, rfl, rfl, rfl, rfl, rfl, hseverities, rfl⟩
  obtain ⟨hfails, -, -, hreads⟩ := ofValue_reads known none (.mapping es) hkeyed
  refine ⟨hkeyed, hread, fun hunfit => ?_, fun es' => (hreads c hread).2.1 es es' (.mapping es)⟩
  obtain ⟨f, hf⟩ := hfails.2 hunfit
  cases hread.symm.trans hf

/-- An integer of too many digits is no severity, but the error that is to say so cannot show it. -/
theorem ofValue_of_huge_number :
    let known := ["optional_initialization"]
    let number : Value := .int (.ofNat (Nat.pow 10 maxDigits))
    let value : Value := .mapping [(.text "optional_initialization", number)]
    Unfit known value ∧ ofValue known none value = .error (.unforeseen Value.tooManyDigits) := by
  intro known number value
  have hquoted : number.quoted = .error Value.tooManyDigits :=
    Value.quoted_int_of_long (Nat.le_of_eq (Int.natAbs_natCast _).symm)
  have hshown : number.shown = .error Value.tooManyDigits := hquoted
  have hunnamed : ∀ s, ¬NamesSeverity number s := by
    rintro s ⟨printed, hprinted, -⟩
    cases hshown.symm.trans hprinted
  have hseverity : severityOf "optional_initialization" number =
      .error (.unforeseen Value.tooManyDigits) := by
    simp only [severityOf, show severityValue number = number from rfl, hshown, refusal, hquoted,
      Value.tooManyDigits]
  have herror : severityError? known (.text "optional_initialization", number) =
      some (.unforeseen Value.tooManyDigits) :=
    severityError?_eq_some_iff.2
      ⟨_, ruleOf?_eq_some_iff.2 ⟨rfl, List.mem_cons_self, by decide⟩, hseverity⟩
  refine ⟨.unnamed (.mapping _) ⟨List.mem_cons_self, by decide, List.mem_cons_self⟩ (.plain nofun)
    hunnamed, ofValue_of_readSeverities (.mapping _) ?_ ?_⟩
  · simp only [listKeys, List.forall_mem_cons]
    exact ⟨⟨[], rfl⟩, ⟨[], rfl⟩, ⟨[], rfl⟩, ⟨[], rfl⟩, ⟨[], rfl⟩, nofun⟩
  · rw [readSeverities_eq_error_iff, List.findSome?_cons, herror]

end Configuration

end PatternLint
