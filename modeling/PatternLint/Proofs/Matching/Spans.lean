import PatternLint.Proofs.Matching.Scan
import PatternLint.Syntax.Classify

/-! Where matches lie. What a match reports lies in its extent, unless the pattern takes the group
from text that it only looks at. Extents overlap no excluded item; but an empty range overlaps only
what it lies strictly inside, so an empty match may stand at the start of an item. Both are said of
a pattern as a whole as well: a match at any place of any text is reported once items block the
places before it. -/

namespace PatternLint

namespace Matcher

/-- Every match contains what it takes for the group. -/
def Encloses (matcher : Matcher) (index : Nat) : Prop :=
  ∀ s i f a, i ≤ s.length → matcher.matchAt s i = some f → f.group? index = some a →
    f.extent.contains a

/-- No match in which the group takes part is empty. -/
def TakesText (matcher : Matcher) (index : Nat) : Prop :=
  ∀ s i f a, i ≤ s.length → matcher.matchAt s i = some f → f.group? index = some a →
    f.extent.start < f.extent.stop

theorem encloses_zero (matcher : Matcher) : matcher.Encloses 0 := by
  intro s i f a hi hf ha
  obtain rfl := Option.some.inj ha
  exact Span.contains_iff.2 ⟨Nat.le_refl _, Nat.le_refl _⟩

end Matcher

/-- A group that no lookahead of the pattern takes is taken between the two ends of a match. -/
theorem Regex.encloses_of_not_capturesAhead {regex : Regex} {index : Nat}
    (h : regex.pattern.capturesAhead index = false) : regex.matcher.Encloses index := by
  intro s i f a hi hf ha
  obtain ⟨t, ht, rfl⟩ := Option.map_eq_some_iff.1 hf
  obtain ⟨j, g, hij, hr⟩ := Pattern.reaches_run regex.pattern s i [] some t ht
  obtain rfl := Option.some.inj hr
  have hle : i ≤ j := hij.le
  unfold Found.group? at ha
  split at ha
  · obtain rfl := Option.some.inj ha
    exact Span.contains_iff.2 ⟨Nat.le_refl _, Nat.le_refl _⟩
  · obtain ⟨new, hnew, htakes⟩ := hij.takes
    obtain rfl : g = new := by simpa using hnew
    obtain ⟨before, after, hg, -⟩ := List.lookup_eq_some_iff.1 ha
    have hmem : (index, a) ∈ g := by
      dsimp only [State.groups_atPlace] at hg
      simp [hg]
    have hentry := htakes _ hmem
    refine Span.contains_iff.2 ⟨?_, ?_⟩
    · exact Nat.le_trans (Nat.le_of_eq (Span.start_between hle)) hentry.le_start
    · exact Nat.le_trans (hentry.stop_le h) (Nat.le_of_eq (Span.stop_between hle).symm)

namespace Matching

open Syntax (Item ExcludedSet)
open Syntax.ExcludedSet (Avoids intersects_ofList_iff)

variable {matcher : Matcher} {group : GroupRef} {index : Nat} {items : List Item} {s : Text}
  {ms : List Match} {m : Match}

/-- Nothing is accepted for a group that the pattern does not have. -/
theorem accepted_of_unknown (hgroup : matcher.group? group = none) (excluded : ExcludedSet)
    (s : Text) (p : Nat) : accepted (candidatesFrom matcher group excluded s p) = [] := by
  have hnone (f : Found) : (judge matcher group excluded f).match? = none := by
    unfold judge
    rw [hgroup]
    split
    · rfl
    · rfl
  fun_induction candidatesFrom matcher group excluded s p with
  | case1 => rfl
  | case2 p hp found hs candidate hr => exact List.filterMap_cons_none (hnone found)
  | case3 p hp found hs candidate next hr ih =>
    exact (List.filterMap_cons_none (hnone found)).trans ih
  | case4 => rfl

theorem matches_eq_ok (hgroup : matcher.group? group = some index) (items : List Item) (s : Text) :
    matcher.matches group (.ofList items) s =
      .ok (scan (reported? matcher index items s) s.length 0) := by
  obtain ⟨haccepted, hknown⟩ := accepted_candidatesFrom hgroup items s 0
  unfold Matcher.matches candidates
  simp [haccepted, hknown]

/-- The matches are those of the plain scan; without the group there are none. -/
theorem eq_scan_of_matches (h : matcher.matches group (.ofList items) s = .ok ms) :
    ms = [] ∨ ∃ index, matcher.group? group = some index ∧
      ms = scan (reported? matcher index items s) s.length 0 := by
  cases hgroup : matcher.group? group with
  | none =>
    unfold Matcher.matches at h
    dsimp only at h
    split at h
    · cases h
    · exact .inl ((Except.ok.inj h).symm.trans (accepted_of_unknown hgroup _ s 0))
  | some index =>
    rw [matches_eq_ok hgroup] at h
    exact .inr ⟨index, rfl, (Except.ok.inj h).symm⟩

/-- Every match is what a try at its start reports. -/
theorem reported_of_mem_matches (h : matcher.matches group (.ofList items) s = .ok ms)
    (hm : m ∈ ms) : ∃ index p, matcher.group? group = some index ∧ p ≤ s.length ∧
      reported? matcher index items s p = some m := by
  rcases eq_scan_of_matches h with rfl | ⟨index, hgroup, rfl⟩
  · simp at hm
  · obtain ⟨p, -, hp, hr⟩ := exists_of_mem_scan hm
    exact ⟨index, p, hgroup, hp, hr⟩

theorem avoids_of_mem_matches (h : matcher.matches group (.ofList items) s = .ok ms) (hm : m ∈ ms) :
    Avoids items m.extent := by
  obtain ⟨index, p, -, -, hr⟩ := reported_of_mem_matches h hm
  obtain ⟨f, -, hfree, -, he⟩ := reported?_eq_some_iff.1 hr
  exact he ▸ hfree

theorem pairwise_of_matches (h : matcher.matches group (.ofList items) s = .ok ms) :
    ms.Pairwise fun m m' => m.extent.start < m'.extent.start ∧ m.extent.stop ≤ m'.extent.start := by
  rcases eq_scan_of_matches h with rfl | ⟨index, -, rfl⟩
  · exact .nil
  · exact pairwise_scan fun _ _ => start_of_reported?

/-- One item for each place before `i`. -/
def blocked (i : Nat) : List Item := (List.range i).map fun j => ⟨.comment, j, j + 1, by omega⟩

theorem avoids_blocked_iff {i : Nat} {a : Span} :
    Avoids (blocked i) a ↔ ∀ j, j < i → a.start ≤ j → a.stop ≤ j := by
  simp only [Avoids, blocked, List.forall_mem_map, List.mem_range, Span.intersects_eq_false_iff]
  refine forall₂_congr fun j hj => ?_
  omega

/-- Behind blocked places, a match is reported wherever the pattern has one. -/
theorem exists_mem_matches {i : Nat} {f : Found} {a : Span}
    (hgroup : matcher.group? group = some index) (hi : i ≤ s.length)
    (hf : matcher.matchAt s i = some f) (ha : f.group? index = some a)
    (hfree : Avoids items f.extent) :
    ∃ ms, matcher.matches group (.ofList (blocked i ++ items)) s = .ok ms ∧ ⟨a, f.extent⟩ ∈ ms := by
  have hstart := matcher.start_matchAt hf
  have havoids (b : Span) : Avoids (blocked i ++ items) b ↔ Avoids (blocked i) b ∧ Avoids items b :=
    List.forall_mem_append
  have hr : reported? matcher index (blocked i ++ items) s i = some ⟨a, f.extent⟩ := by
    refine reported?_eq_some_iff.2 ⟨f, hf, (havoids _).2 ⟨?_, hfree⟩, ha, rfl⟩
    rw [avoids_blocked_iff]
    omega
  refine ⟨_, matches_eq_ok hgroup _ s, ?_⟩
  rcases mem_scan_or_covered (fun _ _ => start_of_reported?) (Nat.zero_le i) hi hr with
    hmem | ⟨m', hm', hlt, hgt⟩
  · exact hmem
  · -- a match that goes on over the place would overlap the item at its own start
    obtain ⟨p, -, -, hr'⟩ := exists_of_mem_scan hm'
    obtain ⟨f', -, hfree', -, he⟩ := reported?_eq_some_iff.1 hr'
    rw [he] at hfree'
    have := avoids_blocked_iff.1 ((havoids _).1 hfree').1 m'.extent.start hlt (Nat.le_refl _)
    omega

/-! ### What is reported, and the extent -/

/-- The spans lie in the extents, follow one another and overlap no item. -/
structure SpansContained (items : List Item) (ms : List Match) : Prop where
  contained : ∀ m ∈ ms, m.extent.contains m.span
  apart : Span.Apart (ms.map Match.span)
  avoids : ∀ m ∈ ms, Avoids items m.span

theorem avoids_of_contains {a b : Span} (h : a.contains b) (ha : Avoids items a) :
    Avoids items b := by
  intro i hi
  have hfree := ha i hi
  rw [Span.contains_iff] at h
  rw [Span.intersects_eq_false_iff] at hfree ⊢
  omega

theorem spansContained_iff_contains (h : matcher.matches group (.ofList items) s = .ok ms) :
    SpansContained items ms ↔ ∀ m ∈ ms, m.extent.contains m.span := by
  constructor
  · exact fun hspans => hspans.contained
  · intro hcontained
    refine ⟨hcontained, ?_, fun m hm =>
      avoids_of_contains (hcontained m hm) (avoids_of_mem_matches h hm)⟩
    refine List.pairwise_map.2 ((pairwise_of_matches h).imp_of_mem fun hm hm' hextents => ?_)
    calc
      _ ≤ _ := (Span.contains_iff.1 (hcontained _ hm)).2
      _ ≤ _ := hextents.2
      _ ≤ _ := (Span.contains_iff.1 (hcontained _ hm')).1

/-- The spans of a run keep apart from one another and from the items once each lies in its extent.
They do so in every run exactly when every match, at whatever place, contains what it takes for the
group: the whole match does, and of the patterns read here every group does that no lookahead
takes. -/
theorem spansContained_iff (matcher : Matcher) (group : GroupRef) :
    (∀ items s ms, matcher.matches group (.ofList items) s = .ok ms →
      (SpansContained items ms ↔ ∀ m ∈ ms, m.extent.contains m.span)) ∧
    ((∀ items s ms, matcher.matches group (.ofList items) s = .ok ms → SpansContained items ms) ↔
      ∀ index, matcher.group? group = some index → matcher.Encloses index) ∧
    matcher.Encloses 0 ∧
    ∀ (regex : Regex) (index : Nat), regex.pattern.capturesAhead index = false →
      regex.matcher.Encloses index := by
  refine ⟨fun items s ms => spansContained_iff_contains, ⟨?_, ?_⟩, matcher.encloses_zero,
    fun regex index => Regex.encloses_of_not_capturesAhead⟩
  · intro hall index hgroup s i f a hi hf ha
    have hfree : Avoids [] f.extent := by simp [Avoids]
    obtain ⟨ms, hms, hmem⟩ := exists_mem_matches hgroup hi hf ha hfree
    exact (hall _ s ms hms).contained _ hmem
  · intro hencloses items s ms h
    refine (spansContained_iff_contains h).2 fun m hm => ?_
    obtain ⟨index, p, hgroup, hp, hr⟩ := reported_of_mem_matches h hm
    obtain ⟨f, hf, -, hspan, he⟩ := reported?_eq_some_iff.1 hr
    exact he ▸ hencloses index hgroup s p f m.span hp hf hspan

/-- The group is taken in a lookahead only: it lies behind the extent, and in a comment. -/
theorem span_outside_extent :
    let regex : Regex :=
      ⟨.sequence [.char 'a', .ahead true (.sequence [.group 1 (.sequence [.many (.chars .all)])])],
        1, []⟩
    let s := "a/*b*/".toList
    let m : Match := ⟨⟨1, 6, by decide⟩, ⟨0, 1, by decide⟩⟩
    Dialect.standard.ofRule "a(?=(.*))".toList = .ok regex.compiled ∧
      regex.matcher.matches (.index 1) (Syntax.classify s) s = .ok [m] ∧
      ¬m.extent.contains m.span ∧ ¬Avoids (Syntax.items s) m.span := by
  intro regex s m
  have hcandidates : candidates regex.matcher (.index 1) (Syntax.classify s) s = [.accepted m] := by
    decide +kernel
  have hitems : Syntax.items s = [⟨.comment, ⟨1, 6, by decide⟩⟩] := by decide +kernel
  refine ⟨rfl, ?_, by decide, fun h => ?_⟩
  · rw [Matcher.matches, hcandidates]
    rfl
  · rw [hitems] at h
    exact absurd (h _ List.mem_cons_self) (by decide)

/-! ### The extent, and the items -/

/-- An empty range overlaps only what it lies strictly inside. -/
theorem intersects_empty_iff (items : List Item) (o : Nat) :
    (ExcludedSet.ofList items).intersects ⟨o, o, Nat.le_refl o⟩ = true ↔
      ∃ i ∈ items, i.span.start < o ∧ o < i.span.stop := by
  simp [intersects_ofList_iff, Span.intersects_iff]

/-- What overlaps no item begins in one only if it is empty and the item begins there too. -/
theorem covered_start_iff {a : Span} (h : Avoids items a) :
    Covered (items.map Item.span) a.start ↔
      a.start = a.stop ∧ ∃ i ∈ items, i.span.start = a.start ∧ a.start < i.span.stop := by
  constructor
  · intro hcovered
    obtain ⟨_, hspan, hle, hlt⟩ := hcovered
    obtain ⟨i, hi, rfl⟩ := List.mem_map.1 hspan
    have hfree := h i hi
    have := a.start_le_stop
    rw [Span.intersects_eq_false_iff] at hfree
    exact ⟨by omega, i, hi, by omega, hlt⟩
  · intro hempty
    obtain ⟨-, i, hi, heq, hlt⟩ := hempty
    exact ⟨i.span, List.mem_map_of_mem hi, Nat.le_of_eq heq, hlt⟩

/-- A query at a place finds an item that the place lies in, unless all such items begin there. -/
theorem intersects_of_covered_iff (items : List Item) (o : Nat) :
    (Covered (items.map Item.span) o →
        (ExcludedSet.ofList items).intersects ⟨o, o, Nat.le_refl o⟩ = true) ↔
      ∀ i ∈ items, i.span.start = o → o < i.span.stop →
        ∃ j ∈ items, j.span.start < o ∧ o < j.span.stop := by
  rw [intersects_empty_iff]
  constructor
  · intro hfound i hi heq hlt
    exact hfound ⟨i.span, List.mem_map_of_mem hi, Nat.le_of_eq heq, hlt⟩
  · intro hstart hcovered
    obtain ⟨_, hspan, hle, hlt⟩ := hcovered
    obtain ⟨i, hi, rfl⟩ := List.mem_map.1 hspan
    rcases Nat.lt_or_eq_of_le hle with hinside | heq
    · exact ⟨i, hi, hinside, hlt⟩
    · exact hstart i hi heq hlt

/-- A match begins in an item exactly when it is empty and the item begins there too. In no run does
a match begin in an item exactly when the pattern has no empty match, at whatever place. An empty
query finds an item that its place lies in, unless all such items begin there. -/
theorem starts_outside_iff (matcher : Matcher) (group : GroupRef) :
    (∀ items s ms, matcher.matches group (.ofList items) s = .ok ms → ∀ m ∈ ms,
      (Covered (items.map Item.span) m.extent.start ↔ m.extent.start = m.extent.stop ∧
        ∃ i ∈ items, i.span.start = m.extent.start ∧ m.extent.start < i.span.stop)) ∧
    ((∀ items s ms, matcher.matches group (.ofList items) s = .ok ms →
        ∀ m ∈ ms, ¬Covered (items.map Item.span) m.extent.start) ↔
      ∀ index, matcher.group? group = some index → matcher.TakesText index) ∧
    ∀ items o, (Covered (items.map Item.span) o →
        (ExcludedSet.ofList items).intersects ⟨o, o, Nat.le_refl o⟩ = true) ↔
      ∀ i ∈ items, i.span.start = o → o < i.span.stop →
        ∃ j ∈ items, j.span.start < o ∧ o < j.span.stop := by
  refine ⟨fun items s ms h m hm => covered_start_iff (avoids_of_mem_matches h hm), ⟨?_, ?_⟩,
    intersects_of_covered_iff⟩
  · intro hall index hgroup s i f a hi hf ha
    have := f.extent.start_le_stop
    have hstart := matcher.start_matchAt hf
    apply Nat.lt_of_not_le
    intro hle
    -- an item that begins where the empty match stands
    let item : Item := ⟨.comment, i, i + 1, by omega⟩
    have hfree : Avoids [item] f.extent := by
      simp [Avoids, item, Span.intersects_eq_false_iff]
      omega
    obtain ⟨ms, hms, hmem⟩ := exists_mem_matches hgroup hi hf ha hfree
    refine hall _ s ms hms _ hmem ⟨item.span, by simp, ?_, ?_⟩
    · exact Nat.le_of_eq hstart.symm
    · exact Nat.lt_of_le_of_lt (Nat.le_of_eq hstart) (Nat.lt_succ_self i)
  · intro htakes items s ms h m hm hcovered
    obtain ⟨index, p, hgroup, hp, hr⟩ := reported_of_mem_matches h hm
    obtain ⟨f, hf, hfree, hspan, he⟩ := reported?_eq_some_iff.1 hr
    have hlt := htakes index hgroup s p f m.span hp hf hspan
    rw [he] at hlt hfree
    have := ((covered_start_iff hfree).1 hcovered).1
    omega

/-- The start of a line matches at the start of a comment, and an empty query there misses it. -/
theorem match_at_start_of_comment :
    let regex : Regex := ⟨.sequence [.anchor .lineStart], 0, []⟩
    let s := "// x".toList
    let m : Match := ⟨⟨0, 0, by decide⟩, ⟨0, 0, by decide⟩⟩
    Dialect.standard.ofRule "^".toList = .ok regex.compiled ∧
      regex.matcher.matches (.index 0) (Syntax.classify s) s = .ok [m] ∧
      Covered ((Syntax.items s).map Item.span) m.extent.start ∧
      (Syntax.classify s).intersects m.extent = false := by
  intro regex s m
  have hcandidates : candidates regex.matcher (.index 0) (Syntax.classify s) s = [.accepted m] := by
    decide +kernel
  have hitems : Syntax.items s = [⟨.comment, ⟨0, 4, by decide⟩⟩] := by decide +kernel
  refine ⟨rfl, ?_, ?_, by decide +kernel⟩
  · rw [Matcher.matches, hcandidates]
    rfl
  · rw [hitems]
    exact ⟨⟨0, 4, by decide⟩, List.mem_cons_self, by decide, by decide⟩

end Matching

end PatternLint
