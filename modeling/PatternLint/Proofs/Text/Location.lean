import PatternLint.Proofs.Text.Line

/-! Locations against the text. The index of line starts holds the start of the text and the places
behind its line feeds, in order; so the last of them at or before an offset is where the line of the
offset begins. Line and character therefore count what stands before the offset, tell it from every
other, and are ordered as offsets are. -/

namespace PatternLint

/-- By line, and in a line by character. -/
def Location.Precedes (l m : Location) : Prop :=
  l.line < m.line ∨ l.line = m.line ∧ l.character < m.character

/-- The line of an offset begins at `start`: at the start of the text or behind a line feed, with
none from there up to the offset. -/
structure LineBegins (s : Text) (offset start : Nat) : Prop where
  le : start ≤ offset
  behindFeed : start = 0 ∨ ∃ x, start = x + 1 ∧ s[x]? = some '\n'
  inLine : ∀ x, start ≤ x → x < offset → s[x]? ≠ some '\n'

theorem mem_lineStartsFrom_iff {k start : Nat} {s : Text} :
    start ∈ lineStartsFrom k s ↔ ∃ x, start = k + x + 1 ∧ s[x]? = some '\n' := by
  induction s generalizing k with
  | nil => simp [lineStartsFrom]
  | cons c s ih =>
    have hrest : start ∈ lineStartsFrom (k + 1) s ↔
        ∃ x, start = k + (x + 1) + 1 ∧ (c :: s)[x + 1]? = some '\n' := by
      simp [ih, Nat.add_assoc, Nat.add_comm 1]
    have hfirst : (∃ x, start = k + x + 1 ∧ (c :: s)[x]? = some '\n') ↔
        start = k + 1 ∧ c = '\n' ∨ start ∈ lineStartsFrom (k + 1) s := by
      rw [Nat.or_exists_add_one.symm, hrest]
      simp
    rw [hfirst, lineStartsFrom]
    split
    · simp [*]
    · simp [*]

namespace Source

variable {source : Source} {offset o o' start : Nat}

theorem mem_lineStarts_iff :
    start ∈ source.lineStarts.toList ↔
      start = 0 ∨ ∃ x, start = x + 1 ∧ source.contents[x]? = some '\n' := by
  simp [lineStarts, mem_lineStartsFrom_iff]

theorem lt_lineOf_iff (source : Source) (offset i : Nat) :
    i < source.lineOf offset ↔ ∃ start, source.lineStarts[i]? = some start ∧ start ≤ offset := by
  rw [lineOf, lt_partitionPoint_iff (comesFirst_lineStarts source offset), Option.any_eq_true]
  simp

/-- Later lines begin later. -/
theorem lineStarts_le {i j start' : Nat} (hij : i ≤ j) (hi : source.lineStarts[i]? = some start)
    (hj : source.lineStarts[j]? = some start') : start ≤ start' := by
  have hle := comesFirst_lineStarts source start' i j hij (by simp [hj])
  simpa [hi] using hle

/-- The last line start at or before an offset is where its line begins. -/
theorem exists_lineBegins (source : Source) (offset : Nat) :
    ∃ start, source.lineStarts[source.lineOf offset - 1]? = some start ∧
      LineBegins source.contents offset start := by
  have hpos : source.lineOf offset - 1 < source.lineOf offset := by
    rw [lineOf_eq_count]
    omega
  obtain ⟨start, hstart, hle⟩ := (lt_lineOf_iff source offset _).1 hpos
  refine ⟨start, hstart, hle, ?_, fun x h1 h2 hfeed => ?_⟩
  · rw [← Array.getElem?_toList] at hstart
    exact mem_lineStarts_iff.1 (List.mem_of_getElem? hstart)
  · -- a line that begins behind this line feed is counted as well
    have hmem : x + 1 ∈ source.lineStarts.toList := mem_lineStarts_iff.2 (.inr ⟨x, rfl, hfeed⟩)
    obtain ⟨i, hi⟩ := List.mem_iff_getElem?.1 hmem
    rw [Array.getElem?_toList] at hi
    have hlt : i < source.lineOf offset := (lt_lineOf_iff source offset i).2 ⟨x + 1, hi, h2⟩
    have hbefore : x + 1 ≤ start := lineStarts_le (by omega) hi hstart
    omega

theorem character_locate (h : source.lineStarts[source.lineOf offset - 1]? = some start) :
    (source.locate offset).character = offset - start + 1 := by
  have hget : source.lineStarts.getD (source.lineOf offset - 1) 0 = start := by
    simp [Array.getD_eq_getD_getElem?, h]
  rw [locate, hget]

theorem lineOf_le (source : Source) (h : o ≤ o') : source.lineOf o ≤ source.lineOf o' := by
  rw [lineOf_eq_count, lineOf_eq_count]
  exact Nat.succ_le_succ ((List.take_sublist_take_left h).count_le '\n')

/-- A later offset stands on a later line, or on the same line behind more characters. -/
theorem locate_precedes (source : Source) (h : o < o') :
    (source.locate o).Precedes (source.locate o') := by
  rcases Nat.lt_or_eq_of_le (lineOf_le source (Nat.le_of_lt h)) with hlt | heq
  · exact .inl hlt
  · obtain ⟨start, hstart, hbegins⟩ := exists_lineBegins source o
    have hstart' : source.lineStarts[source.lineOf o' - 1]? = some start := heq ▸ hstart
    refine .inr ⟨heq, ?_⟩
    rw [character_locate hstart, character_locate hstart']
    have := hbegins.le
    omega

theorem lt_iff_locate_precedes (source : Source) (o o' : Nat) :
    o < o' ↔ (source.locate o).Precedes (source.locate o') := by
  refine ⟨locate_precedes source, fun h => ?_⟩
  rcases Nat.lt_trichotomy o o' with hlt | rfl | hgt
  · exact hlt
  · unfold Location.Precedes at h
    omega
  · have hback := locate_precedes source hgt
    unfold Location.Precedes at h hback
    omega

theorem location?_eq_ok_iff {offset : Int} {l : Location} :
    source.location? offset = .ok l ↔
      ∃ o : Nat, offset = o ∧ o ≤ source.length ∧ source.locate o = l := by
  constructor
  · intro h
    unfold location? at h
    split at h
    · rename_i hin
      exact ⟨offset.toNat, by omega, by omega, Except.ok.inj h⟩
    · cases h
  · intro h
    obtain ⟨o, rfl, hle, rfl⟩ := h
    exact location?_of_le hle

theorem location?_eq_error_iff {offset : Int} :
    source.location? offset = .error ⟨offset, source.length⟩ ↔
      offset < 0 ∨ source.length < offset := by
  unfold location?
  split
  · simp
    omega
  · simp
    omega

/-- An offset has a location exactly if it lies in the buffer or at its end. The line is one more
than the number of line feeds before the offset, and the character one more than the number of
characters from where that line begins. So the two give the offset back through the index, and
offsets are ordered as their locations are. -/
theorem location?_by_lines (source : Source) :
    (∀ offset : Int, source.location? offset = .error ⟨offset, source.length⟩ ↔
      offset < 0 ∨ source.length < offset) ∧
    (∀ offset : Nat, offset ≤ source.length → ∃ start, LineBegins source.contents offset start ∧
      source.location? offset = .ok
        { file := source.path.map Path.toString
          line := (source.contents.take offset).count '\n' + 1
          character := offset - start + 1
          offset := offset }) ∧
    (∀ offset l, source.location? offset = .ok l → ∃ start,
      source.lineStarts[l.line - 1]? = some start ∧ offset = start + l.character - 1) ∧
    ∀ o o' l l', source.location? o = .ok l → source.location? o' = .ok l' →
      (o < o' ↔ l.Precedes l') := by
  refine ⟨fun offset => location?_eq_error_iff, fun offset hle => ?_, fun offset l h => ?_,
    fun o o' l l' h h' => ?_⟩
  · obtain ⟨start, hstart, hbegins⟩ := exists_lineBegins source offset
    refine ⟨start, hbegins, ?_⟩
    rw [location?_of_le hle, ← lineOf_eq_count, ← character_locate hstart]
    rfl
  · obtain ⟨o, rfl, -, rfl⟩ := location?_eq_ok_iff.1 h
    obtain ⟨start, hstart, hbegins⟩ := exists_lineBegins source o
    refine ⟨start, hstart, ?_⟩
    have hle := hbegins.le
    rw [character_locate hstart]
    omega
  · obtain ⟨o, rfl, -, rfl⟩ := location?_eq_ok_iff.1 h
    obtain ⟨o', rfl, -, rfl⟩ := location?_eq_ok_iff.1 h'
    rw [← lt_iff_locate_precedes]
    exact Int.ofNat_lt

end Source

end PatternLint
