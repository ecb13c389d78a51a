import PatternLint.Proofs.Declaration.Pattern
import PatternLint.Proofs.Matching
import PatternLint.Proofs.Syntax.ExcludedSet

/-! The declarations of a buffer as a walk over its places. The walk reports a declaration whose
extent is free and goes on behind it; anywhere else it goes on with the next place. Main statement:
what is found in a buffer is what the walk reports. -/

namespace PatternLint.Declaration

open Syntax (Item ExcludedSet)
open Syntax.ExcludedSet (Avoids avoids_iff)

/-- A walk over a buffer from a place on, with what it reports. -/
inductive Walk (length : Nat) (declares : Nat → Match → Prop) (free : Span → Prop) :
    Nat → List Match → Prop where
  | stop {p : Nat} (past : length < p) : Walk length declares free p []
  | report {p : Nat} {m : Match} {ms : List Match} (inside : p ≤ length) (declared : declares p m)
      (isFree : free m.extent) (rest : Walk length declares free m.extent.stop ms) :
      Walk length declares free p (m :: ms)
  | advance {p : Nat} {ms : List Match} (inside : p ≤ length)
      (blocked : ∀ m, declares p m → ¬free m.extent)
      (rest : Walk length declares free (p + 1) ms) : Walk length declares free p ms

namespace Walk

variable {length p : Nat} {declares : Nat → Match → Prop} {free : Span → Prop}
  {ms ms' : List Match} {m : Match}

theorem unique (h : Walk length declares free p ms) (h' : Walk length declares free p ms')
    (hd : ∀ p m m', declares p m → declares p m' → m = m') : ms = ms' := by
  induction h generalizing ms' with
  | stop past =>
    cases h' with
    | stop => rfl
    | report inside => omega
    | advance inside => omega
  | report inside declared isFree rest ih =>
    cases h' with
    | stop past => omega
    | report _ declared' _ rest' =>
      obtain rfl := hd _ _ _ declared declared'
      rw [ih rest']
    | advance _ blocked => exact absurd isFree (blocked _ declared)
  | advance inside blocked rest ih =>
    cases h' with
    | stop past => omega
    | report _ declared' isFree' => exact absurd isFree' (blocked _ declared')
    | advance _ _ rest' => exact ih rest'

/-- What is declared within free extents decides a walk. -/
theorem congr {declares' : Nat → Match → Prop} (h : Walk length declares free p ms)
    (hd : ∀ p m, free m.extent → (declares p m ↔ declares' p m)) :
    Walk length declares' free p ms := by
  induction h with
  | stop past => exact .stop past
  | report inside declared isFree rest ih =>
    exact .report inside ((hd _ _ isFree).1 declared) isFree ih
  | advance inside blocked rest ih =>
    exact .advance inside (fun m hm hf => blocked m ((hd _ _ hf).2 hm) hf) ih

/-- What a walk reports is declared where it begins, and free. -/
theorem of_mem (h : Walk length declares free p ms) (hm : m ∈ ms) :
    ∃ q, declares q m ∧ free m.extent := by
  induction h with
  | stop => simp at hm
  | report inside declared isFree rest ih =>
    rcases List.mem_cons.1 hm with rfl | hm
    · exact ⟨_, declared, isFree⟩
    · exact ih hm
  | advance inside blocked rest ih => exact ih hm

/-- A walk that reports nothing has found nothing free ahead. -/
theorem not_free_of_nil {q : Nat} (h : Walk length declares free p ms) (hnil : ms = [])
    (hpq : p ≤ q) (hq : q ≤ length) (hd : declares q m) : ¬free m.extent := by
  induction h with
  | stop past => omega
  | report => contradiction
  | @advance p ms inside blocked rest ih =>
    rcases Nat.eq_or_lt_of_le hpq with rfl | hlt
    · exact blocked m hd
    · exact ih hnil hlt

theorem le_start (hs : ∀ p m, declares p m → m.extent.start = p)
    (h : Walk length declares free p ms) (hm : m ∈ ms) : p ≤ m.extent.start := by
  induction h with
  | stop => simp at hm
  | report inside declared isFree rest ih =>
    rcases List.mem_cons.1 hm with rfl | hm
    · exact Nat.le_of_eq (hs _ _ declared).symm
    · have := hs _ _ declared
      exact Nat.le_trans (this ▸ Span.start_le_stop _) (ih hm)
  | advance inside blocked rest ih => exact Nat.le_of_succ_le (ih hm)

/-- The extents follow one another. -/
theorem pairwise (hs : ∀ p m, declares p m → m.extent.start = p)
    (h : Walk length declares free p ms) :
    ms.Pairwise fun m m' => m.extent.stop ≤ m'.extent.start := by
  induction h with
  | stop => exact .nil
  | report inside declared isFree rest ih =>
    exact .cons (fun m' hm' => rest.le_start hs hm') ih
  | advance inside blocked rest ih => exact ih

end Walk

section
variable {s : Text} {reads : Nat → Nat → Prop} {p a b d e b' d' e' : Nat} {m m' : Match}

theorem TailAt.unique (h : TailAt s a b d e) (h' : TailAt s a b' d' e') :
    b = b' ∧ d = d' ∧ e = e' := by
  have hn := (Text.holdsAt_cons.1 h.holds_nil).1
  have hn' := (Text.holdsAt_cons.1 h'.holds_nil).1
  obtain rfl : b = b' := by
    rcases Nat.lt_trichotomy b b' with hlt | rfl | hlt
    · exact absurd h.equals (ne_of_any_isBlank (h'.before b h.le hlt) not_isBlank_equals)
    · rfl
    · exact absurd h'.equals (ne_of_any_isBlank (h.before b' h'.le hlt) not_isBlank_equals)
  obtain rfl : d = d' := by
    rcases Nat.lt_trichotomy d d' with hlt | rfl | hlt
    · exact absurd hn (ne_of_any_isBlank (h'.between d h.lt hlt) not_isBlank_n)
    · rfl
    · exact absurd hn' (ne_of_any_isBlank (h.between d' h'.lt hlt) not_isBlank_n)
  rcases Nat.lt_trichotomy e e' with hlt | rfl | hlt
  · exact absurd (h'.after e h.nil_le hlt) h.not_gap
  · exact ⟨rfl, rfl, rfl⟩
  · exact absurd (h.after e' h'.nil_le hlt) h'.not_gap

theorem Reads.unique (h : Reads s a e) (h' : Reads s a e') : e = e' := by
  obtain ⟨b, d, h⟩ := h
  obtain ⟨b', d', h'⟩ := h'
  exact (h.unique h').2.2

theorem NameEndsAt.unique {c c' : Nat} (h : NameEndsAt s p c) (h' : NameEndsAt s p c') :
    c = c' := by
  rcases Nat.lt_trichotomy c c' with hlt | rfl | hlt
  · exact absurd h.colon (h'.first c h.le hlt)
  · rfl
  · exact absurd h'.colon (h.first c' h'.le hlt)

theorem Declares.unique (h : Declares s reads p m) (h' : Declares s reads p m')
    (hr : ∀ a e e', reads a e → reads a e' → e = e') : m = m' := by
  obtain ⟨c, q, h⟩ := h
  obtain ⟨c', q', h'⟩ := h'
  obtain rfl := h.name.unique h'.name
  obtain rfl : q = q' := Nat.le_antisymm (h.least _ _ h'.sign) (h'.least _ _ h.sign)
  have he := hr _ _ _ h.sign.tail h'.sign.tail
  have hspan : m.span = m'.span := Span.eq_of_bounds (h.span_start.trans h'.span_start.symm) he
  have hextent : m.extent = m'.extent := Span.eq_of_bounds
    (h.extent_start.trans h'.extent_start.symm)
    (h.extent_stop.trans (he.trans h'.extent_stop.symm))
  cases m
  cases m'
  simp_all

theorem Declares.unique_reads (h : Declares s (Reads s) p m) (h' : Declares s (Reads s) p m') :
    m = m' :=
  h.unique h' fun _ _ _ => Reads.unique

theorem Declares.le_length (h : Declares s reads p m) : p ≤ s.length := by
  obtain ⟨c, q, h⟩ := h
  exact Nat.le_of_add_right_le (h.keyword.holds.length_le (List.cons_ne_nil _ _))

theorem Declares.start_eq (h : Declares s reads p m) : m.extent.start = p := by
  obtain ⟨c, q, h⟩ := h
  exact h.extent_start

/-- The tail lies in the extent, behind a keyword, a colon and a question mark. -/
theorem Declares.start_lt_span (h : Declares s reads p m) : m.extent.start + 4 < m.span.start := by
  obtain ⟨c, q, h⟩ := h
  have := h.name.le
  have := h.sign.lt
  have := h.extent_start
  have := h.span_start
  omega

theorem Declares.stop_eq (h : Declares s reads p m) : m.extent.stop = m.span.stop := by
  obtain ⟨c, q, h⟩ := h
  exact h.extent_stop

end

/-- From every place on, the search for candidates accepts what the walk reports. -/
theorem walk_candidatesFrom (s : Text) (excluded : ExcludedSet) (p : Nat) :
    Walk s.length (Declares s (Reads s)) (fun a => excluded.intersects a = false) p
      (Matching.accepted (Matching.candidatesFrom regex.matcher (.name "tail") excluded s p)) := by
  induction hn : s.length + 1 - p using Nat.strongRecOn generalizing p with
  | ind n ih =>
    rcases Nat.lt_or_ge s.length p with hlt | hle
    · rw [Matching.candidatesFrom_of_lt hlt]
      exact .stop hlt
    · cases hm : regex.matcher.matchAt s p with
      | none =>
        rw [Matching.candidatesFrom_of_none hle hm]
        refine .advance hle (fun m hd => ?_) (ih _ (by omega) _ rfl)
        rw [matchAt_eq_some_iff.2 ⟨m, hd, rfl⟩] at hm
        exact absurd hm (by simp)
      | some f =>
        obtain ⟨m, hd, rfl⟩ := matchAt_eq_some_iff.1 hm
        rw [Matching.candidatesFrom_of_some hle hm]
        have hs := hd.start_eq
        cases hx : excluded.intersects m.extent with
        | true =>
          have hj : Matching.judge regex.matcher (.name "tail") excluded ⟨m.extent, [(1, m.span)]⟩ =
              .excluded m.extent := by simp [Matching.judge, hx]
          simp only [hj, Candidate.resume?, hs]
          refine .advance hle (fun m' hd' => ?_) (ih _ (by omega) _ rfl)
          rw [hd'.unique_reads hd, hx]
          decide
        | false =>
          have hj : Matching.judge regex.matcher (.name "tail") excluded ⟨m.extent, [(1, m.span)]⟩ =
              .accepted m := by
            simp [Matching.judge, hx, regex, Regex.matcher, Matcher.group?, Found.group?]
          have hlt := hd.start_lt_span
          have hstop := hd.stop_eq
          have hspan := m.span.start_le_stop
          have hmax : max m.extent.stop (m.extent.start + 1) = m.extent.stop :=
            Nat.max_eq_left (by omega)
          simp only [hj, Candidate.resume?, hmax]
          exact .report hle hd hx (ih _ (by omega) m.extent.stop rfl)

theorem walk_find (s : Text) (excluded : ExcludedSet) :
    Walk s.length (Declares s (Reads s)) (fun a => excluded.intersects a = false) 0
      (find s excluded) :=
  walk_candidatesFrom s excluded 0

theorem walk_find_ofList (s : Text) (items : List Item) :
    Walk s.length (Declares s (Reads s)) (Avoids items) 0 (find s (.ofList items)) := by
  have hfree : (fun a => (ExcludedSet.ofList items).intersects a = false) = Avoids items :=
    funext fun a => propext avoids_iff.symm
  exact hfree ▸ walk_find s (.ofList items)

/-- What is found outside some items is what the walk reports that takes an extent for free when it
overlaps none of them. -/
theorem find_eq_iff_walk (s : Text) (items : List Item) (ms : List Match) :
    find s (.ofList items) = ms ↔
      Walk s.length (Declares s (Reads s)) (Avoids items) 0 ms := by
  refine ⟨?_, ?_⟩
  · intro hr
    obtain rfl := hr
    exact walk_find_ofList s items
  · exact fun h => (walk_find_ofList s items).unique h fun _ _ _ => Declares.unique_reads

end PatternLint.Declaration
