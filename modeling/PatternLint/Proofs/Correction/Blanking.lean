import PatternLint.Proofs.Correction.Rewrite
import PatternLint.Proofs.Declaration.Walk
import PatternLint.Rule.OptionalInitialization

/-! What the rewrite of a tail does to it: the characters that are no blanks, which are the equals
sign and `nil`, become spaces. The rewrite is written as a pattern of its own and a template; both
are read once here, and the pattern is shown to cover every tail. -/

namespace PatternLint

namespace OptionalInitialization

open Pattern State Declaration

/-- A blank stays, any other character becomes a space. -/
def blankOut (c : Char) : Char := if isBlank c then c else ' '

theorem isBlank_blankOut (c : Char) : isBlank (blankOut c) = true := by
  unfold blankOut
  split
  · assumption
  · decide

theorem map_blankOut_of_blank {u : Text} (h : ∀ c ∈ u, isBlank c = true) : u.map blankOut = u := by
  have hu : u.map blankOut = u.map id := List.map_congr_left fun c hc => if_pos (h c hc)
  rw [hu, List.map_id]

instance (spans : List Span) (i : Nat) : Decidable (Covered spans i) :=
  inferInstanceAs (Decidable (∃ a ∈ spans, a.start ≤ i ∧ i < a.stop))

/-- A text with its spans blanked out. -/
def blanked (s : Text) (spans : List Span) : Text :=
  s.mapIdx fun i c => if Covered spans i then blankOut c else c

@[simp] theorem length_blanked (s : Text) (spans : List Span) :
    (blanked s spans).length = s.length := by
  simp [blanked]

theorem getElem?_blanked (s : Text) (spans : List Span) (i : Nat) :
    (blanked s spans)[i]? = if Covered spans i then s[i]?.map blankOut else s[i]? := by
  rw [blanked, List.getElem?_mapIdx]
  split
  · rfl
  · exact Option.map_id'

@[simp] theorem blanked_nil (s : Text) : blanked s [] = s := by
  refine List.ext_getElem? fun i => ?_
  rw [getElem?_blanked, if_neg fun ⟨_, h, _⟩ => absurd h List.not_mem_nil]

/-- A text with its spans blanked out is spliced from the spans blanked out one by one. -/
theorem spliced_map_blankOut {s : Text} {spans : List Span} (h : Span.Apart spans)
    (hstop : ∀ a ∈ spans, a.stop ≤ s.length) :
    Rewrite.spliced s (fun a => (s.slice a.start a.stop).map blankOut) 0 spans =
      blanked s spans := by
  have hwidth : ∀ a ∈ spans,
      ((s.slice a.start a.stop).map blankOut).length = a.stop - a.start := by
    intro a ha
    rw [List.length_map, Text.length_slice (hstop a ha)]
  refine List.ext_getElem? fun i => ?_
  obtain ⟨hin, hout⟩ := Rewrite.getElem?_spliced h (fun a _ => Nat.zero_le a.start) hstop hwidth i
  rw [getElem?_blanked]
  split
  · rename_i hc
    obtain ⟨a, ha, h1, h2⟩ := hc
    have h := hin a ha h1 h2
    rw [Nat.sub_zero] at h
    rw [h, List.getElem?_map, Text.getElem?_slice, if_pos (by omega), Nat.add_sub_cancel' h1]
  · rename_i hc
    exact hout (Nat.zero_le i) hc

/-- The pattern of the rewrite as it is read. -/
def assignment : Regex where
  pattern := sequence [group 1 (sequence [many blank]), char '=', group 2 (sequence [many blank]),
    char 'n', char 'i', char 'l']
  groupCount := 2
  names := []

theorem compile_blanking : blanking.compile .standard = .ok assignment.compiled := rfl

def tailTemplate : Template :=
  [.group 1, .char ' ', .group 2, .char ' ', .char ' ', .char ' ']

theorem expansion_blanking : blanking.expansion assignment.compiled = .ok tailTemplate.expand := rfl

variable {s t : Text} {a b d e : Nat}

/-- A group of blanks takes all of them, if what follows cannot begin with one. -/
theorem run_group_blanks {index i j : Nat} {g : List (Nat × Span)} {k : Continuation} {r : State}
    (hk : ∀ x g', s[x]?.any isBlank = true → k (atPlace s x g') = none) (hij : i ≤ j)
    (hblank : ∀ x, i ≤ x → x < j → s[x]?.any isBlank = true)
    (hr : k (atPlace s j ((index, .between i j) :: g)) = some r) :
    (group index (sequence [many blank])).run (atPlace s i g) k = some r := by
  change (many blank).run (atPlace s i g) (fun t => k (t.capture index i)) = some r
  refine (run_many_eq_some single_blank fun x hx => ?_).2 ⟨j, hij, hblank, hr⟩
  rw [capture_atPlace]
  exact hk x _ hx

theorem search_assignment (h : Assigns t 0 b d e) : assignment.pattern.search t 0 =
    some ⟨.between 0 (d + 3), [(2, .between (b + 1) d), (1, .between 0 b)]⟩ := by
  have hnil {x : Nat} {g : List (Nat × Span)} {r : State} :
      (ofText "nil".toList).run (atPlace t x g) some = some r ↔
        t.HoldsAt x "nil".toList ∧ some (atPlace t (x + 3) g) = some r := run_ofText_eq_some
  have hrun : assignment.pattern.run (atPlace t 0 []) some =
      some (atPlace t (d + 3) [(2, .between (b + 1) d), (1, .between 0 b)]) := by
    change (group 1 (sequence [many blank])).run (atPlace t 0 []) (fun t =>
      (char '=').run t fun t => (group 2 (sequence [many blank])).run t fun t =>
        (ofText "nil".toList).run t some) = _
    refine run_group_blanks (fun x g hx => ?_) h.le h.before ?_
    · exact Option.eq_none_iff_forall_ne_some.2 fun r hr =>
        ne_of_any_isBlank hx not_isBlank_equals (run_char_eq_some.1 hr).1
    refine run_char_eq_some.2 ⟨h.equals, ?_⟩
    refine run_group_blanks (fun x g hx => ?_) h.lt (fun x h1 h2 => h.between x h1 h2) ?_
    · exact Option.eq_none_iff_forall_ne_some.2 fun r hr =>
        ne_of_any_isBlank hx not_isBlank_n (Text.holdsAt_cons.1 (hnil.1 hr).1).1
    exact hnil.2 ⟨h.holds_nil, rfl⟩
  apply search_of_some
  rw [matchState, ofPlace_eq, hrun]
  rfl

/-- A text as the pieces of the assignment that it begins with. -/
theorem pieces_of_assigns (h : Assigns t 0 b d e) :
    t = t.slice 0 b ++ ("=".toList ++ (t.slice (b + 1) d ++ ("nil".toList ++ t.drop (d + 3)))) := by
  have heq : t.HoldsAt b "=".toList := Text.holdsAt_cons.2 ⟨h.equals, Text.holdsAt_nil⟩
  have hn : "nil".toList ++ t.drop (d + 3) = t.drop d := h.holds_nil.append_drop
  have hb : "=".toList ++ t.drop (b + 1) = t.drop b := heq.append_drop
  rw [hn, Text.slice_append_drop h.lt, hb, Text.slice_append_drop (Nat.zero_le b), List.drop_zero]

theorem map_blankOut_pieces (h : Assigns t 0 b d t.length) :
    t.map blankOut =
      t.slice 0 b ++ (" ".toList ++ (t.slice (b + 1) d ++ ("   ".toList ++ t.drop (d + 3)))) := by
  have hafter : ∀ c ∈ t.drop (d + 3), isBlank c = true := by
    intro c hc
    obtain ⟨i, hi⟩ := List.mem_iff_getElem?.1 hc
    rw [List.getElem?_drop] at hi
    have := h.after (d + 3 + i) (by omega) (List.getElem?_eq_some_iff.1 hi).1
    rw [hi] at this
    exact isBlank_of_isGap this
  conv => lhs; rw [pieces_of_assigns h]
  simp only [List.map_append]
  rw [map_blankOut_of_blank (Text.of_mem_slice fun x _ h2 => h.before x (Nat.zero_le x) h2),
    map_blankOut_of_blank (Text.of_mem_slice fun x h1 h2 => h.between x h1 h2),
    map_blankOut_of_blank hafter]
  rfl

/-- Of every character, blanking out a tail takes as many as `=nil` has and adds as many as four
spaces have. -/
theorem count_map_blankOut (h : Assigns t 0 b d t.length) (c : Char) :
    (t.map blankOut).count c + "=nil".toList.count c = t.count c + "    ".toList.count c := by
  have hmarks : "=nil".toList.count c = "=".toList.count c + "nil".toList.count c := by
    rw [← List.count_append]
    rfl
  have hspaces : "    ".toList.count c = " ".toList.count c + "   ".toList.count c := by
    rw [← List.count_append]
    rfl
  have hbefore := congrArg (List.count c) (pieces_of_assigns h)
  have hafter := congrArg (List.count c) (map_blankOut_pieces h)
  simp only [List.count_append] at hbefore hafter
  omega

theorem expand_assignment (t : Text) (b d : Nat) (hlt : b < d) :
    tailTemplate.expand t
        ⟨.between 0 (d + 3), [(2, .between (b + 1) d), (1, .between 0 b)]⟩ =
      t.slice 0 b ++ (" ".toList ++ (t.slice (b + 1) d ++ "   ".toList)) := by
  change t.slice (Span.between 0 b).start (Span.between 0 b).stop ++ (" ".toList ++
    (t.slice (Span.between (b + 1) d).start (Span.between (b + 1) d).stop ++ "   ".toList)) = _
  rw [Span.start_between (Nat.zero_le b), Span.stop_between (Nat.zero_le b),
    Span.start_between hlt, Span.stop_between hlt]

/-- The rewrite of a tail blanks it out. -/
theorem piece_blanking (h : Assigns t 0 b d t.length) (offset : Nat) :
    blanking.piece assignment.compiled offset t = .ok (t.map blankOut) := by
  have hreplaced : Rewrite.exchanged tailTemplate.expand t
      ⟨.between 0 (d + 3), [(2, .between (b + 1) d), (1, .between 0 b)]⟩ = t.map blankOut := by
    rw [Rewrite.exchanged, map_blankOut_pieces h, expand_assignment t b d h.lt,
      Span.start_between (Nat.zero_le _), Span.stop_between (Nat.zero_le _), List.take_zero,
      List.nil_append]
    simp only [List.append_assoc]
  have hsearch : assignment.compiled.matcher.search t 0 =
      some ⟨.between 0 (d + 3), [(2, .between (b + 1) d), (1, .between 0 b)]⟩ :=
    search_assignment h
  rw [Rewrite.piece_of_read expansion_blanking, hsearch]
  simp only [hreplaced, List.length_map, if_true]

/-- A tail of a buffer, seen as a text of its own. -/
theorem assigns_slice (h : Assigns s a b d e) (he : e ≤ s.length) :
    Assigns (s.slice a e) 0 (b - a) (d - a) (s.slice a e).length := by
  have hab := h.le
  have hbd := h.lt
  have hde := h.nil_le
  have hget (x : Nat) (hx : x < e - a) : (s.slice a e)[x]? = s[a + x]? := by
    rw [Text.getElem?_slice, if_pos hx]
  rw [Text.length_slice he]
  refine ⟨Nat.zero_le _, by omega, by omega, fun x _ h2 => ?_, ?_, fun x h1 h2 => ?_, ?_,
    fun x h1 h2 => ?_⟩
  · rw [hget x (by omega)]
    exact h.before _ (by omega) (by omega)
  · rw [hget _ (by omega), Nat.add_sub_cancel' hab]
    exact h.equals
  · rw [hget x (by omega)]
    exact h.between _ (by omega) (by omega)
  · apply h.holds_nil.congr
    intro x hx
    have hx : x < 3 := hx
    rw [hget _ (by omega)]
    congr 1
    omega
  · rw [hget x (by omega)]
    exact h.after _ (by omega) (by omega)

end OptionalInitialization

end PatternLint
