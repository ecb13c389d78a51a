import PatternLint.Region.Directive

/-! The written form of a directive: `swiftguard:`, an action, perhaps a modifier, and a list of
names. The reader accepts this form and no other, with all the names that follow. -/

namespace PatternLint.Region

/-- The names at the beginning of a text, each after blanks, and what follows them. No name could be
longer, and no other name follows. -/
inductive Listed : Text → List String → Text → Prop
  | stop {s : Text} (last : ∀ gap c rest, s = gap ++ c :: rest → gap ≠ [] → gap.all isGap = true →
      isRuleChar c = false) : Listed s [] s
  | name {gap name s rest : Text} {names : List String} (blank : gap ≠ [] ∧ gap.all isGap = true)
      (word : name ≠ [] ∧ name.all isRuleChar = true) (ends : s.head?.any isRuleChar = false)
      (more : Listed s names rest) : Listed (gap ++ (name ++ s)) (String.ofList name :: names) rest

/-- What every directive begins with. -/
def keyword : Text := "swiftguard:".toList

def modifierText : Option Modifier → Text
  | none => []
  | some m => ':' :: m.name.toList

/-- What a directive is written with, up to its names. -/
def heading (action : Action) (modifier : Option Modifier) : Text :=
  keyword ++ (action.name.toList ++ modifierText modifier)

/-- The text begins with the order, and `rest` follows it. -/
structure Spelled (s : Text) (o : Order) (rest : Text) : Prop where
  named : o.rules ≠ []
  form : ∃ list, s = heading o.action o.modifier ++ list ∧ Listed list o.rules rest

variable {s t rest : Text} {names : List String} {o : Order}

theorem not_isRuleChar_of_isGap {c : Char} (h : isGap c = true) : isRuleChar c = false := by
  unfold isGap at h
  rw [Bool.or_eq_true, decide_eq_true_eq, decide_eq_true_eq] at h
  rcases h with rfl | rfl
  · decide
  · decide

/-! Runs of characters of one class. -/

theorem takeWhile_run {p : Char → Bool} {w : Text} (hw : w.all p = true)
    (hs : s.head?.any p = false) : (w ++ s).takeWhile p = w := by
  rw [List.takeWhile_append_of_pos (List.all_eq_true.1 hw)]
  cases s with
  | nil => simp
  | cons c s =>
    have hc : p c = false := hs
    simp [hc]

theorem dropWhile_run {p : Char → Bool} {w : Text} (hw : w.all p = true)
    (hs : s.head?.any p = false) : (w ++ s).dropWhile p = s := by
  rw [List.dropWhile_append_of_pos (List.all_eq_true.1 hw)]
  cases s with
  | nil => rfl
  | cons c s =>
    have hc : p c = false := hs
    simp [hc]

theorem head?_dropWhile (p : Char → Bool) (s : Text) : (s.dropWhile p).head?.any p = false := by
  have h := List.head?_dropWhile_not p s
  cases hd : (s.dropWhile p).head? with
  | none => rfl
  | some c =>
    rw [hd] at h
    simpa using h

/-! The list of names. -/

theorem listed_ruleNames (s : Text) : Listed s (ruleNames s).1 (ruleNames s).2 := by
  fun_induction ruleNames s with
  | case1 s start name h names rest e ih =>
    have hgap := List.takeWhile_append_dropWhile (p := isGap) (l := s)
    have hname := List.takeWhile_append_dropWhile (p := isRuleChar) (l := start)
    rw [e] at ih
    have hne : s.takeWhile isGap ≠ [] := by
      intro hnil
      rw [hnil, List.nil_append] at hgap
      exact absurd (congrArg List.length hgap) (Nat.ne_of_lt h.1)
    have hlisted := Listed.name ⟨hne, List.all_takeWhile⟩ ⟨h.2, List.all_takeWhile⟩
      (head?_dropWhile isRuleChar start) ih
    rwa [hname, hgap] at hlisted
  | case2 s start name h =>
    refine .stop fun gap c rest hs hgap hall => Bool.eq_false_iff.2 fun hc => h ?_
    have hnot : isGap c = false :=
      Bool.eq_false_iff.2 fun hg => by simp [not_isRuleChar_of_isGap hg] at hc
    have hstart : start = c :: rest := by
      dsimp only [start]
      rw [hs]
      exact dropWhile_run hall hnot
    refine ⟨?_, ?_⟩
    · rw [hstart, hs, List.length_append]
      exact Nat.lt_add_of_pos_left (List.length_pos_iff.2 hgap)
    · dsimp only [name]
      rw [hstart]
      simp [hc]

theorem Listed.ruleNames_eq (h : Listed s names rest) : ruleNames s = (names, rest) := by
  induction h with
  | @stop s last =>
    rw [ruleNames]
    dsimp only
    rw [if_neg]
    intro hs
    obtain ⟨hlt, hne⟩ := hs
    have hsplit := List.takeWhile_append_dropWhile (p := isGap) (l := s)
    cases hstart : s.dropWhile isGap with
    | nil => simp [hstart] at hne
    | cons c u =>
      rw [hstart] at hsplit hlt hne
      have hgap : s.takeWhile isGap ≠ [] := by
        intro hnil
        rw [hnil, List.nil_append] at hsplit
        exact absurd (congrArg List.length hsplit) (Nat.ne_of_lt hlt)
      have hc := last _ c u hsplit.symm hgap List.all_takeWhile
      simp [hc] at hne
  | @name gap name s rest names blank word ends more ih =>
    have hfirst : (name ++ s).head?.any isGap = false := by
      cases name with
      | nil => exact absurd rfl word.1
      | cons c name =>
        have hc : isRuleChar c = true := (Bool.and_eq_true_iff.1 word.2).1
        exact Bool.eq_false_iff.2 fun hg => by simp [not_isRuleChar_of_isGap hg] at hc
    rw [ruleNames]
    dsimp only
    rw [dropWhile_run blank.2 hfirst, takeWhile_run word.2 ends, dropWhile_run word.2 ends, ih,
      if_pos]
    refine ⟨?_, word.1⟩
    simp only [List.length_append]
    exact Nat.lt_add_of_pos_left (List.length_pos_iff.2 blank.1)

theorem ruleNames_eq_iff : ruleNames s = (names, rest) ↔ Listed s names rest := by
  refine ⟨fun h => ?_, Listed.ruleNames_eq⟩
  have hlisted := listed_ruleNames s
  rwa [h] at hlisted

/-! What stands before the names. -/

theorem after?_append (lead t : Text) : Text.after? lead (lead ++ t) = some t :=
  Text.after?_eq_some.2 rfl

theorem actionAt?_eq_some_iff {a : Action} :
    actionAt? s = some (a, t) ↔ s = a.name.toList ++ t := by
  unfold actionAt?
  constructor
  · intro h
    split at h
    · rename_i r hr
      obtain ⟨rfl, rfl⟩ := Prod.mk.inj (Option.some.inj h)
      exact Text.after?_eq_some.1 hr
    · obtain ⟨r, hr, h⟩ := Option.map_eq_some_iff.1 h
      obtain ⟨rfl, rfl⟩ := Prod.mk.inj h
      exact Text.after?_eq_some.1 hr
  · rintro rfl
    cases a with
    | enable => rw [Action.name, after?_append]
    | disable =>
      rw [Action.name, after?_append]
      rfl

theorem eq_of_modifierAt {m : Option Modifier} (h : modifierAt s = (m, t)) :
    s = modifierText m ++ t := by
  fun_cases modifierAt s with
  | case1 r hr =>
    rw [modifierAt, hr] at h
    obtain ⟨rfl, rfl⟩ := Prod.mk.inj h
    exact Text.after?_eq_some.1 hr
  | case2 h1 r hr =>
    rw [modifierAt, h1, hr] at h
    obtain ⟨rfl, rfl⟩ := Prod.mk.inj h
    exact Text.after?_eq_some.1 hr
  | case3 h1 h2 r hr =>
    rw [modifierAt, h1, h2, hr] at h
    obtain ⟨rfl, rfl⟩ := Prod.mk.inj h
    exact Text.after?_eq_some.1 hr
  | case4 h1 h2 h3 =>
    rw [modifierAt, h1, h2, h3] at h
    obtain ⟨rfl, rfl⟩ := Prod.mk.inj h
    rfl

/-- Without a modifier the blanks before the names come next. -/
theorem modifierAt_modifierText (m : Option Modifier) (ht : t.head? ≠ some ':') :
    modifierAt (modifierText m ++ t) = (m, t) := by
  cases m with
  | none =>
    have hnone (lead : Text) : Text.after? (':' :: lead) t = none := by
      cases t with
      | nil => rfl
      | cons c t =>
        rw [Text.after?, if_neg]
        rintro rfl
        exact ht rfl
    have hprevious : Text.after? ":previous".toList t = none := hnone "previous".toList
    have hthis : Text.after? ":this".toList t = none := hnone "this".toList
    have hnext : Text.after? ":next".toList t = none := hnone "next".toList
    rw [modifierText, List.nil_append, modifierAt, hprevious, hthis, hnext]
  | some m =>
    cases m with
    | previous => rfl
    | this => rfl
    | next => rfl

theorem Listed.head?_ne (h : Listed s names rest) (hnames : names ≠ []) : s.head? ≠ some ':' := by
  cases h with
  | stop => exact absurd rfl hnames
  | @name gap name s rest names blank word ends more =>
    cases gap with
    | nil => exact absurd rfl blank.1
    | cons c gap =>
      have hc : isGap c = true := (Bool.and_eq_true_iff.1 blank.2).1
      intro hcolon
      obtain rfl := Option.some.inj hcolon
      exact absurd hc (by decide)

theorem order?_eq_some_iff : order? s = some (o, rest) ↔ Spelled s o rest := by
  simp only [order?, Option.bind_eq_bind, Option.bind_eq_some_iff]
  constructor
  · rintro ⟨r, hr, ⟨a, r'⟩, ha, h⟩
    split at h
    · contradiction
    · rename_i hne
      obtain ⟨rfl, rfl⟩ := Prod.mk.inj (Option.some.inj h)
      have hmodifier : r' = modifierText (modifierAt r').1 ++ (modifierAt r').2 :=
        eq_of_modifierAt rfl
      refine ⟨hne, (modifierAt r').2, ?_, ruleNames_eq_iff.1 rfl⟩
      calc s = keyword ++ r := Text.after?_eq_some.1 hr
        _ = keyword ++ (a.name.toList ++ r') := by rw [actionAt?_eq_some_iff.1 ha]
        _ = keyword ++ (a.name.toList ++
            (modifierText (modifierAt r').1 ++ (modifierAt r').2)) := by rw [← hmodifier]
        _ = keyword ++ (a.name.toList ++ modifierText (modifierAt r').1) ++
            (modifierAt r').2 := by rw [List.append_assoc, List.append_assoc]
  · rintro ⟨hnamed, list, rfl, hlist⟩
    refine ⟨_, Text.after?_eq_some.2 (List.append_assoc _ _ _), ⟨o.action, _⟩,
      actionAt?_eq_some_iff.2 (List.append_assoc _ _ _), ?_⟩
    rw [modifierAt_modifierText o.modifier (hlist.head?_ne hnamed)]
    dsimp only
    rw [ruleNames_eq_iff.2 hlist, if_neg hnamed]

/-! Directives that overlap. -/

theorem Listed.exists_eq_append (h : Listed s names rest) :
    ∃ w, s = w ++ rest ∧ ':' ∉ w := by
  induction h with
  | stop => exact ⟨[], rfl, List.not_mem_nil⟩
  | @name gap name s rest names blank word ends more ih =>
    obtain ⟨w, rfl, hw⟩ := ih
    refine ⟨gap ++ (name ++ w), by simp only [List.append_assoc], ?_⟩
    simp only [List.mem_append, not_or]
    refine ⟨fun hc => ?_, fun hc => ?_, hw⟩
    · exact absurd (List.all_eq_true.1 blank.2 _ hc) (by decide)
    · exact absurd (List.all_eq_true.1 word.2 _ hc) (by decide)

/-- The last name is not broken off. -/
theorem Listed.not_isRuleChar_head? (h : Listed s names rest)
    (hs : names ≠ [] ∨ s.head?.any isRuleChar = false) : rest.head?.any isRuleChar = false := by
  induction h with
  | stop => exact hs.elim (absurd rfl) id
  | name blank word ends more ih => exact ih (.inr ends)

/-- No `swiftguard:` begins behind the first character of a heading and ends in it. -/
theorem heading_getElem? (a : Action) (m : Option Modifier) : (heading a m).length ≤ 30 ∧
    ∀ k < 30, 0 < k → (heading a m)[k]? = some 's' → (heading a m)[k + 10]? ≠ some ':' := by
  cases a with
  | enable =>
    cases m with
    | none => decide
    | some m => cases m <;> decide
  | disable =>
    cases m with
    | none => decide
    | some m => cases m <;> decide

/-- A directive that begins inside another begins with its last name. -/
theorem Spelled.length_eq_of_overlap {w : Text} {k : Nat} (h : Spelled (w ++ rest) o rest)
    (hk : 0 < k) (hlt : k < w.length) (hkey : keyword <+: (w ++ rest).drop k) :
    w.length = k + 10 := by
  obtain ⟨hnamed, list, hsplit, hlist⟩ := h
  obtain ⟨v, rfl, hv⟩ := hlist.exists_eq_append
  rw [← List.append_assoc, List.append_cancel_right_eq] at hsplit
  have hchar (i : Nat) (hi : i < 11) : (w ++ rest)[k + i]? = keyword[i]? := by
    obtain ⟨u, hu⟩ := hkey
    rw [← List.getElem?_drop, ← hu, List.getElem?_append_left (Nat.lt_of_lt_of_eq hi (by decide))]
  have hcolon : (w ++ rest)[k + 10]? = some ':' := hchar 10 (by decide)
  rcases Nat.lt_trichotomy (k + 10) w.length with hin | heq | hout
  · rw [List.getElem?_append_left hin, hsplit] at hcolon
    have hfirst : w[k]? = some 's' := by
      have hs := hchar 0 (by decide)
      rwa [Nat.add_zero, List.getElem?_append_left hlt] at hs
    obtain ⟨hshort, hheading⟩ := heading_getElem? o.action o.modifier
    rcases Nat.lt_or_ge (k + 10) (heading o.action o.modifier).length with hh | hh
    · rw [hsplit, List.getElem?_append_left (by omega)] at hfirst
      rw [List.getElem?_append_left hh] at hcolon
      exact absurd hcolon (hheading k (by omega) hk hfirst)
    · rw [List.getElem?_append_right hh] at hcolon
      exact absurd (List.mem_of_getElem? hcolon) hv
  · exact heq.symm
  · have hend := hchar (w.length - k) (by omega)
    have hplace : k + (w.length - k) = w.length := by omega
    rw [hplace, List.getElem?_append_right (Nat.le_refl _), Nat.sub_self,
      ← List.head?_eq_getElem?] at hend
    have hword : ∀ i < 10, keyword[i]?.any isRuleChar = true := by decide
    have hbroken := hword (w.length - k) (by omega)
    rw [← hend, hlist.not_isRuleChar_head? (.inl hnamed)] at hbroken
    cases hbroken

end PatternLint.Region
