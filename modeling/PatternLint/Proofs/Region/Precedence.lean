import PatternLint.Proofs.Text.Line
import PatternLint.Region.Map

/-! Which directive decides whether a rule is enabled at a place. Of those about the line of the
place the one with the greatest offset decides; if there is none, the plain one with the greatest
offset up to the place. Of equal offsets the one given later counts. Since sorting by offset is
stable, the last relevant directive of the sorted list is that one. -/

namespace PatternLint

namespace Region.Directive

/-- The directive names the rule, or all rules. -/
def Names (d : Directive) (rule : String) : Prop := "all" ∈ d.rules ∨ rule ∈ d.rules

/-- The directive is about this line alone. -/
def AboutLine (d : Directive) (line : Nat) : Prop :=
  match d.modifier with
  | none => False
  | some .previous => d.line = line + 1
  | some .this => d.line = line
  | some .next => d.line + 1 = line

theorem appliesTo_iff {d : Directive} {rule : String} :
    d.appliesTo rule = true ↔ d.Names rule := by
  simp [appliesTo, Names]

/-- There is no line before the first. -/
theorem targetLine_eq_some_iff {d : Directive} {line : Nat} (hline : 0 < line) :
    d.targetLine = some line ↔ d.AboutLine line := by
  unfold targetLine AboutLine
  cases d.modifier with
  | none => simp
  | some m =>
    rw [Option.map_some, Option.some.injEq]
    cases m with
    | previous =>
      dsimp only [Modifier.line]
      omega
    | this => exact Iff.rfl
    | next => exact Iff.rfl

/-- A directive about a line, which names the rule. -/
def Overrides (line : Nat) (rule : String) (d : Directive) : Prop :=
  d.AboutLine line ∧ d.Names rule

/-- A directive from whose offset on the rule is switched, if that is at or before the place. -/
def Switches (offset : Nat) (rule : String) (d : Directive) : Prop :=
  d.modifier = none ∧ d.offset ≤ offset ∧ d.Names rule

end Region.Directive

namespace Regions

open Region (Directive)

variable {source : Source} {directives directives' : List Directive} {d : Directive}
  {relevant : Directive → Bool} {rule : String} {offset : Nat} {otherwise enabled : Bool}

/-- Of the relevant directives this one has the greatest offset, and is given last among those with
this offset. -/
structure Decides (directives : List Directive) (relevant : Directive → Prop) (d : Directive) :
    Prop where
  isRelevant : relevant d
  last : ∃ earlier later, directives = earlier ++ d :: later ∧
    (∀ e ∈ earlier, relevant e → e.offset ≤ d.offset) ∧
    ∀ e ∈ later, relevant e → e.offset < d.offset

/-- What a list of directives says of a rule at an offset, which stands in this line. -/
inductive Verdict (directives : List Directive) (rule : String) (line offset : Nat) : Bool → Prop
  | overridden {d : Directive} (decides : Decides directives (·.Overrides line rule) d) :
      Verdict directives rule line offset d.enables
  | switched {d : Directive} (free : ∀ e ∈ directives, ¬e.Overrides line rule)
      (decides : Decides directives (·.Switches offset rule) d) :
      Verdict directives rule line offset d.enables
  | untouched (free : ∀ e ∈ directives, ¬e.Overrides line rule)
      (plain : ∀ e ∈ directives, ¬e.Switches offset rule) :
      Verdict directives rule line offset true

/-- As long as some directive is relevant, one decides. -/
theorem exists_decides {relevant : Directive → Prop} (h : ∃ e ∈ directives, relevant e) :
    ∃ d, Decides directives relevant d := by
  induction directives with
  | nil =>
    obtain ⟨e, he, -⟩ := h
    cases he
  | cons e rest ih =>
    by_cases hrest : ∃ e ∈ rest, relevant e
    · obtain ⟨d, hd, earlier, later, rfl, hearlier, hlater⟩ := ih hrest
      by_cases he : relevant e ∧ d.offset < e.offset
      · refine ⟨e, he.1, [], _, rfl, by simp, fun e' he' hr => ?_⟩
        rcases List.mem_append.1 he' with he' | he'
        · exact Nat.lt_of_le_of_lt (hearlier e' he' hr) he.2
        · rcases List.mem_cons.1 he' with rfl | he'
          · exact he.2
          · exact Nat.lt_trans (hlater e' he' hr) he.2
      · refine ⟨d, hd, e :: earlier, later, rfl, fun e' he' hr => ?_, hlater⟩
        rcases List.mem_cons.1 he' with rfl | he'
        · exact Nat.le_of_not_lt fun hlt => he ⟨hr, hlt⟩
        · exact hearlier e' he' hr
    · obtain ⟨e', he', hr⟩ := h
      rcases List.mem_cons.1 he' with rfl | he'
      · exact ⟨e', hr, [], rest, rfl, by simp, fun e he hr => absurd ⟨e, he, hr⟩ hrest⟩
      · exact absurd ⟨e', he', hr⟩ hrest

/-! The sorted list. -/

theorem perm_ofList (source : Source) (directives : List Directive) :
    (ofList source directives).directives.Perm directives :=
  List.mergeSort_perm _ _

theorem offset_le_trans (a b c : Directive) (hab : Decidable.decide (a.offset ≤ b.offset))
    (hbc : Decidable.decide (b.offset ≤ c.offset)) : Decidable.decide (a.offset ≤ c.offset) := by
  rw [decide_eq_true_eq] at *
  exact Nat.le_trans hab hbc

theorem offset_le_total (a b : Directive) :
    Decidable.decide (a.offset ≤ b.offset) || Decidable.decide (b.offset ≤ a.offset) := by
  rw [Bool.or_eq_true, decide_eq_true_eq, decide_eq_true_eq]
  exact Nat.le_total _ _

theorem pairwise_ofList (source : Source) (directives : List Directive) :
    (ofList source directives).directives.Pairwise fun a b => a.offset ≤ b.offset :=
  (List.pairwise_mergeSort offset_le_trans offset_le_total directives).imp of_decide_eq_true

/-- Directives with the same offset stay in the order in which they are given. -/
theorem filter_ofList (source : Source) (directives : List Directive) {p : Directive → Bool}
    {n : Nat} (h : ∀ d, p d = true → d.offset = n) :
    (ofList source directives).directives.filter p = directives.filter p := by
  have hsame : (directives.filter p).Pairwise fun a b => Decidable.decide (a.offset ≤ b.offset) := by
    refine List.pairwise_of_forall_mem_list fun a ha b hb => decide_eq_true ?_
    have ha := h a (List.mem_filter.1 ha).2
    have hb := h b (List.mem_filter.1 hb).2
    exact Nat.le_of_eq (ha.trans hb.symm)
  have hsub := (List.sublist_mergeSort offset_le_trans offset_le_total hsame
    List.filter_sublist).filter p
  rw [List.filter_filter] at hsub
  simp only [Bool.and_self] at hsub
  exact (hsub.eq_of_length ((perm_ofList source directives).filter p).length_eq.symm).symm

/-! The last relevant directive. -/

theorem decide_eq_getLast? (directives : List Directive) (relevant : Directive → Bool)
    (otherwise : Bool) : Regions.decide directives relevant otherwise =
      ((directives.filter relevant).getLast?.map Directive.enables).getD otherwise := by
  induction directives generalizing otherwise with
  | nil => rfl
  | cons d rest ih =>
    have hstep : Regions.decide (d :: rest) relevant otherwise =
        Regions.decide rest relevant (if relevant d then d.enables else otherwise) := rfl
    rw [hstep, ih, List.filter_cons]
    split
    · rw [List.getLast?_cons]
      cases (rest.filter relevant).getLast? with
      | none => rfl
      | some e => rfl
    · rfl

/-- The last relevant directive of the sorted list has the greatest offset, so it is the last of
those with this offset in the list as given. -/
theorem getLast?_of_decides (source : Source) (h : Decides directives (relevant · = true) d) :
    ((ofList source directives).directives.filter relevant).getLast? = some d := by
  obtain ⟨hd, earlier, later, hsplit, hearlier, hlater⟩ := h
  have hgreatest : ∀ e ∈ directives, relevant e = true → e.offset ≤ d.offset := by
    intro e he hr
    rw [hsplit, List.mem_append, List.mem_cons] at he
    rcases he with he | rfl | he
    · exact hearlier e he hr
    · exact Nat.le_refl _
    · exact Nat.le_of_lt (hlater e he hr)
  have hperm := perm_ofList source directives
  have hmem : d ∈ (ofList source directives).directives.filter relevant :=
    List.mem_filter.2 ⟨hperm.mem_iff.2 (by rw [hsplit]; simp), hd⟩
  cases hlast : ((ofList source directives).directives.filter relevant).getLast? with
  | none => exact absurd (List.getLast?_eq_none_iff.1 hlast) (List.ne_nil_of_mem hmem)
  | some x =>
    have hx := List.mem_filter.1 (List.mem_of_getLast? hlast)
    obtain ⟨before, hbefore⟩ := List.getLast?_eq_some_iff.1 hlast
    have hsorted := (pairwise_ofList source directives).filter relevant
    rw [hbefore] at hmem hsorted
    have hle : x.offset ≤ d.offset := hgreatest x (hperm.mem_iff.1 hx.1) hx.2
    have hge : d.offset ≤ x.offset := by
      rcases List.mem_append.1 hmem with hd | hd
      · exact (List.pairwise_append.1 hsorted).2.2 d hd x (List.mem_singleton_self x)
      · exact Nat.le_of_eq (congrArg Directive.offset (List.mem_singleton.1 hd))
    have hoffset : x.offset = d.offset := Nat.le_antisymm hle hge
    have hsame := filter_ofList source directives
      (p := fun e => e.offset == d.offset && relevant e) (n := d.offset) (by simp +contextual)
    rw [← List.filter_filter, hbefore, hsplit] at hsame
    have hlater' : later.filter (fun e => e.offset == d.offset && relevant e) = [] := by
      refine List.filter_eq_nil_iff.2 fun e he hr => ?_
      rw [Bool.and_eq_true, beq_iff_eq] at hr
      exact absurd hr.1 (Nat.ne_of_lt (hlater e he hr.2))
    have hends := congrArg List.getLast? hsame
    simpa [List.filter_append, hoffset, hd, hlater'] using hends

section
variable {p : Directive → Prop} (hp : ∀ e, relevant e = true ↔ p e)
include hp

theorem decide_of_decides (h : Decides directives p d) :
    Regions.decide (ofList source directives).directives relevant otherwise = d.enables := by
  obtain rfl : (relevant · = true) = p := funext fun e => propext (hp e)
  rw [decide_eq_getLast?, getLast?_of_decides source h]
  rfl

theorem decide_of_none (h : ∀ e ∈ directives, ¬p e) :
    Regions.decide (ofList source directives).directives relevant otherwise = otherwise := by
  have hnone : (ofList source directives).directives.filter relevant = [] := by
    refine List.filter_eq_nil_iff.2 fun e he hr => ?_
    exact h e ((perm_ofList source directives).mem_iff.1 he) ((hp e).1 hr)
  rw [decide_eq_getLast?, hnone]
  rfl

end

/-! The verdict. -/

theorem overrides_iff (rule : String) (e : Directive) {line : Nat} (hline : 0 < line) :
    (e.targetLine == some line && e.appliesTo rule) = true ↔ e.Overrides line rule := by
  rw [Bool.and_eq_true, beq_iff_eq, Directive.targetLine_eq_some_iff hline,
    Directive.appliesTo_iff, Directive.Overrides]

theorem switches_iff (rule : String) (offset : Nat) (e : Directive) :
    (e.modifier.isNone && Decidable.decide (e.offset ≤ offset) && e.appliesTo rule) = true ↔
      e.Switches offset rule := by
  rw [Bool.and_eq_true, Bool.and_eq_true, Option.isNone_iff_eq_none, decide_eq_true_eq,
    Directive.appliesTo_iff, Directive.Switches, and_assoc]

theorem Verdict.enabledAt_eq (h : Verdict directives rule (source.lineOf offset) offset enabled) :
    (ofList source directives).enabledAt rule offset = enabled := by
  have hline : 0 < source.lineOf offset := by
    rw [Source.lineOf_eq_count]
    exact Nat.succ_pos _
  have hoverrides (e : Directive) := overrides_iff rule e hline
  have hswitches := switches_iff rule offset
  unfold enabledAt
  cases h with
  | overridden decides => exact decide_of_decides hoverrides decides
  | switched free decides =>
    exact (decide_of_none hoverrides free).trans (decide_of_decides hswitches decides)
  | untouched free plain =>
    exact (decide_of_none hoverrides free).trans (decide_of_none hswitches plain)

theorem exists_verdict (directives : List Directive) (rule : String) (line offset : Nat) :
    ∃ enabled, Verdict directives rule line offset enabled := by
  by_cases hline : ∃ e ∈ directives, e.Overrides line rule
  · obtain ⟨d, hd⟩ := exists_decides hline
    exact ⟨_, .overridden hd⟩
  · have hfree : ∀ e ∈ directives, ¬e.Overrides line rule := fun e he h => hline ⟨e, he, h⟩
    by_cases hplain : ∃ e ∈ directives, e.Switches offset rule
    · obtain ⟨d, hd⟩ := exists_decides hplain
      exact ⟨_, .switched hfree hd⟩
    · exact ⟨_, .untouched hfree fun e he h => hplain ⟨e, he, h⟩⟩

theorem enabledAt_eq_iff : (ofList source directives).enabledAt rule offset = enabled ↔
    Verdict directives rule (source.lineOf offset) offset enabled := by
  refine ⟨?_, Verdict.enabledAt_eq⟩
  rintro rfl
  obtain ⟨enabled, h⟩ := exists_verdict directives rule (source.lineOf offset) offset
  rwa [h.enabledAt_eq]

theorem enabled?_of_le (r : Regions) (rule : String) {offset : Int} (h : 0 ≤ offset)
    (hle : offset ≤ r.source.length) :
    r.enabled? rule offset = .ok (r.enabledAt rule offset.toNat) := by
  rw [enabled?, Source.line?, if_pos ⟨h, hle⟩]
  rfl

/-! Permutations and filters. -/

/-- Directives with distinct offsets are in order in one way only. -/
theorem ofList_eq_of_perm (hp : directives.Perm directives')
    (h : (directives.map Directive.offset).Nodup) :
    ofList source directives' = ofList source directives := by
  have hdistinct {l : List Directive} (hl : l.Perm directives) :
      l.Pairwise fun a b => a.offset ≠ b.offset :=
    List.pairwise_map.1 ((hl.map Directive.offset).nodup_iff.2 h)
  have hstrict (l : List Directive) (hl : l.Perm directives) :
      (ofList source l).directives.Pairwise fun a b => a.offset < b.offset := by
    refine (pairwise_ofList source l).imp₂ (fun a b hle hne => ?_)
      (hdistinct ((perm_ofList source l).trans hl))
    exact Nat.lt_of_le_of_ne hle hne
  have hsorted : (ofList source directives').directives = (ofList source directives).directives :=
    List.Perm.eq_of_pairwise (fun a b _ _ hab hba => absurd hba (Nat.lt_asymm hab))
      (hstrict directives' hp.symm) (hstrict directives (.refl _))
      (((perm_ofList source directives').trans hp.symm).trans (perm_ofList source directives).symm)
  rw [ofList, ofList]
  exact congrArg (Regions.mk source) hsorted

theorem any_ofList_iff : ¬(ofList source directives).any = true ↔ directives = [] := by
  rw [any, Bool.not_eq_true', Bool.not_eq_false, List.isEmpty_iff, ← List.length_eq_zero_iff,
    (perm_ofList source directives).length_eq, List.length_eq_zero_iff]

theorem enabledAt_nil : (ofList source []).enabledAt rule offset = true :=
  enabledAt_eq_iff.2 (.untouched (by simp) (by simp))

theorem filter_eq {α : Type} (items : List α) (place : α → Nat) :
    (ofList source directives).filter rule items place =
      items.filter fun item => (ofList source directives).enabledAt rule (place item) := by
  unfold filter
  split
  · rfl
  · rename_i hany
    obtain rfl := any_ofList_iff.1 hany
    simp only [enabledAt_nil]
    exact (List.filter_eq_self.2 fun _ _ => rfl).symm

theorem mapM_enabled? (r : Regions) {offsets : List Int}
    (h : ∀ offset ∈ offsets, 0 ≤ offset ∧ offset ≤ r.source.length) :
    offsets.mapM (r.enabled? rule) = .ok (offsets.map fun o => r.enabledAt rule o.toNat) :=
  mapM_eq_ok fun offset hoffset => enabled?_of_le r rule (h offset hoffset).1 (h offset hoffset).2

theorem map_fst_filter_zip {α : Type} (f : α → Bool) (items : List α) :
    ((items.zip (items.map f)).filter Prod.snd).map Prod.fst = items.filter f := by
  induction items with
  | nil => rfl
  | cons item rest ih =>
    rw [List.map_cons, List.zip_cons_cons, List.filter_cons, List.filter_cons]
    dsimp only
    split
    · rw [List.map_cons, ih]
    · exact ih

theorem filter?_eq {offsets : List Int}
    (h : ∀ offset ∈ offsets, 0 ≤ offset ∧ offset ≤ source.length) :
    (ofList source directives).filter? rule offsets =
      .ok (offsets.filter fun o => (ofList source directives).enabledAt rule o.toNat) := by
  unfold filter?
  split
  · rw [mapM_enabled? _ h, ← map_fst_filter_zip]
    rfl
  · rename_i hany
    obtain rfl := any_ofList_iff.1 hany
    simp only [enabledAt_nil]
    exact congrArg Except.ok (List.filter_eq_self.2 fun _ _ => rfl).symm

/-- Inside the buffer there is always an answer, and the last applicable directive gives it: of
those about the line of the offset the one with the greatest offset, else of the plain ones up to
the offset the one with the greatest, and of equals the one given later; a rule that no directive
switches is enabled. The order in which directives with distinct offsets are given does not matter.
A filter keeps the items at enabled offsets in their order, also without directives. -/
theorem enabled?_by_last_applicable (source : Source) (directives : List Directive) :
    let r := ofList source directives
    (∀ rule offset, offset ≤ source.length →
      r.enabled? rule offset = .ok (r.enabledAt rule offset) ∧
        ∀ enabled, r.enabledAt rule offset = enabled ↔ Verdict directives rule
          ((source.contents.take offset).count '\n' + 1) offset enabled) ∧
      (∀ directives', directives.Perm directives' → (directives.map Directive.offset).Nodup →
        ∀ rule (offset : Int),
          (ofList source directives').enabled? rule offset = r.enabled? rule offset) ∧
      (∀ {α : Type} rule (items : List α) (place : α → Nat), r.filter rule items place =
        items.filter fun item => r.enabledAt rule (place item)) ∧
      ∀ rule (offsets : List Int), (∀ o ∈ offsets, 0 ≤ o ∧ o ≤ source.length) →
        r.filter? rule offsets = .ok (offsets.filter fun o => r.enabledAt rule o.toNat) := by
  intro r
  refine ⟨fun rule offset hle => ⟨?_, fun enabled => ?_⟩, fun directives' hp h rule offset => ?_,
    fun rule items place => filter_eq items place, fun rule offsets h => filter?_eq h⟩
  · exact enabled?_of_le r rule (Int.natCast_nonneg offset) (Int.ofNat_le.2 hle)
  · rw [← Source.lineOf_eq_count]
    exact enabledAt_eq_iff
  · rw [ofList_eq_of_perm hp h]

end Regions

end PatternLint
