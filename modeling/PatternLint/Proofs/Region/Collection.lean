import PatternLint.Proofs.Region.Form
import PatternLint.Proofs.Syntax.Partition
import PatternLint.Proofs.Text.Line
import PatternLint.Proofs.Text.Place

/-! Which of the directives that are written in the comments of a file are found. The search goes on
behind the names of a directive, so it comes by every directive but one that begins inside them. That
one begins with the last name, since no name holds a colon: the `swiftguard` of a directive right
behind another is taken for a name of the other. -/

namespace PatternLint.Region

/-- In the part of the text that ends at `last`, an order stands at `p` and ends at `q`. -/
structure OrderAt (s : Text) (last p : Nat) (o : Order) (q : Nat) : Prop where
  lt : p < q
  le : q ≤ last
  spelled : Spelled (s.slice p last) o (s.slice q last)

/-- The search for orders from a place on. -/
inductive Collects (s : Text) (last : Nat) : Nat → List (Nat × Order) → Prop
  | past {p : Nat} (past : last ≤ p) : Collects s last p []
  | order {p q : Nat} {o : Order} {found : List (Nat × Order)} (here : OrderAt s last p o q)
      (rest : Collects s last q found) : Collects s last p ((p, o) :: found)
  | skip {p : Nat} {found : List (Nat × Order)} (none : ∀ o q, ¬OrderAt s last p o q)
      (rest : Collects s last (p + 1) found) : Collects s last p found

variable {s : Text} {last p q p' q' x : Nat} {o o' : Order} {found : List (Nat × Order)}

theorem slice_drop (s : Text) (p last k : Nat) :
    (s.slice p last).drop k = s.slice (p + k) last := by
  rw [Text.slice, List.drop_take, List.drop_drop, Text.slice, Nat.sub_sub]

theorem Spelled.exists_eq_append {s rest : Text} (h : Spelled s o rest) :
    ∃ w, s = w ++ rest ∧ 10 < w.length := by
  obtain ⟨-, list, rfl, hlist⟩ := h
  obtain ⟨v, rfl, -⟩ := hlist.exists_eq_append
  refine ⟨_, (List.append_assoc _ _ _).symm, ?_⟩
  have hkeyword : keyword.length = 11 := by decide
  rw [List.length_append, heading, List.length_append, hkeyword]
  omega

namespace OrderAt

theorem exists_eq_append (h : OrderAt s last p o q) (hlast : last ≤ s.length) :
    ∃ w, s.slice p last = w ++ s.slice q last ∧ w.length = q - p ∧ 10 < w.length := by
  obtain ⟨w, hw, hlong⟩ := h.spelled.exists_eq_append
  refine ⟨w, hw, ?_, hlong⟩
  have hlength := congrArg List.length hw
  rw [List.length_append, Text.length_slice hlast, Text.length_slice hlast] at hlength
  have := h.lt
  have := h.le
  omega

theorem ten_lt (h : OrderAt s last p o q) (hlast : last ≤ s.length) : p + 10 < q := by
  obtain ⟨w, -, hw, hlong⟩ := h.exists_eq_append hlast
  omega

theorem unique (h : OrderAt s last p o q) (h' : OrderAt s last p o' q') (hlast : last ≤ s.length) :
    o = o' ∧ q = q' := by
  have hread := order?_eq_some_iff.2 h.spelled
  rw [order?_eq_some_iff.2 h'.spelled] at hread
  obtain ⟨rfl, hrest⟩ := Prod.mk.inj (Option.some.inj hread)
  refine ⟨rfl, ?_⟩
  have hlength := congrArg List.length hrest
  rw [Text.length_slice hlast, Text.length_slice hlast] at hlength
  have := h.le
  have := h'.le
  omega

theorem overlap (h : OrderAt s last p o q) (h' : OrderAt s last p' o' q') (hlast : last ≤ s.length)
    (hlt : p < p') (hinside : p' < q) : q = p' + 10 := by
  obtain ⟨w, hw, hlength, -⟩ := h.exists_eq_append hlast
  have hspelled := h.spelled
  have hplace : p + (p' - p) = p' := by omega
  have hkey : keyword <+: (w ++ s.slice q last).drop (p' - p) := by
    rw [← hw, slice_drop, hplace]
    obtain ⟨-, list, hform, -⟩ := h'.spelled
    rw [hform, heading, List.append_assoc]
    exact List.prefix_append _ _
  rw [hw] at hspelled
  have := hspelled.length_eq_of_overlap (by omega) (by omega) hkey
  omega

end OrderAt

theorem collects_ordersFrom (hlast : last ≤ s.length) {u : Text} (hu : u = s.slice p last) :
    Collects s last p (ordersFrom p u) := by
  fun_induction ordersFrom p u with
  | case1 p =>
    have hlength := congrArg List.length hu
    rw [List.length_nil, Text.length_slice hlast] at hlength
    exact .past (by omega)
  | case2 p c u o rest h ih =>
    have hlength := congrArg List.length hu
    rw [Text.length_slice hlast] at hlength
    have hspelled := order?_eq_some_iff.1 h
    obtain ⟨w, hw, hlong⟩ := hspelled.exists_eq_append
    have hn : (c :: u).length - rest.length = w.length := by
      rw [hw, List.length_append, Nat.add_sub_cancel]
    have hrest : rest = s.slice (p + w.length) last := by
      rw [← slice_drop, ← hu, hw, List.drop_left]
    have hle : w.length ≤ (c :: u).length := by
      rw [hw, List.length_append]
      exact Nat.le_add_right _ _
    rw [hn] at ih ⊢
    refine .order ⟨by omega, by omega, ?_⟩ (ih hrest)
    rwa [← hu, ← hrest]
  | case3 p c u h ih =>
    refine .skip (fun o q hat => ?_) (ih ?_)
    · have hread := order?_eq_some_iff.2 hat.spelled
      rw [← hu, h] at hread
      cases hread
    · rw [← slice_drop, ← hu, List.drop_one, List.tail_cons]

namespace Collects

theorem of_mem (h : Collects s last p found) (hx : (x, o) ∈ found) :
    p ≤ x ∧ ∃ q, OrderAt s last x o q := by
  induction h with
  | past => cases hx
  | @order p q _ found here rest ih =>
    rcases List.mem_cons.1 hx with hx | hx
    · obtain ⟨rfl, rfl⟩ := Prod.mk.inj hx
      exact ⟨Nat.le_refl _, q, here⟩
    · have := here.lt
      exact ⟨by have := (ih hx).1; omega, (ih hx).2⟩
  | skip none rest ih => exact ⟨Nat.le_of_succ_le (ih hx).1, (ih hx).2⟩

theorem pairwise (h : Collects s last p found) (hlast : last ≤ s.length) :
    found.Pairwise fun a b => ∀ q, OrderAt s last a.1 a.2 q → q ≤ b.1 := by
  induction h with
  | past => exact .nil
  | @order p q o found here rest ih =>
    refine .cons (fun b hb q' hq' => ?_) ih
    obtain ⟨-, rfl⟩ := here.unique hq' hlast
    exact (rest.of_mem hb).1
  | skip none rest ih => exact ih

/-- The search comes by every order but those that begin inside one that it has found. -/
theorem mem_or_inside (h : Collects s last p found) (hlast : last ≤ s.length) (hp : p ≤ x)
    (hx : OrderAt s last x o q) : (x, o) ∈ found ∨ ∃ x' o' q', (x', o') ∈ found ∧ OrderAt s last x' o' q' ∧ x' < x ∧ x < q' := by
  induction h with
  | past past =>
    have := hx.lt
    have := hx.le
    omega
  | @order p p' o' found here rest ih =>
    rcases Nat.lt_or_ge x p' with hlt | hge
    · rcases Nat.lt_or_eq_of_le hp with hin | rfl
      · exact .inr ⟨p, o', p', List.mem_cons_self, here, hin, hlt⟩
      · obtain ⟨rfl, -⟩ := here.unique hx hlast
        exact .inl List.mem_cons_self
    · rcases ih hge with hmem | ⟨x', o', q', hmem, hat⟩
      · exact .inl (List.mem_cons_of_mem _ hmem)
      · exact .inr ⟨x', o', q', List.mem_cons_of_mem _ hmem, hat⟩
  | @skip p found none rest ih =>
    rcases Nat.lt_or_eq_of_le hp with hlt | rfl
    · exact ih hlt
    · exact absurd hx (none o q)

end Collects

/-! The directives of a file. -/

/-- The directive is written in a comment of the file, at its offset, and ends at `stop`. -/
structure Written (source : Source) (d : Directive) (stop : Nat) : Prop where
  inComment : ∃ i ∈ Syntax.items source.contents, i.kind = .comment ∧ i.span.start ≤ d.offset ∧
    OrderAt source.contents i.span.stop d.offset ⟨d.action, d.modifier, d.rules⟩ stop
  line : d.line = (source.contents.take d.offset).count '\n' + 1

variable {source : Source} {d d' : Directive} {i j : Syntax.Item} {stop : Nat}

/-- No two items have a place in common. -/
theorem span_unique (hi : i ∈ Syntax.items s) (hj : j ∈ Syntax.items s) (hix : i.span.start ≤ x)
    (hxi : x < i.span.stop) (hjx : j.span.start ≤ x) (hxj : x < j.span.stop) : i.span = j.span := by
  have hdisjoint := (Syntax.search_items s).apart.disjoint (List.mem_map_of_mem hi)
    (List.mem_map_of_mem hj)
  refine hdisjoint.resolve_right fun h => ?_
  omega

theorem mem_directives_iff : d ∈ directives source (Syntax.classify source.contents) ↔
    ∃ i ∈ Syntax.items source.contents, i.kind = .comment ∧
      (d.offset, ⟨d.action, d.modifier, d.rules⟩) ∈
        ordersFrom i.span.start (source.contents.slice i.span.start i.span.stop) ∧
      d.line = (source.contents.take d.offset).count '\n' + 1 := by
  unfold directives Syntax.ExcludedSet.ofKind
  rw [Syntax.toList_classify]
  simp only [List.mem_flatMap, List.mem_map, List.mem_filter]
  constructor
  · rintro ⟨_, ⟨i, ⟨hi, hkind⟩, rfl⟩, ⟨offset, order⟩, hmem, rfl⟩
    exact ⟨i, hi, of_decide_eq_true hkind, hmem, Source.lineOf_eq_count source offset⟩
  · rintro ⟨i, hi, hkind, hmem, hline⟩
    refine ⟨_, ⟨i, ⟨hi, decide_eq_true hkind⟩, rfl⟩, _, hmem, ?_⟩
    dsimp only
    rw [Source.lineOf_eq_count, ← hline]

/-- The orders of a comment, each where it stands. -/
theorem collects_comment (hi : i ∈ Syntax.items s) :
    Collects s i.span.stop i.span.start
      (ordersFrom i.span.start (s.slice i.span.start i.span.stop)) :=
  collects_ordersFrom ((Syntax.partition_items s).inside i hi).2 rfl

theorem exists_written (hd : d ∈ directives source (Syntax.classify source.contents)) :
    ∃ stop, Written source d stop := by
  obtain ⟨i, hi, hkind, hmem, hline⟩ := mem_directives_iff.1 hd
  obtain ⟨hstart, q, hat⟩ := (collects_comment hi).of_mem hmem
  exact ⟨q, ⟨i, hi, hkind, hstart, hat⟩, hline⟩

theorem Written.orderAt (h : Written source d stop) (hi : i ∈ Syntax.items source.contents)
    (hstart : i.span.start ≤ d.offset) (hlt : d.offset < i.span.stop) :
    OrderAt source.contents i.span.stop d.offset ⟨d.action, d.modifier, d.rules⟩ stop := by
  obtain ⟨⟨j, hj, -, hjstart, hat⟩, -⟩ := h
  have := hat.lt
  have := hat.le
  rwa [span_unique hi hj hstart hlt hjstart (by omega)]

theorem Written.ten_lt (h : Written source d stop) : d.offset + 10 < stop := by
  obtain ⟨⟨i, hi, -, -, hat⟩, -⟩ := h
  exact hat.ten_lt ((Syntax.partition_items _).inside i hi).2

theorem pairwise_directives (source : Source) :
    (directives source (Syntax.classify source.contents)).Pairwise fun d d' =>
      ∀ stop, Written source d stop → stop ≤ d'.offset := by
  unfold directives Syntax.ExcludedSet.ofKind
  rw [Syntax.toList_classify, List.pairwise_flatMap, List.pairwise_map]
  refine ⟨fun a ha => ?_, ?_⟩
  · obtain ⟨i, hi, rfl⟩ := List.mem_map.1 ha
    have hi := (List.mem_filter.1 hi).1
    have hcollects := collects_comment hi
    have hlast := ((Syntax.partition_items source.contents).inside i hi).2
    refine List.pairwise_map.2 ((hcollects.pairwise hlast).imp_of_mem ?_)
    intro (x, o) (y, o') hx _ hxy stop hwritten
    obtain ⟨hstart, q, hat⟩ := hcollects.of_mem hx
    exact hxy stop (hwritten.orderAt hi hstart (Nat.lt_of_lt_of_le hat.lt hat.le))
  · have hapart := (Syntax.partition_items source.contents).apart
    refine (hapart.filter _).imp_of_mem ?_
    intro i j hi hj hij d hd d' hd' stop hwritten
    have hi := (List.mem_filter.1 hi).1
    have hj := (List.mem_filter.1 hj).1
    obtain ⟨⟨x, o⟩, hx, rfl⟩ := List.mem_map.1 hd
    obtain ⟨⟨y, o'⟩, hy, rfl⟩ := List.mem_map.1 hd'
    obtain ⟨hstart, q, hat⟩ := (collects_comment hi).of_mem hx
    have hle := (hwritten.orderAt hi hstart (Nat.lt_of_lt_of_le hat.lt hat.le)).le
    exact Nat.le_trans hle (Nat.le_trans hij ((collects_comment hj).of_mem hy).1)

/-- A directive that is not found begins with the last name of one that is. -/
theorem mem_or_inside_directive (h : Written source d stop) :
    d ∈ directives source (Syntax.classify source.contents) ∨
      ∃ d' ∈ directives source (Syntax.classify source.contents),
        Written source d' (d.offset + 10) := by
  obtain ⟨⟨i, hi, hkind, hstart, hat⟩, hline⟩ := h
  have hlast := ((Syntax.partition_items source.contents).inside i hi).2
  rcases (collects_comment hi).mem_or_inside hlast hstart hat with hmem | hcover
  · exact .inl (mem_directives_iff.2 ⟨i, hi, hkind, hmem, hline⟩)
  · obtain ⟨x, ⟨action, modifier, rules⟩, q, hmem, hat', hlt, hinside⟩ := hcover
    obtain rfl := hat'.overlap hat hlast hlt hinside
    let d' : Directive := ⟨action, rules, (source.contents.take x).count '\n' + 1, x, modifier⟩
    have hd' : d' ∈ directives source (Syntax.classify source.contents) :=
      mem_directives_iff.2 ⟨i, hi, hkind, hmem, rfl⟩
    exact .inr ⟨d', hd', ⟨i, hi, hkind, ((collects_comment hi).of_mem hmem).1, hat'⟩, rfl⟩

theorem offset_lt_directives (source : Source) :
    (directives source (Syntax.classify source.contents)).Pairwise fun d d' =>
      d.offset < d'.offset := by
  refine (pairwise_directives source).imp_of_mem fun {d d'} hd _ h => ?_
  obtain ⟨stop, hwritten⟩ := exists_written hd
  have := hwritten.ten_lt
  have := h stop hwritten
  omega

theorem not_written_of_mem (hd : d ∈ directives source (Syntax.classify source.contents))
    (hd' : d' ∈ directives source (Syntax.classify source.contents)) :
    ¬Written source d' (d.offset + 10) := by
  intro hwritten
  obtain ⟨stop, hstop⟩ := exists_written hd
  have hbefore := hwritten.ten_lt
  have hbehind := hstop.ten_lt
  have hpair := pairwise_directives source
  rcases List.Pairwise.forall_of_forall_of_flip
      (R := fun d d' => d = d' ∨ (∀ stop, Written source d stop → stop ≤ d'.offset) ∨
        ∀ stop, Written source d' stop → stop ≤ d.offset)
      (fun _ _ => .inl rfl) (hpair.imp fun h => .inr (.inl h)) (hpair.imp fun h => .inr (.inr h))
      hd hd' with rfl | h | h
  · omega
  · have := h stop hstop
    omega
  · have := h _ hwritten
    omega

/-- The directives that are found are written in comments and stand in order. One that is written is
missing only if one that is found ends in its `swiftguard`, whose ten characters end the last name
there. So all are found exactly if no directive is written right behind another like this. -/
theorem directives_complete_iff (source : Source) :
    let found := directives source (Syntax.classify source.contents)
    found.Pairwise (fun d d' => d.offset < d'.offset) ∧
      (∀ d, d ∈ found ↔
        (∃ stop, Written source d stop) ∧ ∀ d' ∈ found, ¬Written source d' (d.offset + 10)) ∧
      ((∀ d stop, Written source d stop → d ∈ found) ↔
        ∀ d d' stop, Written source d stop → ¬Written source d' (d.offset + 10)) := by
  intro found
  refine ⟨offset_lt_directives source, fun d => ⟨fun hd => ?_, ?_⟩, ?_, ?_⟩
  · exact ⟨exists_written hd, fun d' hd' => not_written_of_mem hd hd'⟩
  · rintro ⟨⟨stop, h⟩, hfree⟩
    refine (mem_or_inside_directive h).resolve_right ?_
    rintro ⟨d', hd', hwritten⟩
    exact hfree d' hd' hwritten
  · intro hall d d' stop h h'
    exact not_written_of_mem (hall d stop h) (hall d' _ h') h'
  · intro hfree d stop h
    refine (mem_or_inside_directive h).resolve_right ?_
    rintro ⟨d', -, hwritten⟩
    exact hfree d d' stop h hwritten

/-- The second of two directives in a comment is written there, but not found. -/
theorem directives_swallow_second :
    let source : Source := { contents := "// swiftguard:disable a swiftguard:enable b".toList }
    let d : Directive := { action := .enable, rules := ["b"], line := 1, offset := 24 }
    (∃ stop, Written source d stop) ∧ d ∉ directives source (Syntax.classify source.contents) := by
  intro source d
  have hlisted : Listed [' ', 'b'] ["b"] [] :=
    @Listed.name [' '] ['b'] [] [] [] (by decide) (by decide) rfl (.stop (by simp))
  have hspelled : Spelled "swiftguard:enable b".toList ⟨.enable, none, ["b"]⟩ [] :=
    ⟨by decide, [' ', 'b'], by decide, hlisted⟩
  have hitem : ⟨.comment, ⟨0, 43, by decide⟩⟩ ∈ Syntax.items source.contents := by decide +kernel
  refine ⟨⟨43, ⟨_, hitem, rfl, by decide, by decide, by decide, hspelled⟩, by decide⟩, ?_⟩
  decide +kernel

end PatternLint.Region
