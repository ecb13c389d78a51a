import PatternLint.Proofs.Declaration.Local
import PatternLint.Proofs.Declaration.Walk
import PatternLint.Proofs.Syntax.Locality

/-! Text behind completed lines. What is declared in completed lines stays declared when more text
follows, and a declaration that gets its tail from this text begins behind all of those: one that
began before would end at the first question mark with a tail, and that of the later declaration is
one. So the walk over the longer text reports the same matches first. -/

namespace PatternLint.Declaration

open Syntax (Item items classify)
open Syntax.ExcludedSet (Avoids)
open Text (EndsWithFeed)

variable {s t : Text} {a b d e p p' x : Nat} {m m' : Match}

/-- The tail of an assignment does not reach over the last line feed. -/
theorem Assigns.stop_lt_length (h : Assigns s a b d e) (hs : EndsWithFeed s) : e < s.length := by
  have hnil := h.nil_le
  apply Nat.lt_of_le_of_ne h.stop_le_length
  intro he
  have hfeed : s[e - 1]? = some '\n' := hs.getElem?_last (by omega)
  rcases Nat.eq_or_lt_of_le hnil with rfl | hlt
  · have hl := h.nil_chars.2.2
    rw [show d + 3 - 1 = d + 2 from rfl, hl] at hfeed
    exact absurd hfeed (by decide)
  · have hgap := h.after (e - 1) (by omega) (by omega)
    rw [hfeed] at hgap
    exact absurd hgap (by decide)

theorem endsLine_append_iff (hs : EndsWithFeed s) (t : Text) (he : e < s.length) :
    EndsLine (s ++ t) e ↔ EndsLine s e := by
  unfold EndsLine
  rw [List.getElem?_append_left he]
  rcases Nat.lt_or_eq_of_le (Nat.succ_le_of_lt he) with hlt | heq
  · rw [List.getElem?_append_left hlt]
  · rw [hs.getElem?_last heq]
    simp

/-- The match of a declaration in completed lines ends before the last line feed. -/
theorem Declares.stop_lt_length (h : Declares s (Reads s) p m) (hs : EndsWithFeed s) :
    m.extent.stop < s.length := by
  obtain ⟨c, q, hf⟩ := h
  obtain ⟨b, d, htail⟩ := hf.sign.tail
  rw [hf.extent_stop]
  exact htail.stop_lt_length hs

theorem Declares.endsLine (h : Declares s (Reads s) p m) : EndsLine s m.extent.stop := by
  obtain ⟨c, q, hf⟩ := h
  obtain ⟨b, d, htail⟩ := hf.sign.tail
  rw [hf.extent_stop]
  exact htail.endsLine

theorem Declares.no_word_before (h : Declares s (Reads s) p m) :
    p = 0 ∨ ¬s[p - 1]?.any isWord := by
  obtain ⟨c, q, hf⟩ := h
  exact hf.keyword.before

theorem Declares.start_lt_stop (h : Declares s (Reads s) p m) : p < m.extent.stop := by
  have hstart := h.start_eq
  have hlt := h.start_lt_span
  have hspan := m.span.start_le_stop
  have hstop := h.stop_eq
  omega

theorem Declares.append (h : Declares s (Reads s) p m) (hs : EndsWithFeed s) (t : Text) :
    Declares (s ++ t) (Reads (s ++ t)) p m := by
  have hstop := h.stop_lt_length hs
  have hlt := h.start_lt_stop
  refine h.congr (fun x _ hx => List.getElem?_append_left (by omega)) ?_ ?_
  · rw [List.getElem?_append_left (by omega)]
    exact h.no_word_before
  · exact (endsLine_append_iff hs t hstop).2 h.endsLine

theorem Declares.of_append (h : Declares (s ++ t) (Reads (s ++ t)) p m) (hs : EndsWithFeed s)
    (hstop : m.extent.stop < s.length) : Declares s (Reads s) p m := by
  have hlt := h.start_lt_stop
  have hkeep (x : Nat) (hx : x < m.extent.stop) : (s ++ t)[x]? = s[x]? :=
    List.getElem?_append_left (by omega)
  refine h.congr (fun x _ hx => (hkeep x hx).symm) ?_ ?_
  · rw [← hkeep (p - 1) (by omega)]
    exact h.no_word_before
  · exact (endsLine_append_iff hs t hstop).1 h.endsLine

/-- Of two declarations the one that begins first also ends first, or with the other. -/
theorem Declares.stop_le_stop (h : Declares s (Reads s) p m) (h' : Declares s (Reads s) p' m')
    (hlt : p < p') : m.extent.stop ≤ m'.extent.stop := by
  obtain ⟨c, q, hf⟩ := h
  obtain ⟨c', q', hf'⟩ := h'
  have hname' := hf'.name.le
  have hsign' := hf'.sign.lt
  -- the first colon behind the earlier keyword is no later than that behind the later one
  have hcolon : c ≤ c' := by
    apply Nat.le_of_not_lt
    intro hc
    exact hf.name.first c' (by omega) hc hf'.name.colon
  have hq : q ≤ q' := by
    apply Nat.le_of_not_lt
    intro hq
    have hsign : SignAt s (Reads s) c q' m'.span.stop :=
      ⟨by omega, hf'.sign.sign, hf'.sign.tail,
        fun x h1 h2 => hf.sign.unbroken x h1 (by omega)⟩
    exact absurd (hf.least q' _ hsign) (by omega)
  rw [hf.extent_stop, hf'.extent_stop]
  rcases Nat.eq_or_lt_of_le hq with rfl | hq
  · exact Nat.le_of_eq (hf.sign.tail.unique hf'.sign.tail)
  · obtain ⟨b, d, htail⟩ := hf.sign.tail
    have hle := hf'.sign.tail.le
    apply Nat.le_of_not_lt
    intro hstop
    exact htail.ne_sign (by omega) (by omega) hf'.sign.sign

theorem avoids_items_append_iff (hs : EndsWithFeed s)
    (hclosed : ∀ i ∈ items s, i.span.stop < s.length) (t : Text) {a : Span}
    (ha : a.stop ≤ s.length) : Avoids (items (s ++ t)) a ↔ Avoids (items s) a := by
  have hitems : items (s ++ t) = items s ++ Syntax.itemsFrom s.length t := by
    have h : Syntax.itemsFrom 0 (s ++ t) =
        Syntax.itemsFrom 0 s ++ Syntax.itemsFrom (0 + s.length) t :=
      Syntax.itemsFrom_append (fun _ => hs) (by rwa [Nat.zero_add]) t
    rwa [Nat.zero_add] at h
  have hdrop : t = (s ++ t).drop s.length := List.drop_left.symm
  have hsearch := Syntax.search_itemsFrom hdrop
  rw [hitems]
  refine ⟨fun h i hi => h i (List.mem_append_left _ hi), fun h i hi => ?_⟩
  rcases List.mem_append.1 hi with hi | hi
  · exact h i hi
  · have hstart := (hsearch.of_mem hi).1
    rw [Span.intersects_eq_false_iff]
    omega

namespace Walk

variable {length length' : Nat} {declares declares' : Nat → Match → Prop} {free free' : Span → Prop}
  {ms ms' : List Match}

/-- A walk reports what another one does first, if it has all of its declarations, and ahead of a
declaration of the other no more than the other has. -/
theorem extends_of_agree (h : Walk length declares free p ms)
    (h' : Walk length' declares' free' p ms') (hlength : length ≤ length')
    (hstart : ∀ p m, declares p m → m.extent.start = p)
    (hunique : ∀ p m m', declares' p m → declares' p m' → m = m')
    (hkept : ∀ p m, declares p m → free m.extent → declares' p m ∧ free' m.extent)
    (hahead : ∀ p m p' m', declares' p m → free' m.extent → declares p' m' → p < p' →
      declares p m ∧ free m.extent) : ms <+: ms' := by
  induction h generalizing ms' with
  | stop past => exact List.nil_prefix
  | @report p m ms inside declared isFree rest ih =>
    obtain ⟨hdeclared, hfree⟩ := hkept p m declared isFree
    cases h' with
    | stop past => omega
    | report _ declared' _ rest' =>
      obtain rfl := hunique p _ _ hdeclared declared'
      exact List.cons_prefix_cons.2 ⟨rfl, ih rest'⟩
    | advance _ blocked => exact absurd hfree (blocked _ hdeclared)
  | @advance p ms inside blocked rest ih =>
    cases ms with
    | nil => exact List.nil_prefix
    | cons m ms =>
      obtain ⟨q, hd, -⟩ := rest.of_mem List.mem_cons_self
      have hq := rest.le_start hstart List.mem_cons_self
      rw [hstart q m hd] at hq
      cases h' with
      | stop past => omega
      | report _ declared' isFree' =>
        obtain ⟨hdeclared, hfree⟩ := hahead p _ q m declared' isFree' hd hq
        exact absurd hfree (blocked _ hdeclared)
      | advance _ _ rest' => exact ih rest'

end Walk

/-- Text behind completed lines in which every item is closed takes away nothing of what is found in
them, and puts nothing before it. -/
theorem find_append {s : Text} (h : s.getLast? = some '\n')
    (hclosed : ∀ i ∈ (classify s).toList, i.span.stop < s.length) (t : Text) :
    find s (classify s) <+: find (s ++ t) (classify (s ++ t)) := by
  rw [Syntax.toList_classify] at hclosed
  have hs : EndsWithFeed s := h
  refine (walk_find_ofList s (items s)).extends_of_agree (walk_find_ofList (s ++ t) (items (s ++ t)))
    (by rw [List.length_append]; omega) (fun _ _ => Declares.start_eq)
    (fun _ _ _ => Declares.unique_reads) (fun p m hd hfree => ?_) fun p m p' m' hd hfree hd' hlt => ?_
  · have hstop := hd.stop_lt_length hs
    exact ⟨hd.append hs t, (avoids_items_append_iff hs hclosed t (by omega)).2 hfree⟩
  · have hstop := hd'.stop_lt_length hs
    have hle := hd.stop_le_stop (hd'.append hs t) hlt
    refine ⟨hd.of_append hs (by omega), ?_⟩
    exact (avoids_items_append_iff hs hclosed t (by omega)).1 hfree

/-- A declaration behind one that is found gets its tail from the text that follows. -/
theorem find_append_late_tail :
    let s := "var a: T? = nil\n// a\nvar b: T\n".toList
    let t := "? = nil".toList
    s.getLast? = some '\n' ∧ (∀ i ∈ (classify s).toList, i.span.stop < s.length) ∧
      find s (classify s) <+: find (s ++ t) (classify (s ++ t)) := by
  intro s t
  have hclosed : ∀ i ∈ (classify s).toList, i.span.stop < s.length := by
    rw [Syntax.toList_classify]
    decide +kernel
  exact ⟨by decide, hclosed, find_append (by decide) hclosed t⟩

end PatternLint.Declaration
