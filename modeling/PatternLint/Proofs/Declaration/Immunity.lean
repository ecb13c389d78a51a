import PatternLint.Proofs.Declaration.Local
import PatternLint.Proofs.Declaration.Walk
import PatternLint.Proofs.Syntax.Partition

/-! Declarations do not depend on the text of comments and string literals. An extent that is free
of items holds code only, so two texts with the same code agree on it; and the two characters
beside it that matter are code in both, or at the edge of an item, where neither a word goes on nor
a line ends. -/

namespace PatternLint.Declaration

open Syntax (Item items edges classify)
open Syntax.ExcludedSet (Avoids)

/-- Texts with items at the same places, and the same code outside them. -/
structure SameCode (s t : Text) : Prop where
  length_eq : s.length = t.length
  spans_eq : (items s).map Item.span = (items t).map Item.span
  code_eq : ∀ x, x < s.length → ¬Covered ((items s).map Item.span) x → s[x]? = t[x]?

theorem isWord_of_mem_edges {c : Char} (h : c ∈ edges) : isWord c = false := by
  rcases Syntax.mem_edges_iff.1 h with rfl | rfl | rfl
  · decide
  · decide
  · decide

theorem not_endsLine_of_mem_edges {s : Text} {x : Nat} {c : Char} (hx : s[x]? = some c)
    (hc : c ∈ edges) : ¬EndsLine s x := by
  unfold EndsLine
  rcases Syntax.mem_edges_iff.1 hc with rfl | rfl | rfl <;> simp [hx]

namespace SameCode

variable {s t : Text} {p x e : Nat} {m : Match} {ms : List Match}

theorem symm (h : SameCode s t) : SameCode t s where
  length_eq := h.length_eq.symm
  spans_eq := h.spans_eq.symm
  code_eq x hx hc := (h.code_eq x (h.length_eq ▸ hx) (h.spans_eq ▸ hc)).symm

variable (h : SameCode s t)
include h

theorem getElem?_eq (hx : ¬Covered ((items s).map Item.span) x) : t[x]? = s[x]? := by
  rcases Nat.lt_or_ge x s.length with hlt | hge
  · exact (h.code_eq x hlt hx).symm
  · rw [List.getElem?_eq_none hge, List.getElem?_eq_none (h.length_eq ▸ hge)]

theorem avoids_iff {a : Span} : Avoids (items s) a ↔ Avoids (items t) a := by
  have hspans (u : Text) :
      Avoids (items u) a ↔ ∀ b ∈ (items u).map Item.span, b.intersects a = false := by
    simp [Avoids]
  rw [hspans, hspans, h.spans_eq]

/-- No word goes on from the end of an item. -/
theorem no_word_before {c : Char} (hp : ¬Covered ((items s).map Item.span) p)
    (hc : s[p]? = some c) (hfeed : c ≠ '\n') (hs : p = 0 ∨ ¬s[p - 1]?.any isWord) :
    p = 0 ∨ ¬t[p - 1]?.any isWord := by
  rcases hs with rfl | hs
  · exact .inl rfl
  · right
    by_cases hcov : Covered ((items t).map Item.span) (p - 1)
    · obtain ⟨a, ha, h1, h2⟩ := hcov
      obtain ⟨i, hi, rfl⟩ := List.mem_map.1 ha
      have hstop : i.span.stop = p := by
        rcases Nat.lt_or_ge p i.span.stop with hlt | hge
        · exact absurd ⟨i.span, h.spans_eq ▸ ha, by omega, hlt⟩ hp
        · omega
      have hcode := (h.getElem?_eq hp).trans hc
      obtain ⟨d, hd, hbefore⟩ := Syntax.edge_before_stop hi (by simp [hstop, hcode])
        (by simp [hstop, hcode, hfeed])
      rw [← hstop, hbefore, Option.any_some, isWord_of_mem_edges hd]
      decide
    · rw [← h.spans_eq] at hcov
      rwa [h.getElem?_eq hcov]

/-- Where a line ends, no item begins. -/
theorem endsLine_after (he : ¬Covered ((items s).map Item.span) e)
    (hs : EndsLine s (e + 1)) : EndsLine t (e + 1) := by
  have hstop : ¬Covered ((items s).map Item.span) (e + 1) :=
    Syntax.not_covered_succ he fun c hc hx => not_endsLine_of_mem_edges hx hc hs
  unfold EndsLine
  rw [h.getElem?_eq hstop]
  refine hs.imp_right (Or.imp_right fun hr => ⟨hr.1, ?_⟩)
  have hnext : ¬Covered ((items s).map Item.span) (e + 1 + 1) :=
    Syntax.not_covered_succ hstop fun c hc hx =>
      not_endsLine_of_mem_edges hx hc (hr.2.imp_right .inl)
  rw [h.getElem?_eq hnext]
  exact hr.2

theorem declares (hfree : Avoids (items s) m.extent) (hd : Declares s (Reads s) p m) :
    Declares t (Reads t) p m := by
  have hstart := hd.start_eq
  have hlt := hd.start_lt_span
  have hspan := m.span.start_le_stop
  have hstop := hd.stop_eq
  have hcode : ∀ x, p ≤ x → x < m.extent.stop → t[x]? = s[x]? := fun x h1 h2 =>
    h.getElem?_eq (hfree.not_covered (hstart ▸ h1) h2)
  have hlast : ¬Covered ((items s).map Item.span) (m.extent.stop - 1) :=
    hfree.not_covered (by omega) (by omega)
  have hnext : m.extent.stop - 1 + 1 = m.extent.stop := by omega
  obtain ⟨c, q, hf⟩ := id hd
  obtain ⟨b, d, htail⟩ := hf.sign.tail
  refine hd.congr hcode ?_ ?_
  · have hv := (Text.holdsAt_cons.1 hf.keyword.holds).1
    exact h.no_word_before (hfree.not_covered (by omega) (by omega)) hv (by decide)
      hf.keyword.before
  · have hend := htail.endsLine
    rw [← hstop, ← hnext] at hend
    rw [← hnext]
    exact h.endsLine_after hlast hend

end SameCode

/-- What is written in comments and string literals has no part in what is found: of two texts with
items at the same places and the same code outside them, the same matches are found. -/
theorem find_eq_of_code_eq {s t : Text} (hlength : s.length = t.length)
    (hspans : (classify s).toList.map Item.span = (classify t).toList.map Item.span)
    (hcode : ∀ x, x < s.length → ¬Covered ((classify s).toList.map Item.span) x →
      s[x]? = t[x]?) : find s (classify s) = find t (classify t) := by
  simp only [Syntax.toList_classify] at hspans hcode
  have h : SameCode s t := ⟨hlength, hspans, hcode⟩
  have hfree : Avoids (items s) = Avoids (items t) := funext fun a => propext h.avoids_iff
  have hs := walk_find_ofList s (items s)
  have ht := walk_find_ofList t (items t)
  rw [hlength, hfree] at hs
  refine (hs.congr fun p m hm => ?_).unique ht fun _ _ _ => Declares.unique_reads
  exact ⟨h.declares (h.avoids_iff.2 hm), h.symm.declares hm⟩

/-- The tail of a declaration and the keyword of another, each in a comment that ends its line. -/
theorem find_eq_of_rewritten_comment :
    let s := "var a: T /*? = nil\n*/\nvar b: T? = nil".toList
    let t := "var a: T /*var c: T*/\nvar b: T? = nil".toList
    s.length = t.length ∧
      (classify s).toList.map Item.span = (classify t).toList.map Item.span ∧
      (∀ x, x < s.length → ¬Covered ((classify s).toList.map Item.span) x → s[x]? = t[x]?) ∧
      find s (classify s) = find t (classify t) := by
  intro s t
  have hspans : (classify s).toList.map Item.span = (classify t).toList.map Item.span := by
    rw [Syntax.toList_classify, Syntax.toList_classify]
    decide +kernel
  have hcode : ∀ x, x < s.length → ¬Covered ((classify s).toList.map Item.span) x →
      s[x]? = t[x]? := by
    rw [Syntax.toList_classify]
    unfold Covered
    decide +kernel
  exact ⟨by decide, hspans, hcode, find_eq_of_code_eq (by decide) hspans hcode⟩

end PatternLint.Declaration
