import Mathlib.Logic.Function.Iterate
import PatternLint.Proofs.Correction.Layout

/-! Correcting a file over and over. One pass may uncover tails that were none before, so a second
one can find more; but each correction takes an equals sign away and none is put back, so the
passes come to an end. -/

namespace PatternLint.OptionalInitialization

/-- A file after so many passes, each over a context built from what the last one left. -/
def afterPasses (source : Source) : Nat → Except CorrectionError Source
  | 0 => .ok source
  | n + 1 => do
    let before ← afterPasses source n
    let corrected ← correct (.build Syntax.classify before)
    return { before with contents := corrected.contents }

variable {source : Source} {n last : Nat}

theorem afterPasses_eq_ok (source : Source) (n : Nat) :
    afterPasses source n = .ok (afterwards^[n] source) := by
  induction n with
  | zero => rfl
  | succ n ih =>
    rw [afterPasses, ih, Function.iterate_succ_apply']
    simp only [bind, Except.bind, correct_eq_ok]
    rfl

/-- A correction takes away the characters of `=nil` for each span, and adds four spaces. -/
theorem count_blanked (context : Context) (c : Char) :
    (blanked context.source.contents (enabledSpans context)).count c +
        "=nil".toList.count c * (enabledSpans context).length =
      context.source.contents.count c +
        "    ".toList.count c * (enabledSpans context).length := by
  have hstop : ∀ a ∈ enabledSpans context, a.stop ≤ context.source.contents.length :=
    fun _ => stop_le_of_mem_enabledSpans
  have hpiece : ∀ a ∈ enabledSpans context,
      ((context.source.contents.slice a.start a.stop).map blankOut).count c +
          "=nil".toList.count c =
        (context.source.contents.slice a.start a.stop).count c + "    ".toList.count c := by
    intro a ha
    obtain ⟨b, d, h⟩ := reads_of_mem_enabledSpans ha
    exact count_map_blankOut (assigns_slice h.toAssigns (hstop a ha)) c
  rw [← spliced_map_blankOut (apart_enabledSpans context) hstop]
  exact Rewrite.count_spliced (apart_enabledSpans context) (fun a _ => Nat.zero_le a.start) hpiece

theorem count_equals_afterwards (source : Source) :
    (afterwards source).contents.count '=' +
      (enabledSpans (.build Syntax.classify source)).length = source.contents.count '=' := by
  have hcount : (afterwards source).contents.count '=' + 1 * _ =
      source.contents.count '=' + 0 * _ := count_blanked (.build Syntax.classify source) '='
  omega

theorem count_space_afterwards (source : Source) :
    (afterwards source).contents.count ' ' =
      source.contents.count ' ' +
        4 * (enabledSpans (.build Syntax.classify source)).length := by
  have hcount : (afterwards source).contents.count ' ' + 0 * _ =
      source.contents.count ' ' + 4 * _ := count_blanked (.build Syntax.classify source) ' '
  omega

theorem afterwards_eq_self (h : enabledSpans (.build Syntax.classify source) = []) :
    afterwards source = source := by
  rw [afterwards, h, blanked_nil]

/-- By induction on the number of equals signs, which every pass with a correction lowers. -/
theorem exists_pass_without_spans (source : Source) : ∃ last ≤ source.contents.count '=',
    enabledSpans (.build Syntax.classify (afterwards^[last] source)) = [] := by
  induction hn : source.contents.count '=' using Nat.strongRecOn generalizing source with
  | ind n ih =>
    by_cases hspans : enabledSpans (.build Syntax.classify source) = []
    · exact ⟨0, Nat.zero_le n, hspans⟩
    · have hpos := List.length_pos_iff.2 hspans
      have hcount := count_equals_afterwards source
      obtain ⟨last, hlast, hnone⟩ := ih _ (by omega) (afterwards source) rfl
      exact ⟨last + 1, by omega, hnone⟩

theorem iterate_afterwards_of_le
    (h : enabledSpans (.build Syntax.classify (afterwards^[last] source)) = [])
    (hle : last ≤ n) : afterwards^[n] source = afterwards^[last] source := by
  obtain ⟨k, rfl⟩ := Nat.exists_eq_add_of_le' hle
  rw [Function.iterate_add_apply]
  exact Function.iterate_fixed (afterwards_eq_self h) k

/-- No pass is refused. Each takes away as many equals signs as it makes corrections, and adds four
spaces for each. After at most as many passes as the file has equals signs, every further one makes
no correction and leaves the text as it is. -/
theorem passes_converge (source : Source) :
    (∀ n, ∃ before corrected after,
      afterPasses source n = .ok before ∧
      correct (.build Syntax.classify before) = .ok corrected ∧
      afterPasses source (n + 1) = .ok after ∧
      after.contents = corrected.contents ∧
      after.contents.count '=' + corrected.corrections.length = before.contents.count '=' ∧
      after.contents.count ' ' = before.contents.count ' ' + 4 * corrected.corrections.length) ∧
    ∃ last ≤ source.contents.count '=', ∃ final, ∀ n, last ≤ n →
      afterPasses source n = .ok final ∧
      correct (.build Syntax.classify final) = .ok ⟨final.contents, []⟩ := by
  constructor
  · intro n
    have hafter : afterPasses source (n + 1) = .ok (afterwards (afterwards^[n] source)) := by
      rw [afterPasses_eq_ok, Function.iterate_succ_apply']
    refine ⟨_, _, _, afterPasses_eq_ok source n, correct_eq_ok _, hafter, rfl, ?_, ?_⟩
    · rw [List.length_map]
      exact count_equals_afterwards _
    · rw [List.length_map]
      exact count_space_afterwards _
  · obtain ⟨last, hlast, hnone⟩ := exists_pass_without_spans source
    refine ⟨last, hlast, afterwards^[last] source, fun n hn => ⟨?_, ?_⟩⟩
    · rw [afterPasses_eq_ok, iterate_afterwards_of_le hnone hn]
    · rw [correct_eq_ok, hnone, blanked_nil]
      rfl

end PatternLint.OptionalInitialization
