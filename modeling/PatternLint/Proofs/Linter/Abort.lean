import PatternLint.Proofs.Files.Replacement
import PatternLint.Proofs.Linter.Run

/-! Writes that end a run. A refusal is recorded and the run goes on; but a write that finds no
directory for its temporary file fails in another way, which no report holds. -/

namespace PatternLint

namespace Tree

variable {t : Tree} {path : Path} {temporary : String} {contents : Text}

/-- A file beside the target can be made, so whatever fails is a refusal. -/
def Reaches (t : Tree) (path : Path) : Prop :=
  ∃ names, t.beside path = .ok (names, .directory)

/-- A write that ends as a run of the linter expects. -/
def Reported (path : Path) (result : Except WriteError Unit) : Prop :=
  result = .ok () ∨ ∃ reason, result = .error (.refused path reason)

theorem reported_writeText_iff :
    Reported path (writeText path contents t).1 ↔ t.Reaches path := by
  have hcourse := course t path contents
  generalize writeText path contents t = ended at hcourse
  cases hcourse with
  | placed hreceives => exact iff_of_true (.inl rfl) ⟨_, follow_place hreceives.inside⟩
  | refused hdirectory _ => exact iff_of_true (.inr ⟨_, rfl⟩) ⟨_, hdirectory⟩
  | missing hmissing => simp [Reported, Reaches, hmissing]
  | blocked hfile =>
    rcases hfile with hfile | ⟨names, bytes, hfile⟩ <;> simp [Reported, Reaches, hfile]

theorem noParent_iff :
    (writeText path contents t).1 = .error .noParent ↔
      t.beside path = .error .missing := by
  have hcourse := course t path contents
  generalize writeText path contents t = ended at hcourse
  cases hcourse with
  | placed hreceives => simp [beside, follow_place hreceives.inside]
  | refused hdirectory _ => simp [hdirectory]
  | missing hmissing => simp [hmissing]
  | blocked hfile =>
    rcases hfile with hfile | ⟨names, bytes, hfile⟩ <;> simp [hfile]

theorem parentIsFile_iff :
    (writeText path contents t).1 = .error .parentIsFile ↔
      t.beside path = .error .throughFile ∨
        ∃ names bytes, t.beside path = .ok (names, .file bytes) := by
  have hcourse := course t path contents
  generalize writeText path contents t = ended at hcourse
  cases hcourse with
  | placed hreceives => simp [beside, follow_place hreceives.inside]
  | refused hdirectory _ => simp [hdirectory]
  | missing hmissing => simp [hmissing]
  | blocked hfile => exact iff_of_true rfl hfile

theorem reported_writeInSteps_iff (failure : Option (Stage × String)) :
    Reported path (writeInSteps temporary failure path contents t).1 ↔ t.Reaches path := by
  unfold writeInSteps Reaches
  split
  · rename_i hmissing
    simp [Reported, hmissing]
  · rename_i hthrough
    simp [Reported, hthrough]
  · rename_i hfile
    simp [Reported, hfile]
  · rename_i beside hbeside
    refine iff_of_true ?_ ⟨beside, hbeside⟩
    dsimp only
    split
    · exact .inr ⟨_, rfl⟩
    · exact .inr ⟨_, rfl⟩
    · exact .inr ⟨_, rfl⟩
    · split
      · exact .inr ⟨_, rfl⟩
      · exact .inl rfl

end Tree

namespace Linter

variable {σ : Type} {linter : Linter} {tree : σ → Tree} {writer : Writer σ} {store : σ}
  {path : Path} {e : WriteError}

theorem exists_call_of_feed {texts : List Text} (h : (feed writer path texts store).1 = .error e) :
    ∃ text ∈ texts, ∃ store', (writer path text store').1 = .error e := by
  fun_induction feed writer path texts store with
  | case1 store => cases h
  | case2 text rest store e' store' hcall =>
    refine ⟨text, List.mem_cons_self, store, ?_⟩
    rw [hcall]
    exact h
  | case3 text rest store store' hcall ih =>
    obtain ⟨text', hmem, hcall'⟩ := ih h
    exact ⟨text', List.mem_cons_of_mem text hmem, hcall'⟩

/-- Only a write that fails without being refused ends a run. -/
theorem call_of_failure_correctPath
    (h : (linter.correctPath tree writer path store).failure = some e) :
    (∀ p reason, e ≠ .refused p reason) ∧
      ∃ text store', (writer path text store').1 = .error e := by
  unfold correctPath at h
  split at h
  · cases h
  · rename_i source hread
    dsimp only at h
    split at h
    · cases h
    · cases h
    · rename_i e' hrefused hresult
      obtain rfl := Option.some.inj h
      refine ⟨hrefused, ?_⟩
      obtain ⟨hfed, -⟩ :=
        correctFile_eq_feed linter writer source (Tree.readSource_eq_ok.1 hread).2 store
      rw [hresult] at hfed
      cases hcalls : (feed writer path (linter.rewrites source) store).1 with
      | error e =>
        rw [hcalls] at hfed
        cases hfed
        obtain ⟨text, -, store', hcall⟩ := exists_call_of_feed hcalls
        exact ⟨text, store', hcall⟩
      | ok _ =>
        rw [hcalls] at hfed
        cases hfed

theorem call_of_failure_correctEach {paths : List Path}
    (h : (linter.correctEach tree writer paths store).failure = some e) :
    (∀ p reason, e ≠ .refused p reason) ∧
      ∃ path ∈ paths, ∃ text store', (writer path text store').1 = .error e := by
  induction paths generalizing store with
  | nil => cases h
  | cons path paths ih =>
    rw [correctEach] at h
    cases hfirst : (linter.correctPath tree writer path store).failure with
    | some e' =>
      simp only [hfirst, Option.some.injEq] at h
      subst h
      obtain ⟨hne, text, store', hcall⟩ := call_of_failure_correctPath hfirst
      exact ⟨hne, path, List.mem_cons_self, text, store', hcall⟩
    | none =>
      simp only [hfirst] at h
      obtain ⟨hne, other, hmem, hcall⟩ := ih h
      exact ⟨hne, other, List.mem_cons_of_mem path hmem, hcall⟩

end Linter

namespace Tree

/-- A write succeeds or is refused exactly if its temporary file has a directory to be made in; it
fails in another way if there is nothing at the place of the parent, or a file. The same holds of a
write step by step, at whatever stage it fails. No run over the files of a tree comes upon such a
failure, and with any other writer nothing else ends a run. -/
theorem writeText_reported_iff (t : Tree) (path : Path) (contents : Text) :
    (Reported path (writeText path contents t).1 ↔ t.Reaches path) ∧
      ((writeText path contents t).1 = .error .noParent ↔
        t.beside path = .error .missing) ∧
      ((writeText path contents t).1 = .error .parentIsFile ↔
        t.beside path = .error .throughFile ∨
          ∃ names bytes, t.beside path = .ok (names, .file bytes)) ∧
      (∀ temporary failure,
        Reported path (writeInSteps temporary failure path contents t).1 ↔ t.Reaches path) ∧
      (∀ (linter : Linter) (paths : List String),
        (linter.correctPaths (fun t => t) Tree.writer paths t).failure = none) ∧
      ∀ (σ : Type) (tree : σ → Tree) (writer : Writer σ) (linter : Linter) (paths : List String)
        (store : σ) (e : WriteError),
        (linter.correctPaths tree writer paths store).failure = some e →
          (∀ p reason, e ≠ .refused p reason) ∧
            ∃ path ∈ linter.files (tree store) paths,
              ∃ text store', (writer path text store').1 = .error e := by
  refine ⟨reported_writeText_iff, noParent_iff, parentIsFile_iff,
    fun temporary failure => reported_writeInSteps_iff failure, ?_, ?_⟩
  · intro linter paths
    exact (Linter.correctPaths_served linter Linter.replaces_writer paths t).1
  · intro σ tree writer linter paths store e h
    exact Linter.call_of_failure_correctEach h

/-- A file in a directory that is not there is not refused, but fails in another way. -/
theorem write_without_parent_not_reported :
    let path : Path := ⟨"", ["Missing", "A.swift"]⟩
    let ended := writeText path "let a = 1\n".toList {}
    ended = (.error .noParent, {}) ∧ ¬Reported path ended.1 := by
  intro path ended
  have hended : ended = (.error .noParent, {}) := rfl
  refine ⟨hended, ?_⟩
  rw [hended]
  simp [Reported]

end Tree

end PatternLint
