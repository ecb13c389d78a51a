import PatternLint.Files.Discovery
import PatternLint.Proofs.Files.Tree

/-! The files of a run are files, each in a place of its own, and they stay the same while the run
replaces what they hold. -/

namespace PatternLint.Discovery

variable {t t' : Tree} {roots extensions excluded : List String} {path : Path}

theorem below_congr (h : t'.entries.map Prod.fst = t.entries.map Prod.fst) (names : Names) :
    below t' names = below t names := by
  have hnames (t : Tree) : below t names = ((t.entries.map Prod.fst).filterMap fun n =>
      if names.isPrefixOf n ∧ names.length < n.length then some (n.drop names.length)
      else none).mergeSort namesBefore := by
    rw [List.filterMap_map]
    rfl
  rw [hnames, hnames, h]

theorem candidates_congr (h : t.Rewritten t') (root : Path) :
    candidates t' root = candidates t root := by
  cases hbefore : t.locate root with
  | error e => simp only [candidates, hbefore, h.locate_error hbefore]
  | ok found =>
    obtain ⟨names, entry⟩ := found
    cases entry with
    | directory =>
      simp only [candidates, hbefore, h.locate_directory hbefore, below_congr h.names]
    | file bytes =>
      obtain ⟨bytes', hafter⟩ := h.locate_file hbefore
      simp only [candidates, hbefore, hafter]

theorem isWanted_congr (h : t.Rewritten t') (places : List Names) (path : Path) :
    isWanted t' extensions places path = isWanted t extensions places path := by
  unfold isWanted
  rw [h.isFile, h.place]

theorem unseen_congr (h : t.Rewritten t') (seen : List Names) (paths : List Path) :
    unseen t' seen paths = unseen t seen paths := by
  induction paths generalizing seen with
  | nil => rfl
  | cons path rest ih => simp only [unseen, h.place, ih]

/-- A run that replaces what files hold comes upon the same files all along. -/
theorem files_congr (h : t.Rewritten t') :
    files t' roots extensions excluded = files t roots extensions excluded := by
  have hwanted (places : List Names) :
      isWanted t' extensions places = isWanted t extensions places :=
    funext (isWanted_congr h places)
  unfold files
  simp only [candidates_congr h, h.place, hwanted, unseen_congr h]

theorem unseen_sublist (t : Tree) (seen : List Names) (paths : List Path) :
    (unseen t seen paths).Sublist paths := by
  fun_induction unseen t seen paths with
  | case1 seen => exact List.Sublist.refl _
  | case2 seen path rest place hseen ih => exact ih.cons path
  | case3 seen path rest place hnew ih => exact ih.cons_cons path

theorem place_notMem_of_mem_unseen {seen : List Names} {paths : List Path}
    (h : path ∈ unseen t seen paths) : t.place path ∉ seen := by
  fun_induction unseen t seen paths with
  | case1 seen => cases h
  | case2 seen first rest place hseen ih => exact ih h
  | case3 seen first rest place hnew ih =>
    rcases List.mem_cons.1 h with rfl | h
    · exact fun hmem => hnew (List.contains_iff_mem.2 hmem)
    · exact fun hmem => ih h (List.mem_cons_of_mem place hmem)

theorem unseen_apart (t : Tree) (seen : List Names) (paths : List Path) :
    (unseen t seen paths).Pairwise fun a b => t.place a ≠ t.place b := by
  fun_induction unseen t seen paths with
  | case1 seen => exact List.Pairwise.nil
  | case2 seen path rest place hseen ih => exact ih
  | case3 seen path rest place hnew ih =>
    refine List.pairwise_cons.2 ⟨fun other hother heq => ?_, ih⟩
    have hnotMem := place_notMem_of_mem_unseen hother
    exact hnotMem (heq ▸ List.mem_cons_self)

theorem files_apart (t : Tree) (roots extensions excluded : List String) :
    (files t roots extensions excluded).Pairwise fun a b => t.place a ≠ t.place b :=
  unseen_apart t _ _

theorem isFile_of_isWanted {places : List Names} (h : isWanted t extensions places path = true) :
    t.isFile path = true := by
  unfold isWanted at h
  simp only [Bool.and_eq_true] at h
  exact h.1.2

theorem isFile_of_mem_files (h : path ∈ files t roots extensions excluded) :
    t.isFile path = true :=
  isFile_of_isWanted (List.mem_filter.1 ((unseen_sublist t _ _).subset h)).2

end PatternLint.Discovery
