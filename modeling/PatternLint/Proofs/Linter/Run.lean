import Mathlib.Data.List.Forall2
import PatternLint.Proofs.Files.Discovery
import PatternLint.Proofs.Linter.WriteBack

/-! Runs that correct. Each file of a run is served on its own: what happens to it depends on what
it held before the run, and what is reported of it holds in the tree after the run. -/

namespace PatternLint.Linter

variable {σ : Type} {linter : Linter} {tree : σ → Tree} {writer : Writer σ} {store : σ}
  {path : Path} {names : Names} {bytes : List UInt8} {t t' t'' : Tree} {o : Outcome}
  {done rest : List Text}

/-- The texts to be written in place of a file; there are none for a file that cannot be read. -/
def rewritesAt (linter : Linter) (t : Tree) (path : Path) : List Text :=
  match t.readSource path with
  | .error _ => []
  | .ok source => linter.rewrites source

/-- The corrections of a file; there are none for a file that cannot be read. -/
def correctionsAt (linter : Linter) (t : Tree) (path : Path) : List Correction :=
  match t.readSource path with
  | .error _ => []
  | .ok source => linter.corrections source

/-- A run that took `before` to `after` wrote the texts `done` of those for a file and none of
`rest`, and has this outcome for it. -/
structure Served (linter : Linter) (tree : σ → Tree) (writer : Writer σ) (before after : Tree)
    (path : Path) (o : Outcome) (done rest : List Text) : Prop where
  rewrites : linter.rewritesAt before path = done ++ rest
  holds : ∀ names bytes, before.locate path = .ok (names, .file bytes) →
    after.locate path = .ok (names, .file (written bytes done))
  violations : o.violations = (linter.lintFile after path).violations
  settled : rest = [] → o.corrections = linter.correctionsAt before path ∧
    o.errors = (linter.lintFile after path).errors
  stopped : ∀ text more, rest = text :: more → o.corrections = [] ∧
    ∃ reason, Refuses tree writer path text reason ∧
      o.errors = (WriteError.refused path reason).message :: (linter.lintFile after path).errors

theorem lintFile_congr (h : t'.locate path = t.locate path) :
    linter.lintFile t' path = linter.lintFile t path := by
  unfold lintFile
  rw [Tree.readSource_congr h]

namespace Served

/-- What a file held before the run is what it held at any earlier time, if it is left alone until
then. -/
theorem of_before (h : Served linter tree writer t' t'' path o done rest)
    (hsame : t'.locate path = t.locate path) :
    Served linter tree writer t t'' path o done rest where
  rewrites := by
    have := h.rewrites
    unfold rewritesAt at this ⊢
    rwa [Tree.readSource_congr hsame] at this
  holds names bytes hlocate := h.holds names bytes (hsame.trans hlocate)
  violations := h.violations
  settled hrest := by
    have := h.settled hrest
    unfold correctionsAt at this ⊢
    rwa [Tree.readSource_congr hsame] at this
  stopped := h.stopped

/-- What a file holds after the run is what it holds at any later time, if it is left alone from
then on. -/
theorem of_after (h : Served linter tree writer t t' path o done rest)
    (hsame : t''.locate path = t'.locate path) :
    Served linter tree writer t t'' path o done rest where
  rewrites := h.rewrites
  holds names bytes hlocate := hsame.trans (h.holds names bytes hlocate)
  violations := by
    rw [lintFile_congr hsame]
    exact h.violations
  settled := by
    rw [lintFile_congr hsame]
    exact h.settled
  stopped := by
    rw [lintFile_congr hsame]
    exact h.stopped

end Served

theorem correctPath_of_error {e : ReadError} (hread : (tree store).readSource path = .error e) :
    linter.correctPath tree writer path store =
      ⟨[{ errors := [e.message], notes := [.fileUnread e.message] }], none, store⟩ := by
  simp only [correctPath, hread]

theorem correctPath_of_ok {source : Source} {corrections : List Correction}
    (hread : (tree store).readSource path = .ok source)
    (hresult : (linter.correctFile writer source store).result = .ok corrections) :
    let attempt := linter.correctFile writer source store
    linter.correctPath tree writer path store =
      ⟨[linter.withRemaining (tree attempt.store) path
        { corrections := corrections, notes := attempt.notes }], none, attempt.store⟩ := by
  simp only [correctPath, hread, hresult]

theorem correctPath_of_refused {source : Source} {p : Path} {reason : String}
    (hread : (tree store).readSource path = .ok source)
    (hresult : (linter.correctFile writer source store).result = .error (.refused p reason)) :
    let attempt := linter.correctFile writer source store
    let message := (WriteError.refused p reason).message
    linter.correctPath tree writer path store =
      ⟨[linter.withRemaining (tree attempt.store) path
        { errors := [message], notes := attempt.notes ++ [.fileUnwritten message] }], none,
        attempt.store⟩ := by
  simp only [correctPath, hread, hresult]

theorem holds_of_replaced (hlocate : t.locate path = .ok (names, .file bytes))
    (h : t.Replaced names (written bytes done) t') {names' : Names} {bytes' : List UInt8}
    (hlocate' : t.locate path = .ok (names', .file bytes')) :
    t'.locate path = .ok (names', .file (written bytes' done)) := by
  rw [hlocate] at hlocate'
  cases hlocate'
  exact h.locate hlocate

/-- One file of a run, when it cannot be read, when all its texts are written, and when one of them
is refused. -/
theorem correctPath_served (linter : Linter) (h : Replaces tree writer)
    (hlocate : (tree store).locate path = .ok (names, .file bytes)) :
    let run := linter.correctPath tree writer path store
    run.failure = none ∧ ∃ o done rest, run.outcomes = [o] ∧
      (tree store).Replaced names (written bytes done) (tree run.store) ∧
      Served linter tree writer (tree store) (tree run.store) path o done rest := by
  cases hread : (tree store).readSource path with
  | error e =>
    have hlint : linter.lintFile (tree store) path =
        { errors := [e.message], notes := [.fileUnread e.message] } := by
      simp only [lintFile, hread]
    rw [correctPath_of_error hread]
    refine ⟨rfl, _, [], [], rfl, .refl (Tree.locate_eq_ok hlocate).1.found, ?_, ?_, ?_, ?_, ?_⟩
    · simp only [rewritesAt, hread, List.append_nil]
    · exact fun _ _ hlocate => hlocate
    · rw [hlint]
    · intro _
      rw [hlint]
      simp only [correctionsAt, hread, and_self]
    · intro text more hrest
      cases hrest
  | ok source =>
    obtain ⟨done, rest, hrewrites, hreplaced, hok, herror⟩ :=
      feed_replaces h hlocate (linter.rewrites source)
    obtain ⟨hresult, hstore⟩ :=
      correctFile_eq_feed linter writer source (Tree.readSource_eq_ok.1 hread).2 store
    have hrewritesAt : linter.rewritesAt (tree store) path = done ++ rest := by
      simp only [rewritesAt, hread, hrewrites]
    have hcorrectionsAt : linter.correctionsAt (tree store) path = linter.corrections source := by
      simp only [correctionsAt, hread]
    rw [← hstore] at hreplaced
    cases rest with
    | nil =>
      rw [hok rfl] at hresult
      rw [correctPath_of_ok hread hresult]
      refine ⟨rfl, _, done, [], rfl, hreplaced, hrewritesAt,
        fun _ _ => holds_of_replaced hlocate hreplaced, rfl,
        fun _ => ⟨hcorrectionsAt.symm, rfl⟩, ?_⟩
      intro text more hrest
      cases hrest
    | cons text more =>
      obtain ⟨reason, hrefused, hrefuses⟩ := herror text more rfl
      rw [hrefused] at hresult
      rw [correctPath_of_refused hread hresult]
      refine ⟨rfl, _, done, text :: more, rfl, hreplaced, hrewritesAt,
        fun _ _ => holds_of_replaced hlocate hreplaced, rfl, ?_, ?_⟩
      · intro hrest
        cases hrest
      · intro text' more' hrest
        obtain ⟨rfl, rfl⟩ := List.cons.inj hrest
        exact ⟨rfl, reason, hrefuses, rfl⟩

/-- Files in places of their own do not get in each other's way. -/
theorem correctEach_served (linter : Linter) (h : Replaces tree writer) {paths : List Path}
    (hapart : paths.Pairwise fun a b => (tree store).place a ≠ (tree store).place b)
    (hfiles : ∀ path ∈ paths, (tree store).isFile path = true) :
    let run := linter.correctEach tree writer paths store
    run.failure = none ∧ (tree store).Rewritten (tree run.store) ∧
      (∀ names, (∀ path ∈ paths, (tree store).place path ≠ names) →
        (tree run.store).find? names = (tree store).find? names) ∧
      List.Forall₂ (fun path o => ∃ done rest,
        Served linter tree writer (tree store) (tree run.store) path o done rest)
        paths run.outcomes := by
  induction paths generalizing store with
  | nil => exact ⟨rfl, .refl _, fun _ _ => rfl, .nil⟩
  | cons path paths ih =>
    obtain ⟨hfirst, hapart⟩ := List.pairwise_cons.1 hapart
    obtain ⟨names, bytes, hlocate⟩ := Tree.isFile_iff.1 (hfiles path List.mem_cons_self)
    have hplace := (Tree.locate_eq_ok hlocate).2
    obtain ⟨hfailure, o, done, rest, houtcomes, hreplaced, hserved⟩ :=
      correctPath_served linter h hlocate
    have hfiles' : ∀ other ∈ paths,
        (tree (linter.correctPath tree writer path store).store).isFile other = true := by
      intro other hother
      rw [hreplaced.rewritten.isFile]
      exact hfiles other (List.mem_cons_of_mem path hother)
    have hapart' : paths.Pairwise fun a b =>
        (tree (linter.correctPath tree writer path store).store).place a ≠
          (tree (linter.correctPath tree writer path store).store).place b := by
      simpa only [hreplaced.rewritten.place] using hapart
    obtain ⟨hfailure', hrewritten, helsewhere, hall⟩ := ih hapart' hfiles'
    simp only [hreplaced.rewritten.place] at helsewhere
    simp only [correctEach, hfailure, houtcomes]
    refine ⟨hfailure', hreplaced.rewritten.trans hrewritten, ?_, .cons ?_ ?_⟩
    · intro other hother
      rw [helsewhere other fun p hp => hother p (List.mem_cons_of_mem path hp)]
      refine hreplaced.elsewhere other fun heq => hother path List.mem_cons_self ?_
      rw [hplace, heq]
    · -- None of the later files stands where this one does.
      have hkept : (tree (linter.correctEach tree writer paths _).store).find? names = _ :=
        helsewhere names fun p hp heq => hfirst p hp (hplace.trans heq.symm)
      exact ⟨done, rest, hserved.of_after
        (hrewritten.locate_congr (hreplaced.locate hlocate) hkept)⟩
    · have hkept : ∀ other ∈ paths, (tree (linter.correctPath tree writer path store).store).locate
          other = (tree store).locate other := by
        intro other hother
        obtain ⟨names', bytes', hlocate'⟩ :=
          Tree.isFile_iff.1 (hfiles other (List.mem_cons_of_mem path hother))
        refine hreplaced.locate_elsewhere hlocate' fun heq => hfirst other hother ?_
        rw [hplace, (Tree.locate_eq_ok hlocate').2, heq]
      refine ((List.forall₂_and_left paths _).2 ⟨hkept, hall⟩).imp ?_
      rintro other o' ⟨hsame, done', rest', hserved'⟩
      exact ⟨done', rest', hserved'.of_before hsame⟩

theorem correctPaths_served (linter : Linter) (h : Replaces tree writer) (paths : List String)
    (store : σ) :
    let run := linter.correctPaths tree writer paths store
    run.failure = none ∧ (tree store).Rewritten (tree run.store) ∧
      (∀ names, (∀ path ∈ linter.files (tree store) paths, (tree store).place path ≠ names) →
        (tree run.store).find? names = (tree store).find? names) ∧
      List.Forall₂ (fun path o => ∃ done rest,
        Served linter tree writer (tree store) (tree run.store) path o done rest)
        (linter.files (tree store) paths) run.outcomes :=
  correctEach_served linter h (Discovery.files_apart _ _ _ _)
    fun _ => Discovery.isFile_of_mem_files

/-- After any number of its files a run still has the same files before it. -/
theorem files_after_some (linter : Linter) (h : Replaces tree writer) (paths : List String)
    (store : σ) (count : Nat) :
    let files := linter.files (tree store) paths
    linter.files (tree (linter.correctEach tree writer (files.take count) store).store) paths =
      files := by
  intro files
  have hapart : files.Pairwise fun a b => (tree store).place a ≠ (tree store).place b :=
    Discovery.files_apart _ _ _ _
  obtain ⟨-, hrewritten, -⟩ := correctEach_served linter h
    (hapart.sublist (List.take_sublist count files))
    fun _ hpath => Discovery.isFile_of_mem_files (List.mem_of_mem_take hpath)
  exact Discovery.files_congr hrewritten

/-- The files of a tree itself can all be written. -/
theorem correctPaths_written (linter : Linter) (t : Tree) (paths : List String) :
    let run := linter.correctPaths (fun t => t) Tree.writer paths t
    List.Forall₂ (fun path o => Served linter (fun t => t) Tree.writer t run.store path o
      (linter.rewritesAt t path) []) (linter.files t paths) run.outcomes := by
  obtain ⟨-, -, -, hall⟩ := correctPaths_served linter replaces_writer paths t
  refine hall.imp ?_
  rintro path o ⟨done, rest, hserved⟩
  cases rest with
  | nil =>
    have hrewrites := hserved.rewrites
    rw [List.append_nil] at hrewrites
    rw [hrewrites]
    exact hserved
  | cons text more =>
    obtain ⟨-, reason, hrefuses, -⟩ := hserved.stopped text more rfl
    exact absurd hrefuses (not_refuses_writer path text reason)

end PatternLint.Linter
