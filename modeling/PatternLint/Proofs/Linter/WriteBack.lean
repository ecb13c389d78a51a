import PatternLint.Proofs.Linter.Pass

/-! Writers that replace a file or leave it. A file that is fed to such a writer ends with one of
the texts, and only a refusal keeps it from ending with the last. -/

namespace PatternLint.Linter

variable {σ : Type} {tree : σ → Tree} {writer : Writer σ} {store : σ} {path : Path}
  {names : Names} {bytes : List UInt8}

/-- Each call for a file of the tree replaces that file, or is refused and leaves the tree. -/
structure Replaces (tree : σ → Tree) (writer : Writer σ) : Prop where
  accepted : ∀ {store store' : σ} {path : Path} {names : Names} {bytes : List UInt8} {text : Text},
    (tree store).locate path = .ok (names, .file bytes) →
    writer path text store = (.ok (), store') →
    (tree store).Replaced names (Utf8.encode text) (tree store')
  refused : ∀ {store store' : σ} {path : Path} {names : Names} {bytes : List UInt8} {text : Text}
    {e : WriteError}, (tree store).locate path = .ok (names, .file bytes) →
    writer path text store = (.error e, store') →
    tree store' = tree store ∧ ∃ reason, e = .refused path reason

/-- There is a state in which the writer refuses to replace a file. -/
def Refuses (tree : σ → Tree) (writer : Writer σ) (path : Path) (text : Text) (reason : String) :
    Prop :=
  ∃ store, (tree store).isFile path = true ∧
    (writer path text store).1 = .error (.refused path reason)

theorem replaces_writer : Replaces (fun t => t) Tree.writer where
  accepted {t t' path names bytes text} hlocate hwrite := by
    rw [Tree.writer, Tree.writeText_eq_ok hlocate] at hwrite
    obtain ⟨-, rfl⟩ := Prod.mk.inj hwrite
    exact .put (Tree.locate_eq_ok hlocate).1 _
  refused {t t' path names bytes text e} hlocate hwrite := by
    rw [Tree.writer, Tree.writeText_eq_ok hlocate] at hwrite
    cases hwrite

theorem not_refuses_writer (path : Path) (text : Text) (reason : String) :
    ¬Refuses (fun t => t) Tree.writer path text reason := by
  rintro ⟨t, hfile, hwrite⟩
  obtain ⟨names, bytes, hlocate⟩ := Tree.isFile_iff.1 hfile
  rw [Tree.writer, Tree.writeText_eq_ok hlocate] at hwrite
  cases hwrite

/-- What a file holds once these texts have been written to it in turn. -/
def written (bytes : List UInt8) (texts : List Text) : List UInt8 :=
  (texts.getLast?.map Utf8.encode).getD bytes

theorem written_nil (bytes : List UInt8) : written bytes [] = bytes := rfl

theorem written_cons (bytes : List UInt8) (text : Text) (texts : List Text) :
    written bytes (text :: texts) = written (Utf8.encode text) texts := by
  unfold written
  cases texts with
  | nil => rfl
  | cons next rest =>
    rw [List.getLast?_cons_cons, List.getLast?_eq_some_getLast (List.cons_ne_nil _ _)]
    rfl

/-- A file gets the texts up to the first that is refused. -/
theorem feed_replaces (h : Replaces tree writer)
    (hlocate : (tree store).locate path = .ok (names, .file bytes)) (texts : List Text) :
    let fed := feed writer path texts store
    ∃ done rest, texts = done ++ rest ∧
      (tree store).Replaced names (written bytes done) (tree fed.2) ∧
      (rest = [] → fed.1 = .ok ()) ∧
      ∀ text more, rest = text :: more →
        ∃ reason, fed.1 = .error (.refused path reason) ∧ Refuses tree writer path text reason := by
  fun_induction feed writer path texts store generalizing bytes with
  | case1 store =>
    refine ⟨[], [], rfl, .refl (Tree.locate_eq_ok hlocate).1.found, fun _ => rfl, ?_⟩
    intro text more hrest
    cases hrest
  | case2 text rest store e store' hwrite =>
    obtain ⟨hsame, reason, rfl⟩ := h.refused hlocate hwrite
    refine ⟨[], text :: rest, rfl, ?_, ?_, ?_⟩
    · rw [hsame]
      exact .refl (Tree.locate_eq_ok hlocate).1.found
    · intro hrest
      cases hrest
    · intro text' more hrest
      obtain ⟨rfl, rfl⟩ := List.cons.inj hrest
      refine ⟨reason, rfl, store, Tree.isFile_iff.2 ⟨names, bytes, hlocate⟩, ?_⟩
      rw [hwrite]
  | case3 text rest store store' hwrite ih =>
    have hreplaced := h.accepted hlocate hwrite
    obtain ⟨done, left, rfl, hafter, hok, herror⟩ := ih (hreplaced.locate hlocate)
    refine ⟨text :: done, left, rfl, ?_, hok, herror⟩
    rw [written_cons]
    exact hreplaced.trans hafter

end PatternLint.Linter
