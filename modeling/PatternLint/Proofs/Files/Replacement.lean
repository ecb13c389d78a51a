import Mathlib.Data.Fintype.EquivFin
import PatternLint.Proofs.Files.Tree
import PatternLint.Proofs.Text.WellFormed

/-! Writing a file and reading it back. The text first goes to a temporary file, which takes the
place of the target or is removed again; what comes of it is that the target holds the text and all
else is as before, or that nothing has changed. -/

namespace PatternLint.Tree

variable {t t' : Tree} {names other here dir beside parent : Names} {entry e : Entry}
  {bytes : List UInt8} {path : Path} {segments : List String} {temporary s : String}
  {contents : Text}

/-! Entries put and removed. -/

theorem notMem_of_find?_eq_none (hne : names ≠ []) (h : t.find? names = none) :
    ∀ e ∈ t.entries, e.1 ≠ names := by
  unfold find? at h
  rw [if_neg hne, List.lookup_eq_none_iff] at h
  intro e he heq
  have := h e he
  simp [heq] at this

theorem put_of_absent (hne : names ≠ []) (h : t.find? names = none) (entry : Entry) :
    t.put names entry = { t with entries := t.entries ++ [(names, entry)] } := by
  unfold find? at h
  rw [if_neg hne] at h
  simp [put, hne, h]

theorem remove_put (hne : names ≠ []) (h : t.find? names = none) (entry : Entry) :
    (t.put names entry).remove names = t := by
  have hkept : t.entries.filter (·.1 ≠ names) = t.entries :=
    List.filter_eq_self.2 fun e he => by simpa using notMem_of_find?_eq_none hne h e he
  rw [put_of_absent hne h, remove, List.filter_append, hkept]
  simp

theorem put_put (hne : names ≠ []) (h : t.find? names = none) (entry e : Entry) :
    (t.put names entry).put names e = t.put names e := by
  have hlookup : (t.entries ++ [(names, entry)]).lookup names = some entry := by
    have hnone : t.entries.lookup names = none := by rwa [find?, if_neg hne] at h
    simp [List.lookup_append, hnone]
  have hkept : t.entries.map (fun old => if old.1 = names then (names, e) else old) = t.entries :=
    (List.map_congr_left fun old hold => if_neg (notMem_of_find?_eq_none hne h old hold)).trans
      (List.map_id' _)
  rw [put_of_absent hne h, put_of_absent hne h, put, if_neg hne, hlookup]
  simp [hkept]

/-- An entry whose last name a path does not have makes no difference to the path. -/
theorem follow_put_of_notMem (h : s ∉ segments) (entry : Entry) (here : Names) :
    (t.put (dir ++ [s]) entry).follow here segments = t.follow here segments := by
  induction segments generalizing here with
  | nil => rfl
  | cons segment segments ih =>
    have hne : here ++ [segment] ≠ dir ++ [s] := by
      intro heq
      have hlast := List.append_inj_right' heq rfl
      exact h (by simp [List.cons.inj hlast |>.1])
    have hfind : (t.put (dir ++ [s]) entry).find? (here ++ [segment]) =
        t.find? (here ++ [segment]) := by
      rw [find?_put (by simp), if_neg hne]
    have hlater (here : Names) := ih (fun hmem => h (List.mem_cons_of_mem _ hmem)) here
    unfold follow
    simp only [hfind, hlater]

theorem locate_put_of_notMem (h : s ∉ t.absolute path) (entry : Entry) :
    (t.put (dir ++ [s]) entry).locate path = t.locate path := by
  have hsegments : s ∉ path.segments := by
    unfold absolute at h
    split at h
    · exact fun hmem => h (List.mem_append_right _ hmem)
    · exact h
  have hstart : (t.put (dir ++ [s]) entry).start path = t.start path := by
    unfold start
    split
    · rename_i hroot
      rw [absolute, if_pos hroot] at h
      rw [cwd_put, follow_put_of_notMem fun hmem => h (List.mem_append_left _ hmem)]
    · rfl
  unfold locate
  rw [hstart]
  cases t.start path with
  | error e => rfl
  | ok here => exact follow_put_of_notMem hsegments entry here

/-- A file that is put where no directory is blocks no directory. -/
theorem follow_put_directory (hfound : t.find? names ≠ some .directory)
    (h : t.follow here segments = .ok (other, .directory)) (bytes : List UInt8) :
    (t.put names (.file bytes)).follow here segments = .ok (other, .directory) := by
  have hne : names ≠ [] := by
    rintro rfl
    exact hfound rfl
  fun_induction follow t here segments with
  | case1 here => exact h
  | case2 here rest ih =>
    rw [follow, if_pos rfl]
    exact ih h
  | case3 here s rest hs hnone => cases h
  | case4 here s rest hs hdir ih =>
    have hkept : (t.put names (.file bytes)).find? (here ++ [s]) = some .directory := by
      rw [find?_put hne, if_neg fun heq : here ++ [s] = names => hfound (heq ▸ hdir), hdir]
    rw [follow, if_neg hs, hkept]
    exact ih h
  | case5 here s hs bytes' hfile => cases h
  | case6 here s rest hs bytes' hfile hrest => cases h

theorem start_put (hfound : t.find? names ≠ some .directory) (h : t.start path = .ok here)
    (bytes : List UInt8) : (t.put names (.file bytes)).start path = .ok here := by
  unfold start at h ⊢
  split
  · rename_i hroot
    rw [if_pos hroot] at h
    split at h
    · rename_i hcwd
      rw [cwd_put, follow_put_directory hfound hcwd bytes]
      exact h
    · cases h
  · rename_i hroot
    rwa [if_neg hroot] at h

/-! What comes of a write. -/

/-- The path ends in a name that is not that of a directory, in a directory that is there. -/
structure Receives (t : Tree) (path : Path) (parent : Names) : Prop where
  inside : t.locate path.parent = .ok (parent, .directory)
  nonempty : path.segments ≠ []
  plain : path.name ≠ ".."
  vacant : t.find? (parent ++ [path.name]) ≠ some .directory

/-- `t'` is `t` with these bytes in a file; at most the name of that file is new. -/
structure Placed (t : Tree) (names : Names) (bytes : List UInt8) (t' : Tree) : Prop where
  cwd : t'.cwd = t.cwd
  here : t'.find? names = some (.file bytes)
  elsewhere : ∀ other, other ≠ names → t'.find? other = t.find? other
  names : t'.entries.map Prod.fst = t.entries.map Prod.fst ∨
    t.find? names = none ∧ t'.entries.map Prod.fst = t.entries.map Prod.fst ++ [names]

theorem placed_put (hne : names ≠ []) (bytes : List UInt8) :
    t.Placed names bytes (t.put names (.file bytes)) where
  cwd := cwd_put names _
  here := by rw [find?_put hne, if_pos rfl]
  elsewhere other hother := by rw [find?_put hne, if_neg hother]
  names := by
    cases hfound : t.find? names with
    | some old => exact .inl (names_put (by rw [hfound]; rfl) _)
    | none =>
      refine .inr ⟨rfl, ?_⟩
      rw [put_of_absent hne hfound, List.map_append]
      rfl

theorem obstacle_eq_ok_iff : t.obstacle path = .ok parent ↔ t.Receives path parent := by
  unfold obstacle
  constructor
  · intro h
    split at h
    · cases h
    · cases h
    · cases h
    · rename_i parent' hparent
      split at h
      · cases h
      · rename_i hname
        split at h
        · cases h
        · rename_i hvacant
          cases h
          exact ⟨hparent, fun h => hname (.inl h), fun h => hname (.inr h), hvacant⟩
  · rintro ⟨hparent, hne, hname, hvacant⟩
    simp [hparent, hne, hname, hvacant]

/-- What comes of a write: the text is in place, or something stands in its way, or not even a
temporary file can be made. -/
inductive Course (t : Tree) (path : Path) (contents : Text) :
    Except WriteError Unit × Tree → Prop
  | placed {parent : Names} (receives : t.Receives path parent) :
      Course t path contents
        (.ok (), t.put (parent ++ [path.name]) (.file (Utf8.encode contents)))
  | refused {beside : Names} {reason : String}
      (directory : t.beside path = .ok (beside, .directory))
      (obstacle : t.obstacle path = .error reason) :
      Course t path contents (.error (.refused path reason), t)
  | missing (nothing : t.beside path = .error .missing) :
      Course t path contents (.error .noParent, t)
  | blocked (file : t.beside path = .error .throughFile ∨
        ∃ names bytes, t.beside path = .ok (names, .file bytes)) :
      Course t path contents (.error .parentIsFile, t)

theorem course (t : Tree) (path : Path) (contents : Text) :
    Course t path contents (writeText path contents t) := by
  unfold writeText
  split
  · rename_i hmissing
    exact .missing hmissing
  · rename_i hthrough
    exact .blocked (.inl hthrough)
  · rename_i hfile
    exact .blocked (.inr ⟨_, _, hfile⟩)
  · rename_i hdirectory
    split
    · rename_i hobstacle
      exact .refused hdirectory hobstacle
    · rename_i hobstacle
      exact .placed (obstacle_eq_ok_iff.1 hobstacle)

theorem Receives.writeText_eq (h : t.Receives path parent) (contents : Text) :
    writeText path contents t =
      (.ok (), t.put (parent ++ [path.name]) (.file (Utf8.encode contents))) := by
  have hbeside : t.beside path = .ok (parent, .directory) := follow_place h.inside
  simp only [writeText, hbeside, obstacle_eq_ok_iff.2 h]

theorem writeText_ok_iff : writeText path contents t = (.ok (), t') ↔
    ∃ parent, t.Receives path parent ∧
      t' = t.put (parent ++ [path.name]) (.file (Utf8.encode contents)) := by
  constructor
  · intro h
    have hcourse := course t path contents
    rw [h] at hcourse
    cases hcourse with
    | placed hreceives => exact ⟨_, hreceives, rfl⟩
  · rintro ⟨parent, hreceives, rfl⟩
    exact hreceives.writeText_eq contents

theorem writeText_restores {e : WriteError} (h : writeText path contents t = (.error e, t')) :
    t' = t := by
  have hcourse := course t path contents
  rw [h] at hcourse
  cases hcourse with
  | refused _ _ => rfl
  | missing _ => rfl
  | blocked _ => rfl

theorem locate_put (h : t.Receives path parent) (bytes : List UInt8) :
    (t.put (parent ++ [path.name]) (.file bytes)).locate path =
      .ok (parent ++ [path.name], .file bytes) := by
  obtain ⟨hinside, hne, hname, hvacant⟩ := h
  obtain ⟨here, hstart, hfollow⟩ := exists_start hinside
  have hfound : (t.put (parent ++ [path.name]) (.file bytes)).find? (parent ++ [path.name]) =
      some (.file bytes) := by
    rw [find?_put (by simp), if_pos rfl]
  have hstart : t.start path = .ok here := hstart
  rw [locate_of_start (start_put hvacant hstart bytes), path.segments_eq_append hne, follow_append,
    follow_put_directory hvacant hfollow bytes]
  simp [follow, hname, hfound]

/-! The steps of a write. -/

/-- What may fail of a write once its temporary file has been made. -/
inductive Stage where
  /-- Only these bytes of the text get into the temporary file. -/
  | filling (bytes : List UInt8)
  | probing
  | replacing

/-- A write step by step: a new file of the given name is made and filled, and it takes the place of
the target. Whatever fails after the first step, with whatever reason, removes the new file. -/
def writeInSteps (temporary : String) (failure : Option (Stage × String)) (path : Path)
    (contents : Text) (t : Tree) : Except WriteError Unit × Tree :=
  match t.beside path with
  | .error .missing => (.error .noParent, t)
  | .error .throughFile => (.error .parentIsFile, t)
  | .ok (_, .file _) => (.error .parentIsFile, t)
  | .ok (beside, .directory) =>
    let names := beside ++ [temporary]
    let abandon (reason : String) (t : Tree) := (.error (.refused path reason), t.remove names)
    let made := t.put names (.file [])
    let filled := made.put names (.file (Utf8.encode contents))
    match failure with
    | some (.filling bytes, reason) => abandon reason (made.put names (.file bytes))
    | some (.probing, reason) => abandon reason filled
    | some (.replacing, reason) => abandon reason filled
    | none =>
      match filled.obstacle path with
      | .error reason => abandon reason filled
      | .ok parent =>
        (.ok (), (filled.remove names).put (parent ++ [path.name])
          (.file (Utf8.encode contents)))

/-- A name that is made up for a write: no file beside the target has it, and the path does not
speak of it. -/
structure Unused (t : Tree) (path : Path) (temporary : String) : Prop where
  absent : ∀ beside, t.beside path = .ok (beside, .directory) →
    t.find? (beside ++ [temporary]) = none
  unspoken : temporary ∉ t.absolute path

theorem absolute_eq_append (h : path.segments ≠ []) :
    t.absolute path = t.absolute path.parent ++ [path.name] := by
  have hroot : path.parent.root = path.root := rfl
  unfold absolute
  rw [hroot, path.segments_eq_append h]
  split
  · rw [List.append_assoc]
  · rfl

/-- There is always such a name. -/
theorem exists_unused (t : Tree) (path : Path) : ∃ temporary, t.Unused path temporary := by
  let taken := t.entries.filterMap (fun e => e.1.getLast?) ++ t.absolute path
  obtain ⟨temporary, hfresh⟩ := Infinite.exists_notMem_finset taken.toFinset
  rw [List.mem_toFinset, List.mem_append, not_or, List.mem_filterMap] at hfresh
  refine ⟨temporary, fun beside _ => ?_, hfresh.2⟩
  rw [find?, if_neg (by simp), List.lookup_eq_none_iff]
  intro e he
  rw [bne_iff_ne]
  rintro heq
  refine hfresh.1 ⟨e, he, ?_⟩
  rw [← heq]
  simp

theorem obstacle_put (h : temporary ∉ t.absolute path) (entry : Entry) :
    (t.put (dir ++ [temporary]) entry).obstacle path = t.obstacle path := by
  have hparent : temporary ∉ t.absolute path.parent := by
    by_cases hne : path.segments = []
    · have hself : path.parent = path := by
        rw [Path.parent, hne, List.dropLast_nil, ← hne]
      rwa [hself]
    · rw [absolute_eq_append hne] at h
      exact fun hmem => h (List.mem_append_left _ hmem)
  have hfind (parent : Names) (hne : path.segments ≠ []) :
      (t.put (dir ++ [temporary]) entry).find? (parent ++ [path.name]) =
        t.find? (parent ++ [path.name]) := by
    rw [find?_put (by simp), if_neg]
    intro heq
    have hname : path.name = temporary := (List.cons.inj (List.append_inj_right' heq rfl)).1
    rw [absolute_eq_append hne, hname] at h
    exact h (List.mem_append_right _ (List.mem_singleton_self _))
  unfold obstacle
  rw [locate_put_of_notMem hparent]
  split
  · rfl
  · rfl
  · rfl
  · split
    · rfl
    · rename_i hname
      rw [hfind _ fun hnil => hname (.inl hnil)]

theorem writeInSteps_eq (h : t.Unused path temporary) (contents : Text) :
    writeInSteps temporary none path contents t = writeText path contents t := by
  cases hbeside : t.beside path with
  | error e =>
    cases e with
    | missing => simp only [writeInSteps, writeText, hbeside]
    | throughFile => simp only [writeInSteps, writeText, hbeside]
  | ok found =>
    obtain ⟨beside, entry⟩ := found
    cases entry with
    | file bytes => simp only [writeInSteps, writeText, hbeside]
    | directory =>
      have hne : beside ++ [temporary] ≠ [] := by simp
      have habsent := h.absent beside hbeside
      cases hplace : t.obstacle path with
      | error _ | ok _ =>
        simp only [writeInSteps, writeText, hbeside, put_put hne habsent,
          remove_put hne habsent, obstacle_put h.unspoken, hplace]

/-- Every failure leaves the tree as it was. -/
theorem writeInSteps_restores (h : t.Unused path temporary) {failure : Option (Stage × String)}
    {e : WriteError} (hfails : writeInSteps temporary failure path contents t = (.error e, t')) :
    t' = t := by
  unfold writeInSteps at hfails
  split at hfails
  · exact (Prod.mk.inj hfails).2.symm
  · exact (Prod.mk.inj hfails).2.symm
  · exact (Prod.mk.inj hfails).2.symm
  · rename_i beside hbeside
    have hne : beside ++ [temporary] ≠ [] := by simp
    have habsent := h.absent beside hbeside
    simp only [put_put hne habsent, remove_put hne habsent] at hfails
    split at hfails
    · exact (Prod.mk.inj hfails).2.symm
    · exact (Prod.mk.inj hfails).2.symm
    · exact (Prod.mk.inj hfails).2.symm
    · split at hfails
      · exact (Prod.mk.inj hfails).2.symm
      · cases hfails

/-- A write goes through exactly if the path names no directory and stands in one. Then the path
leads to a file that reads as the text, and nothing else in the tree is different; otherwise the
tree is as it was. The temporary file makes no difference to this, wherever the write fails. A file
reads as a text exactly if its bytes are well-formed; it is the text that they encode, and any other
file is reported. -/
theorem text_survives (t : Tree) (path : Path) (contents : Text) :
    ((∃ t', writeText path contents t = (.ok (), t')) ↔ ∃ parent, t.Receives path parent) ∧
      (∀ t', writeText path contents t = (.ok (), t') →
        t'.readText path = .ok contents ∧
          ∃ names, t'.locate path = .ok (names, .file (Utf8.encode contents)) ∧
            t.Placed names (Utf8.encode contents) t') ∧
      (∀ e t', writeText path contents t = (.error e, t') → t' = t) ∧
      (∃ temporary, t.Unused path temporary) ∧
      (∀ temporary, t.Unused path temporary →
        writeInSteps temporary none path contents t = writeText path contents t ∧
          ∀ failure e t',
            writeInSteps temporary failure path contents t = (.error e, t') → t' = t) ∧
      ∀ names bytes, t.locate path = .ok (names, .file bytes) →
        ((∃ text, t.readText path = .ok text) ↔ Utf8.WellFormed bytes) ∧
          (∀ text, t.readText path = .ok text → text.flatMap String.utf8EncodeChar = bytes) ∧
          (¬Utf8.WellFormed bytes → ∃ reason, t.readText path = .error ⟨path, reason⟩) := by
  refine ⟨?_, ?_, fun _ _ => writeText_restores, exists_unused t path, ?_, ?_⟩
  · simp only [writeText_ok_iff]
    constructor
    · rintro ⟨_, parent, hreceives, -⟩
      exact ⟨parent, hreceives⟩
    · rintro ⟨parent, hreceives⟩
      exact ⟨_, parent, hreceives, rfl⟩
  · intro t' hwritten
    obtain ⟨parent, hreceives, rfl⟩ := writeText_ok_iff.1 hwritten
    have hlocate := locate_put hreceives (Utf8.encode contents)
    exact ⟨readText_eq_ok.2 ⟨_, _, hlocate, Utf8.decode_encode_text contents⟩, _, hlocate,
      placed_put (by simp) _⟩
  · exact fun temporary h => ⟨writeInSteps_eq h contents, fun _ _ _ => writeInSteps_restores h⟩
  · intro names bytes hlocate
    rw [← Utf8.exists_decode_iff, readText_file hlocate]
    cases hdecode : Utf8.decode bytes with
    | error e => simp
    | ok text => simp [← Utf8.encode_eq_flatMap, Utf8.encode_of_decode hdecode]

end PatternLint.Tree
