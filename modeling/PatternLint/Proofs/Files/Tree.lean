import PatternLint.Files.Access

/-! Files in a tree. A path that leads to an entry goes through directories only, and its segments
alone say where it ends; a file is replaced in its place, which changes no name and no other
entry. -/

namespace PatternLint

/-- An entry without the bytes of a file. -/
def Entry.kind : Entry → Entry
  | directory => directory
  | file _ => file []

theorem Path.segments_eq_append (path : Path) (h : path.segments ≠ []) :
    path.segments = path.parent.segments ++ [path.name] := by
  unfold name
  rw [List.getLastD_eq_getLast?, List.getLast?_eq_some_getLast h]
  exact (List.dropLast_concat_getLast h).symm

namespace Tree

variable {t t' t'' : Tree} {here names other : Names} {entry e : Entry} {bytes : List UInt8}
  {path : Path}

theorem lookup_cons (e : Names × Entry) (entries : List (Names × Entry)) (names : Names) :
    (e :: entries).lookup names = if names = e.1 then some e.2 else entries.lookup names := by
  rw [List.lookup_cons]
  split
  · rename_i h
    rw [if_pos (beq_iff_eq.1 h)]
  · rename_i h
    rw [if_neg (beq_eq_false_iff_ne.1 h)]

theorem lookup_replaced (entries : List (Names × Entry)) (names other : Names) (entry : Entry) :
    (entries.map fun e => if e.1 = names then (names, entry) else e).lookup other =
      if other = names then (entries.lookup names).map fun _ => entry
      else entries.lookup other := by
  induction entries with
  | nil => simp
  | cons e entries ih =>
    rw [List.map_cons, lookup_cons, lookup_cons, lookup_cons, ih]
    by_cases he : e.1 = names
    · by_cases ho : other = names
      · simp [ho, he]
      · simp [ho, he]
    · by_cases ho : other = names
      · simp [ho, he, Ne.symm he]
      · simp [ho, he]

theorem find?_put (h : names ≠ []) (entry : Entry) (other : Names) :
    (t.put names entry).find? other = if other = names then some entry else t.find? other := by
  unfold put
  rw [if_neg h]
  unfold find?
  by_cases hother : other = []
  · rw [if_pos hother, if_pos hother, if_neg (fun heq => h (heq.symm.trans hother))]
  · rw [if_neg hother, if_neg hother]
    split
    · rename_i hsome
      obtain ⟨old, hold⟩ := Option.isSome_iff_exists.1 hsome
      rw [lookup_replaced, hold]
      rfl
    · rename_i hnone
      have hnone : t.entries.lookup names = none := Option.not_isSome_iff_eq_none.1 hnone
      rw [List.lookup_append, lookup_cons, List.lookup_nil]
      by_cases heq : other = names
      · simp [heq, hnone]
      · simp [heq]

theorem cwd_put (names : Names) (entry : Entry) : (t.put names entry).cwd = t.cwd := by
  unfold put
  split
  · rfl
  · split <;> rfl

theorem names_put (h : (t.find? names).isSome) (entry : Entry) :
    (t.put names entry).entries.map Prod.fst = t.entries.map Prod.fst := by
  unfold put
  split
  · rfl
  · rename_i hne
    unfold find? at h
    rw [if_neg hne] at h
    rw [if_pos h, List.map_map]
    refine List.map_congr_left fun e _ => ?_
    by_cases he : e.1 = names
    · simp [he]
    · simp [he]

/-- The names stand for an entry, and every shorter start of them for a directory. -/
structure LeadsTo (t : Tree) (names : Names) (entry : Entry) : Prop where
  found : t.find? names = some entry
  above : ∀ start rest, names = start ++ rest → rest ≠ [] → t.find? start = some .directory
  plain : ".." ∉ names

namespace LeadsTo

theorem nil (t : Tree) : t.LeadsTo [] .directory where
  found := rfl
  above start rest h hrest := by
    have := (List.append_eq_nil_iff.1 h.symm).2
    contradiction
  plain := List.not_mem_nil

theorem ne_nil (h : t.LeadsTo names (.file bytes)) : names ≠ [] := by
  rintro rfl
  have := h.found
  cases this

theorem unique (h : t.LeadsTo names entry) (h' : t.LeadsTo names e) : entry = e :=
  Option.some.inj (h.found.symm.trans h'.found)

theorem child {s : String} (h : t.LeadsTo here .directory) (hs : s ≠ "..")
    (hfound : t.find? (here ++ [s]) = some e) : t.LeadsTo (here ++ [s]) e where
  found := hfound
  above start rest heq hrest := by
    obtain ⟨init, last, rfl⟩ := List.eq_nil_or_concat rest |>.resolve_left hrest
    rw [List.concat_eq_append, ← List.append_assoc] at heq
    have hhere := List.append_inj_left' heq rfl
    by_cases hinit : init = []
    · rw [hinit, List.append_nil] at hhere
      exact hhere ▸ h.found
    · exact h.above start init hhere hinit
  plain hmem := by
    rcases List.mem_append.1 hmem with hmem | hmem
    · exact h.plain hmem
    · exact hs (List.mem_singleton.1 hmem).symm

theorem of_append {rest : Names} (h : t.LeadsTo (here ++ rest) e) (hrest : rest ≠ []) :
    t.LeadsTo here .directory where
  found := h.above here rest rfl hrest
  above start more heq hmore :=
    h.above start (more ++ rest) (by rw [heq, List.append_assoc]) (by simp [hmore])
  plain hmem := h.plain (List.mem_append_left rest hmem)

/-- What is above an entry is a directory, and so is the root. -/
theorem dropLast (h : t.LeadsTo here e) : t.LeadsTo here.dropLast .directory := by
  by_cases hne : here = []
  · exact hne ▸ nil t
  · rw [← List.dropLast_concat_getLast hne] at h
    exact h.of_append (List.cons_ne_nil _ _)

end LeadsTo

theorem follow_eq_ok {segments : List String} (hhere : t.LeadsTo here .directory)
    (h : t.follow here segments = .ok (names, e)) :
    t.LeadsTo names e ∧ segments.foldl Names.step here = names := by
  fun_induction follow t here segments with
  | case1 here =>
    obtain ⟨rfl, rfl⟩ := Prod.mk.inj (Except.ok.inj h)
    exact ⟨hhere, rfl⟩
  | case2 here rest ih =>
    rw [List.foldl_cons, Names.step, if_pos rfl]
    exact ih hhere.dropLast h
  | case3 here s rest hs hnone => cases h
  | case4 here s rest hs hdir ih =>
    rw [List.foldl_cons, Names.step, if_neg hs]
    exact ih (hhere.child hs hdir) h
  | case5 here s hs bytes hfile =>
    obtain ⟨rfl, rfl⟩ := Prod.mk.inj (Except.ok.inj h)
    refine ⟨hhere.child hs hfile, ?_⟩
    rw [List.foldl_cons, Names.step, if_neg hs]
    rfl
  | case6 here s rest hs bytes hfile hrest => cases h

theorem follow_append (t : Tree) (here : Names) (a b : List String) :
    t.follow here (a ++ b) =
      match t.follow here a with
      | .error e => .error e
      | .ok (names, .directory) => t.follow names b
      | .ok (names, .file bytes) =>
        if b = [] then .ok (names, .file bytes) else .error .throughFile := by
  fun_induction follow t here a with
  | case1 here => rfl
  | case2 here rest ih => simp [follow, ih]
  | case3 here s rest hs hnone => simp [follow, hs, hnone]
  | case4 here s rest hs hdir ih => simp [follow, hs, hdir, ih]
  | case5 here s hs bytes hfile => simp [follow, hs, hfile]
  | case6 here s rest hs bytes hfile hrest => simp [follow, hs, hfile, hrest]

theorem follow_below {rest : Names} (h : t.LeadsTo (here ++ rest) e) (hne : rest ≠ []) :
    t.follow here rest = .ok (here ++ rest, e) := by
  induction rest generalizing here with
  | nil => contradiction
  | cons s rest ih =>
    have hs : s ≠ ".." := fun heq => h.plain (by simp [heq])
    rw [List.append_cons] at h ⊢
    by_cases hrest : rest = []
    · subst hrest
      rw [List.append_nil] at h ⊢
      cases e with
      | directory => simp [follow, hs, h.found]
      | file bytes => simp [follow, hs, h.found]
    · have hdir : t.find? (here ++ [s]) = some .directory := (h.of_append hrest).found
      rw [follow, if_neg hs, hdir]
      exact ih h hrest

theorem follow_directory {rest : Names} (h : t.LeadsTo (here ++ rest) .directory) :
    t.follow here rest = .ok (here ++ rest, .directory) := by
  by_cases hrest : rest = []
  · rw [hrest, List.append_nil]
    rfl
  · exact follow_below h hrest

theorem locate_of_start (h : t.start path = .ok here) :
    t.locate path = t.follow here path.segments := by
  rw [locate, h]

/-- A path starts in a directory, at the place of the segments before its own. -/
theorem start_eq_ok (h : t.start path = .ok here) :
    t.LeadsTo here .directory ∧ t.place path = path.segments.foldl Names.step here := by
  unfold start at h
  split at h
  · rename_i hroot
    split at h
    · rename_i hcwd
      obtain rfl := Except.ok.inj h
      obtain ⟨hleads, hplace⟩ := follow_eq_ok (LeadsTo.nil t) hcwd
      exact ⟨hleads, by rw [place, absolute, if_pos hroot, List.foldl_append, hplace]⟩
    · cases h
  · rename_i hroot
    obtain rfl := Except.ok.inj h
    exact ⟨.nil t, by rw [place, absolute, if_neg hroot]⟩

theorem exists_start (h : t.locate path = .ok (names, e)) :
    ∃ here, t.start path = .ok here ∧ t.follow here path.segments = .ok (names, e) := by
  cases hstart : t.start path with
  | error e => simp [locate, hstart] at h
  | ok here => exact ⟨here, rfl, locate_of_start hstart ▸ h⟩

/-- A path that leads to an entry has its place where it leads. -/
theorem locate_eq_ok (h : t.locate path = .ok (names, e)) :
    t.LeadsTo names e ∧ t.place path = names := by
  obtain ⟨here, hstart, hfollow⟩ := exists_start h
  obtain ⟨hhere, hplace⟩ := start_eq_ok hstart
  rw [hplace]
  exact follow_eq_ok hhere hfollow

theorem isFile_iff : t.isFile path = true ↔
    ∃ names bytes, t.locate path = .ok (names, .file bytes) := by
  unfold isFile
  split
  · rename_i names bytes h
    simp [h]
  · rename_i h
    simp only [Bool.false_eq_true, false_iff]
    rintro ⟨names, bytes, hlocate⟩
    exact h names bytes hlocate

/-- A path to a file is that of a directory and a name after it. -/
theorem parent_of_file (h : t.locate path = .ok (names, .file bytes)) :
    ∃ parent, t.locate path.parent = .ok (parent, .directory) ∧ path.segments ≠ [] ∧
      path.name ≠ ".." ∧ names = parent ++ [path.name] := by
  obtain ⟨here, hstart, hfollow⟩ := exists_start h
  have hne : path.segments ≠ [] := by
    intro hnil
    rw [hnil] at hfollow
    cases hfollow
  have hstart' : t.start path.parent = .ok here := hstart
  have hparent := locate_of_start hstart'
  rw [path.segments_eq_append hne, follow_append] at hfollow
  split at hfollow
  · cases hfollow
  · rename_i parent hdirectory
    rw [follow] at hfollow
    split at hfollow
    · cases hfollow
    · rename_i hname
      split at hfollow
      · cases hfollow
      · cases hfollow
      · rw [if_pos rfl] at hfollow
        exact ⟨parent, hparent.trans hdirectory, hne, hname,
          (congrArg Prod.fst (Except.ok.inj hfollow)).symm⟩
  · rw [if_neg (List.cons_ne_nil _ _)] at hfollow
    cases hfollow

/-- Where a path leads to a directory, so does its place. -/
theorem follow_place (h : t.locate path = .ok (names, .directory)) :
    t.follow [] (t.place path) = .ok (names, .directory) := by
  obtain ⟨hleads, hplace⟩ := locate_eq_ok h
  rw [hplace]
  exact follow_directory hleads

/-- A file can always be replaced. -/
theorem writeText_eq_ok (h : t.locate path = .ok (names, .file bytes)) (contents : Text) :
    writeText path contents t = (.ok (), t.put names (.file (Utf8.encode contents))) := by
  obtain ⟨parent, hparent, hne, hname, rfl⟩ := parent_of_file h
  have hfound := (locate_eq_ok h).1.found
  have hbeside : t.beside path = .ok (parent, .directory) := follow_place hparent
  have hobstacle : t.obstacle path = .ok parent := by
    simp [obstacle, hparent, hne, hname, hfound]
  simp only [writeText, hbeside, hobstacle]

/-- Two trees that differ in the bytes of files only. -/
structure Rewritten (t t' : Tree) : Prop where
  cwd : t'.cwd = t.cwd
  names : t'.entries.map Prod.fst = t.entries.map Prod.fst
  kind : ∀ names, (t'.find? names).map Entry.kind = (t.find? names).map Entry.kind

namespace Rewritten

theorem refl (t : Tree) : Rewritten t t := ⟨rfl, rfl, fun _ => rfl⟩

theorem symm (h : Rewritten t t') : Rewritten t' t :=
  ⟨h.cwd.symm, h.names.symm, fun names => (h.kind names).symm⟩

theorem trans (h : Rewritten t t') (h' : Rewritten t' t'') : Rewritten t t'' :=
  ⟨h'.cwd.trans h.cwd, h'.names.trans h.names,
    fun names => (h'.kind names).trans (h.kind names)⟩

theorem put (h : t.LeadsTo names (.file bytes)) (contents : List UInt8) :
    Rewritten t (t.put names (.file contents)) where
  cwd := cwd_put names _
  names := names_put (by rw [h.found]; rfl) _
  kind other := by
    rw [find?_put h.ne_nil]
    split
    · rename_i heq
      rw [heq, h.found]
      rfl
    · rfl

theorem place (h : Rewritten t t') (path : Path) : t'.place path = t.place path := by
  unfold Tree.place absolute
  rw [h.cwd]

theorem follow (h : Rewritten t t') (here : Names) (segments : List String) :
    (t'.follow here segments).map (fun p => (p.1, p.2.kind)) =
      (t.follow here segments).map fun p => (p.1, p.2.kind) := by
  fun_induction Tree.follow t here segments with
  | case1 here => rfl
  | case2 here rest ih => simp [Tree.follow, ih]
  | case3 here s rest hs hnone =>
    have hkind := h.kind (here ++ [s])
    rw [hnone, Option.map_none, Option.map_eq_none_iff] at hkind
    simp [Tree.follow, hs, hkind]
  | case4 here s rest hs hdir ih =>
    have hkind := h.kind (here ++ [s])
    rw [hdir, Option.map_some, Option.map_eq_some_iff] at hkind
    obtain ⟨entry, hentry, hkind⟩ := hkind
    cases entry with
    | directory => simp [Tree.follow, hs, hentry, ih]
    | file bytes => cases hkind
  | case5 here s hs bytes hfile =>
    have hkind := h.kind (here ++ [s])
    rw [hfile, Option.map_some, Option.map_eq_some_iff] at hkind
    obtain ⟨entry, hentry, hkind⟩ := hkind
    cases entry with
    | directory => cases hkind
    | file bytes' => simp [Tree.follow, hs, hentry, Except.map, Entry.kind]
  | case6 here s rest hs bytes hfile hrest =>
    have hkind := h.kind (here ++ [s])
    rw [hfile, Option.map_some, Option.map_eq_some_iff] at hkind
    obtain ⟨entry, hentry, hkind⟩ := hkind
    cases entry with
    | directory => cases hkind
    | file bytes' => simp [Tree.follow, hs, hentry, hrest]

theorem start (h : Rewritten t t') (path : Path) : t'.start path = t.start path := by
  have hmap := h.follow [] t.cwd
  unfold Tree.start
  rw [h.cwd]
  cases hbefore : t.follow [] t.cwd with
  | error e =>
    cases hafter : t'.follow [] t.cwd with
    | error e' => rfl
    | ok found' =>
      rw [hbefore, hafter] at hmap
      cases hmap
  | ok found =>
    cases hafter : t'.follow [] t.cwd with
    | error e' =>
      rw [hbefore, hafter] at hmap
      cases hmap
    | ok found' =>
      obtain ⟨names, entry⟩ := found
      obtain ⟨names', entry'⟩ := found'
      rw [hbefore, hafter] at hmap
      obtain ⟨rfl, hkind⟩ := Prod.mk.inj (Except.ok.inj hmap)
      cases entry with
      | directory =>
        cases entry' with
        | directory => rfl
        | file bytes => cases hkind
      | file bytes =>
        cases entry' with
        | directory => cases hkind
        | file bytes' => rfl

theorem locate (h : Rewritten t t') (path : Path) :
    (t'.locate path).map (fun p => (p.1, p.2.kind)) =
      (t.locate path).map fun p => (p.1, p.2.kind) := by
  unfold Tree.locate
  rw [h.start]
  cases t.start path with
  | error e => rfl
  | ok here => exact h.follow here path.segments

theorem locate_error (h : Rewritten t t') {e : LookupError} (hlocate : t.locate path = .error e) :
    t'.locate path = .error e := by
  have hmap := h.locate path
  rw [hlocate] at hmap
  cases hafter : t'.locate path with
  | error e' =>
    rw [hafter] at hmap
    exact hmap
  | ok found =>
    rw [hafter] at hmap
    cases hmap

theorem locate_directory (h : Rewritten t t') (hlocate : t.locate path = .ok (names, .directory)) :
    t'.locate path = .ok (names, .directory) := by
  have hmap := h.locate path
  rw [hlocate] at hmap
  cases hafter : t'.locate path with
  | error e =>
    rw [hafter] at hmap
    cases hmap
  | ok found =>
    obtain ⟨names', entry⟩ := found
    rw [hafter] at hmap
    cases entry with
    | directory => exact hmap
    | file bytes => cases hmap

/-- A path to a file still leads there. -/
theorem locate_file (h : Rewritten t t') (hlocate : t.locate path = .ok (names, .file bytes)) :
    ∃ bytes', t'.locate path = .ok (names, .file bytes') := by
  have hmap := h.locate path
  rw [hlocate] at hmap
  cases hafter : t'.locate path with
  | error e =>
    rw [hafter] at hmap
    cases hmap
  | ok found =>
    obtain ⟨names', entry⟩ := found
    rw [hafter] at hmap
    cases entry with
    | directory => cases hmap
    | file bytes' =>
      cases congrArg Prod.fst (Except.ok.inj hmap)
      exact ⟨bytes', rfl⟩

/-- A file whose entry has not changed reads as before. -/
theorem locate_congr (h : Rewritten t t') (hlocate : t.locate path = .ok (names, .file bytes))
    (hsame : t'.find? names = t.find? names) : t'.locate path = t.locate path := by
  obtain ⟨bytes', hafter⟩ := h.locate_file hlocate
  have hfound := (locate_eq_ok hafter).1.found
  rw [hsame, (locate_eq_ok hlocate).1.found] at hfound
  rw [hafter, hlocate, Option.some.inj hfound]

theorem isFile (h : Rewritten t t') (path : Path) : t'.isFile path = t.isFile path := by
  rw [Bool.eq_iff_iff, isFile_iff, isFile_iff]
  constructor
  · rintro ⟨names, bytes, hlocate⟩
    exact ⟨names, h.symm.locate_file hlocate⟩
  · rintro ⟨names, bytes, hlocate⟩
    exact ⟨names, h.locate_file hlocate⟩

end Rewritten

/-- `t'` is `t` with other bytes in a file. -/
structure Replaced (t : Tree) (names : Names) (bytes : List UInt8) (t' : Tree) : Prop where
  rewritten : t.Rewritten t'
  here : t'.find? names = some (.file bytes)
  elsewhere : ∀ other, other ≠ names → t'.find? other = t.find? other

namespace Replaced

variable {bytes' : List UInt8}

theorem refl (h : t.find? names = some (.file bytes)) : t.Replaced names bytes t :=
  ⟨.refl t, h, fun _ _ => rfl⟩

theorem trans (h : t.Replaced names bytes t') (h' : t'.Replaced names bytes' t'') :
    t.Replaced names bytes' t'' :=
  ⟨h.rewritten.trans h'.rewritten, h'.here,
    fun other hother => (h'.elsewhere other hother).trans (h.elsewhere other hother)⟩

theorem put (h : t.LeadsTo names (.file bytes)) (bytes' : List UInt8) :
    t.Replaced names bytes' (t.put names (.file bytes')) where
  rewritten := .put h bytes'
  here := by rw [find?_put h.ne_nil, if_pos rfl]
  elsewhere other hother := by rw [find?_put h.ne_nil, if_neg hother]

theorem locate (h : t.Replaced names bytes' t')
    (hlocate : t.locate path = .ok (names, .file bytes)) :
    t'.locate path = .ok (names, .file bytes') := by
  obtain ⟨found, hafter⟩ := h.rewritten.locate_file hlocate
  have hfound := (locate_eq_ok hafter).1.found
  rw [h.here] at hfound
  rw [hafter, Option.some.inj hfound]

/-- A file in another place reads as before. -/
theorem locate_elsewhere (h : t.Replaced names bytes' t')
    (hlocate : t.locate path = .ok (other, .file bytes)) (hother : other ≠ names) :
    t'.locate path = t.locate path :=
  h.rewritten.locate_congr hlocate (h.elsewhere other hother)

end Replaced

theorem readText_file (h : t.locate path = .ok (names, .file bytes)) :
    t.readText path = match Utf8.decode bytes with
      | .ok text => .ok text
      | .error e => .error ⟨path, s!"not valid UTF-8 ({e.message})"⟩ := by
  cases hdecode : Utf8.decode bytes with
  | error e => simp only [readText, h, hdecode]
  | ok text => simp only [readText, h, hdecode]

theorem readText_eq_ok {text : Text} : t.readText path = .ok text ↔
    ∃ names bytes, t.locate path = .ok (names, .file bytes) ∧ Utf8.decode bytes = .ok text := by
  constructor
  · intro h
    match hlocate : t.locate path with
    | .error e => simp [readText, hlocate] at h
    | .ok (names, .directory) => simp [readText, hlocate] at h
    | .ok (names, .file bytes) =>
      refine ⟨names, bytes, rfl, ?_⟩
      rw [readText_file hlocate] at h
      split at h
      · rename_i text' hdecode
        cases h
        exact hdecode
      · cases h
  · rintro ⟨names, bytes, hlocate, hdecode⟩
    rw [readText_file hlocate, hdecode]

theorem readSource_eq_ok {source : Source} :
    t.readSource path = .ok source ↔
      t.readText path = .ok source.contents ∧ source.path = some path := by
  unfold readSource
  cases t.readText path with
  | error e => simp [bind, Except.bind]
  | ok text =>
    simp only [bind, Except.bind, pure, Except.pure, Except.ok.injEq]
    constructor
    · rintro rfl
      exact ⟨rfl, rfl⟩
    · rintro ⟨rfl, hpath⟩
      rw [← hpath]

theorem readSource_congr (h : t'.locate path = t.locate path) :
    t'.readSource path = t.readSource path := by
  unfold readSource readText
  rw [h]

end Tree

end PatternLint
