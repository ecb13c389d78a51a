import Mathlib.Data.List.Lex
import PatternLint.Proofs.Files.Discovery

/-! The files that roots lead to: each that one of them is or holds, at the first such root, and no
other. Roots and excluded paths may name a file in many ways, but a file has one place. -/

namespace PatternLint

namespace Tree

/-- No entry is called `..`. -/
def Plain (t : Tree) : Prop := ∀ e ∈ t.entries, ".." ∉ e.1

instance (t : Tree) : Decidable t.Plain :=
  inferInstanceAs (Decidable (∀ e ∈ t.entries, ".." ∉ e.1))

theorem mem_entries_of_lookup {entries : List (Names × Entry)} {names : Names} {entry : Entry}
    (h : entries.lookup names = some entry) : (names, entry) ∈ entries := by
  induction entries with
  | nil => cases h
  | cons e entries ih =>
    rw [lookup_cons] at h
    split at h
    · rename_i hnames
      obtain ⟨rfl⟩ := Option.some.inj h
      exact hnames ▸ List.mem_cons_self
    · exact List.mem_cons_of_mem e (ih h)

end Tree

theorem foldl_step_plain (names : Names) {rest : Names} (h : ".." ∉ rest) :
    rest.foldl Names.step names = names ++ rest := by
  induction rest generalizing names with
  | nil => simp
  | cons s rest ih =>
    rw [List.mem_cons, not_or] at h
    rw [List.foldl_cons, Names.step, if_neg (Ne.symm h.1), ih _ h.2, ← List.append_cons]

namespace Discovery

variable {t : Tree} {root path : Path} {names above rest : Names} {bytes : List UInt8}
  {roots extensions excluded : List String}

theorem namesBefore_iff {a b : Names} :
    namesBefore a b = true ↔ a = b ∨ List.Lex (· < ·) a b := by
  fun_induction namesBefore a b with
  | case1 b =>
    cases b with
    | nil => simp
    | cons b bs => simp
  | case2 a as => simp
  | case3 a as bs ih =>
    rw [ih, List.lex_cons_iff]
    simp
  | case4 a as b bs hne =>
    simp only [decide_eq_true_eq, List.cons.injEq, hne, false_and, false_or]
    constructor
    · exact List.Lex.rel
    · rintro (_ | h | h)
      · exact h
      · contradiction

theorem namesBefore_total (a b : Names) : (namesBefore a b || namesBefore b a) = true := by
  rw [Bool.or_eq_true, namesBefore_iff, namesBefore_iff]
  by_contra hneither
  obtain ⟨⟨hne, hab⟩, -, hba⟩ := by simpa only [not_or] using hneither
  exact hne (Std.Trichotomous.trichotomous a b hab hba)

theorem namesBefore_trans (a b c : Names) (hab : namesBefore a b = true)
    (hbc : namesBefore b c = true) : namesBefore a c = true := by
  rw [namesBefore_iff] at hab hbc ⊢
  rcases hab with rfl | hab
  · exact hbc
  · rcases hbc with rfl | hbc
    · exact .inr hab
    · exact .inr (List.lex_trans String.lt_trans hab hbc)

theorem pairwise_below (t : Tree) (names : Names) :
    (below t names).Pairwise fun a b => a = b ∨ List.Lex (· < ·) a b :=
  (List.pairwise_mergeSort namesBefore_trans namesBefore_total _).imp namesBefore_iff.1

theorem mem_below :
    rest ∈ below t above ↔ rest ≠ [] ∧ ∃ entry, (above ++ rest, entry) ∈ t.entries := by
  unfold below
  rw [List.mem_mergeSort, List.mem_filterMap]
  constructor
  · rintro ⟨⟨names, entry⟩, hmem, hsome⟩
    split at hsome
    · rename_i hbelow
      obtain ⟨hstart, hlt⟩ := hbelow
      obtain ⟨rest', rfl⟩ := List.isPrefixOf_iff_prefix.1 hstart
      rw [List.drop_left] at hsome
      obtain rfl := Option.some.inj hsome
      refine ⟨?_, entry, hmem⟩
      rintro rfl
      simp at hlt
    · cases hsome
  · rintro ⟨hne, entry, hmem⟩
    refine ⟨_, hmem, ?_⟩
    rw [if_pos, List.drop_left]
    exact ⟨List.isPrefixOf_iff_prefix.2 (List.prefix_append above rest),
      by simpa [List.length_pos_iff] using hne⟩

/-- The path by which a root leads to a file: the root itself, or after the root the names of the
file below the directory that the root is. -/
inductive Spells (t : Tree) (root : Path) (names : Names) : Path → Prop
  | itself {bytes : List UInt8} (located : t.locate root = .ok (names, .file bytes)) :
    Spells t root names root
  | below {above rest : Names} (located : t.locate root = .ok (above, .directory))
    (split : names = above ++ rest) :
    Spells t root names { root with segments := root.segments ++ rest }

theorem Spells.unique {other : Path} (h : Spells t root names path)
    (h' : Spells t root names other) : other = path := by
  cases h with
  | itself hlocate =>
    cases h' with
    | itself => rfl
    | below hdir => cases hlocate.symm.trans hdir
  | below hdir hsplit =>
    cases h' with
    | itself hlocate => cases hlocate.symm.trans hdir
    | below hdir' hsplit' =>
      obtain ⟨rfl, -⟩ := Prod.mk.inj (Except.ok.inj (hdir.symm.trans hdir'))
      rw [List.append_cancel_left (hsplit.symm.trans hsplit')]

theorem rest_ne_nil (hleads : t.LeadsTo (above ++ rest) (.file bytes))
    (habove : t.locate root = .ok (above, .directory)) : rest ≠ [] := by
  rintro rfl
  rw [List.append_nil] at hleads
  cases hleads.unique (Tree.locate_eq_ok habove).1

theorem Spells.locate (h : Spells t root names path) (hleads : t.LeadsTo names (.file bytes)) :
    t.locate path = .ok (names, .file bytes) := by
  cases h with
  | itself hlocate =>
    cases hleads.unique (Tree.locate_eq_ok hlocate).1
    exact hlocate
  | @below above rest hdir hsplit =>
    subst hsplit
    have hrest : rest ≠ [] := rest_ne_nil hleads hdir
    obtain ⟨here, hstart, hfollow⟩ := Tree.exists_start hdir
    have hchild : t.start { root with segments := root.segments ++ rest } = .ok here := hstart
    rw [Tree.locate_of_start hchild, Tree.follow_append, hfollow]
    exact Tree.follow_below hleads hrest

/-- Below a directory, a path spelled with plain names has its place where these lead. -/
theorem place_below (habove : t.locate root = .ok (above, .directory)) (hrest : ".." ∉ rest) :
    t.place { root with segments := root.segments ++ rest } = above ++ rest := by
  obtain ⟨here, hstart, -⟩ := Tree.exists_start habove
  have hplace := (Tree.start_eq_ok hstart).2
  have hchild : t.start { root with segments := root.segments ++ rest } = .ok here := hstart
  rw [(Tree.locate_eq_ok habove).2] at hplace
  rw [(Tree.start_eq_ok hchild).2, List.foldl_append, ← hplace]
  exact foldl_step_plain above hrest

/-- Of what a root stands for, the files are those that it leads to. -/
theorem mem_candidates_iff (hplain : t.Plain) (root path : Path) (names : Names)
    (bytes : List UInt8) :
    path ∈ candidates t root ∧ t.locate path = .ok (names, .file bytes) ↔
      t.LeadsTo names (.file bytes) ∧ Spells t root names path := by
  constructor
  · rintro ⟨hmem, hlocate⟩
    obtain ⟨hleads, hplace⟩ := Tree.locate_eq_ok hlocate
    refine ⟨hleads, ?_⟩
    unfold candidates at hmem
    split at hmem
    · obtain rfl := List.mem_singleton.1 hmem
      exact .itself hlocate
    · rename_i above hdir
      obtain ⟨rest, hrest, rfl⟩ := List.mem_map.1 hmem
      obtain ⟨-, entry, hentry⟩ := mem_below.1 hrest
      have hup : ".." ∉ rest := fun hup => hplain _ hentry (List.mem_append_right above hup)
      rw [place_below hdir hup] at hplace
      exact .below hdir hplace.symm
    · cases hmem
  · rintro ⟨hleads, hspells⟩
    refine ⟨?_, hspells.locate hleads⟩
    cases hspells with
    | itself hlocate =>
      simp only [candidates, hlocate, List.mem_singleton]
    | @below above rest hdir hsplit =>
      have hentry : t.entries.lookup names = some (.file bytes) := by
        have hfound := hleads.found
        rwa [Tree.find?, if_neg hleads.ne_nil] at hfound
      subst hsplit
      have hbelow : rest ∈ below t above :=
        mem_below.2 ⟨rest_ne_nil hleads hdir, _, Tree.mem_entries_of_lookup hentry⟩
      simp only [candidates, hdir]
      exact List.mem_map_of_mem hbelow

/-- A file with one of the extensions that no excluded path is or holds. -/
structure Wanted (t : Tree) (extensions excluded : List String) (names : Names) : Prop where
  suffix : Path.suffixOf (names.getLastD "") ∈ extensions
  kept : ∀ p ∈ excluded, ¬t.place (.ofString p) <+: names

theorem isWanted_iff (hlocate : t.locate path = .ok (names, .file bytes)) :
    isWanted t extensions (excluded.map fun p => t.place (.ofString p)) path = true ↔
      Wanted t extensions excluded names := by
  have hfile : t.isFile path = true := Tree.isFile_iff.2 ⟨names, bytes, hlocate⟩
  have hname : names.getLastD "" = path.name := by
    obtain ⟨parent, -, -, -, rfl⟩ := Tree.parent_of_file hlocate
    simp
  unfold isWanted
  rw [hfile, (Tree.locate_eq_ok hlocate).2, Bool.and_true, Bool.and_eq_true, Bool.not_eq_true',
    List.any_eq_false, List.forall_mem_map, List.contains_iff_mem, Path.suffix, ← hname]
  simp only [List.isPrefixOf_iff_prefix]
  exact ⟨fun h => ⟨h.1, h.2⟩, fun h => ⟨h.1, h.2⟩⟩

theorem locate_of_place (hfile : t.isFile path = true) (hleads : t.LeadsTo names (.file bytes))
    (hplace : t.place path = names) : t.locate path = .ok (names, .file bytes) := by
  obtain ⟨names', bytes', hlocate⟩ := Tree.isFile_iff.1 hfile
  obtain ⟨hleads', hplace'⟩ := Tree.locate_eq_ok hlocate
  obtain rfl := hplace'.symm.trans hplace
  cases hleads.unique hleads'
  exact hlocate

theorem unseen_append (t : Tree) (seen : List Names) (first more : List Path) :
    unseen t seen (first ++ more) = unseen t seen first ++
      unseen t (((unseen t seen first).map t.place).reverse ++ seen) more := by
  fun_induction unseen t seen first with
  | case1 seen => rfl
  | case2 seen path rest place hseen ih =>
    rw [List.cons_append, unseen, if_pos hseen]
    exact ih
  | case3 seen path rest place hnew ih =>
    rw [List.cons_append, unseen, if_neg hnew, ih, List.map_cons, List.reverse_cons,
      List.append_assoc, List.singleton_append, List.cons_append]

theorem exists_mem_unseen {seen : List Names} {paths : List Path} (hmem : path ∈ paths)
    (hnew : t.place path ∉ seen) :
    ∃ other ∈ unseen t seen paths, t.place other = t.place path := by
  fun_induction unseen t seen paths with
  | case1 seen => cases hmem
  | case2 seen first rest place hseen ih =>
    rcases List.mem_cons.1 hmem with rfl | hmem
    · exact absurd (List.contains_iff_mem.1 hseen) hnew
    · exact ih hmem hnew
  | case3 seen first rest place hfirst ih =>
    by_cases hplace : t.place path = place
    · exact ⟨first, List.mem_cons_self, hplace.symm⟩
    · have hrest : path ∈ rest := by
        rcases List.mem_cons.1 hmem with rfl | hmem
        · contradiction
        · exact hmem
      obtain ⟨other, hother, heq⟩ := ih hrest fun hseen => by
        rcases List.mem_cons.1 hseen with hseen | hseen
        · exact hplace hseen
        · exact hnew hseen
      exact ⟨other, List.mem_cons_of_mem first hother, heq⟩

/-- What a root alone leads to. -/
def filesOf (t : Tree) (extensions excluded : List String) (root : String) : List Path :=
  (candidates t (.ofString root)).filter
    (isWanted t extensions (excluded.map fun p => t.place (.ofString p)))

theorem files_eq (t : Tree) (roots extensions excluded : List String) :
    files t roots extensions excluded =
      unseen t [] (roots.flatMap (filesOf t extensions excluded)) := by
  simp only [files, List.filter_flatMap]
  rfl

/-- More roots only add to the files of the roots before them. -/
theorem files_append (t : Tree) (roots more extensions excluded : List String) :
    files t (roots ++ more) extensions excluded = files t roots extensions excluded ++
      unseen t ((files t roots extensions excluded).map t.place).reverse
        (more.flatMap (filesOf t extensions excluded)) := by
  rw [files_eq, files_eq, List.flatMap_append, unseen_append, List.append_nil]

theorem mem_filesOf_iff (hplain : t.Plain) {root : String} :
    path ∈ filesOf t extensions excluded root ↔
      ∃ names bytes, t.LeadsTo names (.file bytes) ∧ Spells t (.ofString root) names path ∧
        Wanted t extensions excluded names := by
  unfold filesOf
  rw [List.mem_filter]
  constructor
  · rintro ⟨hcandidate, hwanted⟩
    obtain ⟨names, bytes, hlocate⟩ := Tree.isFile_iff.1 (isFile_of_isWanted hwanted)
    obtain ⟨hleads, hspells⟩ :=
      (mem_candidates_iff hplain _ path names bytes).1 ⟨hcandidate, hlocate⟩
    exact ⟨names, bytes, hleads, hspells, (isWanted_iff hlocate).1 hwanted⟩
  · rintro ⟨names, bytes, hleads, hspells, hwanted⟩
    obtain ⟨hcandidate, hlocate⟩ :=
      (mem_candidates_iff hplain _ path names bytes).2 ⟨hleads, hspells⟩
    exact ⟨hcandidate, (isWanted_iff hlocate).2 hwanted⟩

/-- The root is the file, or a directory that holds it at some depth. -/
def Covers (t : Tree) (root : String) (names : Names) : Prop :=
  ∃ path, Spells t (.ofString root) names path

theorem mem_files_iff (hplain : t.Plain) (hleads : t.LeadsTo names (.file bytes)) :
    (∃ path ∈ files t roots extensions excluded, t.locate path = .ok (names, .file bytes)) ↔
      Wanted t extensions excluded names ∧ ∃ root ∈ roots, Covers t root names := by
  constructor
  · rintro ⟨path, hpath, hlocate⟩
    rw [files_eq] at hpath
    obtain ⟨root, hroot, hof⟩ := List.mem_flatMap.1 ((unseen_sublist t _ _).subset hpath)
    obtain ⟨names', bytes', hleads', hspells, hwanted⟩ := (mem_filesOf_iff hplain).1 hof
    obtain ⟨rfl, -⟩ :=
      Prod.mk.inj (Except.ok.inj ((hspells.locate hleads').symm.trans hlocate))
    exact ⟨hwanted, root, hroot, path, hspells⟩
  · rintro ⟨hwanted, root, hroot, path, hspells⟩
    have hof : path ∈ roots.flatMap (filesOf t extensions excluded) :=
      List.mem_flatMap.2
        ⟨root, hroot, (mem_filesOf_iff hplain).2 ⟨names, bytes, hleads, hspells, hwanted⟩⟩
    obtain ⟨other, hother, hplace⟩ := exists_mem_unseen hof List.not_mem_nil
    rw [← files_eq] at hother
    exact ⟨other, hother, locate_of_place (isFile_of_mem_files hother) hleads
      (hplace.trans (Tree.locate_eq_ok (hspells.locate hleads)).2)⟩

theorem pairwise_candidates (t : Tree) (root : Path) :
    (candidates t root).Pairwise fun a b =>
      a = b ∨ List.Lex (· < ·) a.segments b.segments := by
  unfold candidates
  split
  · exact List.pairwise_singleton _ _
  · rename_i above _
    refine List.pairwise_map.2 ((pairwise_below t above).imp fun {a b} hab => ?_)
    rcases hab with rfl | hab
    · exact .inl rfl
    · exact .inr (hab.append_left _ root.segments)
  · exact List.Pairwise.nil

/-- What a root adds to the files of the roots before it: the wanted files that it covers and none
of those do, spelled from the root on and in the order of their segments. -/
structure Adds (t : Tree) (extensions excluded before : List String) (root : String)
    (share : List Path) : Prop where
  mem_iff : ∀ path, path ∈ share ↔ ∃ names bytes, t.LeadsTo names (.file bytes) ∧
    Spells t (.ofString root) names path ∧ Wanted t extensions excluded names ∧
    ∀ earlier ∈ before, ¬Covers t earlier names
  ordered : share.Pairwise fun a b => List.Lex (· < ·) a.segments b.segments

theorem adds_unseen (hplain : t.Plain) (before : List String) (root : String) :
    Adds t extensions excluded before root
      (unseen t ((files t before extensions excluded).map t.place).reverse
        (filesOf t extensions excluded root)) where
  mem_iff path := by
    constructor
    · intro hmem
      obtain ⟨names, bytes, hleads, hspells, hwanted⟩ :=
        (mem_filesOf_iff hplain).1 ((unseen_sublist t _ _).subset hmem)
      refine ⟨names, bytes, hleads, hspells, hwanted, fun earlier hearlier hcovers => ?_⟩
      obtain ⟨other, hother, hlocate⟩ :=
        (mem_files_iff hplain hleads).2 ⟨hwanted, earlier, hearlier, hcovers⟩
      refine place_notMem_of_mem_unseen hmem
        (List.mem_reverse.2 (List.mem_map.2 ⟨other, hother, ?_⟩))
      rw [(Tree.locate_eq_ok hlocate).2, (Tree.locate_eq_ok (hspells.locate hleads)).2]
    · rintro ⟨names, bytes, hleads, hspells, hwanted, hfirst⟩
      have hplace := (Tree.locate_eq_ok (hspells.locate hleads)).2
      have hnew : t.place path ∉
          ((files t before extensions excluded).map t.place).reverse := by
        intro hseen
        obtain ⟨other, hother, heq⟩ := List.mem_map.1 (List.mem_reverse.1 hseen)
        have hlocate := locate_of_place (isFile_of_mem_files hother) hleads (heq.trans hplace)
        obtain ⟨-, earlier, hearlier, hcovers⟩ :=
          (mem_files_iff hplain hleads).1 ⟨other, hother, hlocate⟩
        exact hfirst earlier hearlier hcovers
      obtain ⟨other, hother, heq⟩ := exists_mem_unseen
        ((mem_filesOf_iff hplain).2 ⟨names, bytes, hleads, hspells, hwanted⟩) hnew
      obtain ⟨names', bytes', hleads', hspells', -⟩ :=
        (mem_filesOf_iff hplain).1 ((unseen_sublist t _ _).subset hother)
      -- One place, so one file, which a root spells in one way.
      have hplace' := (Tree.locate_eq_ok (hspells'.locate hleads')).2
      obtain rfl := hplace'.symm.trans (heq.trans hplace)
      exact hspells.unique hspells' ▸ hother
  ordered := by
    have hsorted := ((pairwise_candidates t (.ofString root)).sublist List.filter_sublist).sublist
      (unseen_sublist t ((files t before extensions excluded).map t.place).reverse
        (filesOf t extensions excluded root))
    exact hsorted.imp₂ (fun a b hab hne => hab.resolve_left fun heq => hne (heq ▸ rfl))
      (unseen_apart t _ _)

/-- Discovery finds files only, and of the files of a tree exactly the wanted ones that a root
covers, each of them once. Root by root it adds those that no earlier root covers, so that more
roots never change what the roots before them gave. -/
theorem files_exact (hplain : t.Plain) (roots extensions excluded : List String) :
    let found := files t roots extensions excluded
    (∀ path ∈ found, ∃ names bytes, t.locate path = .ok (names, .file bytes)) ∧
      (∀ names bytes, t.LeadsTo names (.file bytes) →
        ((∃ path ∈ found, t.locate path = .ok (names, .file bytes)) ↔
          Wanted t extensions excluded names ∧ ∃ root ∈ roots, Covers t root names)) ∧
      found.Pairwise (fun a b => t.locate a ≠ t.locate b) ∧
      (∀ before root after, roots = before ++ root :: after →
        ∃ share, Adds t extensions excluded before root share ∧
          files t (before ++ [root]) extensions excluded =
            files t before extensions excluded ++ share) ∧
      ∀ first more, roots = first ++ more → files t first extensions excluded <+: found := by
  intro found
  refine ⟨fun path hpath => Tree.isFile_iff.1 (isFile_of_mem_files hpath),
    fun names bytes hleads => mem_files_iff hplain hleads, ?_, ?_, ?_⟩
  · refine (files_apart t roots extensions excluded).imp_of_mem fun {a b} ha hb hne heq => hne ?_
    obtain ⟨names, bytes, hlocate⟩ := Tree.isFile_iff.1 (isFile_of_mem_files ha)
    rw [(Tree.locate_eq_ok hlocate).2, (Tree.locate_eq_ok (heq ▸ hlocate)).2]
  · intro before root after _
    refine ⟨_, adds_unseen hplain before root, ?_⟩
    rw [files_append, List.flatMap_singleton]
  · rintro first more rfl
    exact ⟨_, (files_append t first more extensions excluded).symm⟩

/-- A file that three roots cover, below the working directory, from the root and by way of the
directory above, is found by the first of them; one below an excluded directory is not found. -/
theorem files_exact_spelled_thrice :
    let t : Tree := {
      entries := [(["proj"], .directory), (["proj", "src"], .directory),
        (["proj", "src", "gen"], .directory), (["proj", "src", "gen", "b.swift"], .file []),
        (["proj", "src", "a.swift"], .file [])]
      cwd := ["proj"] }
    let roots := ["src/gen/../a.swift", "/proj/src", "../proj"]
    let excluded := ["/proj/src/./gen"]
    let found := files t roots [".swift"] excluded
    t.Plain ∧ (∃ path ∈ found, t.locate path = .ok (["proj", "src", "a.swift"], .file [])) ∧
      (¬∃ path ∈ found, t.locate path = .ok (["proj", "src", "gen", "b.swift"], .file [])) ∧
      files t ["src/gen/../a.swift"] [".swift"] excluded <+: found := by
  intro t roots excluded found
  have hplain : t.Plain := by decide
  obtain ⟨-, hmem, -, -, hmore⟩ := files_exact hplain roots [".swift"] excluded
  have ha : t.locate (.ofString "src/gen/../a.swift") =
      .ok (["proj", "src", "a.swift"], .file []) := by
    decide +kernel
  have hb : t.locate (.ofString "/proj/src/gen/b.swift") =
      .ok (["proj", "src", "gen", "b.swift"], .file []) := by
    decide +kernel
  refine ⟨hplain, ?_, ?_, hmore _ ["/proj/src", "../proj"] rfl⟩
  · exact (hmem _ _ (Tree.locate_eq_ok ha).1).2
      ⟨⟨by decide +kernel, by decide +kernel⟩, _, List.mem_cons_self, _, .itself ha⟩
  · intro hfound
    have hwanted := ((hmem _ _ (Tree.locate_eq_ok hb).1).1 hfound).1
    exact hwanted.kept "/proj/src/./gen" List.mem_cons_self (by decide +kernel)

end Discovery

end PatternLint
