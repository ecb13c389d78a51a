import PatternLint.CommandLine.Run
import PatternLint.Proofs.Text.Utf8
import PatternLint.Yaml.Load

/-! Configurations as a run loads them, whatever the reader of documents. What is wrong with a
configuration is reported as such, with an exit code of its own, except where reading its file comes
upon bytes that are no text, the reader has an error of its own, or a value that is at fault cannot
be printed: then the run breaks off. -/

namespace PatternLint

theorem TextStream.ofBytes_encode (text : Text) : ofBytes (Utf8.encode text) = { text } := by
  have hdecode := decode_eq (Utf8.encode text)
  rw [Utf8.decode_encode_text] at hdecode
  generalize ofBytes (Utf8.encode text) = stream at hdecode ⊢
  obtain ⟨text', fault?⟩ := stream
  cases fault? with
  | some e => cases hdecode
  | none =>
    cases hdecode
    rfl

namespace Configuration

variable {loader : Yaml.Loader} {t : Tree} {known : List String} {asked : Option String}
  {names : Names} {bytes : List UInt8} {text : Text}

/-- Where a configuration is looked for. -/
def pathOf (asked : Option String) : Path := .ofString (asked.getD fileName)

/-- There is no file at that path. -/
def Absent (t : Tree) (asked : Option String) : Prop :=
  ∀ names bytes, t.locate (pathOf asked) ≠ .ok (names, .file bytes)

/-- The file at that path holds the text. -/
def Holds (t : Tree) (asked : Option String) (text : Text) : Prop :=
  ∃ names, t.locate (pathOf asked) = .ok (names, .file (Utf8.encode text))

/-- What ends the loading of a file without a fault of the configuration. -/
inductive Breaks (loader : Yaml.Loader) (known : List String) (path : Path) (bytes : List UInt8) :
    LoadFailure → Prop
  | undecodable {e : Utf8.DecodeError} (undecoded : Utf8.decode bytes = .error e)
    (met : loader.load (.ofBytes bytes) = .error (.undecodable e)) :
    Breaks loader known path bytes (.undecodable e)
  | reader {e : Unforeseen} (met : loader.load (.ofBytes bytes) = .error (.unforeseen e)) :
    Breaks loader known path bytes (.unforeseen e)
  | unprintable {value : Value} {e : Unforeseen} (read : loader.load (.ofBytes bytes) = .ok value)
    (untold : ofValue known (some path) value = .error (.unforeseen e)) :
    Breaks loader known path bytes (.unforeseen e)

/-- What loading a configuration comes to. -/
inductive Comes (loader : Yaml.Loader) (t : Tree) (known : List String) (asked : Option String) :
    Except LoadError Configuration → Prop
  /-- Only a file that is asked for must exist. -/
  | defaults (unasked : asked = none) (absent : Absent t asked) :
    Comes loader t known asked (.ok {})
  | missing {given : String} (named : asked = some given) (absent : Absent t asked) :
    Comes loader t known asked (.error (.configuration (.fileNotFound given)))
  | brokenOff {names : Names} {bytes : List UInt8} {f : LoadFailure}
    (located : t.locate (pathOf asked) = .ok (names, .file bytes))
    (breaks : Breaks loader known (pathOf asked) bytes f) :
    Comes loader t known asked (.error (.failure f))
  | malformed {names : Names} {bytes : List UInt8} {detail : String}
    (located : t.locate (pathOf asked) = .ok (names, .file bytes))
    (unread : loader.load (.ofBytes bytes) = .error (.invalid detail)) :
    Comes loader t known asked (.error (.configuration (.malformed (pathOf asked) detail)))
  | refused {text : Text} {value : Value} {e : ConfigurationError} (holds : Holds t asked text)
    (read : loader.load { text } = .ok value)
    (unfit : ofValue known (some (pathOf asked)) value = .error (.fault e)) :
    Comes loader t known asked (.error (.configuration e))
  | accepted {text : Text} {value : Value} {c : Configuration} (holds : Holds t asked text)
    (read : loader.load { text } = .ok value)
    (fit : ofValue known (some (pathOf asked)) value = .ok c) :
    Comes loader t known asked (.ok c)

theorem load_of_file (h : t.locate (pathOf asked) = .ok (names, .file bytes)) :
    load loader t known asked = loadFile loader known (pathOf asked) bytes := by
  unfold pathOf at h
  simp only [load, h]
  rfl

theorem load_of_absent (h : Absent t asked) :
    (load loader t known asked).result = match asked with
      | some given => .error (.configuration (.fileNotFound given))
      | none => .ok {} := by
  unfold load
  dsimp only
  split
  · rename_i hlocate
    exact absurd hlocate (h _ _)
  · rfl
  · rfl

theorem loadFile_of_breaks {path : Path} {f : LoadFailure}
    (h : Breaks loader known path bytes f) :
    (loadFile loader known path bytes).result = .error (.failure f) := by
  cases h with
  | undecodable _ hmet => simp only [loadFile, readValue, hmet]
  | reader hmet => simp only [loadFile, readValue, hmet]
  | unprintable hread hvalue => simp only [loadFile, readValue, hread, hvalue, LoadError.ofFailure]

theorem Comes.eq {r : Except LoadError Configuration} (h : Comes loader t known asked r) :
    (load loader t known asked).result = r := by
  cases h with
  | defaults hasked habsent =>
    subst hasked
    rw [load_of_absent habsent]
  | missing hasked habsent =>
    subst hasked
    rw [load_of_absent habsent]
  | brokenOff hlocate hbreaks =>
    rw [load_of_file hlocate, loadFile_of_breaks hbreaks]
  | malformed hlocate hread =>
    rw [load_of_file hlocate]
    simp only [loadFile, readValue, hread]
  | refused hholds hread hvalue =>
    obtain ⟨names, hlocate⟩ := hholds
    rw [load_of_file hlocate]
    simp only [loadFile, readValue, TextStream.ofBytes_encode, hread, hvalue, LoadError.ofFailure]
  | accepted hholds hread hvalue =>
    obtain ⟨names, hlocate⟩ := hholds
    rw [load_of_file hlocate]
    simp only [loadFile, readValue, TextStream.ofBytes_encode, hread, hvalue]

/-- A file whose stream gives a value holds a text. -/
theorem encode_of_load {value : Value} (h : loader.load (.ofBytes bytes) = .ok value) :
    ∃ text, bytes = Utf8.encode text := by
  have hdecode := TextStream.decode_eq bytes
  rw [loader.faultless_of_value h] at hdecode
  exact ⟨_, (Utf8.encode_of_decode hdecode).symm⟩

theorem exists_comes_of_file (known : List String)
    (hlocate : t.locate (pathOf asked) = .ok (names, .file bytes)) :
    ∃ r, Comes loader t known asked r := by
  cases hload : loader.load (.ofBytes bytes) with
  | error failure =>
    cases failure with
    | invalid detail => exact ⟨_, .malformed hlocate hload⟩
    | unforeseen e => exact ⟨_, .brokenOff hlocate (.reader hload)⟩
    | undecodable e =>
      have hdecode := TextStream.decode_eq bytes
      rw [loader.fault_of_undecodable hload] at hdecode
      exact ⟨_, .brokenOff hlocate (.undecodable hdecode hload)⟩
  | ok value =>
    obtain ⟨text, rfl⟩ := encode_of_load hload
    have hholds : Holds t asked text := ⟨names, hlocate⟩
    have hread : loader.load { text } = .ok value := by
      rwa [TextStream.ofBytes_encode] at hload
    cases hvalue : ofValue known (some (pathOf asked)) value with
    | ok c => exact ⟨_, .accepted hholds hread hvalue⟩
    | error failure =>
      cases failure with
      | fault e => exact ⟨_, .refused hholds hread hvalue⟩
      | unforeseen e => exact ⟨_, .brokenOff hlocate (.unprintable hload hvalue)⟩

theorem exists_comes (loader : Yaml.Loader) (t : Tree) (known : List String)
    (asked : Option String) : ∃ r, Comes loader t known asked r := by
  by_cases hfile : ∃ names bytes, t.locate (pathOf asked) = .ok (names, .file bytes)
  · obtain ⟨names, bytes, hlocate⟩ := hfile
    exact exists_comes_of_file known hlocate
  · have habsent : Absent t asked := fun names bytes hlocate => hfile ⟨names, bytes, hlocate⟩
    cases hasked : asked with
    | none => exact ⟨_, .defaults rfl (hasked ▸ habsent)⟩
    | some given => exact ⟨_, .missing rfl (hasked ▸ habsent)⟩

theorem load_eq_iff {r : Except LoadError Configuration} :
    (load loader t known asked).result = r ↔ Comes loader t known asked r := by
  constructor
  · rintro rfl
    obtain ⟨r, hr⟩ := exists_comes loader t known asked
    exact hr.eq ▸ hr
  · exact Comes.eq

/-- Nothing breaks off the loading of the file, if there is one. -/
def Readable (loader : Yaml.Loader) (t : Tree) (known : List String) (asked : Option String) :
    Prop :=
  ∀ names bytes, t.locate (pathOf asked) = .ok (names, .file bytes) →
    ∀ f, ¬Breaks loader known (pathOf asked) bytes f

theorem load_failure_iff :
    (∃ f, (load loader t known asked).result = .error (.failure f)) ↔
      ¬Readable loader t known asked := by
  simp only [Readable, Classical.not_forall, Classical.not_not]
  constructor
  · rintro ⟨f, hf⟩
    cases load_eq_iff.1 hf with
    | brokenOff hlocate hbreaks => exact ⟨_, _, hlocate, f, hbreaks⟩
  · rintro ⟨names, bytes, hlocate, f, hbreaks⟩
    exact ⟨f, (Comes.brokenOff hlocate hbreaks).eq⟩

/-- Loading comes to a configuration or to a fault of it, or it breaks off. -/
theorem settles_iff :
    ((∃ c, (load loader t known asked).result = .ok c) ∨
      ∃ e, (load loader t known asked).result = .error (.configuration e)) ↔
        Readable loader t known asked := by
  rw [← Classical.not_not (a := Readable loader t known asked), ← load_failure_iff]
  rcases (load loader t known asked).result with (e | f) | c
  · simp
  · simp
  · simp

end Configuration

namespace CommandLine

variable {loader : Yaml.Loader} {t t' : Tree} {settings : Settings} {arguments : List String}
  {notes : List Note} {linter : Linter} {out : Output}

/-- A run that reports no fault of the configuration and does not break off over it. -/
def Ordinary : Except Breakdown Output → Prop
  | .ok out => out.exit ≤ 2
  | .error e => ∀ f, e ≠ .load f

theorem deliver_ne_load (settings : Settings) (report : Report) (t : Tree) (f : LoadFailure) :
    (deliver settings report t).1 ≠ .error (.load f) := by
  unfold deliver
  dsimp only
  split
  · exact nofun
  · exact nofun
  · split
    · exact nofun
    · exact nofun

theorem ordinary_finish {exit : Nat} (h : exit ≤ 2) (report : Report) :
    Ordinary (finish settings notes exit report t).1 := by
  unfold finish
  split
  · rename_i e _ hdeliver
    intro f hf
    refine deliver_ne_load settings report t f ?_
    rw [hdeliver, hf]
  · exact h

theorem ordinary_lint : Ordinary (lint settings notes linter t).1 := by
  refine ordinary_finish ?_ _
  unfold Report.exitCode
  split
  · exact Nat.le_refl 2
  · split
    · exact Nat.le_refl 2
    · split
      · exact Nat.le_succ 1
      · exact Nat.zero_le 2

theorem ordinary_autocorrect : Ordinary (autocorrect settings notes linter t).1 := by
  unfold autocorrect
  dsimp only
  split
  · intro f h
    cases h
  · refine ordinary_finish ?_ _
    split
    · exact Nat.zero_le 2
    · exact Nat.le_refl 2

theorem ordinary_rules : Ordinary (rules settings) := by
  unfold rules
  split
  · split
    · exact nofun
    · dsimp only [Ordinary]
      split
      · exact Nat.zero_le 2
      · exact Nat.le_succ 1
  · exact Nat.zero_le 2

/-- What a run says of a configuration that is at fault. -/
def faultOutput (settings : Settings) (notes : List Note) (e : ConfigurationError) : Output where
  exit := 3
  stderr := shownNotes settings.verbose notes ++ lines [s!"Configuration error: {e.message}"]

/-- The arguments make a run that loads its configuration with these settings. -/
def Loads (arguments : List String) (settings : Settings) : Prop :=
  ∃ command, Request.ofArguments arguments = .ok (.run command settings) ∧ command ≠ .rules

theorem ordinary_run (h : ∀ settings, ¬Loads arguments settings) :
    Ordinary (run loader t arguments).1 := by
  unfold run
  split
  · exact Nat.le_refl 2
  · exact Nat.zero_le 2
  · exact Nat.zero_le 2
  · rename_i command settings hrequest
    cases command with
    | lint => exact absurd ⟨.lint, hrequest, by decide⟩ (h settings)
    | autocorrect => exact absurd ⟨.autocorrect, hrequest, by decide⟩ (h settings)
    | rules => exact ordinary_rules

/-- How a run ends, by what loading its configuration comes to. -/
inductive Ends (t : Tree) (settings : Settings) (loaded : Loaded) :
    Except Breakdown Output × Tree → Prop
  | served {c : Configuration} {answer : Except Breakdown Output × Tree}
    (result : loaded.result = .ok c) (ordinary : Ordinary answer.1) : Ends t settings loaded answer
  | reported {e : ConfigurationError} (result : loaded.result = .error (.configuration e)) :
    Ends t settings loaded (.ok (faultOutput settings loaded.notes e), t)
  | brokenOff {f : LoadFailure} (result : loaded.result = .error (.failure f)) :
    Ends t settings loaded (.error (.load f), t)

namespace Ends

variable {loaded : Loaded} {answer : Except Breakdown Output × Tree}

theorem of_configuration {e : ConfigurationError} (h : Ends t settings loaded answer)
    (hresult : loaded.result = .error (.configuration e)) :
    answer = (.ok (faultOutput settings loaded.notes e), t) := by
  cases h with
  | served hserved _ => cases hresult.symm.trans hserved
  | reported hreported =>
    cases hresult.symm.trans hreported
    rfl
  | brokenOff hbroken => cases hresult.symm.trans hbroken

theorem of_failure {f : LoadFailure} (h : Ends t settings loaded answer)
    (hresult : loaded.result = .error (.failure f)) : answer = (.error (.load f), t) := by
  cases h with
  | served hserved _ => cases hresult.symm.trans hserved
  | reported hreported => cases hresult.symm.trans hreported
  | brokenOff hbroken =>
    cases hresult.symm.trans hbroken
    rfl

end Ends

theorem ends_withLinter {go : List Note → Linter → Except Breakdown Output × Tree}
    (hgo : ∀ notes linter, Ordinary (go notes linter).1) :
    Ends t settings (Configuration.load loader t Linter.knownRules settings.config)
      (withLinter loader settings t go) := by
  unfold withLinter
  dsimp only
  split
  · rename_i f hresult
    exact .brokenOff hresult
  · rename_i e hresult
    exact .reported hresult
  · rename_i c hresult
    exact .served hresult (hgo _ _)

theorem ends_run (h : Loads arguments settings) :
    Ends t settings (Configuration.load loader t Linter.knownRules settings.config)
      (run loader t arguments) := by
  obtain ⟨command, hrequest, hcommand⟩ := h
  rw [run, hrequest]
  cases command with
  | rules => contradiction
  | lint =>
    dsimp only [runCommand]
    exact ends_withLinter fun _ _ => ordinary_lint
  | autocorrect =>
    dsimp only [runCommand]
    exact ends_withLinter fun _ _ => ordinary_autocorrect

/-- A run that is not ordinary has loaded its configuration. -/
theorem exists_loads (h : ¬Ordinary (run loader t arguments).1) :
    ∃ settings, Loads arguments settings := by
  refine Classical.byContradiction fun hnone => h (ordinary_run fun settings hloads => ?_)
  exact hnone ⟨settings, hloads⟩

theorem exit_three_iff :
    run loader t arguments = (.ok out, t') ∧ out.exit = 3 ↔
      ∃ settings e, Loads arguments settings ∧
        let loaded := Configuration.load loader t Linter.knownRules settings.config
        loaded.result = .error (.configuration e) ∧
          out = faultOutput settings loaded.notes e ∧ t' = t := by
  constructor
  · rintro ⟨hrun, hexit⟩
    have hordinary : ¬Ordinary (run loader t arguments).1 := by
      rw [hrun]
      simp [Ordinary, hexit]
    obtain ⟨settings, hloads⟩ := exists_loads hordinary
    have hends : Ends t settings (Configuration.load loader t Linter.knownRules settings.config)
        (run loader t arguments) := ends_run hloads
    rw [hrun] at hends hordinary
    cases hends with
    | served _ hserved => exact absurd hserved hordinary
    | reported hresult => exact ⟨settings, _, hloads, hresult, rfl, rfl⟩
  · rintro ⟨settings, e, hloads, hresult, rfl, rfl⟩
    exact ⟨(ends_run hloads).of_configuration hresult, rfl⟩

theorem breaks_off_iff :
    (∃ f, (run loader t arguments).1 = .error (.load f)) ↔
      ∃ settings, Loads arguments settings ∧
        ¬Configuration.Readable loader t Linter.knownRules settings.config := by
  constructor
  · rintro ⟨f, hrun⟩
    have hordinary : ¬Ordinary (run loader t arguments).1 := by
      rw [hrun]
      exact fun h => h f rfl
    obtain ⟨settings, hloads⟩ := exists_loads hordinary
    refine ⟨settings, hloads, Configuration.load_failure_iff.1 ?_⟩
    have hends : Ends t settings (Configuration.load loader t Linter.knownRules settings.config)
        (run loader t arguments) := ends_run hloads
    generalize run loader t arguments = answer at hends hordinary hrun
    cases hends with
    | served _ hserved => exact absurd hserved hordinary
    | reported _ => cases hrun
    | brokenOff hbroken => exact ⟨_, hbroken⟩
  · rintro ⟨settings, hloads, hreadable⟩
    obtain ⟨f, hresult⟩ := Configuration.load_failure_iff.2 hreadable
    exact ⟨f, by rw [(ends_run hloads).of_failure hresult]⟩

/-- Loading comes to a configuration or to a fault of it exactly if the configuration is readable: a
file that is asked for and missing, a text that is no document and a value that is no configuration
are faults. Such a fault, and nothing else, ends a run with exit code 3, the fault on stderr and
every file as it was; a configuration that is not readable breaks the run off. -/
theorem run_reports_iff (loader : Yaml.Loader) (t : Tree) (known : List String)
    (asked : Option String) (arguments : List String) :
    (((∃ c, (Configuration.load loader t known asked).result = .ok c) ∨
        ∃ e, (Configuration.load loader t known asked).result = .error (.configuration e)) ↔
          Configuration.Readable loader t known asked) ∧
      (∀ r, (Configuration.load loader t known asked).result = r ↔
        Configuration.Comes loader t known asked r) ∧
      (∀ out t', run loader t arguments = (.ok out, t') ∧ out.exit = 3 ↔
        ∃ settings e, Loads arguments settings ∧
          let loaded := Configuration.load loader t Linter.knownRules settings.config
          loaded.result = .error (.configuration e) ∧
            out = faultOutput settings loaded.notes e ∧ t' = t) ∧
      ((∃ f, (run loader t arguments).1 = .error (.load f)) ↔
        ∃ settings, Loads arguments settings ∧
          ¬Configuration.Readable loader t Linter.knownRules settings.config) :=
  ⟨Configuration.settles_iff, fun _ => Configuration.load_eq_iff, fun _ _ => exit_three_iff,
    breaks_off_iff⟩

/-- A configuration of one byte that begins no character is reported neither by loading it nor by a
run. -/
theorem load_breaks_off :
    let t : Tree := { entries := [([".swiftguard.yml"], .file [0xff])] }
    (Configuration.load Yaml.loader t Linter.knownRules none).result =
      .error (.failure (.undecodable .invalidStart)) ∧
      run Yaml.loader t ["lint"] = (.error (.load (.undecodable .invalidStart)), t) := by
  intro t
  have hlocate : t.locate (Configuration.pathOf none) =
      .ok ([".swiftguard.yml"], .file [0xff]) := by rfl
  have hstream : TextStream.ofBytes [0xff] = { fault? := some .invalidStart } := by
    rw [TextStream.ofBytes]
    rfl
  have hdecode : Utf8.decode [0xff] = .error .invalidStart := by
    rw [TextStream.decode_eq, hstream]
  have hload : Yaml.loader.load (.ofBytes [0xff]) = .error (.undecodable .invalidStart) := by
    rw [hstream]
    rfl
  have hresult : (Configuration.load Yaml.loader t Linter.knownRules none).result =
      .error (.failure (.undecodable .invalidStart)) :=
    (Configuration.Comes.brokenOff hlocate (.undecodable hdecode hload)).eq
  have hloads : Loads ["lint"] {} := ⟨.lint, by rfl, by decide⟩
  exact ⟨hresult, (ends_run hloads).of_failure hresult⟩

end CommandLine

end PatternLint
