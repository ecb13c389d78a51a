import PatternLint.Yaml.Read

/-! The keys of mappings. Whatever a document says, a mapping that is read from it has each text
only once among its keys. -/

namespace PatternLint

theorem bind_eq_ok_iff {α β ε : Type} {x : Except ε α} {f : α → Except ε β} {b : β} :
    x >>= f = .ok b ↔ ∃ a, x = .ok a ∧ f a = .ok b := by
  cases x with
  | error e => simp [bind, Except.bind]
  | ok a => simp [bind, Except.bind]

namespace Value

variable {entries : List (Value × Value)} {key : String} {v : Value}

theorem keyed_of_isScalar (h : v.isScalar = true) : Keyed v := by
  cases v with
  | mapping _ => cases h
  | _ => trivial

theorem wellKeyed_of_isScalar (h : v.isScalar = true) : WellKeyed v := by
  cases v with
  | mapping _ => cases h
  | _ => trivial

theorem sameKey_text_iff : v.sameKey (.text key) = true ↔ v = .text key := by
  cases v <;> simp [sameKey, fraction?]

theorem sameKey_of_text : (text key).sameKey v = true ↔ v = .text key := by
  cases v <;> simp [sameKey, fraction?, eq_comm]

theorem mem_of_get? (h : get? entries key = some v) : (.text key, v) ∈ entries := by
  obtain ⟨⟨key', v'⟩, hfind, rfl⟩ := Option.map_eq_some_iff.1 h
  have hsame := List.find?_some hfind
  obtain rfl := sameKey_text_iff.1 hsame
  exact List.mem_of_find?_eq_some hfind

theorem get?_eq_none_iff : get? entries key = none ↔ ∀ v, (.text key, v) ∉ entries := by
  rw [get?, Option.map_eq_none_iff, List.find?_eq_none]
  constructor
  · intro h v hmem
    exact h _ hmem (sameKey_text_iff.2 rfl)
  · rintro h ⟨key', v⟩ hmem hsame
    obtain rfl := sameKey_text_iff.1 hsame
    exact h v hmem

theorem DistinctKeys.eq_of_mem (h : DistinctKeys entries) {v v' : Value}
    (hv : (.text key, v) ∈ entries) (hv' : (.text key, v') ∈ entries) : v = v' := by
  induction entries with
  | nil => cases hv
  | cons e entries ih =>
    obtain ⟨hhead, htail⟩ := List.pairwise_cons.1 h
    rcases List.mem_cons.1 hv with rfl | hrest
    · rcases List.mem_cons.1 hv' with heq | hrest'
      · exact (Prod.mk.inj heq).2.symm
      · exact absurd rfl (hhead _ hrest' key rfl)
    · rcases List.mem_cons.1 hv' with rfl | hrest'
      · exact absurd rfl (hhead _ hrest key rfl)
      · exact ih htail hrest hrest'

theorem DistinctKeys.get?_eq_some_iff (h : DistinctKeys entries) :
    get? entries key = some v ↔ (.text key, v) ∈ entries := by
  constructor
  · exact mem_of_get?
  · intro hv
    cases hget : get? entries key with
    | none => exact absurd hv (get?_eq_none_iff.1 hget v)
    | some v' => rw [h.eq_of_mem (mem_of_get? hget) hv]

theorem distinctKeys_put (h : DistinctKeys entries) (key value : Value) :
    DistinctKeys (put entries key value) := by
  unfold put
  split
  · refine List.pairwise_map.2 (h.imp fun {e e'} hne => ?_)
    split <;> split <;> exact hne
  · rename_i hnew
    refine List.pairwise_append.2 ⟨h, List.pairwise_singleton _ _, ?_⟩
    rintro e he e' he' name hname heq
    obtain rfl := List.mem_singleton.1 he'
    refine hnew (List.any_eq_true.2 ⟨e, he, ?_⟩)
    rw [hname]
    exact sameKey_of_text.2 heq

theorem keyed_of_mem_put {key value : Value} (h : ∀ e ∈ entries, Keyed e.2) (hvalue : Keyed value) :
    ∀ e ∈ put entries key value, Keyed e.2 := by
  intro e he
  unfold put at he
  split at he
  · obtain ⟨e', he', rfl⟩ := List.mem_map.1 he
    split
    · exact hvalue
    · exact h e' he'
  · rcases List.mem_append.1 he with he | he
    · exact h e he
    · obtain rfl := List.mem_singleton.1 he
      exact hvalue

theorem keyed_ofEntries (entries : List (Value × Value)) : Keyed (ofEntries entries) := by
  suffices h : ∀ start, DistinctKeys start →
      DistinctKeys (entries.foldl (fun es e => put es e.1 e.2) start) from h [] .nil
  induction entries with
  | nil => exact fun start h => h
  | cons e entries ih => exact fun start h => ih _ (distinctKeys_put h e.1 e.2)

theorem wellKeyed_ofEntries (h : ∀ e ∈ entries, Keyed e.2) : WellKeyed (ofEntries entries) := by
  refine ⟨keyed_ofEntries entries, ?_⟩
  suffices hfold : ∀ start, (∀ e ∈ start, Keyed e.2) →
      ∀ e ∈ entries.foldl (fun es e => put es e.1 e.2) start, Keyed e.2 from hfold [] nofun
  induction entries with
  | nil => exact fun start hstart => hstart
  | cons e entries ih =>
    obtain ⟨hvalue, hrest⟩ := List.forall_mem_cons.1 h
    exact fun start hstart => ih hrest _ (keyed_of_mem_put hstart hvalue)

end Value

namespace Yaml

open Value (Keyed WellKeyed)

variable {tag : Option String} {text : Text} {plain : Bool} {v : Value} {n : Node} {m : Merged}

theorem isScalar_of_intValue {n : Int} (h : intValue text n = .ok v) : v.isScalar = true := by
  unfold intValue at h
  dsimp only at h
  split at h
  · cases h
  · cases h; rfl

theorem isScalar_of_plainValue (h : plainValue text = .ok v) : v.isScalar = true := by
  unfold plainValue at h
  dsimp only at h
  split at h
  · cases h; rfl
  · split at h
    · cases h
    · split at h
      · cases h; rfl
      · cases h; rfl
      · exact isScalar_of_intValue h
      · split at h
        · cases h; rfl
        · cases h
      · split at h
        · cases h
        · cases h; rfl

theorem isScalar_of_required {α : Type} {f : α → Value} (hf : ∀ a, (f a).isScalar = true)
    {scalar : Valueless} {a? : Option α} (h : required f scalar a? = .ok v) :
    v.isScalar = true := by
  cases a? with
  | none => cases h
  | some a => cases h; exact hf a

theorem isScalar_of_scalarValue (h : scalarValue tag text plain = .ok v) : v.isScalar = true := by
  unfold scalarValue at h
  split at h
  · split at h
    · exact isScalar_of_plainValue h
    · cases h; rfl
  · dsimp only at h
    split at h
    · exact isScalar_of_plainValue h
    split at h
    · cases h; rfl
    split at h
    · cases h; rfl
    split at h
    · exact isScalar_of_required (fun _ => rfl) h
    split at h
    · split at h
      · exact isScalar_of_intValue h
      · cases h
    split at h
    · exact isScalar_of_required (fun _ => rfl) h
    · cases h

theorem value_cases (h : n.value = .ok v) :
    v.isScalar = true ∨ (∃ vs, v = .list vs) ∨
      ∃ entries m, merged entries = .ok m ∧ v = .ofEntries m.entries := by
  cases n with
  | scalar tag text plain =>
    rw [Node.value] at h
    exact .inl (isScalar_of_scalarValue h)
  | sequence tag items =>
    simp only [Node.value, bind_eq_ok_iff] at h
    obtain ⟨_, -, vs, -, h⟩ := h
    cases h
    exact .inr (.inl ⟨vs, rfl⟩)
  | mapping tag entries =>
    simp only [Node.value, bind_eq_ok_iff] at h
    obtain ⟨_, -, m, hm, h⟩ := h
    cases h
    exact .inr (.inr ⟨entries, m, hm, rfl⟩)

theorem keyed_of_value (h : n.value = .ok v) : Keyed v := by
  rcases value_cases h with hscalar | ⟨vs, rfl⟩ | ⟨entries, m, -, rfl⟩
  · exact Value.keyed_of_isScalar hscalar
  · trivial
  · exact Value.keyed_ofEntries _

mutual

theorem keyed_of_merged : ∀ {entries : List (Node × Node)} {m : Merged},
    merged entries = .ok m → ∀ e ∈ m.entries, Keyed e.2
  | [], m, h => by
    rw [merged] at h
    cases h
    nofun
  | (key, node) :: rest, m, h => by
    rw [merged] at h
    split at h
    · simp only [bind_eq_ok_iff] at h
      obtain ⟨taken, htaken, later, hlater, h⟩ := h
      cases h
      intro e he
      simp only [Merged.entries, List.append_assoc, List.mem_append] at he
      rcases he with he | he
      · exact keyed_of_takenFrom htaken e he
      · exact keyed_of_merged hlater e (List.mem_append.2 he)
    · -- The entry comes after those that were taken in, but before the rest of the mapping's own.
      have hown {k : Value} (h : (do
          if !k.isScalar then throw Error.compoundKey
          let v ← node.value
          let later ← merged rest
          return { later with own := (k, v) :: later.own }) = Except.ok m) :
          ∀ e ∈ m.entries, Keyed e.2 := by
        split at h
        · cases h
        · simp only [bind_eq_ok_iff] at h
          obtain ⟨v, hv, later, hlater, h⟩ := h
          cases h
          intro e he
          simp only [Merged.entries, List.mem_append, List.mem_cons] at he
          rcases he with he | rfl | he
          · exact keyed_of_merged hlater e (List.mem_append.2 (.inl he))
          · exact keyed_of_value hv
          · exact keyed_of_merged hlater e (List.mem_append.2 (.inr he))
      split at h
      · obtain ⟨k, -, h⟩ := bind_eq_ok_iff.1 h
        exact hown h
      · obtain ⟨k, -, h⟩ := bind_eq_ok_iff.1 h
        exact hown h

theorem keyed_of_takenFrom : ∀ {n : Node} {es : List (Value × Value)},
    takenFrom n = .ok es → ∀ e ∈ es, Keyed e.2
  | .scalar .., es, h => by
    rw [takenFrom] at h
    cases h
  | .mapping tag entries, es, h => by
    rw [takenFrom, bind_eq_ok_iff] at h
    obtain ⟨m, hm, h⟩ := h
    cases h
    exact keyed_of_merged hm
  | .sequence tag items, es, h => by
    rw [takenFrom] at h
    exact keyed_of_takenFromEach h

theorem keyed_of_takenFromEach : ∀ {ns : List Node} {es : List (Value × Value)},
    takenFromEach ns = .ok es → ∀ e ∈ es, Keyed e.2
  | [], es, h => by
    rw [takenFromEach] at h
    cases h
    nofun
  | .mapping tag entries :: ns, es, h => by
    rw [takenFromEach, bind_eq_ok_iff] at h
    obtain ⟨m, hm, h⟩ := h
    rw [bind_eq_ok_iff] at h
    obtain ⟨rest, hrest, h⟩ := h
    cases h
    intro e he
    rcases List.mem_append.1 he with he | he
    · exact keyed_of_takenFromEach hrest e he
    · exact keyed_of_merged hm e he
  | .scalar .. :: _, es, h => by
    cases h
  | .sequence .. :: _, es, h => by
    cases h

end

theorem wellKeyed_of_value (h : n.value = .ok v) : WellKeyed v := by
  rcases value_cases h with hscalar | ⟨vs, rfl⟩ | ⟨entries, m, hm, rfl⟩
  · exact Value.wellKeyed_of_isScalar hscalar
  · trivial
  · exact Value.wellKeyed_ofEntries (keyed_of_merged hm)

/-- What a document reads to is a value with distinct keys. -/
theorem wellKeyed_of_read {s : Text} (h : read s = .ok v) : WellKeyed v := by
  simp only [read] at h
  split at h
  · cases h
  · simp only [bind_eq_ok_iff] at h
    obtain ⟨items, -, n?, -, h⟩ := h
    cases n? with
    | none => cases h; trivial
    | some n => exact wellKeyed_of_value h

end Yaml

end PatternLint
