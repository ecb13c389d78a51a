import PatternLint.Value.Printed

/-! Values that cannot be printed. An integer of too many digits is not printed, and neither is
anything that holds one. -/

namespace PatternLint

/-- A bind fails in its first part, or in its second, whose failing does not depend on the first. -/
theorem exists_error_bind_iff {α β ε : Type} {x : Except ε α} {f : α → Except ε β} {P : Prop}
    (h : ∀ a, (∃ e, f a = .error e) ↔ P) :
    (∃ e, x >>= f = .error e) ↔ (∃ e, x = .error e) ∨ P := by
  cases x with
  | error e => exact iff_of_true ⟨e, rfl⟩ (.inl ⟨e, rfl⟩)
  | ok a => exact (h a).trans (or_iff_right nofun).symm

namespace Value

/-- What in a value stands in the way of printing it. -/
inductive Unprintable : Value → Prop
  | int {n : Int} (long : Nat.pow 10 maxDigits ≤ n.natAbs) : Unprintable (.int n)
  | object {shown quoted : Except Unforeseen String} {e : Unforeseen} (failed : quoted = .error e) :
    Unprintable (.object shown quoted)
  | item {items : List Value} {v : Value} (mem : v ∈ items) (inner : Unprintable v) :
    Unprintable (.list items)
  | key {es : List (Value × Value)} {k v : Value} (mem : (k, v) ∈ es) (inner : Unprintable k) :
    Unprintable (.mapping es)
  | entry {es : List (Value × Value)} {k v : Value} (mem : (k, v) ∈ es) (inner : Unprintable v) :
    Unprintable (.mapping es)

theorem quoted_int_of_long {n : Int} (h : Nat.pow 10 maxDigits ≤ n.natAbs) :
    (int n).quoted = .error tooManyDigits := by
  rw [quoted]
  exact if_neg (Nat.not_lt.2 h)

theorem exists_error_quoted_int_iff {n : Int} :
    (∃ e, (int n).quoted = .error e) ↔ Nat.pow 10 maxDigits ≤ n.natAbs := by
  by_cases h : Nat.pow 10 maxDigits ≤ n.natAbs
  · exact iff_of_true ⟨_, quoted_int_of_long h⟩ h
  · refine iff_of_false ?_ h
    rintro ⟨_, he⟩
    rw [quoted, printedInt, if_pos (Nat.not_le.1 h)] at he
    cases he

/-- What is done to a printed text does not fail. -/
theorem exists_error_map_iff {α β : Type} {x : Except Unforeseen α} {f : α → β} :
    (∃ e, (do return f (← x)) = Except.error e) ↔ ∃ e, x = .error e := by
  rw [exists_error_bind_iff fun _ => iff_of_false ?_ id]
  · exact or_iff_left id
  · rintro ⟨_, h⟩
    cases h

mutual

theorem exists_error_quoted_iff : ∀ v : Value, (∃ e, v.quoted = .error e) ↔ Unprintable v
  | .null | .bool _ | .float _ | .text _ | .date .. => by
    rw [quoted]
    exact iff_of_false nofun nofun
  | .int n => exists_error_quoted_int_iff.trans ⟨.int, fun | .int h => h⟩
  | .object _ q => by
    rw [quoted]
    exact ⟨fun ⟨_, h⟩ => .object h, fun | .object h => ⟨_, h⟩⟩
  | .list items => by
    rw [quoted, exists_error_map_iff, exists_error_quotedItems_iff items]
    constructor
    · rintro ⟨v, hv, hinner⟩
      exact .item hv hinner
    · rintro (_ | _ | ⟨hv, hinner⟩)
      exact ⟨_, hv, hinner⟩
  | .mapping es => by
    rw [quoted, exists_error_map_iff, exists_error_quotedEntries_iff es]
    constructor
    · rintro ⟨p, hp, hkey | hvalue⟩
      · exact .key hp hkey
      · exact .entry hp hvalue
    · rintro (_ | _ | _ | ⟨hp, hinner⟩ | ⟨hp, hinner⟩)
      · exact ⟨_, hp, .inl hinner⟩
      · exact ⟨_, hp, .inr hinner⟩

theorem exists_error_quotedItems_iff : ∀ items : List Value,
    (∃ e, quotedItems items = .error e) ↔ ∃ v ∈ items, Unprintable v
  | [] => by
    rw [quotedItems]
    exact iff_of_false nofun nofun
  | v :: vs => by
    rw [quotedItems, exists_error_bind_iff fun _ => exists_error_map_iff,
      exists_error_quoted_iff v, exists_error_quotedItems_iff vs]
    simp only [List.mem_cons, exists_eq_or_imp]

theorem exists_error_quotedEntries_iff : ∀ es : List (Value × Value),
    (∃ e, quotedEntries es = .error e) ↔ ∃ p ∈ es, Unprintable p.1 ∨ Unprintable p.2
  | [] => by
    rw [quotedEntries]
    exact iff_of_false nofun nofun
  | (k, v) :: es => by
    rw [quotedEntries, exists_error_bind_iff fun _ => exists_error_bind_iff fun _ =>
      exists_error_map_iff, exists_error_quoted_iff k, exists_error_quoted_iff v,
      exists_error_quotedEntries_iff es]
    simp only [List.mem_cons, exists_eq_or_imp, or_assoc]

end

end Value

end PatternLint
