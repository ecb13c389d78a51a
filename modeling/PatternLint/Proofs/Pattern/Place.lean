import PatternLint.Pattern.Run
import PatternLint.Proofs.Span
import PatternLint.Proofs.Text.Place

/-! Runs seen from places of a text. Every state of a run stands at a place of the text it started
in, so what a run does is said by places alone. A run only moves forward, and the groups it takes
lie between its two ends, unless a lookahead takes them. -/

namespace PatternLint

/-- The state at place `i` of a text, after groups have been taken. -/
def State.atPlace (s : Text) (i : Nat) (groups : List (Nat × Span)) : State :=
  { State.ofPlace s i with groups := groups }

namespace State

variable {s : Text} {i : Nat} {g : List (Nat × Span)}

theorem ofPlace_eq (s : Text) (i : Nat) : ofPlace s i = atPlace s i [] := rfl

@[simp] theorem place_atPlace : (atPlace s i g).place = i := rfl

@[simp] theorem groups_atPlace : (atPlace s i g).groups = g := rfl

@[simp] theorem left_atPlace : (atPlace s i g).left = s.length - i := rfl

@[simp] theorem head?_rest_atPlace : (atPlace s i g).rest.head? = s[i]? := by
  simp [atPlace, ofPlace]

@[simp] theorem before_atPlace :
    (atPlace s i g).before = if i = 0 then none else s[i - 1]? := rfl

@[simp] theorem capture_atPlace (index start : Nat) :
    (atPlace s i g).capture index start = atPlace s i ((index, .between start i) :: g) := rfl

@[simp] theorem setGroups_atPlace (g' : List (Nat × Span)) :
    { atPlace s i g with groups := g' } = atPlace s i g' := rfl

theorem next?_atPlace : (atPlace s i g).next? = s[i]?.map fun c => (c, atPlace s (i + 1) g) := by
  rcases Nat.lt_or_ge i s.length with h | h
  · have hr : (atPlace s i g).rest = s[i] :: s.drop (i + 1) := List.drop_eq_getElem_cons h
    unfold next?
    split
    · rename_i hn
      exact absurd (hn.symm.trans hr) (List.cons_ne_nil _ _).symm
    · rename_i c rest hc
      obtain ⟨rfl, rfl⟩ := List.cons.inj (hc.symm.trans hr)
      simp [List.getElem?_eq_getElem h, atPlace, ofPlace, Nat.sub_sub]
  · have hr : (atPlace s i g).rest = [] := List.drop_eq_nil_of_le h
    unfold next?
    split
    · simp [h]
    · rename_i hc
      simp [hr] at hc

end State

namespace Pattern

/-- The group takes part in matches of the pattern. What lies in an unwanted lookahead does not. -/
def captures (index : Nat) : Pattern → Bool
  | empty | chars _ | anchor _ => false
  | seq p q | alt p q => captures index p || captures index q
  | group n p => n == index || captures index p
  | loop _ _ _ p => captures index p
  | ahead wanted p => wanted && captures index p

/-- The group takes part in matches of a lookahead of the pattern. -/
def capturesAhead (index : Nat) : Pattern → Bool
  | empty | chars _ | anchor _ => false
  | seq p q | alt p q => capturesAhead index p || capturesAhead index q
  | group _ p => capturesAhead index p
  | loop _ _ _ p => capturesAhead index p
  | ahead wanted p => wanted && captures index p

open State

variable {s : Text} {i : Nat} {g : List (Nat × Span)} {k : Continuation} {r : State}

/-- Whatever is to follow a body is handed a place of the text, in the relation `R` to the place at
which the body began. -/
def Follows (s : Text) (R : State → State → Prop) (body : State → Continuation → Option State) :
    Prop :=
  ∀ i g k r, body (atPlace s i g) k = some r →
    ∃ j g', R (atPlace s i g) (atPlace s j g') ∧ k (atPlace s j g') = some r

section
variable {R R' : State → State → Prop} {body : State → Continuation → Option State}

theorem Follows.mono (h : Follows s R body) (hR : ∀ {t u}, R t u → R' t u) : Follows s R' body := by
  intro i g k r hr
  obtain ⟨j, g', hij, hr⟩ := h i g k r hr
  exact ⟨j, g', hR hij, hr⟩

variable (refl : ∀ t, R t t) (trans : ∀ {t u v}, R t u → R u v → R t v) (h : Follows s R body)
include refl trans h

theorem Follows.times (n : Nat) : Follows s R (Pattern.times body n) := by
  induction n with
  | zero => exact fun i g k r hr => ⟨i, g, refl _, hr⟩
  | succ n ih =>
    intro i g k r hr
    obtain ⟨j, g', hij, hr⟩ := h i g _ r hr
    obtain ⟨m, g'', hjm, hr⟩ := ih j g' k r hr
    exact ⟨m, g'', trans hij hjm, hr⟩

theorem Follows.upTo (greedy : Bool) (most : Option Nat) :
    Follows s R fun t k => Pattern.upTo body greedy k most t := by
  intro i
  induction hn : s.length - i using Nat.strongRecOn generalizing i most with
  | ind n ih =>
    intro g k r hr
    -- a turn of the loop, whether it is taken first or last
    have turn : body (atPlace s i g) (fun t => if t.left < (atPlace s i g).left then
        Pattern.upTo body greedy k (most.map (· - 1)) t else k t) = some r →
        ∃ j g', R (atPlace s i g) (atPlace s j g') ∧ k (atPlace s j g') = some r := by
      intro hb
      obtain ⟨j, g', hij, hr⟩ := h i g _ r hb
      split at hr
      · rename_i hlt
        simp only [left_atPlace] at hlt
        obtain ⟨m, g'', hjm, hr⟩ := ih _ (by omega) _ j rfl g' k r hr
        exact ⟨m, g'', trans hij hjm, hr⟩
      · exact ⟨j, g', hij, hr⟩
    have here : k (atPlace s i g) = some r →
        ∃ j g', R (atPlace s i g) (atPlace s j g') ∧ k (atPlace s j g') = some r :=
      fun hk => ⟨i, g, refl _, hk⟩
    dsimp only at hr
    rw [Pattern.upTo] at hr
    split at hr
    · exact here hr
    · split at hr
      · rcases Option.or_eq_some_iff.1 (by simpa using hr) with hr | ⟨-, hr⟩
        · exact turn hr
        · exact here hr
      · rcases Option.or_eq_some_iff.1 (by simpa using hr) with hr | ⟨-, hr⟩
        · exact here hr
        · exact turn hr

end

/-- What a run of the pattern from place `i` to place `j` may record for a group. Only a lookahead
takes text from behind `j`. -/
structure Takes (p : Pattern) (i j : Nat) (e : Nat × Span) : Prop where
  captures : p.captures e.1
  le_start : i ≤ e.2.start
  stop_le : p.capturesAhead e.1 = false → e.2.stop ≤ j

/-- A run of the pattern gets from `t` to `u`, and records groups in front of those before. -/
structure Reaches (s : Text) (p : Pattern) (t u : State) : Prop where
  le : t.place ≤ u.place
  le_length : t.place ≤ s.length → u.place ≤ s.length
  takes : ∃ new, u.groups = new ++ t.groups ∧ ∀ e ∈ new, Takes p t.place u.place e

namespace Reaches

variable {p q : Pattern} {t u v : State}

theorem refl (s : Text) (p : Pattern) (t : State) : Reaches s p t t :=
  ⟨Nat.le_refl _, id, [], rfl, by simp⟩

theorem trans (h : Reaches s p t u) (h' : Reaches s p u v) : Reaches s p t v := by
  obtain ⟨new, hnew, hold⟩ := h.takes
  obtain ⟨new', hnew', hold'⟩ := h'.takes
  refine ⟨Nat.le_trans h.le h'.le, fun hi => h'.le_length (h.le_length hi), new' ++ new, ?_, ?_⟩
  · rw [hnew', hnew, List.append_assoc]
  · intro e he
    rcases List.mem_append.1 he with he | he
    · have htakes := hold' e he
      exact ⟨htakes.captures, Nat.le_trans h.le htakes.le_start, htakes.stop_le⟩
    · have htakes := hold e he
      exact ⟨htakes.captures, htakes.le_start,
        fun ha => Nat.le_trans (htakes.stop_le ha) h'.le⟩

/-- A run of a part of a pattern. -/
theorem mono (h : Reaches s p t u) (hcaptures : ∀ n, p.captures n → q.captures n)
    (hahead : ∀ n, p.capturesAhead n → q.capturesAhead n) : Reaches s q t u := by
  obtain ⟨new, hnew, hold⟩ := h.takes
  refine ⟨h.le, h.le_length, new, hnew, fun e he => ?_⟩
  have htakes := hold e he
  refine ⟨hcaptures _ htakes.captures, htakes.le_start, fun ha => ?_⟩
  apply htakes.stop_le
  rw [Bool.eq_false_iff] at ha ⊢
  exact fun hp => ha (hahead _ hp)

theorem capture (h : Reaches s p t u) (index : Nat) :
    Reaches s (group index p) t (u.capture index t.place) := by
  obtain ⟨new, hnew, hold⟩ := (h.mono (q := group index p) (by simp +contextual [Pattern.captures])
    (by simp [capturesAhead])).takes
  refine ⟨h.le, h.le_length, (index, .between t.place u.place) :: new, ?_, ?_⟩
  · simp [State.capture, hnew]
  · refine List.forall_mem_cons.2 ⟨⟨?_, ?_, ?_⟩, hold⟩
    · simp [Pattern.captures]
    · exact Nat.le_of_eq (Span.start_between h.le).symm
    · exact fun _ => Nat.le_of_eq (Span.stop_between h.le)

/-- What a wanted lookahead takes is taken at its place. -/
theorem ahead (h : Reaches s p t u) :
    Reaches s (ahead true p) t { t with groups := u.groups } := by
  obtain ⟨new, hnew, hold⟩ := h.takes
  refine ⟨Nat.le_refl _, id, new, hnew, fun e he => ?_⟩
  have htakes := hold e he
  refine ⟨by simpa [Pattern.captures] using htakes.captures, htakes.le_start, fun ha => ?_⟩
  simp [capturesAhead, htakes.captures] at ha

end Reaches

theorem reaches_run (p : Pattern) (s : Text) : Follows s (Reaches s p) p.run := by
  induction p with
  | empty => exact fun i g k r hr => ⟨i, g, .refl _ _ _, hr⟩
  | chars set =>
    intro i g k r hr
    rw [run, next?_atPlace] at hr
    cases hc : s[i]? with
    | none => simp [hc] at hr
    | some c =>
      have hi := (List.getElem?_eq_some_iff.1 hc).1
      simp only [hc, Option.map_some] at hr
      split at hr
      · exact ⟨i + 1, g, ⟨Nat.le_succ i, fun _ => hi, [], rfl, by simp⟩, hr⟩
      · simp at hr
  | anchor condition =>
    intro i g k r hr
    rw [run] at hr
    split at hr
    · exact ⟨i, g, .refl _ _ _, hr⟩
    · simp at hr
  | seq p q ihp ihq =>
    intro i g k r hr
    obtain ⟨j, g', hij, hr⟩ := ihp i g _ r hr
    obtain ⟨m, g'', hjm, hr⟩ := ihq j g' k r hr
    refine ⟨m, g'', .trans (hij.mono ?_ ?_) (hjm.mono ?_ ?_), hr⟩
    all_goals simp +contextual [Pattern.captures, capturesAhead]
  | alt p q ihp ihq =>
    intro i g k r hr
    rcases Option.or_eq_some_iff.1 (by simpa [run] using hr) with hr | ⟨-, hr⟩
    · obtain ⟨j, g', hij, hr⟩ := ihp i g k r hr
      refine ⟨j, g', hij.mono ?_ ?_, hr⟩
      all_goals simp +contextual [Pattern.captures, capturesAhead]
    · obtain ⟨j, g', hij, hr⟩ := ihq i g k r hr
      refine ⟨j, g', hij.mono ?_ ?_, hr⟩
      all_goals simp +contextual [Pattern.captures, capturesAhead]
  | group index p ih =>
    intro i g k r hr
    obtain ⟨j, g', hij, hr⟩ := ih i g _ r hr
    exact ⟨j, _, hij.capture index, hr⟩
  | loop least most greedy p ih =>
    have hbody : Follows s (Reaches s (loop least most greedy p)) p.run :=
      ih.mono fun h => h.mono (by simp [Pattern.captures]) (by simp [capturesAhead])
    intro i g k r hr
    obtain ⟨j, g', hij, hr⟩ := hbody.times (.refl s _) .trans least i g _ r hr
    obtain ⟨m, g'', hjm, hr⟩ := hbody.upTo (.refl s _) .trans greedy _ j g' k r hr
    exact ⟨m, g'', hij.trans hjm, hr⟩
  | ahead wanted p ih =>
    intro i g k r hr
    rw [run] at hr
    split at hr
    · rename_i t ht
      split at hr
      · rename_i hwanted
        obtain ⟨j, g', hij, hj⟩ := ih i g _ t ht
        obtain rfl := Option.some.inj hj
        subst hwanted
        exact ⟨i, g', hij.ahead, hr⟩
      · simp at hr
    · split at hr
      · simp at hr
      · exact ⟨i, g, .refl _ _ _, hr⟩

/-- A body whose runs end at places from their start on, within the text. -/
def Forward (s : Text) (body : State → Continuation → Option State) : Prop :=
  ∀ i g k r, body (atPlace s i g) k = some r →
    ∃ j g', i ≤ j ∧ (i ≤ s.length → j ≤ s.length) ∧ k (atPlace s j g') = some r

theorem forward_run (p : Pattern) (s : Text) : Forward s p.run := by
  intro i g k r hr
  obtain ⟨j, g', h, hr⟩ := reaches_run p s i g k r hr
  exact ⟨j, g', h.le, h.le_length, hr⟩

end Pattern

end PatternLint
