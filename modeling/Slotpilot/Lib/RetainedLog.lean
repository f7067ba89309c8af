import Mathlib

/-!
# Numbered logs read in pages

A log is a list whose entries have strictly increasing numbers (`Numbered`). A reader holds the number of the last entry
it has seen and asks for the next `limit` entries after it (`page`); its next number is that of the last entry of the
page (`lastNumber`).

* `after_lastNumber`: what remains after a page is what followed it;
* `Numbered.mem_page_of_le`: a page leaves out nothing between its bounds;
* `after_consecutive`: in a log without gaps, numbers are positions;
* `retained`: the entries from a cut on, with `mem_retained` and `retained_retained`.
-/

set_option autoImplicit false

namespace Slotpilot.Lib

variable {α : Type} (number : α → Nat)

/-- The numbers of a log are strictly increasing. -/
def Numbered (l : List α) : Prop := l.Pairwise fun a b => number a < number b

/-- The entries numbered above `s`. -/
def after (s : Nat) (l : List α) : List α := l.filter (s < number ·)

/-- The first `limit` entries numbered above `s`. -/
def page (limit s : Nat) (l : List α) : List α := (after number s l).take limit

/-- The number of the last entry, or `s` when there is none. -/
def lastNumber (s : Nat) (l : List α) : Nat := (l.getLast?.map number).getD s

/-- The entries numbered `cut` or more. -/
def retained (cut : Nat) (l : List α) : List α := l.filter (cut ≤ number ·)

variable {number} {s t cut limit : Nat} {l : List α} {a : α}

@[simp] theorem mem_after : a ∈ after number s l ↔ a ∈ l ∧ s < number a := by simp [after]

@[simp] theorem mem_retained : a ∈ retained number cut l ↔ a ∈ l ∧ cut ≤ number a := by simp [retained]

theorem Numbered.filter (h : Numbered number l) (p : α → Bool) : Numbered number (l.filter p) := List.Pairwise.filter p h

theorem Numbered.append_singleton (h : Numbered number l) (ha : ∀ b ∈ l, number b < number a) :
    Numbered number (l ++ [a]) := by
  refine List.pairwise_append.mpr ⟨h, List.pairwise_singleton _ _, fun b hb c hc => ?_⟩
  rw [List.mem_singleton.mp hc]
  exact ha b hb

/-- An entry of a numbered log is known by its number. -/
theorem Numbered.eq_of_number {b : α} (h : Numbered number l) (ha : a ∈ l) (hb : b ∈ l) (hsame : number a = number b) :
    a = b := by
  induction l with
  | nil => cases ha
  | cons c l ih =>
    obtain ⟨hhead, htail⟩ := List.pairwise_cons.mp h
    rcases List.mem_cons.mp ha with rfl | hla
    · rcases List.mem_cons.mp hb with rfl | hlb
      · rfl
      · exact absurd (hhead b hlb) (by omega)
    · rcases List.mem_cons.mp hb with rfl | hlb
      · exact absurd (hhead a hla) (by omega)
      · exact ih htail hla hlb

theorem retained_retained : retained number t (retained number cut l) = retained number (max cut t) l := by
  unfold retained
  rw [List.filter_filter]
  refine List.filter_congr fun a _ => ?_
  rw [← Bool.decide_and, decide_eq_decide]
  omega

/-- A cut above every number can be lowered to the next one. -/
theorem retained_min (h : ∀ a ∈ l, number a < t) : retained number (min cut t) l = retained number cut l := by
  refine List.filter_congr fun a ha => ?_
  have := h a ha
  rw [decide_eq_decide]
  omega

theorem retained_append_singleton (h : cut ≤ number a) : retained number cut (l ++ [a]) = retained number cut l ++ [a] := by
  simp [retained, h]

theorem retained_filter (p : α → Bool) : (retained number cut l).filter p = retained number cut (l.filter p) := by
  unfold retained
  rw [List.filter_filter, List.filter_filter]
  exact List.filter_congr fun a _ => Bool.and_comm _ _

/-- The entries after a number that is at least the cut's predecessor are all retained. -/
theorem after_retained (h : cut ≤ s + 1) : after number s (retained number cut l) = after number s l := by
  unfold after retained
  rw [List.filter_filter]
  refine List.filter_congr fun a _ => ?_
  rw [← Bool.decide_and, decide_eq_decide]
  omega

/-- In a numbered log the entries above an entry's number are those behind it. -/
theorem after_split {l₁ l₂ : List α} (h : Numbered number (l₁ ++ a :: l₂)) :
    after number (number a) (l₁ ++ a :: l₂) = l₂ := by
  obtain ⟨-, htail, hcross⟩ := List.pairwise_append.mp h
  rw [List.pairwise_cons] at htail
  have h1 : l₁.filter (number a < number ·) = [] :=
    List.filter_eq_nil_iff.mpr fun b hb => by
      have := hcross b hb a List.mem_cons_self
      simp only [decide_eq_true_eq]
      omega
  have h2 : l₂.filter (number a < number ·) = l₂ :=
    List.filter_eq_self.mpr fun b hb => by simpa using htail.1 b hb
  rw [after, List.filter_append, List.filter_cons, h1, h2]
  simp

theorem after_after (h : s ≤ t) : after number t (after number s l) = after number t l := by
  unfold after
  rw [List.filter_filter]
  refine List.filter_congr fun a _ => ?_
  rw [← Bool.decide_and, decide_eq_decide]
  omega

theorem lastNumber_cases (number : α → Nat) (s : Nat) (l : List α) :
    lastNumber number s l = s ∨ ∃ a ∈ l, lastNumber number s l = number a := by
  rcases List.eq_nil_or_concat l with rfl | ⟨l₁, a, rfl⟩
  · exact .inl rfl
  · exact .inr ⟨a, by simp, by simp [lastNumber]⟩

/-- **The next page** starts where the last one ended. -/
theorem after_lastNumber (h : Numbered number l) (hlimit : 0 < limit) :
    after number (lastNumber number s (page number limit s l)) l = (after number s l).drop limit := by
  rcases List.eq_nil_or_concat (page number limit s l) with hnil | ⟨l₁, a, hpage⟩
  · have hdone : after number s l = [] := (List.take_eq_nil_iff.mp hnil).resolve_left (by omega)
    rw [hnil, hdone, List.drop_nil]
    exact hdone
  · rw [List.concat_eq_append] at hpage
    have hsplit : after number s l = l₁ ++ a :: (after number s l).drop limit := by
      conv_lhs => rw [← List.take_append_drop limit (after number s l)]
      rw [show (after number s l).take limit = l₁ ++ [a] from hpage, List.append_assoc, List.singleton_append]
    have ha : a ∈ after number s l := by rw [hsplit]; simp
    have hlast : lastNumber number s (page number limit s l) = number a := by
      rw [hpage]
      simp [lastNumber]
    rw [hlast, ← after_after (Nat.le_of_lt (mem_after.mp ha).2)]
    have hnumbered : Numbered number (after number s l) := h.filter _
    rw [hsplit] at hnumbered
    conv_lhs => rw [hsplit]
    exact after_split hnumbered

/-- The last number of a log is the greatest. -/
theorem Numbered.le_lastNumber (h : Numbered number l) (ha : a ∈ l) : number a ≤ lastNumber number s l := by
  rcases List.eq_nil_or_concat l with rfl | ⟨l₁, b, rfl⟩
  · cases ha
  · rw [List.concat_eq_append] at *
    have hlast : lastNumber number s (l₁ ++ [b]) = number b := by simp [lastNumber]
    rw [hlast]
    rcases List.mem_append.mp ha with hfront | hback
    · exact Nat.le_of_lt ((List.pairwise_append.mp h).2.2 a hfront b (List.mem_singleton.mpr rfl))
    · rw [List.mem_singleton.mp hback]

variable (limit) in
/-- A page that begins before an entry has it, or is full of entries before it. -/
theorem Numbered.mem_page (h : Numbered number l) (ha : a ∈ l) (hs : s < number a) :
    a ∈ page number limit s l ∨
      (page number limit s l).length = limit ∧ ∀ b ∈ page number limit s l, number b < number a := by
  have hafter : a ∈ after number s l := mem_after.mpr ⟨ha, hs⟩
  have hnumbered : Numbered number (after number s l) := h.filter _
  rw [← List.take_append_drop limit (after number s l)] at hafter hnumbered
  rcases List.mem_append.mp hafter with hfirst | hlater
  · exact .inl hfirst
  · refine .inr ⟨?_, fun b hb => (List.pairwise_append.mp hnumbered).2.2 b hb a hlater⟩
    rw [page, List.length_take, Nat.min_eq_left]
    by_contra hshort
    rw [List.drop_eq_nil_of_le (Nat.le_of_not_le hshort)] at hlater
    cases hlater

/-- A page has every entry from where it begins to where it ends. -/
theorem Numbered.mem_page_of_le (h : Numbered number l) (ha : a ∈ l) (hs : s < number a)
    (hle : number a ≤ lastNumber number s (page number limit s l)) : a ∈ page number limit s l := by
  rcases h.mem_page limit ha hs with hmem | ⟨hfull, hless⟩
  · exact hmem
  · rcases lastNumber_cases number s (page number limit s l) with hlast | ⟨b, hb, hlast⟩
    · omega
    · have := hless b hb
      omega

/-- In a log that is numbered without gaps, the entries above a number are what is left after so many. -/
theorem after_consecutive {first : Nat} (h : l.map number = List.range' first l.length) (s : Nat) :
    after number s l = l.drop (s + 1 - first) := by
  induction l generalizing first with
  | nil => rw [List.drop_nil]; rfl
  | cons a l ih =>
    rw [List.map_cons, List.length_cons, List.range'_succ, List.cons.injEq] at h
    obtain ⟨hnumber, hrest⟩ := h
    have hlater := ih hrest
    unfold after at hlater ⊢
    by_cases habove : s < number a
    · rw [List.filter_cons_of_pos (by simpa using habove), hlater, Nat.sub_eq_zero_of_le (by omega),
        Nat.sub_eq_zero_of_le (by omega), List.drop_zero, List.drop_zero]
    · rw [List.filter_cons_of_neg (by simpa using habove), hlater]
      have hdrop : s + 1 - first = s + 1 - (first + 1) + 1 := by omega
      rw [hdrop, List.drop_succ_cons]

end Slotpilot.Lib
