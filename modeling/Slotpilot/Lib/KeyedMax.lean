import Mathlib

/-!
# The best candidate of each key

A list that keeps one candidate of each key, the first with the highest score. `absorb` replaces a kept candidate in place
or appends a new one; a list that absorbed candidates one after another is `KeyedMax` of them (`fold_keyedMax`).
-/

set_option autoImplicit false

namespace Slotpilot.Lib

variable {α κ ρ : Type} [LinearOrder ρ] {key : α → κ} {score : α → ρ}

/-- Replaces the kept candidate with the same key by a better one, or appends one with a new key. -/
def absorb [DecidableEq κ] (key : α → κ) (score : α → ρ) (candidate : α) : List α → List α
  | [] => [candidate]
  | kept :: rest =>
    if key kept = key candidate then (if score candidate > score kept then candidate else kept) :: rest
    else kept :: absorb key score candidate rest

/-- The kept candidates are the best ones of each key, each key once. -/
structure KeyedMax (key : α → κ) (score : α → ρ) (candidates kept : List α) : Prop where
  covers : ∀ candidate ∈ candidates, ∃ best ∈ kept, key best = key candidate
  once : (kept.map key).Nodup
  offered : ∀ best ∈ kept, best ∈ candidates
  best : ∀ best ∈ kept, ∀ candidate ∈ candidates, key candidate = key best → score candidate ≤ score best

/-- A candidate is compared with the kept one of its key, or its key is new. -/
theorem absorb_cases [DecidableEq κ] (key : α → κ) (score : α → ρ) (candidate : α) (kept : List α) :
    (∃ before old after, kept = before ++ old :: after ∧ key old = key candidate ∧
      absorb key score candidate kept =
        before ++ (if score candidate > score old then candidate else old) :: after) ∨
      key candidate ∉ kept.map key ∧ absorb key score candidate kept = kept ++ [candidate] := by
  induction kept with
  | nil => exact .inr ⟨by simp, rfl⟩
  | cons old rest ih =>
    rw [absorb]
    split
    · rename_i hsame
      exact .inl ⟨[], old, rest, rfl, hsame, rfl⟩
    · rename_i hother
      obtain ⟨before, found, after, hkept, hkey, habsorb⟩ | ⟨hnew, habsorb⟩ := ih
      · refine .inl ⟨old :: before, found, after, by rw [hkept, List.cons_append], hkey, ?_⟩
        rw [habsorb, List.cons_append]
      · refine .inr ⟨?_, by rw [habsorb, List.cons_append]⟩
        rw [List.map_cons, List.mem_cons, not_or]
        exact ⟨fun h => hother h.symm, hnew⟩

/-- The better of a kept candidate and a new one of its key takes its place. -/
theorem KeyedMax.replace {candidates before after : List α} {old candidate winner : α}
    (h : KeyedMax key score candidates (before ++ old :: after)) (hkey : key old = key candidate)
    (hwinner : winner = candidate ∨ winner = old) (hscore : score old ≤ score winner ∧ score candidate ≤ score winner) :
    KeyedMax key score (candidates ++ [candidate]) (before ++ winner :: after) := by
  have hwinnerKey : key winner = key old := by
    obtain rfl | rfl := hwinner
    · exact hkey.symm
    · rfl
  have hkeys : (before ++ winner :: after).map key = (before ++ old :: after).map key := by
    simp [hwinnerKey]
  have hmoved : ∀ best ∈ before ++ winner :: after, best = winner ∨ best ∈ before ++ after := by
    intro best hbest
    rw [List.mem_append, List.mem_cons] at hbest
    rw [List.mem_append]
    tauto
  have hstayed : ∀ best ∈ before ++ after, best ∈ before ++ old :: after := by
    intro best hbest
    rw [List.mem_append] at hbest
    rw [List.mem_append, List.mem_cons]
    tauto
  refine ⟨?_, hkeys ▸ h.once, ?_, ?_⟩
  · intro offered hoffered
    have hmem : key offered ∈ (before ++ old :: after).map key := by
      obtain hearlier | hnow := List.mem_append.mp hoffered
      · obtain ⟨best, hbest, hsame⟩ := h.covers offered hearlier
        exact hsame ▸ List.mem_map_of_mem hbest
      · rw [List.mem_singleton.mp hnow, ← hkey]
        exact List.mem_map_of_mem (by simp)
    rw [← hkeys] at hmem
    exact List.mem_map.mp hmem
  · intro best hbest
    obtain rfl | hother := hmoved best hbest
    · obtain rfl | rfl := hwinner
      · simp
      · exact List.mem_append_left _ (h.offered best (by simp))
    · exact List.mem_append_left _ (h.offered best (hstayed best hother))
  · intro best hbest offered hoffered hsame
    obtain rfl | hother := hmoved best hbest
    · obtain hearlier | hnow := List.mem_append.mp hoffered
      · exact (h.best old (by simp) offered hearlier (hsame.trans hwinnerKey)).trans hscore.1
      · rw [List.mem_singleton.mp hnow]
        exact hscore.2
    · obtain hearlier | hnow := List.mem_append.mp hoffered
      · exact h.best best (hstayed best hother) offered hearlier hsame
      · -- the key of the candidate is kept once, by the one that was replaced
        have honce := h.once
        rw [List.map_append, List.map_cons, List.nodup_middle, List.nodup_cons] at honce
        refine absurd ?_ honce.1
        rw [hkey, ← List.mem_singleton.mp hnow, hsame, ← List.map_append]
        exact List.mem_map_of_mem hother

/-- A candidate with a new key is kept. -/
theorem KeyedMax.append {candidates kept : List α} {candidate : α} (h : KeyedMax key score candidates kept)
    (hnew : key candidate ∉ kept.map key) : KeyedMax key score (candidates ++ [candidate]) (kept ++ [candidate]) := by
  have hunoffered : ∀ offered ∈ candidates, key offered ≠ key candidate := by
    intro offered hoffered hsame
    obtain ⟨best, hbest, hkey⟩ := h.covers offered hoffered
    exact hnew (hkey.trans hsame ▸ List.mem_map_of_mem hbest)
  refine ⟨?_, ?_, ?_, ?_⟩
  · intro offered hoffered
    obtain hearlier | hnow := List.mem_append.mp hoffered
    · obtain ⟨best, hbest, hsame⟩ := h.covers offered hearlier
      exact ⟨best, List.mem_append_left _ hbest, hsame⟩
    · exact ⟨offered, List.mem_append_right _ hnow, rfl⟩
  · rw [List.map_append, List.map_singleton, List.nodup_append]
    refine ⟨h.once, List.nodup_singleton _, fun kept hkept new hnow heq => ?_⟩
    rw [List.mem_singleton.mp hnow] at heq
    exact hnew (heq ▸ hkept)
  · intro best hbest
    obtain hkept | hnow := List.mem_append.mp hbest
    · exact List.mem_append_left _ (h.offered best hkept)
    · exact List.mem_append_right _ hnow
  · intro best hbest offered hoffered hsame
    obtain hkept | hnow := List.mem_append.mp hbest
    · obtain hearlier | hlast := List.mem_append.mp hoffered
      · exact h.best best hkept offered hearlier hsame
      · rw [List.mem_singleton.mp hlast] at hsame
        exact absurd (hsame ▸ List.mem_map_of_mem hkept) hnew
    · rw [List.mem_singleton.mp hnow] at hsame ⊢
      obtain hearlier | hlast := List.mem_append.mp hoffered
      · exact absurd hsame (hunoffered offered hearlier)
      · rw [List.mem_singleton.mp hlast]

/-- One more candidate. -/
theorem KeyedMax.absorb [DecidableEq κ] {candidates kept : List α} (h : KeyedMax key score candidates kept) (candidate : α) :
    KeyedMax key score (candidates ++ [candidate]) (absorb key score candidate kept) := by
  obtain ⟨before, old, after, rfl, hkey, habsorb⟩ | ⟨hnew, habsorb⟩ :=
    absorb_cases key score candidate kept
  · rw [habsorb]
    split
    · rename_i hbetter
      exact h.replace hkey (.inl rfl) ⟨le_of_lt hbetter, le_refl _⟩
    · rename_i hworse
      exact h.replace hkey (.inr rfl) ⟨le_refl _, not_lt.mp hworse⟩
  · rw [habsorb]
    exact h.append hnew

/-- Absorbing candidates one after another keeps the best of each key. -/
theorem fold_keyedMax [DecidableEq κ] (candidates : List α) :
    KeyedMax key score candidates (candidates.foldl (fun kept candidate => Lib.absorb key score candidate kept) []) := by
  induction candidates using List.reverseRecOn with
  | nil => exact ⟨by simp, List.nodup_nil, by simp, by simp⟩
  | append_singleton candidates candidate ih =>
    rw [List.foldl_append]
    exact ih.absorb candidate

/-- The order of the kept candidates does not matter. -/
theorem KeyedMax.perm {candidates kept ordered : List α} (h : KeyedMax key score candidates kept)
    (hperm : ordered.Perm kept) : KeyedMax key score candidates ordered where
  covers candidate hcandidate := by
    obtain ⟨best, hbest, hkey⟩ := h.covers candidate hcandidate
    exact ⟨best, hperm.mem_iff.mpr hbest, hkey⟩
  once := (hperm.map key).nodup_iff.mpr h.once
  offered best hbest := h.offered best (hperm.mem_iff.mp hbest)
  best best hbest := h.best best (hperm.mem_iff.mp hbest)

end Slotpilot.Lib
