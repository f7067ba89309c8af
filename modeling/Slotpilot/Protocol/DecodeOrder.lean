import Slotpilot.Protocol.Decode
import Mathlib

/-!
# The order of decodes

`deterministicCmp` compares two decodes by five of their parts. The stable sort by it gives every permutation of a list
the same order exactly when these parts tell the decodes of the list apart (`KeysDistinguish`).
-/

set_option autoImplicit false

namespace Slotpilot.Protocol

namespace Ft8Decode

variable {a b : Ft8Decode} {decodes : List Ft8Decode}

instance : Std.TransCmp deterministicCmp :=
  inferInstanceAs (Std.TransCmp (compareLex
    (compareLex (compareOn fun decode : Ft8Decode => decode.metadata.startOffsetMillis)
      (compareOn fun decode : Ft8Decode => decode.metadata.audioFrequencyHz))
    (compareLex
      (compareLex (compareOn fun decode : Ft8Decode => decode.message.canonicalText)
        (compareOn fun decode : Ft8Decode => decode.message.kind.ctorIdx))
      (compareOn fun decode : Ft8Decode => decode.metadata.signalToNoiseDb))))

theorem isLE_trans (a b c : Ft8Decode) (hab : (deterministicCmp a b).isLE = true)
    (hbc : (deterministicCmp b c).isLE = true) : (deterministicCmp a c).isLE = true :=
  Std.TransCmp.isLE_trans hab hbc

theorem isLE_total (a b : Ft8Decode) : ((deterministicCmp a b).isLE || (deterministicCmp b a).isLE) = true := by
  rw [@Std.OrientedCmp.eq_swap _ deterministicCmp _ a]
  cases deterministicCmp b a <;> rfl

/-- The sorted list is in order. -/
theorem sortDeterministically_pairwise (decodes : List Ft8Decode) :
    (sortDeterministically decodes).Pairwise fun a b => (deterministicCmp a b).isLE = true :=
  List.pairwise_mergeSort isLE_trans isLE_total decodes

theorem sortDeterministically_perm (decodes : List Ft8Decode) : (sortDeterministically decodes).Perm decodes :=
  List.mergeSort_perm decodes _

/-- A sorted list stays as it is. -/
theorem sortDeterministically_sorted (decodes : List Ft8Decode) :
    sortDeterministically (sortDeterministically decodes) = sortDeterministically decodes :=
  List.mergeSort_of_pairwise (sortDeterministically_pairwise decodes)

/-- Two decodes of the list that compare equal are equal. -/
def KeysDistinguish (decodes : List Ft8Decode) : Prop :=
  ∀ a ∈ decodes, ∀ b ∈ decodes, deterministicCmp a b = .eq → a = b

/-- Every permutation of the list is sorted alike. -/
def SortsAlike (decodes : List Ft8Decode) : Prop :=
  ∀ permuted : List Ft8Decode, permuted.Perm decodes → sortDeterministically permuted = sortDeterministically decodes

/-- The decodes with the key of `a`. -/
def sameKey (a : Ft8Decode) (decodes : List Ft8Decode) : List Ft8Decode :=
  decodes.filter fun b => deterministicCmp a b = .eq

/-- The sort keeps the order of the decodes with one key. -/
theorem sameKey_sort (a : Ft8Decode) (decodes : List Ft8Decode) :
    sameKey a (sortDeterministically decodes) = sameKey a decodes := by
  have hequal : (sameKey a decodes).Pairwise fun b c => (deterministicCmp b c).isLE = true := by
    refine List.pairwise_of_forall_mem_list fun b hb c hc => ?_
    have hab := (List.mem_filter.mp hb).2
    have hac := (List.mem_filter.mp hc).2
    rw [decide_eq_true_eq] at hab hac
    rw [Std.TransCmp.congr_left (Std.OrientedCmp.eq_symm hab), hac]
    rfl
  have hsub : (sameKey a decodes).Sublist (sortDeterministically decodes) :=
    List.sublist_mergeSort isLE_trans isLE_total hequal List.filter_sublist
  have hkeep : (sameKey a decodes).Sublist (sameKey a (sortDeterministically decodes)) := by
    have := hsub.filter fun b => deterministicCmp a b = .eq
    rwa [sameKey, List.filter_filter, List.filter_congr fun b _ => Bool.and_self _] at this
  exact (hkeep.eq_of_length ((sortDeterministically_perm decodes).filter _).length_eq.symm).symm

/-- **The order is deterministic** exactly when the keys tell the decodes apart. -/
theorem sortsAlike_iff : SortsAlike decodes ↔ KeysDistinguish decodes := by
  constructor
  · intro halike a ha b hb hequal
    by_contra hne
    obtain ⟨rest, hrest⟩ : ∃ rest, decodes.Perm (a :: b :: rest) := by
      have hb : b ∈ decodes.erase a := (List.mem_erase_of_ne (Ne.symm hne)).mpr hb
      exact ⟨_, (List.perm_cons_erase ha).trans ((List.perm_cons_erase hb).cons a)⟩
    have hfirst := halike _ hrest.symm
    have hsecond := halike _ ((List.Perm.swap a b rest).trans hrest.symm)
    have hsame : sameKey a (a :: b :: rest) = sameKey a (b :: a :: rest) := by
      rw [← sameKey_sort, ← sameKey_sort a (b :: a :: rest), hfirst, hsecond]
    have hself : deterministicCmp a a = .eq := Std.ReflCmp.compare_self
    simp only [sameKey, List.filter_cons, hself, hequal, decide_true, if_true, List.cons.injEq] at hsame
    exact hne hsame.1
  · intro hkeys permuted hperm
    refine List.Perm.eq_of_pairwise ?_ (sortDeterministically_pairwise permuted) (sortDeterministically_pairwise decodes)
      ((sortDeterministically_perm permuted).trans (hperm.trans (sortDeterministically_perm decodes).symm))
    intro a b ha hb hab hba
    have ha := hperm.mem_iff.mp ((sortDeterministically_perm permuted).mem_iff.mp ha)
    have hb := (sortDeterministically_perm decodes).mem_iff.mp hb
    exact hkeys a ha b hb (Std.OrientedCmp.isLE_antisymm hab hba)

end Ft8Decode

end Slotpilot.Protocol
