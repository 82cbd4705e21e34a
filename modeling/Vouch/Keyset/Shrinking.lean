/-
  Vouch.Keyset.Shrinking

  Paging over rows that only disappear.

  If each request sees some of the rows of the request before, the run ends
  (`pages_done_of_shrinking`), and what it collects lies between the rows of the
  last request and those of the first (`pages_between`).
-/

import Mathlib.Data.List.Pairwise
import Mathlib.Data.List.Sort
import Vouch.Keyset.Run

namespace Keyset

variable {α κ : Type*} [LinearOrder κ] {key : α → κ}

/-- A row of the one list is one of the other: keys order both. -/
theorem Ordered.sublist_of_subset {l l' : List α} (h : Ordered key l) (h' : Ordered key l')
    (hsub : l ⊆ l') : l.Sublist l' := by
  have hanti : Std.Antisymm fun a b : α => key a < key b :=
    ⟨fun a b hab hba => absurd hab (lt_asymm hba)⟩
  have hnodup : l.Nodup := by
    apply h.imp
    rintro a b hlt rfl
    exact lt_irrefl _ hlt
  exact List.sublist_of_subperm_of_pairwise (List.subperm_of_subset hnodup hsub) h h'

/-- No two rows have one key. -/
theorem Ordered.eq_of_key_eq {l : List α} (h : Ordered key l) {a b : α} (ha : a ∈ l) (hb : b ∈ l)
    (hkey : key a = key b) : a = b := by
  by_contra hne
  have hsymm : Std.Symm fun a b : α => key a ≠ key b := ⟨fun _ _ h => h.symm⟩
  have hpair : l.Pairwise fun a b => key a ≠ key b := h.imp ne_of_lt
  exact hpair.forall ha hb hne hkey

section Shrinking

variable {rows : ℕ → List α} {limit : ℕ → ℕ} {fetch : ℕ → Option κ → Page α κ}
  (hpage : ∀ i c, PageOf key (rows i) (limit i) c (fetch i c))
  (hshrink : ∀ i, (rows (i + 1)).Sublist (rows i))

include hshrink

theorem sublist_of_le {i j : ℕ} (hij : i ≤ j) : (rows j).Sublist (rows i) := by
  induction j, hij using Nat.le_induction with
  | base => exact .refl _
  | succ j _ ih => exact (hshrink j).trans ih

include hpage

/-- One request per row left, plus one, is enough. -/
theorem pages_done_of_shrinking (n i : ℕ) (c : Option κ)
    (h : (after key c (rows i)).length < n) : Done (pages fetch n i c) := by
  induction n generalizing i c with
  | zero => omega
  | succ n ih =>
    cases hn : (fetch i c).next with
    | none => exact ⟨fetch i c, by rw [pages_of_next_none hn]; rfl, hn⟩
    | some e =>
      rw [pages_of_next_some hn, done_cons hn]
      apply ih
      have hfixed : ∀ (_ : ℕ) c', PageOf key (rows i) (limit i) c' (fetch i c') :=
        fun _ => hpage i
      have hleft : (after key (some e) (rows i)).length < (after key c (rows i)).length :=
        length_after_next_lt hfixed (i := i) hn
      have hfewer : (after key (some e) (rows (i + 1))).length ≤
          (after key (some e) (rows i)).length := ((hshrink i).filter _).length_le
      omega

/-- A finished run collects the rows that stay to the end, and only rows that
    were there at its beginning. -/
theorem pages_between (hrows : ∀ i, Ordered key (rows i)) (n : ℕ)
    (hdone : Done (pages fetch n 0 none)) :
    (rowsOf (pages fetch n 0 none)).Sublist (rows 0) ∧
      (rows ((pages fetch n 0 none).length - 1)).Sublist (rowsOf (pages fetch n 0 none)) := by
  have hordered := pages_ordered hpage n 0 none
  have hfirst : rowsOf (pages fetch n 0 none) ⊆ rows 0 := by
    intro a ha
    obtain ⟨p, hp, hap⟩ := mem_rowsOf.mp ha
    obtain ⟨j, hj⟩ := List.getElem?_of_mem hp
    obtain ⟨c, hc⟩ := pageOf_getElem? hpage n 0 none hj
    exact (sublist_of_le hshrink (Nat.zero_le _)).subset ((hc.mem_iff a).mp hap).1
  refine ⟨hordered.sublist_of_subset (hrows 0) hfirst,
    (hrows _).sublist_of_subset hordered ?_⟩
  intro a ha
  -- the row is there at every request, and its key is that of no other row
  obtain ⟨b, hb, hkey⟩ := mem_of_persists hpage n 0 none hdone (k := key a) trivial fun j hj =>
    ⟨a, (sublist_of_le hshrink (by omega)).subset ha, rfl⟩
  have hmem : a ∈ rows 0 := (sublist_of_le hshrink (Nat.zero_le _)).subset ha
  obtain rfl := (hrows 0).eq_of_key_eq (hfirst hb) hmem hkey
  exact hb

end Shrinking

end Keyset
