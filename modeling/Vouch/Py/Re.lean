/-
  Vouch.Py.Re

  Python regular expressions without flags: character classes, anchors,
  sequences and counted repeats.

  `Pattern.ends` gives the positions a match may end at; which of them Python
  prefers depends on greediness, whether there is one does not.  `$` holds at
  the end of the text and just before a newline that ends it, so a pattern
  closed by `$` also matches one character more than it spells out
  (`matches_anchored_iff`).
-/

import Mathlib.Data.List.Basic

namespace Py

/-- A pattern. -/
inductive Pattern where
  /-- `[…]`, one character of a class -/
  | cls (p : Char → Bool)
  /-- `^` -/
  | start
  /-- `$` -/
  | finish
  | seq (a b : Pattern)
  /-- `a{lo,hi}` -/
  | rep (a : Pattern) (lo hi : ℕ)

/-- A position in a text: how many characters precede it, and those that follow. -/
abbrev Pos := ℕ × List Char

/-- The positions reached by taking `f` exactly `n` times. -/
def repeated (f : Pos → List Pos) : ℕ → Pos → List Pos
  | 0, q => [q]
  | n + 1, q => (f q).flatMap (repeated f n)

/-- Where a match that starts at a position may end. -/
def Pattern.ends : Pattern → Pos → List Pos
  | .cls p, (i, c :: rest) => if p c then [(i + 1, rest)] else []
  | .cls _, (_, []) => []
  | .start, q => if q.1 = 0 then [q] else []
  | .finish, q => if q.2 = [] ∨ q.2 = ['\n'] then [q] else []
  | .seq a b, q => (a.ends q).flatMap b.ends
  | .rep a lo hi, q => (List.range' lo (hi + 1 - lo)).flatMap fun n => repeated a.ends n q

/-- `pattern.match(text) is not None` -/
def Pattern.matches? (a : Pattern) (text : String) : Bool := a.ends (0, text.toList) ≠ []

-- ============================================================================
-- One constructor at a time
-- ============================================================================

section Ends

variable {a b : Pattern} {p : Char → Bool} {q q' : Pos} {lo hi n : ℕ}

theorem Pattern.mem_ends_cls :
    q' ∈ (cls p).ends q ↔ ∃ c, p c = true ∧ q.2 = c :: q'.2 ∧ q'.1 = q.1 + 1 := by
  obtain ⟨i, text⟩ := q
  obtain ⟨j, rest⟩ := q'
  cases text with
  | nil => simp [Pattern.ends]
  | cons c text =>
      rw [Pattern.ends]
      split_ifs with hc
      · simp [hc]
        tauto
      · simp [hc]

theorem Pattern.mem_ends_start : q' ∈ start.ends q ↔ q.1 = 0 ∧ q' = q := by
  rw [Pattern.ends]
  split_ifs with h
  · simp [h]
  · simp [h]

theorem Pattern.mem_ends_finish :
    q' ∈ finish.ends q ↔ (q.2 = [] ∨ q.2 = ['\n']) ∧ q' = q := by
  rw [Pattern.ends]
  split_ifs with h
  · simp [h]
  · simp [h]

theorem Pattern.mem_ends_seq : q' ∈ (seq a b).ends q ↔ ∃ r ∈ a.ends q, q' ∈ b.ends r := by
  rw [Pattern.ends, List.mem_flatMap]

theorem Pattern.mem_ends_rep :
    q' ∈ (rep a lo hi).ends q ↔ ∃ n, lo ≤ n ∧ n ≤ hi ∧ q' ∈ repeated a.ends n q := by
  rw [Pattern.ends, List.mem_flatMap]
  apply exists_congr
  intro n
  rw [List.mem_range'_1, and_assoc]
  apply and_congr_right
  intro hlo
  apply and_congr_left'
  omega

/-- `n` characters of a class. -/
theorem Pattern.mem_repeated_cls : q' ∈ repeated (cls p).ends n q ↔
    ∃ v : List Char, v.length = n ∧ (∀ c ∈ v, p c = true) ∧ q.2 = v ++ q'.2 ∧ q'.1 = q.1 + n := by
  induction n generalizing q with
  | zero =>
      rw [repeated, List.mem_singleton]
      refine ⟨?_, ?_⟩
      · rintro rfl
        exact ⟨[], rfl, by simp, rfl, rfl⟩
      · rintro ⟨v, hv, -, htext, hi⟩
        rw [List.length_eq_zero_iff.mp hv, List.nil_append] at htext
        exact Prod.ext hi htext.symm
  | succ n ih =>
      rw [repeated, List.mem_flatMap]
      refine ⟨?_, ?_⟩
      · rintro ⟨r, hr, hq'⟩
        obtain ⟨c, hc, htext, hi⟩ := mem_ends_cls.mp hr
        obtain ⟨v, hv, hall, hrest, hj⟩ := ih.mp hq'
        refine ⟨c :: v, by rw [List.length_cons, hv], List.forall_mem_cons.mpr ⟨hc, hall⟩, ?_, by omega⟩
        rw [htext, hrest, List.cons_append]
      · rintro ⟨v, hv, hall, htext, hj⟩
        obtain ⟨c, v, rfl⟩ := List.exists_cons_of_length_eq_add_one hv
        obtain ⟨hc, hall⟩ := List.forall_mem_cons.mp hall
        refine ⟨(q.1 + 1, v ++ q'.2), mem_ends_cls.mpr ⟨c, hc, htext, rfl⟩, ih.mpr ⟨v, ?_, hall, rfl, ?_⟩⟩
        · simpa using hv
        · omega

end Ends

-- ============================================================================
-- Anchored repeats of a class
-- ============================================================================

/-- `^[…]{lo,hi}$` matches the texts of `lo` to `hi` characters of the class,
    with or without a final newline. -/
theorem matches_anchored_iff {p : Char → Bool} {lo hi : ℕ} {text : String} :
    (Pattern.seq .start (.seq (.rep (.cls p) lo hi) .finish)).matches? text = true ↔
      ∃ v : String, (lo ≤ v.length ∧ v.length ≤ hi ∧ ∀ c ∈ v.toList, p c = true) ∧
        (text = v ∨ text = v ++ "\n") := by
  rw [Pattern.matches?, decide_eq_true_iff]
  refine ⟨?_, ?_⟩
  · intro hne
    obtain ⟨q, hq⟩ := List.exists_mem_of_ne_nil _ hne
    obtain ⟨r, hr, hq⟩ := Pattern.mem_ends_seq.mp hq
    obtain ⟨-, rfl⟩ := Pattern.mem_ends_start.mp hr
    obtain ⟨r, hr, hq⟩ := Pattern.mem_ends_seq.mp hq
    obtain ⟨n, hlo, hhi, hn⟩ := Pattern.mem_ends_rep.mp hr
    obtain ⟨v, hv, hall, htext, -⟩ := Pattern.mem_repeated_cls.mp hn
    obtain ⟨hrest, -⟩ := Pattern.mem_ends_finish.mp hq
    refine ⟨String.ofList v, ⟨by simp [hv, hlo], by simp [hv, hhi], by simpa using hall⟩, ?_⟩
    rw [← String.toList_inj, ← String.toList_inj, String.toList_append, String.toList_ofList]
    rcases hrest with hrest | hrest
    · rw [hrest, List.append_nil] at htext
      exact .inl htext
    · rw [hrest] at htext
      exact .inr htext
  · rintro ⟨v, ⟨hlo, hhi, hall⟩, htext⟩
    have hrest : ∃ rest : List Char, (rest = [] ∨ rest = ['\n']) ∧ text.toList = v.toList ++ rest := by
      rcases htext with rfl | rfl
      · exact ⟨[], .inl rfl, (List.append_nil _).symm⟩
      · exact ⟨['\n'], .inr rfl, String.toList_append⟩
    obtain ⟨rest, hend, htext⟩ := hrest
    have hclass : (v.length, rest) ∈ (Pattern.rep (.cls p) lo hi).ends (0, text.toList) := by
      refine Pattern.mem_ends_rep.mpr ⟨v.length, hlo, hhi, Pattern.mem_repeated_cls.mpr ?_⟩
      exact ⟨v.toList, String.length_toList, hall, htext, (Nat.zero_add _).symm⟩
    apply List.ne_nil_of_mem (a := (v.length, rest))
    refine Pattern.mem_ends_seq.mpr ⟨_, Pattern.mem_ends_start.mpr ⟨rfl, rfl⟩, ?_⟩
    exact Pattern.mem_ends_seq.mpr ⟨_, hclass, Pattern.mem_ends_finish.mpr ⟨hend, rfl⟩⟩

end Py
