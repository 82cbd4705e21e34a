/-
  Vouch.Keyset.Slice

  Keyset pages over fixed rows are the slices of offset pagination.

  `slices limit n i view` cuts a list at the offsets `limit i`, `limit i +
  limit (i + 1)`, ….  A client that follows `next` over unchanging rows receives
  these slices (`collect_eq_slices`), also when it enters in the middle: what a
  request from an arbitrary position returns is a suffix of the ordered rows
  (`filter_suffix`), and each later page starts where the page before ended.

  `slices_getElem?` reads off page `j`, and with it the number of requests.
-/

import Vouch.Keyset.Run
import Mathlib.Algebra.BigOperators.Group.Finset.Basic
import Mathlib.Algebra.Order.Floor.Div
import Mathlib.Algebra.Order.BigOperators.Group.Finset

namespace Keyset

variable {α κ γ ε : Type*}

-- ============================================================================
-- Offsets and slices
-- ============================================================================

/-- The rows returned by the `j` requests from request `i` on, all full. -/
def offset (limit : ℕ → ℕ) (i j : ℕ) : ℕ := ∑ k ∈ Finset.range j, limit (i + k)

@[simp] theorem offset_zero (limit : ℕ → ℕ) (i : ℕ) : offset limit i 0 = 0 := rfl

theorem offset_succ (limit : ℕ → ℕ) (i j : ℕ) :
    offset limit i (j + 1) = limit i + offset limit (i + 1) j := by
  have hshift : ∀ k, limit (i + (k + 1)) = limit (i + 1 + k) := by
    intro k
    congr 1
    omega
  rw [offset, offset, Finset.sum_range_succ', Nat.add_comm, Nat.add_zero]
  simp only [hshift]

/-- Positive limits: at least one row for each request. -/
theorem le_offset {limit : ℕ → ℕ} (hpos : ∀ i, 1 ≤ limit i) (i j : ℕ) : j ≤ offset limit i j := by
  have hsum : ∑ _k ∈ Finset.range j, 1 ≤ offset limit i j := Finset.sum_le_sum fun k _ => hpos _
  rwa [Finset.sum_const, Finset.card_range, smul_eq_mul, Nat.mul_one] at hsum

/-- At most `n` pages of a list, cut at the limits from request `i` on. -/
def slices (key : α → κ) (limit : ℕ → ℕ) : ℕ → ℕ → List α → List (Page α κ)
  | 0, _, _ => []
  | n + 1, i, view =>
      if limit i < view.length then
        lookAhead key (limit i) view :: slices key limit n (i + 1) (view.drop (limit i))
      else [⟨view, none⟩]

variable {key : α → κ}

/-- The look-ahead reads one row more than it returns, and needs no others. -/
theorem lookAhead_take (limit : ℕ) (view : List α) :
    lookAhead key limit (view.take (limit + 1)) = lookAhead key limit view := by
  have hlength := List.length_take (i := limit + 1) (l := view)
  rw [lookAhead, lookAhead]
  by_cases hlen : limit < view.length
  · rw [if_pos hlen, if_pos (by omega), List.take_take, Nat.min_eq_left (by omega)]
  · rw [if_neg hlen, if_neg (by omega), List.take_of_length_le (by omega)]

theorem lookAhead_items (limit : ℕ) (view : List α) :
    (lookAhead key limit view).items = view.take limit := by
  rw [lookAhead]
  split
  · rfl
  · rw [List.take_of_length_le (by omega)]

theorem lookAhead_of_le {limit : ℕ} {view : List α} (h : view.length ≤ limit) :
    lookAhead key limit view = ⟨view, none⟩ := by
  rw [lookAhead, if_neg (by omega)]

/-- A page with rows behind it names the key of its last row. -/
theorem lookAhead_next {limit : ℕ} (hpos : 1 ≤ limit) {view : List α} (h : limit < view.length) :
    ∃ hne : view.take limit ≠ [],
      (lookAhead key limit view).next = some (key ((view.take limit).getLast hne)) := by
  have hne : view.take limit ≠ [] := by
    intro hnil
    have hzero := congrArg List.length hnil
    rw [List.length_take, List.length_nil] at hzero
    omega
  refine ⟨hne, ?_⟩
  rw [lookAhead, if_pos h, List.getLast?_eq_some_getLast hne]
  rfl

/-- **Page `j`** is the slice at the offset of the pages before it, and exists
    as long as rows are left there. -/
theorem slices_getElem? (limit : ℕ → ℕ) (n i : ℕ) (view : List α) (j : ℕ) :
    (slices key limit n i view)[j]?.map Page.items =
      if j < n ∧ (j = 0 ∨ offset limit i j < view.length) then
        some ((view.drop (offset limit i j)).take (limit (i + j)))
      else none := by
  induction n generalizing i view j with
  | zero => simp [slices]
  | succ n ih =>
    rw [slices]
    by_cases hlen : limit i < view.length
    · rw [if_pos hlen]
      cases j with
      | zero => simp [lookAhead_items]
      | succ j =>
        rw [List.getElem?_cons_succ, ih, List.length_drop, List.drop_drop, offset_succ,
          show i + 1 + j = i + (j + 1) from by omega]
        congr 1
        rw [eq_iff_iff]
        refine ⟨?_, ?_⟩
        · rintro ⟨hj, rfl | hoffset⟩
          · rw [offset_zero]
            omega
          · omega
        · rintro ⟨hj, hzero | hoffset⟩
          · omega
          · omega
    · rw [if_neg hlen]
      cases j with
      | zero => simp [List.take_of_length_le (not_lt.mp hlen)]
      | succ j =>
        rw [offset_succ, if_neg (by omega)]
        simp

/-- The slices of a list hold the list. -/
theorem rowsOf_slices {limit : ℕ → ℕ} (hpos : ∀ i, 1 ≤ limit i) {n : ℕ} (i : ℕ) {view : List α}
    (h : view.length < n) : Done (slices key limit n i view) ∧
      rowsOf (slices key limit n i view) = view := by
  induction n generalizing i view with
  | zero => omega
  | succ n ih =>
    rw [slices]
    by_cases hlen : limit i < view.length
    · obtain ⟨_, hnext⟩ := @lookAhead_next _ _ key _ (hpos i) _ hlen
      have hless : (view.drop (limit i)).length < n := by
        have hone := hpos i
        rw [List.length_drop]
        omega
      have hrest := ih (i + 1) hless
      rw [if_pos hlen, done_cons hnext, rowsOf_cons, lookAhead_items, hrest.2,
        List.take_append_drop]
      exact ⟨hrest.1, rfl⟩
    · rw [if_neg hlen, rowsOf_cons, rowsOf_nil, List.append_nil]
      exact ⟨⟨_, rfl, rfl⟩, rfl⟩

/-- With one limit for all requests, their number is the quotient rounded up; no
    rows still take one request. -/
theorem length_slices_const {limit : ℕ} (hpos : 1 ≤ limit) {n : ℕ} (i : ℕ) {view : List α}
    (h : view.length < n) :
    (slices key (fun _ => limit) n i view).length = max 1 (view.length ⌈/⌉ limit) := by
  induction n generalizing i view with
  | zero => omega
  | succ n ih =>
    rw [slices]
    by_cases hlen : limit < view.length
    · have hless : (view.drop limit).length < n := by
        rw [List.length_drop]
        omega
      have hrest := ih (i + 1) hless
      have hstep : view.length ⌈/⌉ limit = (view.length - limit) ⌈/⌉ limit + 1 := by
        rw [Nat.ceilDiv_eq_add_pred_div, Nat.ceilDiv_eq_add_pred_div,
          ← Nat.add_div_right _ (by omega)]
        congr 1
        omega
      have hmore : 1 ≤ (view.length - limit) ⌈/⌉ limit := by
        rw [Nat.ceilDiv_eq_add_pred_div, Nat.one_le_div_iff (by omega)]
        omega
      rw [if_pos hlen, List.length_cons, hrest, List.length_drop]
      omega
    · have hone : view.length ⌈/⌉ limit ≤ 1 := by
        rw [ceilDiv_le_iff_le_mul (by omega)]
        omega
      rw [if_neg hlen, List.length_singleton]
      omega

-- ============================================================================
-- Suffixes of ordered rows
-- ============================================================================

section Suffix

variable [LinearOrder κ] {rows view : List α}

/-- The rows after a key between two parts of the list are the second part. -/
theorem after_append {front back : List α} {e : κ} (hfront : ∀ a ∈ front, key a ≤ e)
    (hback : ∀ b ∈ back, e < key b) : after key (some e) (front ++ back) = back := by
  have hnone : after key (some e) front = [] := by
    rw [after, List.filter_eq_nil_iff]
    intro a ha
    rw [decide_eq_true_eq, after_some]
    exact not_lt.mpr (hfront a ha)
  have hall : after key (some e) back = back := by
    rw [after, List.filter_eq_self]
    intro b hb
    rw [decide_eq_true_eq, after_some]
    exact hback b hb
  rw [after, List.filter_append, ← after, ← after, hnone, hall, List.nil_append]

/-- Rows selected by a condition that, once true, stays true along the order are
    the end of the list. -/
theorem filter_suffix (h : Ordered key rows) {Q : κ → Prop} [DecidablePred Q]
    (hup : ∀ k l, k < l → Q k → Q l) : rows.filter (fun a => Q (key a)) <:+ rows := by
  induction rows with
  | nil => exact List.suffix_refl _
  | cons a rows ih =>
    obtain ⟨ha, hrows⟩ := List.pairwise_cons.mp h
    by_cases hQ : Q (key a)
    · have hall : (a :: rows).filter (fun b => Q (key b)) = a :: rows := by
        rw [List.filter_eq_self]
        intro b hb
        rw [decide_eq_true_eq]
        rcases List.mem_cons.mp hb with rfl | hb
        · exact hQ
        · exact hup _ _ (ha b hb) hQ
      rw [hall]
    · rw [List.filter_cons_of_neg (by simpa using hQ)]
      exact (ih hrows).trans (List.suffix_cons a rows)

/-- The page of a suffix ends where the rest of the suffix begins. -/
theorem after_next_suffix (h : Ordered key rows) (hview : view <:+ rows) {limit : ℕ}
    (hpos : 1 ≤ limit) (hlen : limit < view.length) :
    ∃ e, (lookAhead key limit view).next = some e ∧
      after key (some e) rows = view.drop limit := by
  obtain ⟨front, rfl⟩ := hview
  obtain ⟨hne, hnext⟩ := @lookAhead_next _ _ key _ hpos _ hlen
  have hsplit : front ++ view = (front ++ view.take limit) ++ view.drop limit := by
    rw [List.append_assoc, List.take_append_drop]
  have hord := h
  rw [hsplit] at hord
  obtain ⟨hkept, -, hcross⟩ := List.pairwise_append.mp hord
  obtain ⟨-, htake, hbefore⟩ := List.pairwise_append.mp hkept
  have hlast := Ordered.le_getLast htake hne
  have hz := List.getLast_mem hne
  refine ⟨_, hnext, ?_⟩
  rw [hsplit]
  apply after_append
  · intro a ha
    rcases List.mem_append.mp ha with ha | ha
    · exact le_of_lt (hbefore a ha _ hz)
    · exact hlast a ha
  · intro b hb
    exact hcross _ (List.mem_append_right _ hz) b hb

end Suffix

-- ============================================================================
-- A client's run
-- ============================================================================

theorem collect_of_error {request : ℕ → Option γ → Except ε (Page α γ)} {n i : ℕ} {c : Option γ}
    {e : ε} (h : request i c = .error e) : collect request (n + 1) i c = .error e := by
  simp only [collect, h]

theorem collect_of_next_none {request : ℕ → Option γ → Except ε (Page α γ)} {n i : ℕ}
    {c : Option γ} {p : Page α γ} (h : request i c = .ok p) (hnext : p.next = none) :
    collect request (n + 1) i c = .ok [p] := by
  simp only [collect, h, hnext]

theorem collect_of_next_some {request : ℕ → Option γ → Except ε (Page α γ)} {n i : ℕ}
    {c : Option γ} {p : Page α γ} {e : γ} (h : request i c = .ok p) (hnext : p.next = some e) :
    collect request (n + 1) i c = (collect request n (i + 1) (some e)).map (p :: ·) := by
  simp only [collect, h, hnext]

/-- Converting the rows of every response converts the pages of the run. -/
theorem collect_mapItems {β : Type*} {g : α → β} {request : ℕ → Option γ → Except ε (Page α γ)}
    {request' : ℕ → Option γ → Except ε (Page β γ)}
    (h : ∀ i c, request' i c = (request i c).map (Page.mapItems g)) (n i : ℕ) (c : Option γ) :
    collect request' n i c = (collect request n i c).map (List.map (Page.mapItems g)) := by
  induction n generalizing i c with
  | zero => rfl
  | succ n ih =>
    cases hr : request i c with
    | error e =>
      have hg : request' i c = .error e := by
        rw [h, hr]
        rfl
      rw [collect_of_error hr, collect_of_error hg]
      rfl
    | ok p =>
      have hg : request' i c = .ok (p.mapItems g) := by
        rw [h, hr]
        rfl
      cases hn : p.next with
      | none =>
        rw [collect_of_next_none hr hn, collect_of_next_none hg hn]
        rfl
      | some e =>
        rw [collect_of_next_some hr hn, collect_of_next_some hg hn, ih]
        cases collect request n (i + 1) (some e) with
        | error e => rfl
        | ok ps => rfl

/-- **Keyset pages are slices.**  A client enters with some request that returns
    the first page of a suffix of the ordered rows, and then follows `next`: it
    receives the slices of that suffix. -/
theorem collect_eq_slices [LinearOrder κ] {rows : List α} (h : Ordered key rows) {limit : ℕ → ℕ}
    (hpos : ∀ i, 1 ≤ limit i) {request : ℕ → Option γ → Except ε (Page α γ)} {enc : κ → γ}
    (hrequest : ∀ i c, request i (some (enc c)) =
      .ok ((pageAfter key rows (limit i) (some c)).mapNext enc))
    (n i : ℕ) {start : Option γ} {view : List α} (hview : view <:+ rows)
    (hstart : request i start = .ok ((lookAhead key (limit i) view).mapNext enc)) :
    collect request n i start = .ok ((slices key limit n i view).map (Page.mapNext enc)) := by
  induction n generalizing i start view with
  | zero => rfl
  | succ n ih =>
    rw [slices]
    by_cases hlen : limit i < view.length
    · obtain ⟨e, hnext, hafter⟩ := after_next_suffix h hview (hpos i) hlen
      have hrest : request (i + 1) (some (enc e)) =
          .ok ((lookAhead key (limit (i + 1)) (view.drop (limit i))).mapNext enc) := by
        rw [hrequest, pageAfter, hafter, lookAhead_take]
      have hfirst : ((lookAhead key (limit i) view).mapNext enc).next = some (enc e) := by
        rw [Page.mapNext_next, hnext, Option.map_some]
      rw [if_pos hlen, List.map_cons, collect_of_next_some hstart hfirst,
        ih (i + 1) ((List.drop_suffix _ _).trans hview) hrest]
      rfl
    · rw [lookAhead_of_le (by omega)] at hstart
      rw [if_neg hlen, collect_of_next_none hstart rfl]
      rfl

end Keyset
