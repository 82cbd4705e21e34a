/-
  Vouch.Keyset.Page

  One page of keyset pagination over an arbitrary linear order of keys.

  A pager reads the rows whose key lies strictly after a resume position, asks
  for one row more than it will return, and names the key of the last returned
  row as the next resume position exactly when the extra row came back.

    * `after c rows`          — the rows a request with position `c` may return.
    * `lookAhead limit rows`  — truncation of `limit + 1` fetched rows.
    * `PageOf rows limit c p` — what `p` says about `rows`, stated without the
      fetch: sortedness, exact membership, and the meaning of `next`.

  Runs over several pages (`Keyset.Run`) are proved from `PageOf` alone, so
  they apply to any pager that meets it, over rows that may change between
  two requests.
-/

import Mathlib.Data.List.Sort
import Mathlib.Data.Prod.Lex

namespace Keyset

variable {α β κ γ : Type*}

-- ============================================================================
-- Pages and resume positions
-- ============================================================================

/-- A page: its rows, and the position to resume from when rows are left. -/
structure Page (α κ : Type*) where
  items : List α
  next : Option κ
deriving Repr, DecidableEq

/-- The same page with another encoding of its resume position. -/
def Page.mapNext (f : κ → γ) (p : Page α κ) : Page α γ :=
  ⟨p.items, p.next.map f⟩

/-- The same page with its rows converted. -/
def Page.mapItems (g : α → β) (p : Page α κ) : Page β κ := ⟨p.items.map g, p.next⟩

@[simp] theorem Page.mapNext_items (f : κ → γ) (p : Page α κ) :
    (p.mapNext f).items = p.items := rfl

@[simp] theorem Page.mapNext_next (f : κ → γ) (p : Page α κ) :
    (p.mapNext f).next = p.next.map f := rfl

@[simp] theorem Page.mapItems_items (g : α → β) (p : Page α κ) :
    (p.mapItems g).items = p.items.map g := rfl

@[simp] theorem Page.mapItems_next (g : α → β) (p : Page α κ) :
    (p.mapItems g).next = p.next := rfl

variable [LinearOrder κ]

/-- `k` lies strictly after the resume position; `none` is the very start. -/
def After : Option κ → κ → Prop
  | none, _ => True
  | some c, k => c < k

/-- `k` lies at or before the page's end; a page without `next` reaches the
    end of the rows. -/
def UpTo : Option κ → κ → Prop
  | none, _ => True
  | some e, k => k ≤ e

instance : (c : Option κ) → (k : κ) → Decidable (After c k)
  | none, _ => isTrue trivial
  | some c, k => inferInstanceAs (Decidable (c < k))

@[simp] theorem after_none (k : κ) : After none k := trivial

@[simp] theorem after_some (c k : κ) : After (some c) k ↔ c < k := Iff.rfl

@[simp] theorem upTo_none (k : κ) : UpTo none k := trivial

@[simp] theorem upTo_some (e k : κ) : UpTo (some e) k ↔ k ≤ e := Iff.rfl

theorem After.trans {c : Option κ} {k l : κ} (h : After c k) (hkl : k < l) : After c l := by
  cases c with
  | none => trivial
  | some c => exact lt_trans h hkl

variable (key : α → κ)

/-- Rows in strict key order: no two share a key. -/
def Ordered (rows : List α) : Prop := rows.Pairwise (fun a b => key a < key b)

/-- The rows a request resuming at `c` may return. -/
def after (c : Option κ) (rows : List α) : List α := rows.filter (fun a => After c (key a))

variable {key}

@[simp] theorem mem_after {c : Option κ} {rows : List α} {a : α} :
    a ∈ after key c rows ↔ a ∈ rows ∧ After c (key a) := by
  simp [after]

@[simp] theorem after_none_eq (rows : List α) : after key none rows = rows := by
  simp [after]

theorem Ordered.after {rows : List α} (h : Ordered key rows) (c : Option κ) :
    Ordered key (after key c rows) :=
  List.Pairwise.filter _ h

/-- Strictly ordered lists with the same members are the same list. -/
theorem Ordered.eq_of_mem_iff {l₁ l₂ : List α} (h₁ : Ordered key l₁) (h₂ : Ordered key l₂)
    (h : ∀ a, a ∈ l₁ ↔ a ∈ l₂) : l₁ = l₂ := by
  have : Std.Irrefl (fun a b : α => key a < key b) := ⟨fun a => lt_irrefl (key a)⟩
  have : Std.Antisymm (fun a b : α => key a < key b) := ⟨fun _ _ h h' => absurd h (lt_asymm h')⟩
  exact List.Pairwise.eq_of_mem_iff h₁ h₂ h

/-- Every row is at or before the last one. -/
theorem Ordered.le_getLast {rows : List α} (h : Ordered key rows) (hne : rows ≠ []) :
    ∀ a ∈ rows, key a ≤ key (rows.getLast hne) := by
  intro a ha
  have hdec : rows.dropLast ++ [rows.getLast hne] = rows := List.dropLast_append_getLast hne
  generalize rows.getLast hne = z at hdec ⊢
  rw [← hdec] at ha h
  rcases List.mem_append.mp ha with ha | ha
  · exact le_of_lt ((List.pairwise_append.mp h).2.2 a ha z List.mem_cons_self)
  · rw [List.mem_singleton.mp ha]

/-- A key of a strictly ordered list occurs once. -/
theorem Ordered.countP_eq_one {rows : List α} (h : Ordered key rows) {a : α} (ha : a ∈ rows) :
    rows.countP (fun b => key b = key a) = 1 := by
  induction rows with
  | nil => exact absurd ha List.not_mem_nil
  | cons x rows ih =>
    obtain ⟨hx, hrows⟩ := List.pairwise_cons.mp h
    rw [List.countP_cons]
    rcases List.mem_cons.mp ha with rfl | ha'
    · -- the head has the key, and everything behind it a larger one
      have hnone : rows.countP (fun b => key b = key a) = 0 := by
        rw [List.countP_eq_zero]
        intro b hb
        rw [decide_eq_true_iff]
        exact ne_of_gt (hx b hb)
      rw [hnone]
      simp
    · have hne : key x ≠ key a := ne_of_lt (hx a ha')
      rw [ih hrows ha']
      simp [hne]

variable (key) in
/-- The rows sorted by key. -/
def sortByKey (rows : List α) : List α := rows.insertionSort fun a b => key a ≤ key b

theorem mem_sortByKey {rows : List α} {a : α} : a ∈ sortByKey key rows ↔ a ∈ rows :=
  List.mem_insertionSort _

/-- Rows with distinct keys sort into strict order. -/
theorem ordered_sortByKey {rows : List α} (h : rows.Pairwise fun a b => key a ≠ key b) :
    Ordered key (sortByKey key rows) := by
  have hsorted : (sortByKey key rows).Pairwise fun a b => key a ≤ key b := by
    have : Std.Total (fun a b : α => key a ≤ key b) := ⟨fun a b => le_total (key a) (key b)⟩
    have : IsTrans α (fun a b => key a ≤ key b) := ⟨fun _ _ _ => le_trans⟩
    exact List.pairwise_insertionSort _ rows
  have hne : (sortByKey key rows).Pairwise fun a b => key a ≠ key b :=
    (List.perm_insertionSort _ rows).symm.pairwise h fun hab => hab.symm
  exact hsorted.imp₂ (fun _ _ hle hne => lt_of_le_of_ne hle hne) hne

/-- Filtering commutes with sorting rows that have distinct keys. -/
theorem sortByKey_filter {rows : List α} (h : rows.Pairwise fun a b => key a ≠ key b)
    (p : α → Bool) : sortByKey key (rows.filter p) = (sortByKey key rows).filter p := by
  have hf : Ordered key ((sortByKey key rows).filter p) := (ordered_sortByKey h).filter _
  apply (ordered_sortByKey (h.filter _)).eq_of_mem_iff hf
  intro a
  rw [mem_sortByKey, List.mem_filter, List.mem_filter, mem_sortByKey]

/-- Selecting fewer rows leaves out some and moves none. -/
theorem sortByKey_filter_sublist {rows : List α} (h : rows.Pairwise fun a b => key a ≠ key b)
    {p q : α → Bool} (hpq : ∀ a, p a = true → q a = true) :
    (sortByKey key (rows.filter p)).Sublist (sortByKey key (rows.filter q)) := by
  rw [sortByKey_filter h, sortByKey_filter h]
  exact List.monotone_filter_right _ hpq

-- ============================================================================
-- The look-ahead page
-- ============================================================================

variable (key) in
/-- Truncate the fetched rows to `limit`; when one more row came back, resume
    after the last row kept. -/
def lookAhead (limit : ℕ) (fetched : List α) : Page α κ :=
  if limit < fetched.length then
    ⟨fetched.take limit, (fetched.take limit).getLast?.map key⟩
  else ⟨fetched, none⟩

variable (key) in
/-- The page of the rows after a position: one row more is read than returned. -/
def pageAfter (rows : List α) (limit : ℕ) (c : Option κ) : Page α κ :=
  lookAhead key limit ((after key c rows).take (limit + 1))

variable (key) in
/-- What a page says about the rows it was read from. -/
structure PageOf (rows : List α) (limit : ℕ) (c : Option κ) (p : Page α κ) : Prop where
  /-- The page is in key order. -/
  ordered : Ordered key p.items
  /-- It holds exactly the rows after the position and up to its own end. -/
  mem_iff : ∀ a, a ∈ p.items ↔ a ∈ rows ∧ After c (key a) ∧ UpTo p.next (key a)
  /-- A page that names a next position is full. -/
  full : ∀ e, p.next = some e → p.items.length = limit
  /-- The next position is the key of a row of the page. -/
  last : ∀ e, p.next = some e → ∃ a ∈ p.items, key a = e
  /-- Rows are left after a page that names a next position. -/
  more : ∀ e, p.next = some e → ∃ a ∈ rows, e < key a

section LookAhead

variable {rows view : List α} {limit : ℕ} {c : Option κ}
  (hmem : ∀ a, a ∈ view ↔ a ∈ rows ∧ After c (key a)) (hord : Ordered key view)

include hmem hord

/-- Rows that all fit are one page, with nothing behind it. -/
theorem pageOf_all : PageOf key rows limit c ⟨view, none⟩ := by
  refine ⟨hord, fun a => ?_, fun e he => ?_, fun e he => ?_, fun e he => ?_⟩
  · rw [← and_assoc, ← hmem a]
    exact (and_iff_left trivial).symm
  all_goals exact absurd he (by simp)

/-- The first `limit` of more rows are a page that ends at the last of them. -/
theorem pageOf_take (hpos : 0 < limit) (hlen : limit < view.length) :
    PageOf key rows limit c ⟨view.take limit, (view.take limit).getLast?.map key⟩ := by
  have hfull : (view.take limit).length = limit := by
    rw [List.length_take, Nat.min_eq_left (by omega)]
  have hne : view.take limit ≠ [] := by
    intro hnil
    rw [hnil, List.length_nil] at hfull
    omega
  obtain ⟨b, hb⟩ : ∃ b, b ∈ view.drop limit := by
    have : 0 < (view.drop limit).length := by
      rw [List.length_drop]
      omega
    exact List.exists_mem_of_length_pos this
  -- the kept rows come before the dropped ones
  have hsplit : view = view.take limit ++ view.drop limit := (List.take_append_drop _ _).symm
  have hcross : ∀ a ∈ view.take limit, ∀ b ∈ view.drop limit, key a < key b := by
    rw [hsplit] at hord
    exact (List.pairwise_append.mp hord).2.2
  have hkept : Ordered key (view.take limit) := hord.sublist (List.take_sublist _ _)
  have hle := hkept.le_getLast hne
  have hzmem := List.getLast_mem hne
  rw [List.getLast?_eq_some_getLast hne, Option.map_some]
  generalize (view.take limit).getLast hne = z at hle hzmem
  refine ⟨hkept, fun a => ?_, fun _ _ => hfull, fun e he => ?_, fun e he => ?_⟩
  · rw [← and_assoc, ← hmem a, upTo_some]
    refine ⟨fun ha => ⟨List.mem_of_mem_take ha, hle a ha⟩, fun ⟨ha, haz⟩ => ?_⟩
    rw [hsplit] at ha
    rcases List.mem_append.mp ha with ha | ha
    · exact ha
    · exact absurd (hcross z hzmem a ha) (not_lt.mpr haz)
  · exact ⟨z, hzmem, Option.some.inj he⟩
  · have hbv : b ∈ view := List.mem_of_mem_drop hb
    exact ⟨b, ((hmem b).mp hbv).1, Option.some.inj he ▸ hcross z hzmem b hb⟩

end LookAhead

/-- Reading `limit + 1` rows after `c` and truncating gives a page of the rows. -/
theorem pageOf_lookAhead {rows : List α} (h : Ordered key rows) {limit : ℕ} (hpos : 0 < limit)
    (c : Option κ) :
    PageOf key rows limit c (lookAhead key limit ((after key c rows).take (limit + 1))) := by
  have hmem : ∀ a, a ∈ after key c rows ↔ a ∈ rows ∧ After c (key a) := fun a => mem_after
  have hlength := List.length_take (i := limit + 1) (l := after key c rows)
  rw [lookAhead]
  by_cases hlen : limit < ((after key c rows).take (limit + 1)).length
  · -- the extra row came back
    have htake : ((after key c rows).take (limit + 1)).take limit = (after key c rows).take limit := by
      rw [List.take_take, Nat.min_eq_left (by omega)]
    rw [if_pos hlen, htake]
    exact pageOf_take hmem (h.after c) hpos (by omega)
  · have hall : (after key c rows).take (limit + 1) = after key c rows := by
      apply List.take_of_length_le
      omega
    rw [if_neg hlen, hall]
    exact pageOf_all hmem (h.after c)

/-- A page without a next position leaves nothing behind, and only such a page does. -/
theorem PageOf.next_eq_none_iff {rows : List α} {limit : ℕ} {c : Option κ} {p : Page α κ}
    (h : PageOf key rows limit c p) :
    p.next = none ↔ ∀ a ∈ rows, After c (key a) → a ∈ p.items := by
  refine ⟨fun hn a ha hca => ?_, fun hall => ?_⟩
  · rw [h.mem_iff, hn]
    exact ⟨ha, hca, trivial⟩
  · cases hp : p.next with
    | none => rfl
    | some e =>
      obtain ⟨b, hb, heb⟩ := h.more e hp
      obtain ⟨z, hz, rfl⟩ := h.last e hp
      have hbp := hall b hb (((h.mem_iff z).mp hz).2.1.trans heb)
      rw [h.mem_iff, hp] at hbp
      exact absurd heb (not_lt.mpr hbp.2.2)

end Keyset
