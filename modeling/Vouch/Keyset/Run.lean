/-
  Vouch.Keyset.Run

  A client that pages to the end: it sends each `next` position back until a
  page carries none.

  Every statement assumes only that each fetched page is a `PageOf` of the rows
  present at that request, so request `i` may see other rows and another limit
  than request `i + 1`:

    * over changing rows, the collected keys still increase strictly and a key
      present at every request is collected (`pages_ordered`, `mem_of_persists`);
    * over fixed rows the run also ends, within one request per row plus one,
      and collects the rows themselves (`pages_done`, `pages_flatMap`).

  `collect_eq` transports these to a fallible fetch whose positions are encoded.
-/

import Vouch.Keyset.Page

namespace Keyset

variable {α β κ γ ε : Type*}

-- ============================================================================
-- The client's loop
-- ============================================================================

/-- Follow `next` for at most `n` requests, numbered from `i`, and return the
    pages received; the first failing request ends the run. -/
def collect (fetch : ℕ → Option γ → Except ε (Page α γ)) :
    ℕ → ℕ → Option γ → Except ε (List (Page α γ))
  | 0, _, _ => .ok []
  | n + 1, i, c =>
      match fetch i c with
      | .error e => .error e
      | .ok p =>
          match p.next with
          | none => .ok [p]
          | some c' => (collect fetch n (i + 1) (some c')).map (p :: ·)

/-- The same loop over a fetch that cannot fail. -/
def pages (fetch : ℕ → Option κ → Page α κ) : ℕ → ℕ → Option κ → List (Page α κ)
  | 0, _, _ => []
  | n + 1, i, c =>
      match (fetch i c).next with
      | none => [fetch i c]
      | some e => fetch i c :: pages fetch n (i + 1) (some e)

/-- The rows of all pages, in the order received. -/
def rowsOf (ps : List (Page α γ)) : List α := ps.flatMap Page.items

/-- The run reached a page without a next position. -/
def Done (ps : List (Page α γ)) : Prop := ∃ p, ps.getLast? = some p ∧ p.next = none

@[simp] theorem rowsOf_nil : rowsOf ([] : List (Page α γ)) = [] := rfl

@[simp] theorem rowsOf_cons (p : Page α γ) (ps : List (Page α γ)) :
    rowsOf (p :: ps) = p.items ++ rowsOf ps := rfl

theorem mem_rowsOf {ps : List (Page α γ)} {a : α} :
    a ∈ rowsOf ps ↔ ∃ p ∈ ps, a ∈ p.items := List.mem_flatMap

@[simp] theorem rowsOf_map_mapNext (f : κ → γ) (ps : List (Page α κ)) :
    rowsOf (ps.map (Page.mapNext f)) = rowsOf ps := by
  simp [rowsOf, List.flatMap_map]

theorem done_map_mapNext {f : κ → γ} {ps : List (Page α κ)} :
    Done (ps.map (Page.mapNext f)) ↔ Done ps := by
  simp [Done]

theorem not_done_nil : ¬ Done ([] : List (Page α γ)) := by
  rintro ⟨p, hp, -⟩
  simp at hp

theorem pages_of_next_none {fetch : ℕ → Option κ → Page α κ} {n i : ℕ} {c : Option κ}
    (h : (fetch i c).next = none) : pages fetch (n + 1) i c = [fetch i c] := by
  simp only [pages, h]

theorem pages_of_next_some {fetch : ℕ → Option κ → Page α κ} {n i : ℕ} {c : Option κ} {e : κ}
    (h : (fetch i c).next = some e) :
    pages fetch (n + 1) i c = fetch i c :: pages fetch n (i + 1) (some e) := by
  simp only [pages, h]

/-- A run that continues is done iff its continuation is. -/
theorem done_cons {p : Page α γ} {ps : List (Page α γ)} {e : γ} (hp : p.next = some e) :
    Done (p :: ps) ↔ Done ps := by
  cases ps with
  | nil => simp [Done, hp]
  | cons q ps => simp [Done]

/-- A fallible fetch whose positions encode those of `fetch` makes the same
    run: every request succeeds and returns the encoded page. -/
theorem collect_eq {request : ℕ → Option γ → Except ε (Page α γ)}
    {fetch : ℕ → Option κ → Page α κ} {enc : κ → γ}
    (h : ∀ i c, request i (c.map enc) = .ok ((fetch i c).mapNext enc)) (n i : ℕ) (c : Option κ) :
    collect request n i (c.map enc) = .ok ((pages fetch n i c).map (Page.mapNext enc)) := by
  induction n generalizing i c with
  | zero => rfl
  | succ n ih =>
    cases hn : (fetch i c).next with
    | none => simp [collect, h i c, hn, pages_of_next_none hn]
    | some e =>
      have hrest := ih (i + 1) (some e)
      simp only [Option.map_some] at hrest
      simp [collect, h i c, hn, pages_of_next_some hn, hrest, Except.map]

/-- Converting the rows of every page converts the pages of the run. -/
theorem pages_mapItems (g : α → β) (fetch : ℕ → Option κ → Page α κ) (n i : ℕ) (c : Option κ) :
    pages (fun i c => (fetch i c).mapItems g) n i c =
      (pages fetch n i c).map (Page.mapItems g) := by
  induction n generalizing i c with
  | zero => rfl
  | succ n ih =>
    cases hn : (fetch i c).next with
    | none => rw [pages_of_next_none hn, pages_of_next_none (by exact hn), List.map_singleton]
    | some e =>
      rw [pages_of_next_some hn, pages_of_next_some (by exact hn), ih, List.map_cons]

@[simp] theorem rowsOf_map_mapItems (g : α → β) (ps : List (Page α γ)) :
    rowsOf (ps.map (Page.mapItems g)) = (rowsOf ps).map g := by
  simp [rowsOf, List.flatMap_map, List.map_flatMap]

theorem done_map_mapItems {g : α → β} {ps : List (Page α γ)} :
    Done (ps.map (Page.mapItems g)) ↔ Done ps := by
  simp [Done]

-- ============================================================================
-- Runs over changing rows
-- ============================================================================

section Runs

variable [LinearOrder κ] {key : α → κ} {rows : ℕ → List α} {limit : ℕ → ℕ}
  {fetch : ℕ → Option κ → Page α κ}
  (hpage : ∀ i c, PageOf key (rows i) (limit i) c (fetch i c))

include hpage

/-- Nothing is collected at or before the starting position. -/
theorem after_of_mem_pages (n i : ℕ) (c : Option κ) :
    ∀ a ∈ rowsOf (pages fetch n i c), After c (key a) := by
  induction n generalizing i c with
  | zero => simp [pages]
  | succ n ih =>
    intro a ha
    have hp := hpage i c
    cases hn : (fetch i c).next with
    | none =>
      simp only [pages_of_next_none hn, rowsOf_cons, rowsOf_nil, List.append_nil] at ha
      exact ((hp.mem_iff a).mp ha).2.1
    | some e =>
      simp only [pages_of_next_some hn, rowsOf_cons, List.mem_append] at ha
      rcases ha with ha | ha
      · exact ((hp.mem_iff a).mp ha).2.1
      · obtain ⟨z, hz, rfl⟩ := hp.last e hn
        exact ((hp.mem_iff z).mp hz).2.1.trans (ih _ _ a ha)

/-- Collected keys increase strictly over the whole run. -/
theorem pages_ordered (n i : ℕ) (c : Option κ) : Ordered key (rowsOf (pages fetch n i c)) := by
  induction n generalizing i c with
  | zero => simp [pages, Ordered]
  | succ n ih =>
    have hp := hpage i c
    cases hn : (fetch i c).next with
    | none => simpa [pages_of_next_none hn] using hp.ordered
    | some e =>
      rw [pages_of_next_some hn, rowsOf_cons]
      refine List.pairwise_append.mpr ⟨hp.ordered, ih _ _, fun a ha b hb => ?_⟩
      have hae := ((hp.mem_iff a).mp ha).2.2
      rw [hn] at hae
      exact lt_of_le_of_lt hae (after_of_mem_pages hpage n (i + 1) (some e) b hb)

/-- Page `j` of a run is a page of the rows seen by request `i + j`. -/
theorem pageOf_getElem? (n i : ℕ) (c : Option κ) {j : ℕ} {p : Page α κ}
    (hj : (pages fetch n i c)[j]? = some p) :
    ∃ c', PageOf key (rows (i + j)) (limit (i + j)) c' p := by
  induction n generalizing i c j with
  | zero => simp [pages] at hj
  | succ n ih =>
    cases hn : (fetch i c).next with
    | none =>
      rw [pages_of_next_none hn] at hj
      obtain ⟨rfl, rfl⟩ : j = 0 ∧ fetch i c = p := by
        cases j with
        | zero => exact ⟨rfl, by simpa using hj⟩
        | succ j => simp at hj
      exact ⟨c, hpage i c⟩
    | some e =>
      rw [pages_of_next_some hn] at hj
      cases j with
      | zero =>
        have hq : fetch i c = p := by simpa using hj
        exact ⟨c, hq ▸ hpage i c⟩
      | succ j =>
        obtain ⟨c', hc'⟩ := ih (i + 1) (some e) (by simpa using hj)
        rw [show i + 1 + j = i + (j + 1) from by omega] at hc'
        exact ⟨c', hc'⟩

/-- A key present at every request of a finished run is collected. -/
theorem mem_of_persists (n i : ℕ) (c : Option κ) {k : κ}
    (hdone : Done (pages fetch n i c)) (hk : After c k)
    (hpers : ∀ j < (pages fetch n i c).length, ∃ a ∈ rows (i + j), key a = k) :
    ∃ a ∈ rowsOf (pages fetch n i c), key a = k := by
  induction n generalizing i c with
  | zero => exact absurd hdone not_done_nil
  | succ n ih =>
    have hp := hpage i c
    have hmem : UpTo (fetch i c).next k → ∃ a ∈ (fetch i c).items, key a = k := by
      intro hup
      obtain ⟨a, ha, rfl⟩ := hpers 0 (by unfold pages; split <;> simp)
      exact ⟨a, (hp.mem_iff a).mpr ⟨ha, hk, hup⟩, rfl⟩
    cases hn : (fetch i c).next with
    | none =>
      rw [hn] at hmem
      obtain ⟨a, ha, hak⟩ := hmem trivial
      exact ⟨a, by simpa [pages_of_next_none hn] using ha, hak⟩
    | some e =>
      rw [pages_of_next_some hn] at hdone hpers
      rw [pages_of_next_some hn, rowsOf_cons]
      by_cases hke : k ≤ e
      · obtain ⟨a, ha, hak⟩ := hmem (hn ▸ hke)
        exact ⟨a, List.mem_append_left _ ha, hak⟩
      · have hrest : ∀ j < (pages fetch n (i + 1) (some e)).length,
            ∃ a ∈ rows (i + 1 + j), key a = k := by
          intro j hj
          rw [show i + 1 + j = i + (j + 1) from by omega]
          exact hpers (j + 1) (by simpa using hj)
        obtain ⟨a, ha, hak⟩ := ih (i + 1) (some e) ((done_cons hn).mp hdone) (not_le.mp hke) hrest
        exact ⟨a, List.mem_append_right _ ha, hak⟩

end Runs

-- ============================================================================
-- Runs over fixed rows
-- ============================================================================

section Fixed

variable [LinearOrder κ] {key : α → κ} {rows : List α} {limit : ℕ → ℕ}
  {fetch : ℕ → Option κ → Page α κ}
  (hpage : ∀ i c, PageOf key rows (limit i) c (fetch i c))

include hpage

/-- The rows left shrink with every page that names a next position. -/
theorem length_after_next_lt {i : ℕ} {c : Option κ} {e : κ} (hn : (fetch i c).next = some e) :
    (after key (some e) rows).length < (after key c rows).length := by
  have hp := hpage i c
  obtain ⟨z, hz, rfl⟩ := hp.last e hn
  have hz' := (hp.mem_iff z).mp hz
  have hsub : after key (some (key z)) rows = after key (some (key z)) (after key c rows) := by
    simp only [after, List.filter_filter]
    apply List.filter_congr
    intro a _
    by_cases ha : key z < key a
    · simp [ha, hz'.2.1.trans ha]
    · simp [ha]
  rw [hsub]
  apply List.length_filter_lt_length_iff_exists.mpr
  exact ⟨z, mem_after.mpr ⟨hz'.1, hz'.2.1⟩, by simp⟩

/-- A run over fixed rows ends: one request per row left, plus one, is enough. -/
theorem pages_done (n i : ℕ) (c : Option κ) (h : (after key c rows).length < n) :
    Done (pages fetch n i c) := by
  induction n generalizing i c with
  | zero => omega
  | succ n ih =>
    cases hn : (fetch i c).next with
    | none => exact ⟨fetch i c, by rw [pages_of_next_none hn]; rfl, hn⟩
    | some e =>
      rw [pages_of_next_some hn, done_cons hn]
      apply ih
      have := length_after_next_lt hpage hn
      omega

/-- A page of the run carries no next position exactly when it and the pages
    before it already hold every row. -/
theorem next_eq_none_iff_exhausted (n i : ℕ) (c : Option κ) {j : ℕ} {p : Page α κ}
    (hj : (pages fetch n i c)[j]? = some p) :
    p.next = none ↔
      ∀ a ∈ rows, After c (key a) → a ∈ rowsOf ((pages fetch n i c).take (j + 1)) := by
  induction n generalizing i c j with
  | zero => simp [pages] at hj
  | succ n ih =>
    have hp := hpage i c
    cases hn : (fetch i c).next with
    | none =>
      rw [pages_of_next_none hn] at hj ⊢
      cases j with
      | zero =>
        obtain rfl : fetch i c = p := by simpa using hj
        simpa using hp.next_eq_none_iff
      | succ j => simp at hj
    | some e =>
      rw [pages_of_next_some hn] at hj ⊢
      cases j with
      | zero =>
        obtain rfl : fetch i c = p := by simpa using hj
        simpa using hp.next_eq_none_iff
      | succ j =>
        rw [ih (i + 1) (some e) (by simpa using hj), List.take_succ_cons, rowsOf_cons]
        have hle : ∀ a ∈ (fetch i c).items, key a ≤ e := by
          intro a ha
          have := ((hp.mem_iff a).mp ha).2.2
          rwa [hn] at this
        refine ⟨fun hrest a ha hca => ?_, fun hall a ha hea => ?_⟩
        · by_cases hae : key a ≤ e
          · exact List.mem_append_left _ ((hp.mem_iff a).mpr ⟨ha, hca, hn ▸ hae⟩)
          · exact List.mem_append_right _ (hrest a ha (not_le.mp hae))
        · obtain ⟨z, hz, rfl⟩ := hp.last e hn
          have hca := ((hp.mem_iff z).mp hz).2.1.trans hea
          rcases List.mem_append.mp (hall a ha hca) with hin | hin
          · exact absurd hea (not_lt.mpr (hle a hin))
          · exact hin

/-- A finished run over fixed rows collects exactly the rows after its starting
    position, in order. -/
theorem pages_flatMap (hrows : Ordered key rows) (n i : ℕ) (c : Option κ)
    (hdone : Done (pages fetch n i c)) : rowsOf (pages fetch n i c) = after key c rows := by
  apply (pages_ordered hpage n i c).eq_of_mem_iff (hrows.after c)
  intro a
  rw [mem_after]
  refine ⟨fun ha => ?_, fun ⟨ha, hca⟩ => ?_⟩
  · refine ⟨?_, after_of_mem_pages hpage n i c a ha⟩
    obtain ⟨p, hp, hap⟩ := mem_rowsOf.mp ha
    obtain ⟨j, hj⟩ := List.getElem?_of_mem hp
    obtain ⟨c', hc'⟩ : ∃ c', PageOf key rows (limit (i + j)) c' p :=
      pageOf_getElem? hpage n i c hj
    exact ((hc'.mem_iff a).mp hap).1
  · obtain ⟨p, hp, hn⟩ := hdone
    have hlen : 0 < (pages fetch n i c).length := by
      rw [List.length_pos_iff]
      intro hnil
      rw [hnil] at hp
      simp at hp
    rw [List.getLast?_eq_getElem?] at hp
    have := (next_eq_none_iff_exhausted hpage n i c hp).mp hn a ha hca
    rwa [Nat.sub_add_cancel hlen, List.take_length] at this

/-- One request per row, plus one, collects all rows. -/
theorem pages_exhaust (hrows : Ordered key rows) :
    Done (pages fetch (rows.length + 1) 0 none) ∧
      rowsOf (pages fetch (rows.length + 1) 0 none) = rows := by
  have hdone : Done (pages fetch (rows.length + 1) 0 none) := by
    apply pages_done hpage
    rw [after_none_eq]
    exact Nat.lt_succ_self _
  refine ⟨hdone, ?_⟩
  rw [pages_flatMap hpage hrows _ 0 none hdone, after_none_eq]

end Fixed

end Keyset
