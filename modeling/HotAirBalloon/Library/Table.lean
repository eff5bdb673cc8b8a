import Mathlib.Tactic

/-!
# Keyed tables

A table is a list of rows with pairwise different keys, in the order in which they were
inserted. `put` inserts a row or replaces the row that has its key; `erase` removes the row
with a key. What a table contains is described by membership: `mem_put`, `mem_erase` and, for
a list of edits, `put_or_mem` and `mem_applyEdits_of_forall_ne`.
-/

namespace HotAirBalloon.Library

/-- Rows with pairwise different keys. -/
structure Table {α κ : Type} (key : α → κ) where
  rows : List α
  keys_nodup : (rows.map key).Nodup

namespace Table

variable {α κ : Type} {key : α → κ}

instance : Membership α (Table key) := ⟨fun t row => row ∈ t.rows⟩

theorem mem_def {t : Table key} {row : α} : row ∈ t ↔ row ∈ t.rows := Iff.rfl

def empty : Table key := ⟨[], by simp⟩

@[simp] theorem not_mem_empty (row : α) : row ∉ (empty : Table key) := List.not_mem_nil

/-- A row is determined by its key. -/
theorem eq_of_key_eq {t : Table key} {row row' : α} (h : row ∈ t) (h' : row' ∈ t)
    (hkey : key row = key row') : row = row' :=
  List.inj_on_of_nodup_map t.keys_nodup h h' hkey

@[ext] theorem ext {t t' : Table key} (h : t.rows = t'.rows) : t = t' := by
  cases t
  cases t'
  cases h
  rfl

/-- The rows that satisfy a condition. -/
def filter (t : Table key) (p : α → Bool) : Table key :=
  ⟨t.rows.filter p, t.keys_nodup.sublist (t.rows.filter_sublist.map key)⟩

theorem mem_filter {t : Table key} {p : α → Bool} {row : α} :
    row ∈ t.filter p ↔ row ∈ t ∧ p row = true :=
  List.mem_filter

theorem filter_congr {t : Table key} {p q : α → Bool} (h : ∀ row ∈ t, p row = q row) :
    t.filter p = t.filter q :=
  ext (List.filter_congr h)

theorem filter_eq_self {t : Table key} {p : α → Bool} (h : ∀ row ∈ t, p row = true) :
    t.filter p = t :=
  ext (List.filter_eq_self.mpr h)

/-- Every row changed, with its key kept. -/
def mapRows (t : Table key) (f : α → α) (hf : ∀ row, key (f row) = key row) : Table key :=
  ⟨t.rows.map f, by
    rw [List.map_map, show key ∘ f = key from funext hf]
    exact t.keys_nodup⟩

theorem mem_mapRows {t : Table key} {f : α → α} (hf : ∀ row, key (f row) = key row) {row : α} :
    row ∈ t.mapRows f hf ↔ ∃ old ∈ t, f old = row :=
  List.mem_map

section

variable [DecidableEq κ]

/-- The row with a key. -/
def find? (t : Table key) (k : κ) : Option α := t.rows.find? (fun row => key row = k)

theorem find?_eq_some_iff {t : Table key} {k : κ} {row : α} :
    t.find? k = some row ↔ row ∈ t ∧ key row = k := by
  constructor
  · intro h
    exact ⟨List.mem_of_find?_eq_some h, by simpa using List.find?_some h⟩
  · rintro ⟨hmem, rfl⟩
    unfold find?
    cases hfind : t.rows.find? (fun row' => key row' = key row) with
    | none =>
      have hnone := List.find?_eq_none.mp hfind row hmem
      simp at hnone
    | some row' =>
      have hkey : key row' = key row := by simpa using List.find?_some hfind
      rw [eq_of_key_eq (List.mem_of_find?_eq_some hfind) hmem hkey]

theorem find?_mapRows {t : Table key} {f : α → α} {hf : ∀ row, key (f row) = key row} {k : κ} :
    (t.mapRows f hf).find? k = (t.find? k).map f := by
  unfold find? mapRows
  rw [List.find?_map]
  simp only [Function.comp_def, hf]

theorem find?_eq_none_iff {t : Table key} {k : κ} :
    t.find? k = none ↔ ∀ row ∈ t, key row ≠ k := by
  unfold find?
  rw [List.find?_eq_none]
  simp only [decide_eq_true_eq]
  rfl

theorem find?_congr {t t' : Table key} {k : κ} (h : ∀ row, key row = k → (row ∈ t ↔ row ∈ t')) :
    t.find? k = t'.find? k := by
  ext row
  rw [find?_eq_some_iff, find?_eq_some_iff]
  constructor
  · rintro ⟨hmem, hkey⟩
    exact ⟨(h row hkey).mp hmem, hkey⟩
  · rintro ⟨hmem, hkey⟩
    exact ⟨(h row hkey).mpr hmem, hkey⟩

/-- The rows without the one that has the key. -/
def erase (t : Table key) (k : κ) : Table key := t.filter (fun row => key row ≠ k)

theorem mem_erase {t : Table key} {k : κ} {row : α} :
    row ∈ t.erase k ↔ row ∈ t ∧ key row ≠ k := by
  unfold erase
  rw [mem_filter, decide_eq_true_eq]

/-- The list after inserting a row or replacing the one with its key. -/
def putRows (key : α → κ) (row : α) : List α → List α
  | [] => [row]
  | first :: rest => if key first = key row then row :: rest else first :: putRows key row rest

theorem mem_putRows {row row' : α} {rows : List α} (hnodup : (rows.map key).Nodup) :
    row' ∈ putRows key row rows ↔ row' = row ∨ (row' ∈ rows ∧ key row' ≠ key row) := by
  induction rows with
  | nil => simp [putRows]
  | cons first rest ih =>
    rw [List.map_cons, List.nodup_cons] at hnodup
    unfold putRows
    by_cases hkey : key first = key row
    · rw [if_pos hkey, List.mem_cons, List.mem_cons]
      constructor
      · rintro (rfl | hrest)
        · exact .inl rfl
        · refine .inr ⟨.inr hrest, ?_⟩
          intro heq
          apply hnodup.1
          rw [hkey, ← heq]
          exact List.mem_map_of_mem hrest
      · rintro (rfl | ⟨rfl | hrest, hne⟩)
        · exact .inl rfl
        · exact absurd hkey hne
        · exact .inr hrest
    · rw [if_neg hkey, List.mem_cons, List.mem_cons, ih hnodup.2]
      constructor
      · rintro (rfl | rfl | ⟨hrest, hne⟩)
        · exact .inr ⟨.inl rfl, hkey⟩
        · exact .inl rfl
        · exact .inr ⟨.inr hrest, hne⟩
      · rintro (rfl | ⟨rfl | hrest, hne⟩)
        · exact .inr (.inl rfl)
        · exact .inl rfl
        · exact .inr (.inr ⟨hrest, hne⟩)

theorem nodup_putRows {row : α} {rows : List α} (hnodup : (rows.map key).Nodup) :
    ((putRows key row rows).map key).Nodup := by
  induction rows with
  | nil => simp [putRows]
  | cons first rest ih =>
    have hcons := hnodup
    rw [List.map_cons, List.nodup_cons] at hcons
    unfold putRows
    by_cases hkey : key first = key row
    · rw [if_pos hkey, List.map_cons, ← hkey]
      exact hnodup
    · rw [if_neg hkey, List.map_cons, List.nodup_cons]
      refine ⟨?_, ih hcons.2⟩
      intro hmem
      obtain ⟨row', hrow', heq⟩ := List.mem_map.mp hmem
      rcases (mem_putRows hcons.2).mp hrow' with rfl | ⟨hrest, -⟩
      · exact hkey heq.symm
      · exact hcons.1 (heq ▸ List.mem_map_of_mem hrest)

/-- Insert a row, or replace the row that has its key. -/
def put (t : Table key) (row : α) : Table key :=
  ⟨putRows key row t.rows, nodup_putRows t.keys_nodup⟩

theorem mem_put {t : Table key} {row row' : α} :
    row' ∈ t.put row ↔ row' = row ∨ (row' ∈ t ∧ key row' ≠ key row) :=
  mem_putRows t.keys_nodup

theorem find?_put {t : Table key} {row : α} {k : κ} :
    (t.put row).find? k = if k = key row then some row else t.find? k := by
  by_cases hk : k = key row
  · rw [if_pos hk]
    exact find?_eq_some_iff.mpr ⟨mem_put.mpr (.inl rfl), hk.symm⟩
  · rw [if_neg hk]
    cases hfind : t.find? k with
    | none =>
      rw [find?_eq_none_iff] at hfind ⊢
      intro row' hrow'
      rcases mem_put.mp hrow' with rfl | ⟨hmem, -⟩
      · exact fun heq => hk heq.symm
      · exact hfind row' hmem
    | some row' =>
      obtain ⟨hmem, rfl⟩ := find?_eq_some_iff.mp hfind
      exact find?_eq_some_iff.mpr ⟨mem_put.mpr (.inr ⟨hmem, hk⟩), rfl⟩

/-- A row with a new key comes last. -/
theorem rows_put_of_find?_eq_none {t : Table key} {row : α} (h : t.find? (key row) = none) :
    (t.put row).rows = t.rows ++ [row] := by
  have happend : ∀ rows : List α, (∀ row' ∈ rows, key row' ≠ key row) →
      putRows key row rows = rows ++ [row] := by
    intro rows
    induction rows with
    | nil => exact fun _ => rfl
    | cons first rest ih =>
      intro hne
      unfold putRows
      rw [if_neg (hne first List.mem_cons_self), List.cons_append,
        ih (fun row' hrow' => hne row' (List.mem_cons_of_mem first hrow'))]
  exact happend t.rows (find?_eq_none_iff.mp h)

/-- Of two rows with one key the second stays. -/
theorem put_put {t : Table key} {row row' : α} (hkey : key row' = key row) :
    (t.put row).put row' = t.put row' := by
  have hrows : ∀ rows : List α,
      putRows key row' (putRows key row rows) = putRows key row' rows := by
    intro rows
    induction rows with
    | nil => simp [putRows, hkey]
    | cons first rest ih =>
      by_cases hfirst : key first = key row
      · simp [putRows, hfirst, hkey]
      · simp [putRows, hfirst, hkey, ih]
  exact ext (hrows t.rows)

end

end Table

/-! ## Edits -/

/-- A row that is written or removed. -/
inductive Edit {α κ : Type} (key : α → κ) where
  | put (row : α)
  | erase (k : κ)

/-- The key whose row an edit writes or removes. -/
def Edit.target {α κ : Type} {key : α → κ} : Edit key → κ
  | put row => key row
  | erase k => k

namespace Table

variable {α κ : Type} {key : α → κ} [DecidableEq κ] {t : Table key} {edits : List (Edit key)}
  {row : α}

def applyEdit (t : Table key) : Edit key → Table key
  | .put row => t.put row
  | .erase k => t.erase k

def applyEdits (edits : List (Edit key)) (t : Table key) : Table key := edits.foldl applyEdit t

theorem mem_applyEdit {edit : Edit key} :
    row ∈ t.applyEdit edit ↔ edit = .put row ∨ (row ∈ t ∧ edit.target ≠ key row) := by
  cases edit with
  | put row' =>
    refine mem_put.trans ?_
    simp only [Edit.put.injEq, Edit.target, ne_comm, eq_comm]
  | erase k =>
    refine mem_erase.trans ?_
    simp only [Edit.target, reduceCtorEq, false_or, ne_comm]

/-- A row after some edits is written by one of them or was there before. -/
theorem put_or_mem (h : row ∈ t.applyEdits edits) : Edit.put row ∈ edits ∨ row ∈ t := by
  induction edits generalizing t with
  | nil => exact .inr h
  | cons edit rest ih =>
    rcases ih h with hput | hmem
    · exact .inl (List.mem_cons_of_mem edit hput)
    · rcases mem_applyEdit.mp hmem with rfl | ⟨hrow, -⟩
      · exact .inl List.mem_cons_self
      · exact .inr hrow

/-- A row that no edit is about stays. -/
theorem mem_applyEdits_of_forall_ne (h : row ∈ t) (hne : ∀ edit ∈ edits, edit.target ≠ key row) :
    row ∈ t.applyEdits edits := by
  induction edits generalizing t with
  | nil => exact h
  | cons edit rest ih =>
    refine ih ?_ (fun edit' hedit' => hne edit' (List.mem_cons_of_mem edit hedit'))
    exact mem_applyEdit.mpr (.inr ⟨h, hne edit List.mem_cons_self⟩)

/-- A key goes only where it is erased. -/
theorem exists_key_of_not_erased {k : κ} (hkept : Edit.erase k ∉ edits)
    (h : ∃ row ∈ t, key row = k) : ∃ row ∈ t.applyEdits edits, key row = k := by
  induction edits generalizing t with
  | nil => exact h
  | cons edit rest ih =>
    rw [List.mem_cons, not_or] at hkept
    refine ih hkept.2 ?_
    obtain ⟨row, hrow, hkey⟩ := h
    by_cases htarget : edit.target = key row
    · cases edit with
      | put written => exact ⟨written, mem_applyEdit.mpr (.inl rfl), htarget.trans hkey⟩
      | erase k' =>
        have heq : k' = k := htarget.trans hkey
        exact absurd (congrArg Edit.erase heq.symm) hkept.1
    · exact ⟨row, mem_applyEdit.mpr (.inr ⟨hrow, htarget⟩), hkey⟩

/-- Writing rows removes no key. -/
theorem exists_key_of_puts {k : κ} (hputs : ∀ edit ∈ edits, ∃ row, edit = .put row)
    (h : ∃ row ∈ t, key row = k) : ∃ row ∈ t.applyEdits edits, key row = k := by
  refine exists_key_of_not_erased (fun herase => ?_) h
  obtain ⟨row, heq⟩ := hputs _ herase
  cases heq

/-- A row that is gone is the target of an edit. -/
theorem exists_target_eq (h : row ∈ t) (hgone : row ∉ t.applyEdits edits) :
    ∃ edit ∈ edits, edit.target = key row := by
  by_contra hne
  apply hgone
  refine mem_applyEdits_of_forall_ne h ?_
  intro edit hedit heq
  exact hne ⟨edit, hedit, heq⟩

/-- A row that was there before and is not written by the edits is not the target of any. -/
theorem target_ne_of_mem (h : row ∈ t.applyEdits edits) (hput : Edit.put row ∉ edits) :
    ∀ edit ∈ edits, edit.target ≠ key row := by
  induction edits generalizing t with
  | nil => exact fun edit hedit => absurd hedit List.not_mem_nil
  | cons first rest ih =>
    rw [List.mem_cons, not_or] at hput
    have hstep : row ∈ (t.applyEdit first).applyEdits rest := h
    intro edit hedit
    rcases List.mem_cons.mp hedit with rfl | hmem
    · rcases put_or_mem hstep with hlater | hafter
      · exact absurd hlater hput.2
      · rcases mem_applyEdit.mp hafter with heq | ⟨-, hne⟩
        · exact absurd heq.symm hput.1
        · exact hne
    · exact ih hstep hput.2 edit hmem

/-- Whether a row is there after some edits depends on whether it was there before. -/
theorem mem_applyEdits_congr {t' : Table key} (h : row ∈ t ↔ row ∈ t') :
    row ∈ t.applyEdits edits ↔ row ∈ t'.applyEdits edits := by
  induction edits generalizing t t' with
  | nil => exact h
  | cons edit rest ih =>
    refine ih ?_
    rw [mem_applyEdit, mem_applyEdit, h]

/-- Edits of other rows leave a lookup as it is. -/
theorem find?_applyEdits_of_forall_ne {k : κ} (hne : ∀ edit ∈ edits, edit.target ≠ k) :
    (t.applyEdits edits).find? k = t.find? k := by
  ext row
  rw [find?_eq_some_iff, find?_eq_some_iff]
  constructor
  · rintro ⟨hmem, rfl⟩
    rcases put_or_mem hmem with hput | hold
    · exact absurd rfl (hne _ hput)
    · exact ⟨hold, rfl⟩
  · rintro ⟨hmem, rfl⟩
    exact ⟨mem_applyEdits_of_forall_ne hmem hne, rfl⟩

/-- Removing the rows with some keys. -/
theorem applyEdits_erase (keys : List κ) (t : Table key) :
    t.applyEdits (keys.map .erase) = t.filter (fun row => key row ∉ keys) := by
  induction keys generalizing t with
  | nil => exact (filter_eq_self (by simp)).symm
  | cons k rest ih =>
    have hrest : (t.erase k).applyEdits (rest.map .erase) = _ := ih (t.erase k)
    change (t.erase k).applyEdits (rest.map .erase) = _
    rw [hrest]
    ext1
    change (t.rows.filter _).filter _ = t.rows.filter _
    rw [List.filter_filter]
    congr 1
    funext row
    rw [← Bool.decide_and, decide_eq_decide, List.mem_cons, not_or, and_comm]

omit [DecidableEq κ] in
/-- The keys of some rows of a table name these rows only. -/
theorem key_mem_map_filter {p : α → Bool} (hrow : row ∈ t) :
    key row ∈ (t.rows.filter p).map key ↔ p row = true := by
  rw [List.mem_map]
  constructor
  · rintro ⟨row', hrow', heq⟩
    obtain ⟨hmem, hp⟩ := List.mem_filter.mp hrow'
    rwa [eq_of_key_eq hmem hrow heq] at hp
  · intro hp
    exact ⟨row, List.mem_filter.mpr ⟨hrow, hp⟩, rfl⟩

theorem filter_key_mem (p : α → Bool) (t : Table key) :
    t.rows.filter (fun row => decide (key row ∈ (t.rows.filter p).map key)) = t.rows.filter p := by
  refine List.filter_congr ?_
  intro row hrow
  rw [Bool.eq_iff_iff, decide_eq_true_iff, key_mem_map_filter hrow]

/-- Removing the rows that satisfy a condition, by their keys. -/
theorem applyEdits_erase_filter (p : α → Bool) (t : Table key) :
    t.applyEdits ((t.rows.filter p).map (fun row => .erase (key row))) =
      t.filter (fun row => !p row) := by
  have hkeys : (t.rows.filter p).map (fun row => (.erase (key row) : Edit key)) =
      ((t.rows.filter p).map key).map .erase := by
    rw [List.map_map]
    rfl
  rw [hkeys, applyEdits_erase]
  refine filter_congr ?_
  intro row hrow
  rw [Bool.eq_iff_iff, decide_eq_true_iff, key_mem_map_filter hrow]
  simp

/-! ## Rows in the order of their keys -/

/-- A sorted rearrangement is what sorting gives, when no two elements are of the same rank. -/
theorem mergeSort_eq {le : α → α → Bool} {rows sorted : List α}
    (htrans : ∀ a b c, le a b = true → le b c = true → le a c = true)
    (htotal : ∀ a b, (le a b || le b a) = true) (hperm : rows.Perm sorted)
    (hsorted : sorted.Pairwise (fun a b => le a b = true))
    (hantisymm : ∀ a ∈ rows, ∀ b ∈ rows, le a b = true → le b a = true → a = b) :
    rows.mergeSort le = sorted := by
  have hsort : (rows.mergeSort le).Pairwise (fun a b => le a b = true) :=
    List.pairwise_mergeSort htrans htotal rows
  have hrearranged : (rows.mergeSort le).Perm sorted := (List.mergeSort_perm rows le).trans hperm
  refine hrearranged.eq_of_pairwise ?_ hsort hsorted
  intro a b ha hb hab hba
  exact hantisymm a (List.mem_mergeSort.mp ha) b (hperm.mem_iff.mpr hb) hab hba

/-- Sorting some of the rows keeps their order among all rows. -/
theorem mergeSort_filter {κ : Type} [LinearOrder κ] {key : α → κ} {rows : List α}
    (hkeys : (rows.map key).Nodup) (p : α → Bool) :
    (rows.filter p).mergeSort (fun a b => decide (key a ≤ key b)) =
      (rows.mergeSort fun a b => decide (key a ≤ key b)).filter p := by
  have hsorted : ∀ l : List α, (l.mergeSort fun a b => decide (key a ≤ key b)).Pairwise
      (fun a b => decide (key a ≤ key b) = true) := by
    intro l
    refine List.pairwise_mergeSort ?_ ?_ l
    · intro a b c hab hbc
      exact decide_eq_true ((of_decide_eq_true hab).trans (of_decide_eq_true hbc))
    · intro a b
      simpa using le_total (key a) (key b)
  have hperm : (rows.filter p).mergeSort (fun a b => decide (key a ≤ key b)) |>.Perm
      ((rows.mergeSort fun a b => decide (key a ≤ key b)).filter p) :=
    (List.mergeSort_perm _ _).trans ((List.mergeSort_perm rows _).symm.filter p)
  refine hperm.eq_of_pairwise ?_ (hsorted _) ((hsorted rows).filter p)
  intro a b ha hb hab hba
  have ha' : a ∈ rows := (List.mem_filter.mp (List.mem_mergeSort.mp ha)).1
  have hb' : b ∈ rows := List.mem_mergeSort.mp (List.mem_filter.mp hb).1
  exact List.inj_on_of_nodup_map hkeys ha' hb'
    (le_antisymm (of_decide_eq_true hab) (of_decide_eq_true hba))

end Table

end HotAirBalloon.Library
