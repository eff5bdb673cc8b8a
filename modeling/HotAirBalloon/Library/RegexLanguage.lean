import HotAirBalloon.Library.Regex
import Mathlib

/-!
# The language of a pattern

What a backtracking match consumes is a text of the language of its pattern, and what it captures
is a text of the language of the group. The tests of the neighbouring symbols only exclude matches,
so they do not appear in the language.
-/

namespace HotAirBalloon.Regex

open Computability

variable {α : Type}

namespace Pattern

/-- The texts a pattern can consume. -/
def language : Pattern α → Language α
  | sym p => {cs | ∃ a, p a = true ∧ cs = [a]}
  | look _ => 1
  | empty => 1
  | seq r t => r.language * t.language
  | alt r t => r.language + t.language
  | rep least none r => r.language ^ least * r.language∗
  | rep least (some most) r => r.language ^ least * (1 + r.language) ^ (most - least)
  | group _ r => r.language

/-- The groups of a pattern. -/
def groups : Pattern α → List (Nat × Pattern α)
  | sym _ | look _ | empty => []
  | seq r t => r.groups ++ t.groups
  | alt r t => r.groups ++ t.groups
  | rep _ _ r => r.groups
  | group index r => (index, r) :: r.groups

/-- The texts a group of a pattern can hold. -/
def captured (r : Pattern α) (index : Nat) : Language α :=
  {cs | ∃ inner, (index, inner) ∈ r.groups ∧ cs ∈ inner.language}

/-- Whether every match of a pattern captures the group. -/
def captures (index : Nat) : Pattern α → Bool
  | sym _ | look _ | empty => false
  | seq r t => r.captures index || t.captures index
  | alt r t => r.captures index && t.captures index
  | rep least _ r => decide (0 < least) && r.captures index
  | group i r => decide (i = index) || r.captures index

/-- The symbols that a pattern can consume. -/
def symbols : Pattern α → α → Prop
  | sym p, a => p a = true
  | look _, _ | empty, _ => False
  | seq r t, a => r.symbols a ∨ t.symbols a
  | alt r t, a => r.symbols a ∨ t.symbols a
  | rep _ _ r, a => r.symbols a
  | group _ r, a => r.symbols a

theorem captured_mono {r t : Pattern α} (h : r.groups ⊆ t.groups) (index : Nat) :
    r.captured index ≤ t.captured index := by
  intro cs hcs
  obtain ⟨inner, hinner, htext⟩ := hcs
  exact ⟨inner, h hinner, htext⟩

end Pattern

open Pattern (captured_mono)

/-! ## What the engine consumes -/

/-- `t` is reached from `s` by consuming `cs`; the groups captured on the way hold parts of it, of
the languages `allowed`. -/
structure Advances (allowed : Nat → Language α) (s t : Progress α) (cs : List α) : Prop where
  before : t.cursor.before = cs.reverse ++ s.cursor.before
  after : s.cursor.after = cs ++ t.cursor.after
  groups : ∃ new, t.groups = new ++ s.groups ∧ ∀ g ∈ new, g.2 ∈ allowed g.1 ∧ g.2 <:+: cs

namespace Advances

variable {allowed allowed' : Nat → Language α} {s t u : Progress α} {cs ds : List α}

theorem refl (allowed : Nat → Language α) (s : Progress α) : Advances allowed s s [] :=
  ⟨rfl, rfl, [], rfl, fun _ hg => absurd hg List.not_mem_nil⟩

theorem trans (h : Advances allowed s t cs) (h' : Advances allowed t u ds) :
    Advances allowed s u (cs ++ ds) := by
  obtain ⟨new, hnew, hallowed⟩ := h.groups
  obtain ⟨new', hnew', hallowed'⟩ := h'.groups
  refine ⟨?_, ?_, new' ++ new, ?_, ?_⟩
  · rw [h'.before, h.before, List.reverse_append, List.append_assoc]
  · rw [h.after, h'.after, List.append_assoc]
  · rw [hnew', hnew, List.append_assoc]
  · intro g hg
    rcases List.mem_append.mp hg with hg | hg
    · obtain ⟨hin, hpart⟩ := hallowed' g hg
      exact ⟨hin, hpart.trans (List.suffix_append cs ds).isInfix⟩
    · obtain ⟨hin, hpart⟩ := hallowed g hg
      exact ⟨hin, hpart.trans (List.prefix_append cs ds).isInfix⟩

theorem mono (h : Advances allowed s t cs) (hle : ∀ i, allowed i ≤ allowed' i) :
    Advances allowed' s t cs := by
  obtain ⟨new, hnew, hallowed⟩ := h.groups
  refine ⟨h.before, h.after, new, hnew, ?_⟩
  intro g hg
  obtain ⟨hin, hpart⟩ := hallowed g hg
  exact ⟨hle g.1 hin, hpart⟩

theorem mem_groups (h : Advances allowed s t cs) {g : Nat × List α} (hg : g ∈ s.groups) :
    g ∈ t.groups := by
  obtain ⟨new, hnew, -⟩ := h.groups
  rw [hnew]
  exact List.mem_append_right new hg

/-- The text between the two positions. -/
theorem consumed (h : Advances allowed s t cs) :
    s.cursor.after.take (s.cursor.after.length - t.cursor.after.length) = cs := by
  have hlength : s.cursor.after.length - t.cursor.after.length = cs.length := by
    rw [h.after, List.length_append]
    omega
  rw [hlength, h.after, List.take_left]

end Advances

section Rounds

variable {allowed : Nat → Language α} {l : Language α}

/-- A step that consumes texts of a language, `n` times. -/
theorem exactly_advances {step : Progress α → List (Progress α)}
    (hstep : ∀ s, ∀ t ∈ step s, ∃ cs ∈ l, Advances allowed s t cs) {n : Nat} {s t : Progress α}
    (h : t ∈ exactly step n s) : ∃ cs ∈ l ^ n, Advances allowed s t cs := by
  induction n generalizing s with
  | zero =>
    rw [List.mem_singleton.mp h]
    exact ⟨[], by rw [pow_zero]; exact Language.nil_mem_one, .refl allowed s⟩
  | succ n ih =>
    obtain ⟨middle, hmiddle, hrest⟩ := List.mem_flatMap.mp h
    obtain ⟨cs, hcs, hfirst⟩ := hstep s middle hmiddle
    obtain ⟨ds, hds, hlater⟩ := ih hrest
    refine ⟨cs ++ ds, ?_, hfirst.trans hlater⟩
    rw [pow_succ']
    exact Language.append_mem_mul hcs hds

theorem greedily_advances {step : Progress α → List (Progress α)}
    (hstep : ∀ s, ∀ t ∈ step s, ∃ cs ∈ l, Advances allowed s t cs) {n : Nat} {s t : Progress α}
    (h : t ∈ greedily step n s) : ∃ cs ∈ (1 + l) ^ n, Advances allowed s t cs := by
  induction n generalizing s with
  | zero =>
    rw [List.mem_singleton.mp h]
    exact ⟨[], by rw [pow_zero]; exact Language.nil_mem_one, .refl allowed s⟩
  | succ n ih =>
    rw [pow_succ']
    rcases List.mem_append.mp h with h | h
    · obtain ⟨middle, hmiddle, hrest⟩ := List.mem_flatMap.mp h
      obtain ⟨cs, hcs, hfirst⟩ := hstep s middle (List.mem_of_mem_filter hmiddle)
      obtain ⟨ds, hds, hlater⟩ := ih hrest
      have hround : cs ∈ 1 + l := (Language.mem_add 1 l cs).mpr (.inr hcs)
      exact ⟨cs ++ ds, Language.append_mem_mul hround hds, hfirst.trans hlater⟩
    · rw [List.mem_singleton.mp h]
      have hle : (1 : Language α) ≤ (1 + l) ^ (n + 1) := one_le_pow₀ le_self_add
      rw [← pow_succ']
      exact ⟨[], hle Language.nil_mem_one, .refl allowed s⟩

theorem one_add_pow_le_kstar (l : Language α) (n : Nat) : (1 + l) ^ n ≤ l∗ := by
  have hone : 1 + l ≤ l∗ := sup_le one_le_kstar le_kstar
  have hpow : (1 + l) ^ n ≤ l∗ ^ n := pow_le_pow_left' hone n
  apply hpow.trans
  have hstar : l∗ ^ n ≤ l∗∗ := pow_le_kstar
  rwa [kstar_idem] at hstar

end Rounds

/-- A match consumes a text of the language and captures texts of the groups' languages. -/
theorem ways_advances (r : Pattern α) {s t : Progress α} (h : t ∈ r.ways s) :
    ∃ cs ∈ r.language, Advances r.captured s t cs := by
  induction r generalizing s t with
  | sym p =>
    unfold Pattern.ways at h
    split at h
    · cases h
    · rename_i a rest hafter
      split at h
      · rename_i hp
        rw [List.mem_singleton.mp h]
        exact ⟨[a], ⟨a, hp, rfl⟩, rfl, hafter, [], rfl, fun _ hg => absurd hg List.not_mem_nil⟩
      · cases h
  | look p =>
    unfold Pattern.ways at h
    split at h
    · rw [List.mem_singleton.mp h]
      exact ⟨[], Language.nil_mem_one, .refl _ s⟩
    · cases h
  | empty =>
    rw [List.mem_singleton.mp h]
    exact ⟨[], Language.nil_mem_one, .refl _ s⟩
  | seq r₁ r₂ ih₁ ih₂ =>
    obtain ⟨middle, hmiddle, hrest⟩ := List.mem_flatMap.mp h
    obtain ⟨cs, hcs, hfirst⟩ := ih₁ hmiddle
    obtain ⟨ds, hds, hlater⟩ := ih₂ hrest
    have hleft : ∀ i, r₁.captured i ≤ (r₁.seq r₂).captured i :=
      captured_mono (List.subset_append_left _ _)
    have hright : ∀ i, r₂.captured i ≤ (r₁.seq r₂).captured i :=
      captured_mono (List.subset_append_right _ _)
    exact ⟨cs ++ ds, Language.append_mem_mul hcs hds,
      (hfirst.mono hleft).trans (hlater.mono hright)⟩
  | alt r₁ r₂ ih₁ ih₂ =>
    rcases List.mem_append.mp h with h | h
    · obtain ⟨cs, hcs, hadvances⟩ := ih₁ h
      exact ⟨cs, Or.inl hcs, hadvances.mono (captured_mono (List.subset_append_left _ _))⟩
    · obtain ⟨cs, hcs, hadvances⟩ := ih₂ h
      exact ⟨cs, Or.inr hcs, hadvances.mono (captured_mono (List.subset_append_right _ _))⟩
  | rep least most r ih =>
    obtain ⟨middle, hmiddle, hrest⟩ := List.mem_flatMap.mp h
    have hstep : ∀ s, ∀ t ∈ r.ways s, ∃ cs ∈ r.language, Advances r.captured s t cs :=
      fun _ _ => ih
    obtain ⟨cs, hcs, hfirst⟩ := exactly_advances hstep hmiddle
    obtain ⟨ds, hds, hlater⟩ := greedily_advances hstep hrest
    refine ⟨cs ++ ds, ?_, hfirst.trans hlater⟩
    cases most with
    | none => exact Language.append_mem_mul hcs (one_add_pow_le_kstar r.language _ hds)
    | some most => exact Language.append_mem_mul hcs hds
  | group index r ih =>
    obtain ⟨inner, hinner, rfl⟩ := List.mem_map.mp h
    obtain ⟨cs, hcs, hadvances⟩ := ih hinner
    obtain ⟨new, hnew, hallowed⟩ := hadvances.groups
    refine ⟨cs, hcs, hadvances.before, hadvances.after, (index, cs) :: new, ?_, ?_⟩
    · dsimp only
      rw [hadvances.consumed, hnew]
      rfl
    · intro g hg
      rcases List.mem_cons.mp hg with rfl | hg
      · exact ⟨⟨r, List.mem_cons_self, hcs⟩, List.infix_refl cs⟩
      · obtain ⟨⟨inner, hinner, htext⟩, hpart⟩ := hallowed g hg
        exact ⟨⟨inner, List.mem_cons_of_mem _ hinner, htext⟩, hpart⟩

theorem exactly_captures {r : Pattern α} {index n : Nat} {s t : Progress α}
    (hround : ∀ s, ∀ t ∈ r.ways s, ∃ g ∈ t.groups, g.1 = index) (hpos : 0 < n)
    (h : t ∈ exactly r.ways n s) : ∃ g ∈ t.groups, g.1 = index := by
  obtain ⟨n, rfl⟩ := Nat.exists_eq_succ_of_ne_zero hpos.ne'
  obtain ⟨middle, hmiddle, hrest⟩ := List.mem_flatMap.mp h
  obtain ⟨g, hg, hindex⟩ := hround s middle hmiddle
  obtain ⟨cs, -, hadvances⟩ := exactly_advances (fun _ _ => ways_advances r) hrest
  exact ⟨g, hadvances.mem_groups hg, hindex⟩

theorem ways_captures (r : Pattern α) {index : Nat} (hcaptures : r.captures index = true)
    {s t : Progress α} (h : t ∈ r.ways s) : ∃ g ∈ t.groups, g.1 = index := by
  induction r generalizing s t with
  | sym p => cases hcaptures
  | look p => cases hcaptures
  | empty => cases hcaptures
  | seq r₁ r₂ ih₁ ih₂ =>
    obtain ⟨middle, hmiddle, hrest⟩ := List.mem_flatMap.mp h
    rcases (Bool.or_eq_true _ _).mp hcaptures with hcaptures | hcaptures
    · obtain ⟨g, hg, hindex⟩ := ih₁ hcaptures hmiddle
      obtain ⟨ds, -, hlater⟩ := ways_advances r₂ hrest
      exact ⟨g, hlater.mem_groups hg, hindex⟩
    · exact ih₂ hcaptures hrest
  | alt r₁ r₂ ih₁ ih₂ =>
    obtain ⟨hleft, hright⟩ := (Bool.and_eq_true _ _).mp hcaptures
    rcases List.mem_append.mp h with h | h
    · exact ih₁ hleft h
    · exact ih₂ hright h
  | rep least most r ih =>
    obtain ⟨hpos, hinner⟩ := (Bool.and_eq_true _ _).mp hcaptures
    obtain ⟨middle, hmiddle, hrest⟩ := List.mem_flatMap.mp h
    obtain ⟨g, hg, hindex⟩ :=
      exactly_captures (fun _ _ => ih hinner) (of_decide_eq_true hpos) hmiddle
    obtain ⟨ds, -, hlater⟩ := greedily_advances (fun _ _ => ways_advances r) hrest
    exact ⟨g, hlater.mem_groups hg, hindex⟩
  | group i r ih =>
    obtain ⟨inner, hinner, rfl⟩ := List.mem_map.mp h
    rcases (Bool.or_eq_true _ _).mp hcaptures with hindex | hcaptures
    · exact ⟨_, List.mem_cons_self, of_decide_eq_true hindex⟩
    · obtain ⟨g, hg, hindex⟩ := ih hcaptures hinner
      exact ⟨g, List.mem_cons_of_mem _ hg, hindex⟩

/-! ## What the search reports -/

/-- The match is a part of the text, the groups are parts of the match, and all of them are in the
languages of the pattern. -/
structure Match.Of (r : Pattern α) (text : List α) (m : Match α) : Prop where
  text : text = m.before.reverse ++ m.text ++ m.after
  language : m.text ∈ r.language
  captured : ∀ g ∈ m.groups, g.2 ∈ r.captured g.1 ∧ g.2 <:+: m.text
  captures : ∀ index, r.captures index = true → ∃ g ∈ m.groups, g.1 = index

theorem matchAt_of {r : Pattern α} {c : Cursor α} {m : Match α} (h : matchAt r c = some m) :
    m.Of r (c.before.reverse ++ c.after) := by
  obtain ⟨stop, hstop, rfl⟩ := Option.map_eq_some_iff.mp h
  have hmem : stop ∈ r.ways ⟨c, []⟩ := List.mem_of_head? hstop
  obtain ⟨cs, hcs, hadvances⟩ := ways_advances r hmem
  obtain ⟨new, hnew, hallowed⟩ := hadvances.groups
  have htext : (matchBetween c stop).text = cs := hadvances.consumed
  rw [List.append_nil] at hnew
  refine ⟨?_, ?_, ?_, fun index hcaptures => ways_captures r hcaptures hmem⟩
  · rw [htext, List.append_assoc]
    exact congrArg (c.before.reverse ++ ·) hadvances.after
  · rw [htext]
    exact hcs
  · rw [htext]
    intro g hg
    exact hallowed g (hnew ▸ hg)

theorem searchFrom_of {r : Pattern α} {before after : List α} {m : Match α}
    (h : searchFrom r before after = some m) : m.Of r (before.reverse ++ after) := by
  induction after generalizing before with
  | nil => exact matchAt_of h
  | cons a rest ih =>
    unfold searchFrom at h
    cases hmatch : matchAt r ⟨before, a :: rest⟩ with
    | some m' =>
      rw [hmatch, Option.some_or] at h
      cases h
      exact matchAt_of hmatch
    | none =>
      rw [hmatch, Option.none_or] at h
      have hlater := ih h
      rwa [List.reverse_cons, List.append_assoc] at hlater

theorem search_of {r : Pattern α} {text : List α} {m : Match α} (h : search r text = some m) :
    m.Of r text := searchFrom_of h

theorem findIter_of {r : Pattern α} {n : Nat} {c : Cursor α} {m : Match α}
    (h : m ∈ findIter r n c) : m.Of r (c.before.reverse ++ c.after) := by
  induction n generalizing c with
  | zero => cases h
  | succ n ih =>
    unfold findIter at h
    split at h
    · cases h
    · rename_i first hfirst
      have hof := searchFrom_of hfirst
      rcases List.mem_cons.mp h with rfl | h
      · exact hof
      · rw [hof.text]
        split at h
        · cases h
        · rename_i a rest htext hafter
          have hlater := ih h
          simpa [htext, hafter] using hlater
        · rename_i after b text htext
          have hlater := ih h
          simpa [htext] using hlater

theorem findAll_of {r : Pattern α} {text : List α} {m : Match α} (h : m ∈ findAll r text) :
    m.Of r text := findIter_of h

/-- The first of all matches is the one that a search finds. -/
theorem findAll_head? (r : Pattern α) (text : List α) : (findAll r text).head? = search r text := by
  unfold findAll findIter search
  cases searchFrom r [] text <;> rfl

theorem search_isSome {r : Pattern α} {text : List α} {m : Match α} (h : m ∈ findAll r text) :
    (search r text).isSome = true := by
  rw [← findAll_head?]
  cases hall : findAll r text with
  | nil =>
    rw [hall] at h
    cases h
  | cons first rest => rfl

/-- A captured group is there and holds a part of the text, of its language. -/
theorem Match.Of.group {r : Pattern α} {text : List α} {m : Match α} (h : m.Of r text)
    {index : Nat} (hcaptures : r.captures index = true) :
    ∃ cs ∈ r.captured index, cs <:+: text ∧ m.group index = some cs := by
  obtain ⟨g, hg, rfl⟩ := h.captures index hcaptures
  have hsome : (m.groups.lookup g.1).isSome = true := by
    rw [List.lookup_isSome_iff]
    exact ⟨g, hg, beq_self_eq_true g.1⟩
  obtain ⟨cs, hcs⟩ := Option.isSome_iff_exists.mp hsome
  obtain ⟨front, back, hgroups, -⟩ := List.lookup_eq_some_iff.mp hcs
  have hmem : (g.1, cs) ∈ m.groups := hgroups ▸ List.mem_append_right front List.mem_cons_self
  obtain ⟨hin, hpart⟩ := h.captured _ hmem
  refine ⟨cs, hin, hpart.trans ⟨m.before.reverse, m.after, h.text.symm⟩, hcs⟩

/-! ## Groups of the derived patterns -/

namespace Pattern

@[simp] theorem groups_sym (p : α → Bool) : (sym p).groups = [] := rfl

@[simp] theorem groups_look (p : Option α → Option α → Bool) : (look p).groups = [] := rfl

@[simp] theorem groups_group (index : Nat) (r : Pattern α) :
    (group index r).groups = (index, r) :: r.groups := rfl

@[simp] theorem groups_opt (r : Pattern α) : (opt r).groups = r.groups := rfl

@[simp] theorem groups_star (r : Pattern α) : (star r).groups = r.groups := rfl

@[simp] theorem groups_plus (r : Pattern α) : (plus r).groups = r.groups := rfl

@[simp] theorem groups_seqs (rs : List (Pattern α)) : (seqs rs).groups = rs.flatMap groups := by
  induction rs with
  | nil => rfl
  | cons r rest ih => exact congrArg (r.groups ++ ·) ih

@[simp] theorem groups_alts (rs : List (Pattern α)) : (alts rs).groups = rs.flatMap groups := by
  induction rs with
  | nil => rfl
  | cons r rest ih =>
    cases rest with
    | nil => simp [alts]
    | cons r' rest => exact congrArg (r.groups ++ ·) ih

/-! ## Members of a language -/

theorem mem_language_sym {p : α → Bool} {cs : List α} :
    cs ∈ (sym p).language ↔ ∃ a, p a = true ∧ cs = [a] := Iff.rfl

theorem mem_language_seqs_cons {r : Pattern α} {rs : List (Pattern α)} {cs : List α} :
    cs ∈ (seqs (r :: rs)).language ↔
      ∃ a ∈ r.language, ∃ b ∈ (seqs rs).language, a ++ b = cs := Language.mem_mul

theorem mem_language_seqs_nil {cs : List α} :
    cs ∈ (seqs ([] : List (Pattern α))).language ↔ cs = [] :=
  Language.mem_one cs

theorem mem_language_alts {rs : List (Pattern α)} {cs : List α} :
    cs ∈ (alts rs).language ↔ ∃ r ∈ rs, cs ∈ r.language := by
  induction rs with
  | nil =>
    constructor
    · intro h
      obtain ⟨a, ha, -⟩ := mem_language_sym.mp h
      cases ha
    · intro h
      obtain ⟨r, hr, -⟩ := h
      cases hr
  | cons r rest ih =>
    cases rest with
    | nil => simp [alts]
    | cons r' rest =>
      have hadd : cs ∈ (alts (r :: r' :: rest)).language ↔
          cs ∈ r.language ∨ cs ∈ (alts (r' :: rest)).language := Language.mem_add _ _ cs
      rw [hadd, ih]
      simp only [List.mem_cons, exists_eq_or_imp]

theorem mem_language_plus {r : Pattern α} {cs : List α} (h : cs ∈ (plus r).language) :
    ∃ a ∈ r.language, ∃ b ∈ r.language∗, a ++ b = cs := by
  obtain ⟨a, ha, b, hb, hcs⟩ := Language.mem_mul.mp h
  rw [pow_one] at ha
  exact ⟨a, ha, b, hb, hcs⟩

theorem of_mem_language_pow {p : α → Prop} {l : Language α} (hl : ∀ cs ∈ l, ∀ a ∈ cs, p a)
    {n : Nat} {cs : List α} (h : cs ∈ l ^ n) : ∀ a ∈ cs, p a := by
  obtain ⟨parts, rfl, -, hparts⟩ := Language.mem_pow.mp h
  intro a ha
  obtain ⟨part, hpart, ha⟩ := List.mem_flatten.mp ha
  exact hl part (hparts part hpart) a ha

/-- A text of the language has symbols of the pattern only. -/
theorem symbols_of_mem_language (r : Pattern α) {cs : List α} (h : cs ∈ r.language) :
    ∀ a ∈ cs, r.symbols a := by
  induction r generalizing cs with
  | sym p =>
    obtain ⟨b, hb, rfl⟩ := h
    intro a ha
    rw [List.mem_singleton.mp ha]
    exact hb
  | look p =>
    intro a ha
    rw [(Language.mem_one cs).mp h] at ha
    cases ha
  | empty =>
    intro a ha
    rw [(Language.mem_one cs).mp h] at ha
    cases ha
  | seq r t ihr iht =>
    obtain ⟨front, hfront, back, hback, rfl⟩ := Language.mem_mul.mp h
    intro a ha
    rcases List.mem_append.mp ha with ha | ha
    · exact .inl (ihr hfront a ha)
    · exact .inr (iht hback a ha)
  | alt r t ihr iht =>
    intro a ha
    rcases (Language.mem_add _ _ cs).mp h with h | h
    · exact .inl (ihr h a ha)
    · exact .inr (iht h a ha)
  | rep least most r ih =>
    have hround : ∀ cs ∈ 1 + r.language, ∀ a ∈ cs, r.symbols a := by
      intro cs hcs a ha
      rcases (Language.mem_add _ _ cs).mp hcs with hcs | hcs
      · rw [(Language.mem_one cs).mp hcs] at ha
        cases ha
      · exact ih hcs a ha
    have happend : ∀ {front back : List α}, front ∈ r.language ^ least →
        (∀ a ∈ back, r.symbols a) → ∀ a ∈ front ++ back, r.symbols a := by
      intro front back hfront hback a ha
      rcases List.mem_append.mp ha with ha | ha
      · exact of_mem_language_pow (fun _ => ih) hfront a ha
      · exact hback a ha
    cases most with
    | none =>
      obtain ⟨front, hfront, back, hback, rfl⟩ := Language.mem_mul.mp h
      obtain ⟨parts, rfl, hparts⟩ := Language.mem_kstar.mp hback
      apply happend hfront
      intro a ha
      obtain ⟨part, hpart, ha⟩ := List.mem_flatten.mp ha
      exact ih (hparts part hpart) a ha
    | some most =>
      obtain ⟨front, hfront, back, hback, rfl⟩ := Language.mem_mul.mp h
      exact happend hfront (of_mem_language_pow hround hback)
  | group index r ih => exact ih h

@[simp] theorem symbols_seqs {rs : List (Pattern α)} {a : α} :
    (seqs rs).symbols a ↔ ∃ r ∈ rs, r.symbols a := by
  induction rs with
  | nil => simp [seqs, symbols]
  | cons r rest ih =>
    have hor : (seqs (r :: rest)).symbols a ↔ r.symbols a ∨ (seqs rest).symbols a := Iff.rfl
    rw [hor, ih]
    simp only [List.mem_cons, exists_eq_or_imp]

/-- `n` symbols of a class. -/
theorem mem_language_rep_sym {p : α → Bool} {n : Nat} {cs : List α}
    (h : cs ∈ (rep n (some n) (sym p)).language) : cs.length = n ∧ ∀ a ∈ cs, p a = true := by
  refine ⟨?_, symbols_of_mem_language _ h⟩
  obtain ⟨front, hfront, back, hback, rfl⟩ := Language.mem_mul.mp h
  rw [Nat.sub_self, pow_zero, Language.mem_one] at hback
  obtain ⟨parts, rfl, hlength, hparts⟩ := Language.mem_pow.mp hfront
  have hone : ∀ part ∈ parts, part.length = 1 := by
    intro part hpart
    obtain ⟨a, -, rfl⟩ := hparts part hpart
    rfl
  rw [hback, List.append_nil, List.length_flatten, List.map_congr_left hone]
  simp [hlength]

end Pattern

end HotAirBalloon.Regex
