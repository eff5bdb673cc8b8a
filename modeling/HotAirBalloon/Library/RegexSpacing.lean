import HotAirBalloon.Library.RegexLanguage
import HotAirBalloon.Library.Squeeze

/-!
# Patterns that do not see the length of separators

A pattern that consumes separators only as `\s*` finds nothing in the squeezed text that it does
not find in the text: `search_squeeze`. The engine is followed step by step at two positions that
squeezing relates.
-/

namespace HotAirBalloon.Regex

open Library

variable {α : Type} {p : α → Bool} {b : α}

/-! ## What a search finds -/

theorem searchFrom_isSome {r : Pattern α} {before after : List α} :
    (searchFrom r before after).isSome = true ↔
      ∃ front back, after = front ++ back ∧
        ∃ t, t ∈ r.ways ⟨⟨front.reverse ++ before, back⟩, []⟩ := by
  have hat : ∀ c : Cursor α, (matchAt r c).isSome = true ↔ ∃ t, t ∈ r.ways ⟨c, []⟩ := by
    intro c
    unfold matchAt
    rw [Option.isSome_map]
    cases r.ways ⟨c, []⟩ <;> simp
  induction after generalizing before with
  | nil =>
    unfold searchFrom
    rw [hat]
    constructor
    · exact fun h => ⟨[], [], rfl, h⟩
    · rintro ⟨front, back, heq, h⟩
      obtain ⟨rfl, rfl⟩ := List.append_eq_nil_iff.mp heq.symm
      exact h
  | cons a rest ih =>
    have hlater : (searchFrom r (a :: before) rest).isSome = true ↔ _ := ih
    unfold searchFrom
    rw [Option.isSome_or, Bool.or_eq_true, hat, hlater]
    constructor
    · rintro (h | ⟨front, back, rfl, h⟩)
      · exact ⟨[], a :: rest, rfl, h⟩
      · exact ⟨a :: front, back, rfl, by simpa using h⟩
    · rintro ⟨front, back, heq, h⟩
      cases front with
      | nil =>
        rw [List.nil_append] at heq
        rw [← heq] at h
        exact Or.inl h
      | cons c front =>
        obtain ⟨rfl, rfl⟩ := List.cons.inj heq
        exact Or.inr ⟨front, back, rfl, by simpa using h⟩

/-- A search finds something when the pattern matches somewhere. -/
theorem search_isSome_iff {r : Pattern α} {text : List α} : (search r text).isSome = true ↔
    ∃ front back, text = front ++ back ∧ ∃ t, t ∈ r.ways ⟨⟨front.reverse, back⟩, []⟩ := by
  unfold search
  rw [searchFrom_isSome]
  simp

theorem mem_ways_alts {rs : List (Pattern α)} {s t : Progress α} :
    t ∈ (Pattern.alts rs).ways s ↔ ∃ r ∈ rs, t ∈ r.ways s := by
  induction rs with
  | nil =>
    have hnone : (Pattern.alts []).ways s = [] := by
      unfold Pattern.alts Pattern.ways
      split <;> simp
    rw [hnone]
    simp
  | cons r rest ih =>
    cases rest with
    | nil => simp [Pattern.alts]
    | cons r' rest =>
      have happend : (Pattern.alts (r :: r' :: rest)).ways s =
          r.ways s ++ (Pattern.alts (r' :: rest)).ways s := rfl
      rw [happend, List.mem_append, ih]
      simp only [List.mem_cons, exists_eq_or_imp]

/-! ## Two positions -/

/-- The squeezed position of one that is not inside a run. -/
structure Squeezed (p : α → Bool) (b : α) (c c' : Cursor α) : Prop where
  before : c'.before = squeeze p b c.before
  after : c'.after = squeeze p b c.after
  outside : startsIn p c.before = true → startsIn p c.after = false

/-- The text up to the next position that corresponds to one of the squeezed text: a symbol, or a
whole run. -/
theorem Squeezed.next (hb : p b = true) {c c' : Cursor α} (h : Squeezed p b c c') {a : α}
    {rest' : List α} (hafter : c'.after = a :: rest') :
    ∃ step rest, c.after = step ++ rest ∧
      Squeezed p b ⟨step.reverse ++ c.before, rest⟩ ⟨a :: c'.before, rest'⟩ ∧
      ((p a = false ∧ step = [a]) ∨ (p a = true ∧ ∀ d ∈ step, p d = true)) := by
  have hsqueezed : squeeze p b c.after = a :: rest' := by rw [← h.after, hafter]
  cases hstarts : startsIn p c.after with
  | false =>
    cases hraw : c.after with
    | nil =>
      rw [hraw] at hsqueezed
      cases hsqueezed
    | cons d rest =>
      have hd : p d = false := by
        rw [hraw] at hstarts
        exact hstarts
      rw [hraw, squeeze_cons_symbol hd] at hsqueezed
      obtain ⟨rfl, rfl⟩ := List.cons.inj hsqueezed
      refine ⟨[d], rest, rfl, ⟨?_, rfl, ?_⟩, Or.inl ⟨hd, rfl⟩⟩
      · show d :: c'.before = squeeze p b (d :: c.before)
        rw [squeeze_cons_symbol hd, h.before]
      · intro hbefore
        have hsymbol : p d = true := hbefore
        rw [hd] at hsymbol
        cases hsymbol
  | true =>
    obtain ⟨run, rest, hraw, hne, hrun, hrest⟩ := exists_run hstarts
    rw [hraw, squeeze_run hne hrun hrest] at hsqueezed
    obtain ⟨rfl, rfl⟩ := List.cons.inj hsqueezed
    refine ⟨run, rest, hraw, ⟨?_, rfl, fun _ => hrest⟩, Or.inr ⟨hb, hrun⟩⟩
    have hbefore : startsIn p c.before = false := by
      by_contra hinside
      have hsymbol := h.outside (by simpa using hinside)
      rw [hstarts] at hsymbol
      cases hsymbol
    show b :: c'.before = squeeze p b (run.reverse ++ c.before)
    have hreverse : ∀ d ∈ run.reverse, p d = true := fun d hd => hrun d (List.mem_reverse.mp hd)
    rw [squeeze_run (by simpa using hne) hreverse hbefore, h.before]

/-- Every position of the squeezed text is one of the text. -/
theorem Squeezed.reach (hb : p b = true) {c c' : Cursor α} (h : Squeezed p b c c')
    {front' back' : List α} (hafter : c'.after = front' ++ back') :
    ∃ front back, c.after = front ++ back ∧
      Squeezed p b ⟨front.reverse ++ c.before, back⟩ ⟨front'.reverse ++ c'.before, back'⟩ := by
  induction front' generalizing c c' with
  | nil => exact ⟨[], c.after, rfl, h.before, hafter.symm.trans h.after, h.outside⟩
  | cons a front' ih =>
    obtain ⟨step, rest, hraw, hnext, -⟩ := h.next hb hafter
    obtain ⟨front, back, rfl, hreached⟩ := ih hnext rfl
    refine ⟨step ++ front, back, ?_, ?_⟩
    · rw [hraw, List.append_assoc]
    · simpa using hreached

/-! ## Patterns -/

/-- Separators are consumed by `\s*` only, and tests do not tell them apart. -/
inductive SpacingBlind (p : α → Bool) (b : α) : Pattern α → Prop where
  | sym (q : α → Bool) (hq : ∀ a, q a = true → p a = false) : SpacingBlind p b (.sym q)
  | look (q : Option α → Option α → Bool)
      (hq : ∀ x y, q (x.map fun a => if p a then b else a) (y.map fun a => if p a then b else a) =
        q x y) : SpacingBlind p b (.look q)
  | empty : SpacingBlind p b .empty
  | seq {r t : Pattern α} (hr : SpacingBlind p b r) (ht : SpacingBlind p b t) :
      SpacingBlind p b (.seq r t)
  | alt {r t : Pattern α} (hr : SpacingBlind p b r) (ht : SpacingBlind p b t) :
      SpacingBlind p b (.alt r t)
  | rep (least : Nat) (most : Option Nat) {r : Pattern α} (hr : SpacingBlind p b r) :
      SpacingBlind p b (.rep least most r)
  | separators : SpacingBlind p b (Pattern.star (.sym p))
  | group (index : Nat) {r : Pattern α} (hr : SpacingBlind p b r) :
    SpacingBlind p b (.group index r)

namespace SpacingBlind

theorem seqs {rs : List (Pattern α)} (h : ∀ r ∈ rs, SpacingBlind p b r) :
    SpacingBlind p b (Pattern.seqs rs) := by
  induction rs with
  | nil => exact empty
  | cons r rest ih =>
    exact (h r List.mem_cons_self).seq (ih fun t ht => h t (List.mem_cons_of_mem r ht))

theorem alts {rs : List (Pattern α)} (h : ∀ r ∈ rs, SpacingBlind p b r) :
    SpacingBlind p b (Pattern.alts rs) := by
  induction rs with
  | nil => exact sym _ (fun a ha => by cases ha)
  | cons r rest ih =>
    cases rest with
    | nil => exact h r List.mem_cons_self
    | cons r' rest =>
      exact (h r List.mem_cons_self).alt (ih fun t ht => h t (List.mem_cons_of_mem r ht))

theorem opt {r : Pattern α} (h : SpacingBlind p b r) : SpacingBlind p b (Pattern.opt r) :=
  rep 0 (some 1) h

theorem plus {r : Pattern α} (h : SpacingBlind p b r) : SpacingBlind p b (Pattern.plus r) :=
  rep 1 none h

end SpacingBlind

/-- What a step can reach from the squeezed position, it can reach from the position. -/
def Follows (p : α → Bool) (b : α) (step : Progress α → List (Progress α)) : Prop :=
  ∀ s s' t', Squeezed p b s.cursor s'.cursor → t' ∈ step s' →
    ∃ t ∈ step s, Squeezed p b t.cursor t'.cursor

theorem Follows.exactly {step : Progress α → List (Progress α)} (h : Follows p b step) (n : Nat) :
    Follows p b (exactly step n) := by
  induction n with
  | zero =>
    intro s s' t' hs ht
    rw [List.mem_singleton.mp ht]
    exact ⟨s, List.mem_singleton_self s, hs⟩
  | succ n ih =>
    intro s s' t' hs ht
    obtain ⟨middle', hmiddle', hrest'⟩ := List.mem_flatMap.mp ht
    obtain ⟨middle, hmiddle, hsqueezed⟩ := h s s' middle' hs hmiddle'
    obtain ⟨t, hrest, hend⟩ := ih middle middle' t' hsqueezed hrest'
    exact ⟨t, List.mem_flatMap.mpr ⟨middle, hmiddle, hrest⟩, hend⟩

theorem self_mem_greedily (step : Progress α → List (Progress α)) (n : Nat) (s : Progress α) :
    s ∈ greedily step n s := by
  cases n with
  | zero => exact List.mem_singleton_self s
  | succ n => exact List.mem_append_right _ (List.mem_singleton_self s)

/-- The longer text gives the repetition no fewer rounds, and no round that consumes something
becomes empty. -/
theorem Follows.greedily {r : Pattern α} (h : Follows p b r.ways) {n' n : Nat} (hn : n' ≤ n)
    {s s' t' : Progress α} (hs : Squeezed p b s.cursor s'.cursor)
    (ht : t' ∈ greedily r.ways n' s') :
    ∃ t ∈ greedily r.ways n s, Squeezed p b t.cursor t'.cursor := by
  induction n' generalizing n s s' with
  | zero =>
    rw [List.mem_singleton.mp ht]
    exact ⟨s, self_mem_greedily r.ways n s, hs⟩
  | succ n' ih =>
    obtain ⟨n, rfl⟩ := Nat.exists_eq_add_of_le' (by omega : 1 ≤ n)
    rcases List.mem_append.mp ht with hround | hstop
    · obtain ⟨middle', hmiddle', hrest'⟩ := List.mem_flatMap.mp hround
      obtain ⟨hstep', hshorter'⟩ := List.mem_filter.mp hmiddle'
      obtain ⟨middle, hstep, hsqueezed⟩ := h s s' middle' hs hstep'
      obtain ⟨t, hrest, hend⟩ := ih (by omega : n' ≤ n) hsqueezed hrest'
      refine ⟨t, List.mem_append_left _ (List.mem_flatMap.mpr ⟨middle, ?_, hrest⟩), hend⟩
      refine List.mem_filter.mpr ⟨hstep, decide_eq_true ?_⟩
      -- a round that consumes nothing consumes nothing of the squeezed text
      obtain ⟨cs, -, hadvances⟩ := ways_advances r hstep
      have hafter := hadvances.after
      have hne : cs ≠ [] := by
        rintro rfl
        have hlength := of_decide_eq_true hshorter'
        rw [hs.after, hsqueezed.after, hafter] at hlength
        exact lt_irrefl _ hlength
      have hpos : 0 < cs.length := List.length_pos_iff.mpr hne
      rw [hafter, List.length_append]
      omega
    · rw [List.mem_singleton.mp hstop]
      exact ⟨s, self_mem_greedily r.ways (n + 1) s, hs⟩

/-- A run can be consumed to its end. -/
theorem run_mem_greedily {run rest : List α} (hrun : ∀ a ∈ run, p a = true) (before : List α)
    (groups : List (Nat × List α)) {n : Nat} (hn : run.length ≤ n) :
    ⟨⟨run.reverse ++ before, rest⟩, groups⟩ ∈
      greedily (Pattern.sym p).ways n ⟨⟨before, run ++ rest⟩, groups⟩ := by
  induction run generalizing before n with
  | nil => exact self_mem_greedily _ n _
  | cons a run ih =>
    rw [List.length_cons] at hn
    obtain ⟨n, rfl⟩ := Nat.exists_eq_add_of_le' (by omega : 1 ≤ n)
    have ha : p a = true := hrun a List.mem_cons_self
    have hround : (Pattern.sym p).ways ⟨⟨before, a :: run ++ rest⟩, groups⟩ =
        [⟨⟨a :: before, run ++ rest⟩, groups⟩] := by
      unfold Pattern.ways
      exact if_pos ha
    have hlater := ih (fun d hd => hrun d (List.mem_cons_of_mem a hd)) (a :: before)
      (by omega : run.length ≤ n)
    refine List.mem_append_left _ (List.mem_flatMap.mpr
      ⟨⟨⟨a :: before, run ++ rest⟩, groups⟩, ?_, ?_⟩)
    · rw [hround]
      simp
    · simpa using hlater

theorem squeeze_no_run (hb : p b = true) {cs rest : List α} {a d : α}
    (h : squeeze p b cs = a :: d :: rest) (ha : p a = true) : p d = false := by
  cases hstarts : startsIn p cs with
  | true =>
    obtain ⟨run, rest', rfl, hne, hrun, hrest⟩ := exists_run hstarts
    rw [squeeze_run hne hrun hrest] at h
    obtain ⟨-, hlater⟩ := List.cons.inj h
    have hsymbol := startsIn_squeeze hb rest'
    rw [hlater, hrest] at hsymbol
    exact hsymbol
  | false =>
    have hsymbol := startsIn_squeeze hb cs
    rw [h, hstarts, startsIn_cons, ha] at hsymbol
    cases hsymbol

theorem follows_separators (hb : p b = true) : Follows p b (Pattern.star (.sym p)).ways := by
  intro s s' t' hs ht
  obtain ⟨cs, hcs, hadvances⟩ := ways_advances _ ht
  have hsymbols : ∀ a ∈ cs, p a = true := Pattern.symbols_of_mem_language _ hcs
  have hafter : s'.cursor.after = cs ++ t'.cursor.after := hadvances.after
  have hbefore : t'.cursor.before = cs.reverse ++ s'.cursor.before := hadvances.before
  obtain ⟨⟨before, after⟩, groups⟩ := s
  have hways : (Pattern.star (.sym p)).ways ⟨⟨before, after⟩, groups⟩ =
      greedily (Pattern.sym p).ways after.length ⟨⟨before, after⟩, groups⟩ := List.append_nil _
  rw [hways]
  match cs with
  | [] =>
    refine ⟨_, self_mem_greedily _ _ _, hbefore.trans hs.before, ?_, hs.outside⟩
    exact hafter.symm.trans hs.after
  | [a] =>
    obtain ⟨step, rest, hraw, hnext, ⟨hsymbol, -⟩ | ⟨-, hrun⟩⟩ := hs.next hb hafter
    · rw [hsymbols a List.mem_cons_self] at hsymbol
      cases hsymbol
    · change after = step ++ rest at hraw
      rw [hraw]
      have hlength : step.length ≤ (step ++ rest).length := by simp
      refine ⟨_, run_mem_greedily hrun before groups hlength, ?_, hnext.after, hnext.outside⟩
      exact hbefore.trans hnext.before
  | a :: d :: cs =>
    have hsqueezed : squeeze p b after = a :: d :: (cs ++ t'.cursor.after) :=
      hs.after.symm.trans hafter
    have hsymbol := squeeze_no_run hb hsqueezed (hsymbols a List.mem_cons_self)
    rw [hsymbols d (List.mem_cons_of_mem a List.mem_cons_self)] at hsymbol
    cases hsymbol

theorem SpacingBlind.follows (hb : p b = true) {r : Pattern α} (h : SpacingBlind p b r) :
    Follows p b r.ways := by
  induction h with
  | sym q hq =>
    intro s s' t' hs ht
    unfold Pattern.ways at ht ⊢
    split at ht
    · cases ht
    · rename_i a rest' hafter
      split at ht
      · rename_i ha
        rw [List.mem_singleton.mp ht]
        obtain ⟨step, rest, hraw, hnext, ⟨-, rfl⟩ | ⟨hseparator, -⟩⟩ := hs.next hb hafter
        · rw [hraw]
          refine ⟨⟨⟨a :: s.cursor.before, rest⟩, s.groups⟩, ?_, hnext⟩
          show _ ∈ if q a = true then _ else _
          rw [if_pos ha]
          exact List.mem_singleton_self _
        · rw [hq a ha] at hseparator
          cases hseparator
      · cases ht
  | look q hq =>
    intro s s' t' hs ht
    unfold Pattern.ways at ht ⊢
    rw [hs.before, hs.after, head?_squeeze, head?_squeeze, hq] at ht
    split at ht
    · rename_i htest
      rw [List.mem_singleton.mp ht, if_pos htest]
      exact ⟨s, List.mem_singleton_self s, hs⟩
    · cases ht
  | empty =>
    intro s s' t' hs ht
    rw [List.mem_singleton.mp ht]
    exact ⟨s, List.mem_singleton_self s, hs⟩
  | seq hr ht ihr iht =>
    intro s s' t' hs hmem
    obtain ⟨middle', hmiddle', hrest'⟩ := List.mem_flatMap.mp hmem
    obtain ⟨middle, hmiddle, hsqueezed⟩ := ihr s s' middle' hs hmiddle'
    obtain ⟨t, hrest, hend⟩ := iht middle middle' t' hsqueezed hrest'
    exact ⟨t, List.mem_flatMap.mpr ⟨middle, hmiddle, hrest⟩, hend⟩
  | alt hr ht ihr iht =>
    intro s s' t' hs hmem
    rcases List.mem_append.mp hmem with hleft | hright
    · obtain ⟨t, hway, hend⟩ := ihr s s' t' hs hleft
      exact ⟨t, List.mem_append_left _ hway, hend⟩
    · obtain ⟨t, hway, hend⟩ := iht s s' t' hs hright
      exact ⟨t, List.mem_append_right _ hway, hend⟩
  | rep least most hr ih =>
    intro s s' t' hs hmem
    obtain ⟨middle', hmiddle', hrest'⟩ := List.mem_flatMap.mp hmem
    obtain ⟨middle, hmiddle, hsqueezed⟩ := ih.exactly least s s' middle' hs hmiddle'
    cases most with
    | none =>
      have hfuel : middle'.cursor.after.length ≤ middle.cursor.after.length := by
        rw [hsqueezed.after]
        exact length_squeeze_le middle.cursor.after
      obtain ⟨t, hrest, hend⟩ := ih.greedily hfuel hsqueezed hrest'
      exact ⟨t, List.mem_flatMap.mpr ⟨middle, hmiddle, hrest⟩, hend⟩
    | some most =>
      obtain ⟨t, hrest, hend⟩ := ih.greedily (le_refl (most - least)) hsqueezed hrest'
      exact ⟨t, List.mem_flatMap.mpr ⟨middle, hmiddle, hrest⟩, hend⟩
  | separators => exact follows_separators hb
  | group index hr ih =>
    intro s s' t' hs hmem
    obtain ⟨inner', hinner', rfl⟩ := List.mem_map.mp hmem
    obtain ⟨inner, hinner, hend⟩ := ih s s' inner' hs hinner'
    exact ⟨_, List.mem_map_of_mem hinner, hend⟩

/-- Such a pattern is found in a text when it is found in the squeezed text. -/
theorem search_squeeze (hb : p b = true) {r : Pattern α} (h : SpacingBlind p b r) {text : List α}
    (hfound : (search r (squeeze p b text)).isSome = true) : (search r text).isSome = true := by
  obtain ⟨front', back', htext, t', ht'⟩ := search_isSome_iff.mp hfound
  have hstart : Squeezed p b ⟨[], text⟩ ⟨[], squeeze p b text⟩ := ⟨rfl, rfl, fun h => by cases h⟩
  obtain ⟨front, back, hraw, hreached⟩ := hstart.reach hb htext
  rw [List.append_nil, List.append_nil] at hreached
  obtain ⟨t, ht, -⟩ := h.follows hb ⟨⟨front.reverse, back⟩, []⟩ _ t' hreached ht'
  exact search_isSome_iff.mpr ⟨front, back, hraw, t, ht⟩

end HotAirBalloon.Regex
