import Mathlib.Tactic
import Mathlib.Data.List.DropRight

/-!
# Runs of separators

Symbols of a class separate the parts of a text. `squeeze` puts one separator in the place of each
run of them; of a text that neither begins nor ends with one, this joins its parts.
-/

namespace HotAirBalloon.Library

variable {α : Type} {p : α → Bool} {b : α}

/-- Whether a text begins with a separator. -/
def startsIn (p : α → Bool) (cs : List α) : Bool := cs.head?.any p

/-- One separator for each run. -/
def squeeze (p : α → Bool) (b : α) : List α → List α
  | [] => []
  | a :: rest =>
    if p a then (if startsIn p rest then squeeze p b rest else b :: squeeze p b rest)
    else a :: squeeze p b rest

/-- The parts between the separators. -/
def parts (p : α → Bool) (cs : List α) : List (List α) :=
  (cs.splitOnP p).filter (fun part => !part.isEmpty)

@[simp] theorem startsIn_nil : startsIn p [] = false := rfl

@[simp] theorem startsIn_cons (a : α) (rest : List α) : startsIn p (a :: rest) = p a := rfl

@[simp] theorem squeeze_nil : squeeze p b [] = [] := rfl

theorem squeeze_cons_symbol {a : α} (ha : p a = false) (rest : List α) :
    squeeze p b (a :: rest) = a :: squeeze p b rest := by
  rw [squeeze, if_neg (by simp [ha])]

/-- A whole run. -/
theorem squeeze_run {run rest : List α} (hne : run ≠ []) (hrun : ∀ a ∈ run, p a = true)
    (hrest : startsIn p rest = false) : squeeze p b (run ++ rest) = b :: squeeze p b rest := by
  induction run with
  | nil => exact absurd rfl hne
  | cons a run ih =>
    have ha : p a = true := hrun a List.mem_cons_self
    rw [List.cons_append, squeeze, if_pos ha]
    cases run with
    | nil => rw [List.nil_append, hrest, if_neg Bool.false_ne_true]
    | cons c run =>
      have hc : startsIn p (c :: run ++ rest) = true :=
        hrun c (List.mem_cons_of_mem a List.mem_cons_self)
      rw [if_pos hc]
      exact ih (List.cons_ne_nil c run) (fun d hd => hrun d (List.mem_cons_of_mem a hd))

/-- A text begins with no separator, or with a whole run of them. -/
theorem exists_run {cs : List α} (h : startsIn p cs = true) : ∃ run rest, cs = run ++ rest ∧
    run ≠ [] ∧ (∀ a ∈ run, p a = true) ∧ startsIn p rest = false := by
  refine ⟨cs.takeWhile p, cs.dropWhile p, List.takeWhile_append_dropWhile.symm, ?_, ?_, ?_⟩
  · cases cs with
    | nil => cases h
    | cons a rest =>
      have ha : p a = true := h
      rw [List.takeWhile_cons_of_pos ha]
      exact List.cons_ne_nil a _
  · exact fun a ha => List.mem_takeWhile_imp ha
  · cases hrest : cs.dropWhile p with
    | nil => rfl
    | cons a rest =>
      have hne : cs.dropWhile p ≠ [] := by simp [hrest]
      have hhead := List.head_dropWhile_not p hne
      simpa [hrest] using hhead

theorem length_squeeze_le (cs : List α) : (squeeze p b cs).length ≤ cs.length := by
  induction cs with
  | nil => exact le_rfl
  | cons a rest ih =>
    unfold squeeze
    split
    · split
      · exact ih.trans (Nat.le_succ _)
      · exact Nat.succ_le_succ ih
    · exact Nat.succ_le_succ ih

@[simp] theorem squeeze_eq_nil {cs : List α} : squeeze p b cs = [] ↔ cs = [] := by
  constructor
  · intro h
    induction cs with
    | nil => rfl
    | cons a rest ih =>
      unfold squeeze at h
      split at h
      · split at h
        · rename_i hstarts
          rw [ih h] at hstarts
          cases hstarts
        · cases h
      · cases h
  · rintro rfl
    rfl

/-- The first symbol of a squeezed text is that of the text, up to the choice of the separator. -/
theorem head?_squeeze (cs : List α) :
    (squeeze p b cs).head? = cs.head?.map (fun a => if p a then b else a) := by
  cases hstarts : startsIn p cs with
  | true =>
    obtain ⟨run, rest, rfl, hne, hrun, hrest⟩ := exists_run hstarts
    rw [squeeze_run hne hrun hrest]
    cases run with
    | nil => exact absurd rfl hne
    | cons a run =>
      have ha : p a = true := hrun a List.mem_cons_self
      simp [ha]
  | false =>
    cases cs with
    | nil => rfl
    | cons a rest =>
      have ha : p a = false := hstarts
      rw [squeeze_cons_symbol ha]
      simp [ha]

theorem startsIn_squeeze (hb : p b = true) (cs : List α) :
    startsIn p (squeeze p b cs) = startsIn p cs := by
  unfold startsIn
  rw [head?_squeeze]
  cases cs.head? with
  | none => rfl
  | some a => cases ha : p a <;> simp [ha, hb]

/-- A word and the separator after it stay in front. -/
theorem prefix_squeeze (hb : p b = true) {word cs : List α} (hword : ∀ a ∈ word, p a = false)
    (h : word ++ [b] <+: cs) : word ++ [b] <+: squeeze p b cs := by
  induction word generalizing cs with
  | nil =>
    obtain ⟨back, rfl⟩ := h
    have hstarts : startsIn p ([] ++ [b] ++ back) = true := hb
    obtain ⟨run, rest, heq, hne, hrun, hrest⟩ := exists_run hstarts
    rw [heq, squeeze_run hne hrun hrest]
    exact List.prefix_append [b] _
  | cons a word ih =>
    cases cs with
    | nil => simp at h
    | cons c rest =>
      obtain ⟨rfl, hrest⟩ := List.cons_prefix_cons.mp h
      rw [squeeze_cons_symbol (hword a List.mem_cons_self)]
      exact List.cons_prefix_cons.mpr
        ⟨rfl, ih (fun d hd => hword d (List.mem_cons_of_mem a hd)) hrest⟩

/-- The last symbol of a squeezed text is that of the text, up to the choice of the separator. -/
theorem getLast?_squeeze (cs : List α) :
    (squeeze p b cs).getLast? = cs.getLast?.map (fun a => if p a then b else a) := by
  induction cs with
  | nil => rfl
  | cons a rest ih =>
    cases rest with
    | nil => cases ha : p a <;> simp [squeeze, ha]
    | cons c rest =>
      have hne : squeeze p b (c :: rest) ≠ [] := by simp
      have hlast : ∀ d,
          (d :: squeeze p b (c :: rest)).getLast? = (squeeze p b (c :: rest)).getLast? := by
        intro d
        obtain ⟨first, others, hsqueeze⟩ := List.exists_cons_of_ne_nil hne
        rw [hsqueeze, List.getLast?_cons_cons]
      rw [List.getLast?_cons_cons, ← ih, squeeze]
      split
      · split
        · rfl
        · exact hlast b
      · exact hlast a

/-! ## Parts -/

@[simp] theorem parts_nil : parts p [] = [] := rfl

theorem parts_cons_separator {a : α} (ha : p a = true) (rest : List α) :
    parts p (a :: rest) = parts p rest := by
  unfold parts
  rw [List.splitOnP_cons_eq_if_modifyHead, if_pos ha]
  rfl

theorem parts_append_separator {front back : List α} {a : α} (ha : p a = true) :
    parts p (front ++ a :: back) = parts p front ++ parts p back := by
  unfold parts
  rw [List.splitOnP_append_cons front back ha, List.filter_append]

theorem parts_of_symbols {cs : List α} (hne : cs ≠ []) (h : ∀ a ∈ cs, p a = false) :
    parts p cs = [cs] := by
  unfold parts
  rw [List.splitOnP_eq_singleton h]
  cases cs with
  | nil => exact absurd rfl hne
  | cons a rest => rfl

theorem parts_dropWhile (cs : List α) : parts p (cs.dropWhile p) = parts p cs := by
  induction cs with
  | nil => rfl
  | cons a rest ih =>
    by_cases ha : p a = true
    · rw [List.dropWhile_cons_of_pos ha, ih, parts_cons_separator ha]
    · rw [List.dropWhile_cons_of_neg ha]

theorem parts_rdropWhile (cs : List α) : parts p (cs.rdropWhile p) = parts p cs := by
  induction cs using List.reverseRecOn with
  | nil => rfl
  | append_singleton front a ih =>
    by_cases ha : p a = true
    · rw [List.rdropWhile_concat_pos _ _ _ ha, ih, parts_append_separator ha]
      simp
    · rw [List.rdropWhile_concat_neg _ _ _ ha]

/-- A text has parts unless it consists of separators. -/
theorem parts_ne_nil {cs : List α} {a : α} (ha : a ∈ cs) (hsymbol : p a = false) :
    parts p cs ≠ [] := by
  induction cs with
  | nil => cases ha
  | cons c rest ih =>
    by_cases hc : p c = true
    · rw [parts_cons_separator hc]
      apply ih
      rcases List.mem_cons.mp ha with rfl | hlater
      · rw [hc] at hsymbol
        cases hsymbol
      · exact hlater
    · unfold parts
      rw [List.splitOnP_cons_eq_if_modifyHead, if_neg hc]
      obtain ⟨first, others, hsplit⟩ := List.exists_cons_of_ne_nil (List.splitOnP_ne_nil p rest)
      rw [hsplit]
      simp

/-- A symbol in front of a text joins its first part, or is a part of its own. -/
theorem parts_cons_symbol {a : α} (ha : p a = false) (rest : List α) :
    parts p (a :: rest) = if startsIn p rest ∨ rest = [] then [a] :: parts p rest
      else (parts p rest).modifyHead (List.cons a) := by
  unfold parts
  rw [List.splitOnP_cons_eq_if_modifyHead, if_neg (by simp [ha])]
  cases rest with
  | nil => simp
  | cons c rest =>
    rw [List.splitOnP_cons_eq_if_modifyHead]
    by_cases hc : p c = true
    · simp [hc]
    · obtain ⟨first, others, hsplit⟩ := List.exists_cons_of_ne_nil (List.splitOnP_ne_nil p rest)
      simp [hc, hsplit]

theorem intercalate_modifyHead {a : α} {sep : List α} {texts : List (List α)} (hne : texts ≠ []) :
    sep.intercalate (texts.modifyHead (List.cons a)) = a :: sep.intercalate texts := by
  obtain ⟨first, others, rfl⟩ := List.exists_cons_of_ne_nil hne
  cases others with
  | nil => simp
  | cons second others => simp [List.intercalate_cons_cons]

/-- A text that ends with no separator, squeezed. -/
theorem squeeze_eq_intercalate {cs : List α} (hlast : ∀ a ∈ cs.getLast?, p a = false) :
    squeeze p b cs = (if startsIn p cs then [b] else []) ++ [b].intercalate (parts p cs) := by
  induction cs with
  | nil => rfl
  | cons a rest ih =>
    cases rest with
    | nil =>
      have ha : p a = false := hlast a rfl
      rw [squeeze_cons_symbol ha, parts_of_symbols (List.cons_ne_nil a []) (by simpa using ha)]
      simp [ha]
    | cons c rest =>
      rw [List.getLast?_cons_cons] at hlast
      -- the last symbol is no separator, so there is a part
      have hne : parts p (c :: rest) ≠ [] := by
        have hsome : (c :: rest).getLast? = some ((c :: rest).getLast (List.cons_ne_nil c rest)) :=
          List.getLast?_eq_some_getLast _
        exact parts_ne_nil (List.getLast_mem _) (hlast _ hsome)
      have hrest := ih hlast
      cases ha : p a with
      | true =>
        rw [squeeze, if_pos ha, parts_cons_separator ha, startsIn_cons a, if_pos ha, hrest]
        cases startsIn p (c :: rest) <;> rfl
      | false =>
        rw [squeeze_cons_symbol ha, hrest, parts_cons_symbol ha, startsIn_cons a, ha]
        cases hc : startsIn p (c :: rest) with
        | true => simp [List.intercalate_cons_of_ne_nil hne]
        | false => simp [intercalate_modifyHead hne]

/-- A text that neither begins nor ends with a separator, squeezed. -/
theorem intercalate_parts {cs : List α} (hfirst : startsIn p cs = false)
    (hlast : ∀ a ∈ cs.getLast?, p a = false) : [b].intercalate (parts p cs) = squeeze p b cs := by
  rw [squeeze_eq_intercalate hlast, hfirst]
  rfl

theorem prefix_left {cs left right : List α} (hb : b ∉ cs) (h : cs <+: left ++ b :: right) :
    cs <+: left := by
  induction left generalizing cs with
  | nil =>
    cases cs with
    | nil => exact List.prefix_rfl
    | cons c cs =>
      obtain ⟨rfl, -⟩ := List.cons_prefix_cons.mp h
      exact absurd List.mem_cons_self hb
  | cons a left ih =>
    cases cs with
    | nil => exact List.nil_prefix
    | cons c cs =>
      obtain ⟨rfl, hrest⟩ := List.cons_prefix_cons.mp h
      exact List.cons_prefix_cons.mpr ⟨rfl, ih (fun hmem => hb (List.mem_cons_of_mem c hmem)) hrest⟩

/-- A text without the separator lies on one side of it. -/
theorem infix_left_or_right {cs left right : List α} (hb : b ∉ cs)
    (h : cs <:+: left ++ b :: right) : cs <:+: left ∨ cs <:+: right := by
  induction left with
  | nil =>
    rcases List.infix_cons_iff.mp h with hprefix | hright
    · exact Or.inl (prefix_left hb hprefix).isInfix
    · exact Or.inr hright
  | cons a left ih =>
    rw [List.cons_append] at h
    rcases List.infix_cons_iff.mp h with hprefix | hlater
    · exact Or.inl (@prefix_left α b cs (a :: left) right hb hprefix).isInfix
    · rcases ih hlater with hleft | hright
      · exact Or.inl (List.infix_cons hleft)
      · exact Or.inr hright

/-- A text without the separator lies in one of the joined parts. -/
theorem infix_of_infix_intercalate {cs : List α} {texts : List (List α)} (hb : b ∉ cs)
    (h : cs <:+: [b].intercalate texts) : cs = [] ∨ ∃ text ∈ texts, cs <:+: text := by
  induction texts with
  | nil => exact Or.inl (List.infix_nil.mp h)
  | cons first others ih =>
    cases others with
    | nil =>
      rw [List.intercalate_singleton] at h
      exact Or.inr ⟨first, List.mem_cons_self, h⟩
    | cons second others =>
      rw [List.intercalate_cons_cons, List.append_assoc, List.singleton_append] at h
      rcases infix_left_or_right hb h with hfirst | hlater
      · exact Or.inr ⟨first, List.mem_cons_self, hfirst⟩
      · refine (ih hlater).imp_right ?_
        rintro ⟨text, htext, hinfix⟩
        exact ⟨text, List.mem_cons_of_mem first htext, hinfix⟩

/-! ## Maps that act part by part -/

section

variable {f : List α → List α}

/-- Separators are kept, and what is made of the text before one does not depend on the text after
it. -/
def ActsOnParts (p : α → Bool) (f : List α → List α) : Prop :=
  ∀ front a back, p a = true → f (front ++ a :: back) = f front ++ a :: f back

theorem ActsOnParts.intercalate (hf : ActsOnParts p f) (hb : p b = true) {texts : List (List α)}
    (hne : texts ≠ []) : f ([b].intercalate texts) = [b].intercalate (texts.map f) := by
  induction texts with
  | nil => exact absurd rfl hne
  | cons first others ih =>
    cases others with
    | nil => simp
    | cons second others =>
      have hrest := ih (List.cons_ne_nil second others)
      rw [List.intercalate_cons_cons, List.append_assoc, List.singleton_append, hf _ _ _ hb, hrest]
      simp [List.intercalate_cons_cons]

/-- What is made of a part is a part of what is made of the text. -/
theorem ActsOnParts.infix (hf : ActsOnParts p f) {cs part : List α} (hpart : part ∈ parts p cs) :
    f part <:+: f cs := by
  induction hlength : cs.length using Nat.strong_induction_on generalizing cs with
  | h n ih =>
    cases hrest : cs.dropWhile (fun a => !p a) with
    | nil =>
      have hsymbols : ∀ a ∈ cs, p a = false := by
        intro a ha
        simpa using List.dropWhile_eq_nil_iff.mp hrest a ha
      have hne : cs ≠ [] := by
        rintro rfl
        cases hpart
      rw [parts_of_symbols hne hsymbols] at hpart
      rw [List.mem_singleton.mp hpart]
    | cons a back =>
      have hsplit : cs.takeWhile (fun a => !p a) ++ a :: back = cs := by
        rw [← hrest]
        exact List.takeWhile_append_dropWhile
      have ha : p a = true := by
        have hhead := List.head_dropWhile_not (fun a => !p a) (l := cs) (by simp [hrest])
        simpa [hrest] using hhead
      rw [← hsplit] at hpart hlength ⊢
      rw [parts_append_separator ha] at hpart
      rw [List.length_append, List.length_cons] at hlength
      rw [hf _ _ _ ha]
      rcases List.mem_append.mp hpart with hfirst | hlater
      · have hinfix := ih _ (by omega) hfirst rfl
        exact hinfix.trans (List.prefix_append _ _).isInfix
      · have hinfix := ih _ (by omega) hlater rfl
        exact hinfix.trans ((List.suffix_cons a _).trans (List.suffix_append _ _)).isInfix

end

end HotAirBalloon.Library
