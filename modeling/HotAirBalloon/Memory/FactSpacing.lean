import HotAirBalloon.Memory.FactPolicy
import HotAirBalloon.Python.Spacing

/-!
# Screening and spacing

The store takes two statements for the same fact when they differ only in their white space. The
policy screens the statement as it is written, and some of the phrases and terms that it looks for
have blanks in them: `evaluate_spaced_iff` says that these, and nothing else, tell an accepted
statement from its single-spaced form.
-/

namespace HotAirBalloon.Memory

open Python Python.Re Regex Pattern

/-- The phrase stands in the text, with word boundaries on both sides. -/
def mentions (py : Interpreter) (s phrase : String) : Bool :=
  found (seqs [boundary py, lit phrase, boundary py]) s

/-- The phrases of several words that a fact of a class must not mention. -/
def spacedPhrases (factClass : String) : List String :=
  ["site membership", "works at site"] ++
    if factClass = "domain_constraint" then [] else ["right now", "as of today", "at the moment"]

namespace FactAcceptancePolicy

variable {policy : FactAcceptancePolicy} {fact : ExtractedFact} {sourceTurnIds : List Uuid}
  {now : DateTime}

/-- No phrase and no term of several words is in the single-spaced statement. -/
structure FreeOfPhrases (policy : FactAcceptancePolicy) (fact : ExtractedFact) : Prop where
  phrases : ∀ phrase ∈ spacedPhrases fact.factClass,
    mentions policy.py (spaced fact.statement) phrase = false
  terms : ∀ term ∈ policy.rederivableTerms, ' ' ∈ term.toList →
    ¬term.toList <:+: (policy.py.lower (spaced fact.statement)).toList

/-- The checks, of a statement that is stripped. -/
structure Passes (policy : FactAcceptancePolicy) (fact : ExtractedFact) (sourceTurnIds : List Uuid)
    (statement : String) : Prop where
  nonempty : statement ≠ ""
  short : (statement.length : Int) ≤ policy.maxStatementCharacters
  evidence : fact.evidenceTurnIds.isEmpty = false
  known : fact.evidenceTurnIds.all (fun id => id ∈ sourceTurnIds) = true
  storable : fact.factClass ∈ storable
  claimless : found (authoritativeClaimPattern policy.py) statement = false
  attributed : fact.factClass = "attributed_opinion" → "User ".toList <+: statement.toList
  lasting : fact.factClass ≠ "domain_constraint" →
    found (volatileValuePattern policy.py) statement = false ∧
      found (volatileTimePattern policy.py) statement = false
  own : ∀ term ∈ policy.rederivableTerms, ¬term.toList <:+: (policy.py.lower statement).toList

theorem reason_eq_none {check : Prop} [Decidable check] {reason : String} {rest : Option String} :
    (if check then some reason else rest) = none ↔ ¬check ∧ rest = none := by
  by_cases h : check <;> simp [h]

theorem rejection_eq_none : policy.rejection fact sourceTurnIds = none ↔
    Passes policy fact sourceTurnIds (strip fact.statement) := by
  unfold rejection
  simp only [reason_eq_none]
  constructor
  · rintro ⟨hnonempty, hshort, hevidence, hknown, hstorable, hclaim, hattributed, hlasting, hown, -⟩
    refine ⟨hnonempty, Int.not_lt.mp hshort, by simpa using hevidence, by simpa using hknown, ?_,
      by simpa using hclaim, ?_, ?_, ?_⟩
    · exact not_not.mp hstorable
    · exact fun hopinion => not_not.mp fun hplain => hattributed ⟨hopinion, hplain⟩
    · intro hclass
      constructor
      · exact Bool.eq_false_iff.mpr fun hvalue => hlasting ⟨hclass, Or.inl hvalue⟩
      · exact Bool.eq_false_iff.mpr fun htime => hlasting ⟨hclass, Or.inr htime⟩
    · intro term hterm hinfix
      exact hown (List.any_eq_true.mpr ⟨term, hterm, decide_eq_true hinfix⟩)
  · intro h
    refine ⟨h.nonempty, Int.not_lt.mpr h.short, by simp [h.evidence], ?_, not_not.mpr h.storable,
      by simp [h.claimless], ?_, ?_, ?_, trivial⟩
    · rw [h.known]
      decide
    · exact fun hrejected => hrejected.2 (h.attributed hrejected.1)
    · rintro ⟨hclass, hvalue | htime⟩
      · rw [(h.lasting hclass).1] at hvalue
        cases hvalue
      · rw [(h.lasting hclass).2] at htime
        cases htime
    · intro hany
      obtain ⟨term, hterm, hinfix⟩ := List.any_eq_true.mp hany
      exact h.own term hterm (of_decide_eq_true hinfix)

theorem accepted_iff : (policy.evaluate fact sourceTurnIds now).decision = .accepted ↔
    Passes policy fact sourceTurnIds (strip fact.statement) := by
  rw [← rejection_eq_none]
  unfold evaluate
  cases policy.rejection fact sourceTurnIds with
  | none => simp
  | some reason => simp

/-! ## The single-spaced statement -/

section

variable {py : Interpreter} {s : String}

/-- The patterns of phrases, one phrase at a time. -/
theorem found_phrases {phrases : List String} :
    found (seqs [boundary py, words phrases, boundary py]) s = false ↔
      ∀ phrase ∈ phrases, mentions py s phrase = false := by
  have hfound : found (seqs [boundary py, words phrases, boundary py]) s = true ↔
      ∃ phrase ∈ phrases, mentions py s phrase = true := found_words
  rw [← Bool.not_eq_true, hfound]
  simp

theorem blind_mention (hspacing : py.Spacing) {phrase : String}
    (hword : phrase.toList.all (fun c => !isSpace c) = true) :
    Blind (seqs [boundary py, lit phrase, boundary py]) := by
  apply SpacingBlind.seqs
  simp only [List.forall_mem_cons]
  exact ⟨blind_edge hspacing, blind_lit hword, blind_edge hspacing, nofun⟩

/-- A phrase of one word is mentioned whatever the spacing. -/
theorem mentions_spaced (hspacing : py.Spacing) {phrase : String}
    (hword : phrase.toList.all (fun c => !isSpace c) = true)
    (h : mentions py (strip s) phrase = false) : mentions py (spaced s) phrase = false := by
  by_contra hmentioned
  rw [Bool.not_eq_false] at hmentioned
  have hstripped := found_spaced (blind_mention hspacing hword) hmentioned
  rw [mentions, hstripped] at h
  cases h

theorem unmentioned_spaced (hspacing : py.Spacing) {phrases : List String}
    (h : ∀ phrase ∈ phrases, mentions py (strip s) phrase = false)
    (hjoined : ∀ phrase ∈ phrases.filter (fun phrase => phrase.toList.any isSpace),
      mentions py (spaced s) phrase = false) :
    ∀ phrase ∈ phrases, mentions py (spaced s) phrase = false := by
  intro phrase hphrase
  cases hblank : phrase.toList.any isSpace with
  | true => exact hjoined phrase (List.mem_filter.mpr ⟨hphrase, hblank⟩)
  | false =>
    have hword : phrase.toList.all (fun c => !isSpace c) = true := by
      simpa using hblank
    exact mentions_spaced hspacing hword (h phrase hphrase)

/-- `\s*` is the only white space in the pattern of values. -/
theorem blind_volatileValue (hspacing : py.Spacing) : Blind (volatileValuePattern py) := by
  have hdigits : Blind (digits py) := (blind_digit hspacing).plus
  have hlit : ∀ w ∈ [".", "unit", "s", "pcs", "piece", "hour", "day", "%", "usd", "vnd", "$"],
      Blind (lit w) := by
    intro w hw
    apply blind_lit
    have hall : [".", "unit", "s", "pcs", "piece", "hour", "day", "%", "usd", "vnd", "$"].all
        (fun w => w.toList.all (fun c => !isSpace c)) = true := by decide
    exact List.all_eq_true.mp hall w hw
  have hplural : ∀ w ∈ ["unit", "piece", "hour", "day"], Blind (seqs [lit w, opt (lit "s")]) := by
    intro w hw
    apply SpacingBlind.seqs
    simp only [List.forall_mem_cons]
    refine ⟨hlit w ?_, (hlit "s" (by simp)).opt, nofun⟩
    simp only [List.mem_cons, List.not_mem_nil, or_false] at hw ⊢
    tauto
  apply SpacingBlind.alts
  simp only [List.forall_mem_cons]
  refine ⟨SpacingBlind.seqs ?_, SpacingBlind.seqs ?_, nofun⟩
  · simp only [List.forall_mem_cons]
    refine ⟨blind_edge hspacing, hdigits, SpacingBlind.opt (SpacingBlind.seqs ?_), blind_space,
      SpacingBlind.alts ?_, blind_edge hspacing, nofun⟩
    · simp only [List.forall_mem_cons]
      exact ⟨hlit "." (by simp), hdigits, nofun⟩
    · simp only [List.forall_mem_cons]
      exact ⟨hplural "unit" (by simp), hlit "pcs" (by simp), hplural "piece" (by simp),
        hplural "hour" (by simp), hplural "day" (by simp), hlit "%" (by simp), hlit "usd" (by simp),
        hlit "vnd" (by simp), nofun⟩
  · simp only [List.forall_mem_cons]
    exact ⟨hlit "$" (by simp), blind_space, hdigits, nofun⟩

/-- An opinion stays attributed. -/
theorem attributed_spaced (h : "User ".toList <+: (strip s).toList) :
    "User ".toList <+: (spaced s).toList := by
  rw [spaced_eq_squeeze]
  have hword : ∀ c ∈ "User".toList, isSpace c = false := by
    intro c hc
    have hall : "User".toList.all (fun c => !isSpace c) = true := by decide
    simpa using List.all_eq_true.mp hall c hc
  exact Library.prefix_squeeze isSpace_blank hword h

/-- A statement that passes still does when it is single-spaced, unless this joins a phrase. -/
theorem Passes.spaced (hspacing : policy.py.Spacing)
    (h : Passes policy fact sourceTurnIds (strip fact.statement))
    (hfree : FreeOfPhrases policy fact) :
    Passes policy { fact with statement := spaced fact.statement } sourceTurnIds
      (spaced fact.statement) where
  nonempty := fun hempty => h.nonempty (spaced_eq_empty.mp hempty)
  short := (Int.ofNat_le.mpr (length_spaced_le fact.statement)).trans h.short
  evidence := h.evidence
  known := h.known
  storable := h.storable
  claimless := by
    refine found_phrases.mpr (unmentioned_spaced hspacing (found_phrases.mp h.claimless) ?_)
    intro phrase hphrase
    exact hfree.phrases phrase (List.mem_append_left _ hphrase)
  attributed hopinion := attributed_spaced (h.attributed hopinion)
  lasting hclass := by
    obtain ⟨hvalue, htime⟩ := h.lasting hclass
    constructor
    · by_contra hfound
      rw [found_spaced (blind_volatileValue hspacing) (by simpa using hfound)] at hvalue
      cases hvalue
    · refine found_phrases.mpr (unmentioned_spaced hspacing (found_phrases.mp htime) ?_)
      intro phrase hphrase
      apply hfree.phrases phrase
      unfold spacedPhrases
      rw [if_neg hclass]
      exact List.mem_append_right _ hphrase
  own term hterm hinfix := by
    by_cases hblank : ' ' ∈ term.toList
    · exact hfree.terms term hterm hblank hinfix
    · exact h.own term hterm (infix_lower_spaced hspacing hblank hinfix)

end

/-- An accepted fact is accepted in its single-spaced form exactly when no phrase of several words
is in that form. -/
theorem evaluate_spaced_iff (hspacing : policy.py.Spacing)
    (haccepted : (policy.evaluate fact sourceTurnIds now).decision = .accepted) :
    (policy.evaluate { fact with statement := spaced fact.statement } sourceTurnIds now).decision =
        .accepted ↔ FreeOfPhrases policy fact := by
  rw [accepted_iff] at haccepted ⊢
  rw [strip_spaced]
  constructor
  · intro h
    refine ⟨?_, fun term hterm _ => h.own term hterm⟩
    intro phrase hphrase
    have hclaims := found_phrases.mp h.claimless
    rcases List.mem_append.mp hphrase with hclaim | htime
    · apply hclaims phrase
      simp only [List.mem_cons, List.not_mem_nil, or_false] at hclaim ⊢
      tauto
    · by_cases hclass : fact.factClass = "domain_constraint"
      · rw [if_pos hclass] at htime
        cases htime
      · have htimes := found_phrases.mp (h.lasting hclass).2
        rw [if_neg hclass] at htime
        apply htimes phrase
        simp only [List.mem_cons, List.not_mem_nil, or_false] at htime ⊢
        tauto
  · exact haccepted.spaced hspacing

/-! ## A fact with two blanks -/

def stockPolicy : FactAcceptancePolicy where
  py := .ascii
  maxStatementCharacters := 500
  rederivableTerms := ["quantity on hand"]

def pumpFact (statement : String) : ExtractedFact where
  statement := statement
  factClass := "episodic_reference"
  evidenceTurnIds := [.ofNat 1]
  entityRefs := []
  explicitlyStated := true

/-- White space in the middle is no obstacle by itself. -/
theorem evaluate_spaced_iff_pump :
    (stockPolicy.evaluate (pumpFact "The pump  hums.") [.ofNat 1] 0).decision = .accepted ∧
    ((stockPolicy.evaluate (pumpFact (spaced "The pump  hums.")) [.ofNat 1] 0).decision =
      .accepted ↔ FreeOfPhrases stockPolicy (pumpFact "The pump  hums.")) := by
  have haccepted :
      (stockPolicy.evaluate (pumpFact "The pump  hums.") [.ofNat 1] 0).decision = .accepted := by
    decide
  have hspacing : stockPolicy.py.Spacing := UnicodeData.ascii_spacing
  have hiff := evaluate_spaced_iff hspacing haccepted
  exact ⟨haccepted, hiff⟩

/-- Two blanks hide a time that one blank shows. -/
theorem evaluate_dodged :
    stockPolicy.py.Spacing ∧
    (∀ term ∈ stockPolicy.rederivableTerms, spaced (stockPolicy.py.lower term) = term) ∧
    (stockPolicy.evaluate (pumpFact "The pump hums right  now.") [.ofNat 1] 0).decision =
      .accepted ∧
    (stockPolicy.evaluate (pumpFact (spaced "The pump hums right  now.")) [.ofNat 1] 0).decision ≠
      .accepted := by
  refine ⟨UnicodeData.ascii_spacing, ?_, by decide, by decide⟩
  intro term hterm
  rw [List.mem_singleton.mp hterm]
  decide

end FactAcceptancePolicy

end HotAirBalloon.Memory
