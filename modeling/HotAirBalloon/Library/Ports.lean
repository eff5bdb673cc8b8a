import HotAirBalloon.Library.Resumption

/-!
# Programs over a port

A program calls the operations of a port without knowing what stands behind it. `Prog.answered` runs
it over a state that answers every operation, and `Carried` over a world that carries them out.

A world that carries out each operation as the state answers it carries out every program as the
state does (`Carried.of_answered`). What ties the two may look ahead to the operations that are
still to come.
-/

namespace HotAirBalloon.Library

/-- How a state answers operations. -/
abbrev Port (ε Op : Type) (Reply : Op → Type) (σ : Type) := ∀ op : Op, σ → Except ε (Reply op) × σ

variable {ε Op : Type} {Reply : Op → Type} {α β σ W : Type}

/-- An operation, and what it was answered. -/
structure Replied (ε : Type) {Op : Type} (Reply : Op → Type) where
  op : Op
  reply : Except ε (Reply op)

/-- A port with a record of what it is asked and answers. -/
def Port.recorded (port : Port ε Op Reply σ) : Port ε Op Reply (σ × List (Replied ε Reply)) :=
  fun op s => ((port op s.1).1, (port op s.1).2, s.2 ++ [⟨op, (port op s.1).1⟩])

/-! ## Over a state -/

namespace Prog

variable {port : Port ε Op Reply σ} {p : Prog ε Op Reply α} {f : α → Prog ε Op Reply β} {s s' : σ}

/-- What a program returns, and the state that it leaves. -/
def answered (port : Port ε Op Reply σ) : Prog ε Op Reply α → σ → Except ε α × σ
  | .done r, s => (r, s)
  | .call op next, s => (next (port op s).1).answered port (port op s).2

/-- The operations that a program calls. -/
def asked (port : Port ε Op Reply σ) : Prog ε Op Reply α → σ → List Op
  | .done _, _ => []
  | .call op next, s => op :: (next (port op s).1).asked port (port op s).2

theorem answered_bind_ok {a : α} (h : p.answered port s = (.ok a, s')) :
    (p >>= f).answered port s = (f a).answered port s' := by
  induction p generalizing s with
  | done r =>
    cases h
    rfl
  | call op next ih => exact ih _ h

theorem answered_bind_error {e : ε} (h : p.answered port s = (.error e, s')) :
    (p >>= f).answered port s = (.error e, s') := by
  induction p generalizing s with
  | done r =>
    cases h
    rfl
  | call op next ih => exact ih _ h

theorem asked_bind_ok {a : α} (h : p.answered port s = (.ok a, s')) :
    (p >>= f).asked port s = p.asked port s ++ (f a).asked port s' := by
  induction p generalizing s with
  | done r =>
    cases h
    rfl
  | call op next ih => exact congrArg (op :: ·) (ih _ h)

section

variable {op : Op} {g : Reply op → Prog ε Op Reply α}

theorem answered_perform {reply : Reply op} (h : port op s = (.ok reply, s')) :
    (perform op >>= g).answered port s = (g reply).answered port s' := by
  change
    ((Prog.done (port op s).1 : Prog ε Op Reply (Reply op)) >>= g).answered port (port op s).2 = _
  rw [h]
  rfl

theorem asked_perform {reply : Reply op} (h : port op s = (.ok reply, s')) :
    (perform op >>= g).asked port s = op :: (g reply).asked port s' := by
  change op :: ((Prog.done (port op s).1 : Prog ε Op Reply (Reply op)) >>= g).asked port
    (port op s).2 = _
  rw [h]
  rfl

/-- A program that returns has got a reply. -/
theorem exists_reply {a : α} (h : ((perform op >>= g).answered port s).1 = .ok a) :
    ∃ reply, port op s = (.ok reply, (port op s).2) := by
  change (((Prog.done (port op s).1 : Prog ε Op Reply (Reply op)) >>= g).answered port
    (port op s).2).1 = .ok a at h
  rcases hop : port op s with ⟨reply, after⟩
  rw [hop] at h
  cases reply with
  | error e => cases h
  | ok reply => exact ⟨reply, rfl⟩

end

theorem answered_attempt :
    p.attempt.answered port s = (.ok (p.answered port s).1, (p.answered port s).2) := by
  induction p generalizing s with
  | done r => rfl
  | call op next ih => exact ih _

theorem asked_attempt : p.attempt.asked port s = p.asked port s := by
  induction p generalizing s with
  | done r => rfl
  | call op next ih => exact congrArg (op :: ·) (ih _)

/-- From states of `P` a program comes to results and states of `Q`. -/
def Ensures (port : Port ε Op Reply σ) (P : σ → Prop) (p : Prog ε Op Reply α)
    (Q : Except ε α → σ → Prop) : Prop := ∀ s, P s → Q (p.answered port s).1 (p.answered port s).2

namespace Ensures

variable {P : σ → Prop} {R : Except ε α → σ → Prop} {Q : Except ε β → σ → Prop}

/-- The rule of consequence. -/
theorem consequence {P' : σ → Prop} {R' : Except ε α → σ → Prop} (hP : ∀ s, P' s → P s)
    (h : Ensures port P p R) (hR : ∀ r s, R r s → R' r s) : Ensures port P' p R' :=
  fun s hs => hR _ _ (h s (hP s hs))

/-- A fact that does not speak of the state. -/
theorem of_and {fact : Prop} (h : fact → Ensures port P p R) :
    Ensures port (fun s => P s ∧ fact) p R :=
  fun s hs => h hs.2 s hs.1

theorem ofExcept {r : Except ε α} (h : ∀ s, P s → R r s) : Ensures port P (Prog.ofExcept r) R := h

theorem perform {op : Op} {R : Except ε (Reply op) → σ → Prop}
    (h : ∀ s, P s → R (port op s).1 (port op s).2) : Ensures port P (Prog.perform op) R := h

/-- A program in two parts, what holds when the first raises, and what the second goes on from. -/
theorem bind (h : Ensures port P p R) (herror : ∀ e s, R (.error e) s → Q (.error e) s)
    (hf : ∀ a, Ensures port (R (.ok a)) (f a) Q) : Ensures port P (p >>= f) Q := by
  intro s hs
  have hfirst := h s hs
  rcases hp : p.answered port s with ⟨e | a, s'⟩
  · rw [answered_bind_error hp]
    rw [hp] at hfirst
    exact herror e s' hfirst
  · rw [answered_bind_ok hp]
    rw [hp] at hfirst
    exact hf a s' hfirst

theorem attempt {R : Except ε (Except ε α) → σ → Prop} (h : Ensures port P p (fun r => R (.ok r))) :
    Ensures port P p.attempt R := by
  intro s hs
  rw [answered_attempt]
  exact h s hs

end Ensures

/-- What the operations that a program calls preserve, it preserves. -/
theorem answered_keeps {P : Op → Prop} {I : σ → Prop} (hport : ∀ op s, P op → I s → I (port op s).2)
    (h : p.Calls P) (hs : I s) : I (p.answered port s).2 := by
  induction p generalizing s with
  | done r => exact hs
  | call op next ih => exact ih _ (h.2 _) (hport op s h.1 hs)

/-- What programs return one after another, whatever they return, and the state that they leave. -/
def answeredEach (port : Port ε Op Reply σ) : List (Prog ε Op Reply α) → σ → List (Except ε α) × σ
  | [], s => ([], s)
  | p :: rest, s =>
    ((p.answered port s).1 :: (answeredEach port rest (p.answered port s).2).1,
      (answeredEach port rest (p.answered port s).2).2)

def askedEach (port : Port ε Op Reply σ) : List (Prog ε Op Reply α) → σ → List Op
  | [], _ => []
  | p :: rest, s => p.asked port s ++ askedEach port rest (p.answered port s).2

theorem answeredEach_append (ps qs : List (Prog ε Op Reply α)) (s : σ) :
    answeredEach port (ps ++ qs) s =
      ((answeredEach port ps s).1 ++ (answeredEach port qs (answeredEach port ps s).2).1,
        (answeredEach port qs (answeredEach port ps s).2).2) := by
  induction ps generalizing s with
  | nil => rfl
  | cons p ps ih =>
    change ((p.answered port s).1 :: (answeredEach port (ps ++ qs) _).1,
      (answeredEach port (ps ++ qs) _).2) = _
    rw [ih]
    rfl

theorem askedEach_append (ps qs : List (Prog ε Op Reply α)) (s : σ) :
    askedEach port (ps ++ qs) s =
      askedEach port ps s ++ askedEach port qs (answeredEach port ps s).2 := by
  induction ps generalizing s with
  | nil => rfl
  | cons p ps ih =>
    change p.asked port s ++ askedEach port (ps ++ qs) _ = _
    rw [ih, ← List.append_assoc]
    rfl

theorem answeredEach_keeps {P : Op → Prop} {I : σ → Prop}
    (hport : ∀ op s, P op → I s → I (port op s).2)
    (ps : List (Prog ε Op Reply α)) (h : ∀ p ∈ ps, p.Calls P) (hs : I s) :
    I (answeredEach port ps s).2 := by
  induction ps generalizing s with
  | nil => exact hs
  | cons p ps ih =>
    exact ih (fun q hq => h q (List.mem_cons_of_mem p hq))
      (answered_keeps hport (h p List.mem_cons_self) hs)

end Prog

/-! ## Over a world -/

/-- A program in a world that carries out operations: its result and the world afterwards. -/
inductive Carried (carry : ∀ op, W → Except ε (Reply op) → W → Prop) :
    Prog ε Op Reply α → W → Except ε α → W → Prop where
  | done (r : Except ε α) (w : W) : Carried carry (.done r) w r w
  | call {op : Op} {next : Except ε (Reply op) → Prog ε Op Reply α} {w w₁ w' : W}
      {reply : Except ε (Reply op)} {r : Except ε α} (hcarry : carry op w reply w₁)
      (hrest : Carried carry (next reply) w₁ r w') : Carried carry (.call op next) w r w'

/-- The same for programs that run one after another. -/
inductive CarriedEach (carry : ∀ op, W → Except ε (Reply op) → W → Prop) :
    List (Prog ε Op Reply α) → W → List (Except ε α) → W → Prop where
  | nil (w : W) : CarriedEach carry [] w [] w
  | cons {p : Prog ε Op Reply α} {rest : List (Prog ε Op Reply α)} {w w₁ w' : W} {r : Except ε α}
      {rs : List (Except ε α)} (hfirst : Carried carry p w r w₁)
      (hrest : CarriedEach carry rest w₁ rs w') : CarriedEach carry (p :: rest) w (r :: rs) w'

section

variable {carry : ∀ op, W → Except ε (Reply op) → W → Prop} {p : Prog ε Op Reply α}
  {f : α → Prog ε Op Reply β} {w w' : W}

/-- A program in two parts: the first returns and the second goes on, or the first raises. -/
theorem Carried.bind_cases {r : Except ε β} (h : Carried carry (p >>= f) w r w') :
    (∃ a w₁, Carried carry p w (.ok a) w₁ ∧ Carried carry (f a) w₁ r w') ∨
      ∃ e, Carried carry p w (.error e) w' ∧ r = .error e := by
  induction p generalizing w with
  | done result =>
    cases result with
    | ok a => exact Or.inl ⟨a, w, .done _ w, h⟩
    | error e =>
      cases h
      exact Or.inr ⟨e, .done _ _, rfl⟩
  | call op next ih =>
    cases h with
    | call hcarry hrest =>
      rcases ih _ hrest with ⟨a, w₁, hfirst, hlast⟩ | ⟨e, hfirst, he⟩
      · exact Or.inl ⟨a, w₁, .call hcarry hfirst, hlast⟩
      · exact Or.inr ⟨e, .call hcarry hfirst, he⟩

theorem Carried.of_perform {op : Op} {r : Except ε (Reply op)}
    (h : Carried carry (.perform op) w r w') : carry op w r w' := by
  cases h with
  | call hcarry hrest =>
    cases hrest
    exact hcarry

theorem Carried.of_attempt {r : Except ε (Except ε α)} (h : Carried carry p.attempt w r w') :
    ∃ result, r = .ok result ∧ Carried carry p w result w' := by
  induction p generalizing w with
  | done result =>
    cases h
    exact ⟨result, rfl, .done _ _⟩
  | call op next ih =>
    cases h with
    | call hcarry hrest =>
      obtain ⟨result, rfl, hresult⟩ := ih _ hrest
      exact ⟨result, rfl, .call hcarry hresult⟩

/-- What the operations of a program do alike in another world, it does alike. -/
theorem Carried.transfer {W' : Type} {carry' : ∀ op, W' → Except ε (Reply op) → W' → Prop}
    {g : W → W'} {P : Op → Prop} {I : W → Prop}
    (hstep : ∀ op w reply w', P op → I w → carry op w reply w' →
      carry' op (g w) reply (g w') ∧ I w')
    (hp : p.Calls P) (hw : I w) {r : Except ε α} (h : Carried carry p w r w') :
    Carried carry' p (g w) r (g w') ∧ I w' := by
  induction h with
  | done r w => exact ⟨.done r _, hw⟩
  | call hcarry _ ih =>
    obtain ⟨hcarry', hnext⟩ := hstep _ _ _ _ hp.1 hw hcarry
    obtain ⟨hrest, hend⟩ := ih (hp.2 _) hnext
    exact ⟨.call hcarry' hrest, hend⟩

/-- What the operations of a program preserve, it preserves. -/
theorem Carried.keeps {P : Op → Prop} {I : W → Prop}
    (hstep : ∀ op w reply w', P op → I w → carry op w reply w' → I w') (hp : p.Calls P) (hw : I w)
    {r : Except ε α} (h : Carried carry p w r w') : I w' :=
  have hcarry : ∀ op w reply w', P op → I w → carry op w reply w' →
      carry op (id w) reply (id w') ∧ I w' :=
    fun op w reply w' hop hi hcarried => ⟨hcarried, hstep op w reply w' hop hi hcarried⟩
  (h.transfer hcarry hp hw).2

theorem CarriedEach.transfer {W' : Type} {carry' : ∀ op, W' → Except ε (Reply op) → W' → Prop}
    {g : W → W'} {P : Op → Prop} {I : W → Prop}
    (hstep : ∀ op w reply w', P op → I w → carry op w reply w' →
      carry' op (g w) reply (g w') ∧ I w')
    {ps : List (Prog ε Op Reply α)} (hps : ∀ p ∈ ps, p.Calls P) (hw : I w) {rs : List (Except ε α)}
    (h : CarriedEach carry ps w rs w') : CarriedEach carry' ps (g w) rs (g w') ∧ I w' := by
  induction h with
  | nil w => exact ⟨.nil _, hw⟩
  | cons hfirst _ ih =>
    obtain ⟨hfirst', hnext⟩ := hfirst.transfer hstep (hps _ List.mem_cons_self) hw
    obtain ⟨hrest, hend⟩ := ih (fun q hq => hps q (List.mem_cons_of_mem _ hq)) hnext
    exact ⟨.cons hfirst' hrest, hend⟩

end

/-! ### The only outcome -/

/-- The world leaves an operation no choice. -/
def CarriesUniquely (carry : ∀ op, W → Except ε (Reply op) → W → Prop) : Prop :=
  ∀ op w reply w₁ reply' w₂, carry op w reply w₁ → carry op w reply' w₂ → reply = reply' ∧ w₁ = w₂

/-- The program comes to this result and this world, and to no others. -/
def CarriedOnly (carry : ∀ op, W → Except ε (Reply op) → W → Prop) (p : Prog ε Op Reply α) (w : W)
    (r : Except ε α) (w' : W) : Prop := ∀ r₁ w₁, Carried carry p w r₁ w₁ ↔ r₁ = r ∧ w₁ = w'

def CarriedEachOnly (carry : ∀ op, W → Except ε (Reply op) → W → Prop)
    (ps : List (Prog ε Op Reply α)) (w : W) (rs : List (Except ε α)) (w' : W) : Prop :=
  ∀ rs₁ w₁, CarriedEach carry ps w rs₁ w₁ ↔ rs₁ = rs ∧ w₁ = w'

section

variable {carry : ∀ op, W → Except ε (Reply op) → W → Prop} {p : Prog ε Op Reply α}
  {ps : List (Prog ε Op Reply α)} {w w₁ w₂ : W}

theorem Carried.unique (hcarry : CarriesUniquely carry) {r r' : Except ε α}
    (h : Carried carry p w r w₁) (h' : Carried carry p w r' w₂) : r = r' ∧ w₁ = w₂ := by
  induction h with
  | done r w =>
    cases h'
    exact ⟨rfl, rfl⟩
  | call hfirst _ ih =>
    cases h' with
    | call hfirst' hrest' =>
      obtain ⟨rfl, rfl⟩ := hcarry _ _ _ _ _ _ hfirst hfirst'
      exact ih hrest'

theorem CarriedEach.unique (hcarry : CarriesUniquely carry) {rs rs' : List (Except ε α)}
    (h : CarriedEach carry ps w rs w₁) (h' : CarriedEach carry ps w rs' w₂) :
    rs = rs' ∧ w₁ = w₂ := by
  induction h generalizing rs' with
  | nil w =>
    cases h'
    exact ⟨rfl, rfl⟩
  | cons hfirst _ ih =>
    cases h' with
    | cons hfirst' hrest' =>
      obtain ⟨rfl, rfl⟩ := hfirst.unique hcarry hfirst'
      obtain ⟨rfl, rfl⟩ := ih hrest'
      exact ⟨rfl, rfl⟩

theorem Carried.only (hcarry : CarriesUniquely carry) {r : Except ε α}
    (h : Carried carry p w r w₁) : CarriedOnly carry p w r w₁ := by
  intro r' w'
  constructor
  · exact fun h' => h'.unique hcarry h
  · rintro ⟨rfl, rfl⟩
    exact h

theorem CarriedEach.only (hcarry : CarriesUniquely carry) {rs : List (Except ε α)}
    (h : CarriedEach carry ps w rs w₁) : CarriedEachOnly carry ps w rs w₁ := by
  intro rs' w'
  constructor
  · exact fun h' => h'.unique hcarry h
  · rintro ⟨rfl, rfl⟩
    exact h

end

/-- Each operation is carried out as the state answers it, and `I` goes on to tie the two. -/
def CarriesOut (carry : ∀ op, W → Except ε (Reply op) → W → Prop) (port : Port ε Op Reply σ)
    (I : List Op → σ → W → Prop) : Prop :=
  ∀ op rest s w, I (op :: rest) s w → ∃ w', carry op w (port op s).1 w' ∧ I rest (port op s).2 w'

section

variable {carry : ∀ op, W → Except ε (Reply op) → W → Prop} {port : Port ε Op Reply σ}
  {I : List Op → σ → W → Prop}

theorem Carried.of_answered (hstep : CarriesOut carry port I)
    (p : Prog ε Op Reply α) (rest : List Op) {s : σ} {w : W} (h : I (p.asked port s ++ rest) s w) :
    ∃ w', Carried carry p w (p.answered port s).1 w' ∧ I rest (p.answered port s).2 w' := by
  induction p generalizing s w with
  | done r => exact ⟨w, .done r w, h⟩
  | call op next ih =>
    obtain ⟨w₁, hcarry, hnext⟩ := hstep op _ s w h
    obtain ⟨w', hrest, hend⟩ := ih (port op s).1 hnext
    exact ⟨w', .call hcarry hrest, hend⟩

theorem CarriedEach.of_answered (hstep : CarriesOut carry port I)
    (ps : List (Prog ε Op Reply α)) (rest : List Op) {s : σ} {w : W}
    (h : I (Prog.askedEach port ps s ++ rest) s w) :
    ∃ w', CarriedEach carry ps w (Prog.answeredEach port ps s).1 w' ∧
      I rest (Prog.answeredEach port ps s).2 w' := by
  induction ps generalizing s w with
  | nil => exact ⟨w, .nil w, h⟩
  | cons p ps ih =>
    change I ((p.asked port s ++ Prog.askedEach port ps (p.answered port s).2) ++ rest) s w at h
    rw [List.append_assoc] at h
    obtain ⟨w₁, hfirst, hnext⟩ := Carried.of_answered hstep p _ h
    obtain ⟨w', hrest, hend⟩ := ih hnext
    exact ⟨w', .cons hfirst hrest, hend⟩

end

end HotAirBalloon.Library
