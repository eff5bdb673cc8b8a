import Mathlib.Tactic

/-!
# Programs that share a world

A `Prog` calls operations one at a time and goes on with their replies. Many programs run over
one world: a step picks a process and executes its next operation, so every interleaving of the
operations is a run. An operation may have no outcome in a world, and then its process waits.

`Outline` is a proof outline for one program among others: before each operation it has an
assertion that the steps of the other programs keep (`Stable`). Outlines for all programs hold
along every run (`Covered.steps`); they are built with one rule for each way to build programs.
-/

namespace HotAirBalloon.Library

/-! ## Programs -/

inductive Prog (ε Op : Type) (Reply : Op → Type) (α : Type) where
  | done (result : Except ε α)
  | call (op : Op) (next : Except ε (Reply op) → Prog ε Op Reply α)

namespace Prog

variable {ε Op : Type} {Reply : Op → Type} {α β : Type}

/-- Sequencing; an error ends the program. -/
def bind (p : Prog ε Op Reply α) (f : α → Prog ε Op Reply β) : Prog ε Op Reply β :=
  match p with
  | .done (.ok a) => f a
  | .done (.error e) => .done (.error e)
  | .call op next => .call op (fun reply => (next reply).bind f)

instance : Monad (Prog ε Op Reply) where
  pure a := .done (.ok a)
  bind := bind

/-- Call one operation. -/
def perform (op : Op) : Prog ε Op Reply (Reply op) := .call op .done

def raise (e : ε) : Prog ε Op Reply α := .done (.error e)

/-- A computation without operations. -/
def ofExcept (r : Except ε α) : Prog ε Op Reply α := .done r

/-- The result of a program, be it a value or an error, as a value. -/
def attempt (p : Prog ε Op Reply α) : Prog ε Op Reply (Except ε α) :=
  match p with
  | .done r => .done (.ok r)
  | .call op next => .call op (fun reply => (next reply).attempt)

/-- A loop over a list. -/
def forEach (items : List β) (body : β → Prog ε Op Reply Unit) : Prog ε Op Reply Unit :=
  match items with
  | [] => pure ()
  | item :: rest => body item >>= fun _ => forEach rest body

/-- A loop over a list that carries a value. -/
def foldEach {σ : Type} (items : List β) (acc : σ) (body : σ → β → Prog ε Op Reply σ) :
    Prog ε Op Reply σ :=
  match items with
  | [] => pure acc
  | item :: rest => body acc item >>= fun acc' => foldEach rest acc' body

/-- The error that a finished program has raised. -/
def error? : Prog ε Op Reply α → Option ε
  | .done (.error e) => some e
  | _ => none

/-- The value that a finished program has returned. -/
def result? : Prog ε Op Reply α → Option α
  | .done (.ok a) => some a
  | _ => none

theorem error?_eq_some {p : Prog ε Op Reply α} {e : ε} :
    p.error? = some e ↔ p = .done (.error e) := by
  rcases p with (e' | a) | ⟨op, next⟩ <;> simp [error?]

theorem result?_eq_some {p : Prog ε Op Reply α} {a : α} :
    p.result? = some a ↔ p = .done (.ok a) := by
  rcases p with (e | a') | ⟨op, next⟩ <;> simp [result?]

def isDone : Prog ε Op Reply α → Bool
  | .done _ => true
  | .call .. => false

theorem exists_of_isDone {p : Prog ε Op Reply α} (h : p.isDone = true) : ∃ r, p = .done r := by
  cases p with
  | done r => exact ⟨r, rfl⟩
  | call op next => cases h

/-- Every operation that the program may come to call satisfies `P`. -/
def Calls (P : Op → Prop) (p : Prog ε Op Reply α) : Prop :=
  match p with
  | .done _ => True
  | .call op next => P op ∧ ∀ reply, (next reply).Calls P

namespace Calls

variable {P : Op → Prop}

theorem pure (a : α) : (Pure.pure a : Prog ε Op Reply α).Calls P := trivial

theorem raise (e : ε) : (Prog.raise e : Prog ε Op Reply α).Calls P := trivial

theorem ofExcept (r : Except ε α) : (Prog.ofExcept r : Prog ε Op Reply α).Calls P := trivial

theorem mono {P' : Op → Prop} {p : Prog ε Op Reply α} (h : p.Calls P) (himp : ∀ op, P op → P' op) :
    p.Calls P' := by
  induction p with
  | done r => trivial
  | call op next ih => exact ⟨himp op h.1, fun reply => ih reply (h.2 reply)⟩

theorem perform {op : Op} (h : P op) : (Prog.perform op : Prog ε Op Reply (Reply op)).Calls P :=
  ⟨h, fun _ => trivial⟩

theorem bind {p : Prog ε Op Reply α} {f : α → Prog ε Op Reply β} (h : p.Calls P)
    (hf : ∀ a, (f a).Calls P) : (p >>= f).Calls P := by
  induction p with
  | done r =>
    cases r with
    | ok a => exact hf a
    | error e => trivial
  | call op next ih => exact ⟨h.1, fun reply => ih reply (h.2 reply)⟩

theorem attempt {p : Prog ε Op Reply α} (h : p.Calls P) : p.attempt.Calls P := by
  induction p with
  | done r => trivial
  | call op next ih => exact ⟨h.1, fun reply => ih reply (h.2 reply)⟩

theorem forEach {items : List β} {body : β → Prog ε Op Reply Unit}
    (h : ∀ item ∈ items, (body item).Calls P) : (Prog.forEach items body).Calls P := by
  induction items with
  | nil => exact Calls.pure ()
  | cons item rest ih =>
    refine Calls.bind (h item List.mem_cons_self) (fun _ => ?_)
    exact ih (fun item' hitem' => h item' (List.mem_cons_of_mem item hitem'))

theorem foldEach {σ : Type} {items : List β} {acc : σ} {body : σ → β → Prog ε Op Reply σ}
    (h : ∀ acc, ∀ item ∈ items, (body acc item).Calls P) :
    (Prog.foldEach items acc body).Calls P := by
  induction items generalizing acc with
  | nil => exact Calls.pure acc
  | cons item rest ih =>
    refine Calls.bind (h acc item List.mem_cons_self) (fun acc' => ?_)
    exact ih (fun acc item' hitem' => h acc item' (List.mem_cons_of_mem item hitem'))

end Calls

/-- Every operation after the first satisfies `P`. -/
def CallsAfter (P : Op → Prop) (p : Prog ε Op Reply α) : Prop :=
  match p with
  | .done _ => True
  | .call _ next => ∀ reply, (next reply).Calls P

namespace CallsAfter

variable {P : Op → Prop}

theorem of_calls {p : Prog ε Op Reply α} (h : p.Calls P) : p.CallsAfter P := by
  cases p with
  | done r => trivial
  | call op next => exact h.2

theorem perform (op : Op) : (Prog.perform op : Prog ε Op Reply (Reply op)).CallsAfter P :=
  fun _ => trivial

theorem bind {p : Prog ε Op Reply α} {f : α → Prog ε Op Reply β} (h : p.CallsAfter P)
    (hf : ∀ a, (f a).Calls P) : (p >>= f).CallsAfter P := by
  cases p with
  | done r =>
    cases r with
    | ok a => exact of_calls (hf a)
    | error e => trivial
  | call op next => exact fun reply => Calls.bind (h reply) hf

theorem attempt {p : Prog ε Op Reply α} (h : p.CallsAfter P) : p.attempt.CallsAfter P := by
  cases p with
  | done r => trivial
  | call op next => exact fun reply => (h reply).attempt

end CallsAfter

end Prog

/-! ## Runs -/

section

variable {ι ε Op Choice W α : Type} {Reply : Op → Type}

/-- The outcomes of an operation of a process: its reply and the world after it. What the world
leaves open is settled by a choice. -/
abbrev Exec (ι ε Op : Type) (Reply : Op → Type) (Choice W : Type) :=
  ι → (op : Op) → Choice → W → Option (Except ε (Reply op) × W)

structure Config (ι ε Op : Type) (Reply : Op → Type) (W α : Type) where
  world : W
  programs : ι → Prog ε Op Reply α

variable [DecidableEq ι]

/-- A step of process `i`, which calls its next operation where `cond` allows it. -/
inductive Step (exec : Exec ι ε Op Reply Choice W) (cond : ι → Op → W → Prop) (i : ι) :
    Config ι ε Op Reply W α → Config ι ε Op Reply W α → Prop
  | mk {c : Config ι ε Op Reply W α} {op : Op} {next} {choice : Choice} {reply} {world : W}
      (program_eq : c.programs i = .call op next) (allowed : cond i op c.world)
      (exec_eq : exec i op choice c.world = some (reply, world)) :
      Step exec cond i c ⟨world, Function.update c.programs i (next reply)⟩

/-- Any number of steps of any processes. -/
def Steps (exec : Exec ι ε Op Reply Choice W) (cond : ι → Op → W → Prop) :
    Config ι ε Op Reply W α → Config ι ε Op Reply W α → Prop :=
  Relation.ReflTransGen (fun c c' => ∃ i, Step exec cond i c c')

/-- Every step is allowed. -/
def always : ι → Op → W → Prop := fun _ _ _ => True

instance (i : ι) (op : Op) (w : W) : Decidable (always i op w) := .isTrue trivial

/-- The step of a process with a given choice. -/
def stepOf (exec : Exec ι ε Op Reply Choice W) (cond : ι → Op → W → Prop)
    [∀ i op w, Decidable (cond i op w)] (i : ι) (choice : Choice)
    (c : Config ι ε Op Reply W α) : Option (Config ι ε Op Reply W α) :=
  match c.programs i with
  | .done _ => none
  | .call op next =>
    if cond i op c.world then
      (exec i op choice c.world).map fun (reply, world) =>
        ⟨world, Function.update c.programs i (next reply)⟩
    else none

/-- A run by a schedule of processes and choices. -/
def runSchedule (exec : Exec ι ε Op Reply Choice W) (cond : ι → Op → W → Prop)
    [∀ i op w, Decidable (cond i op w)] :
    List (ι × Choice) → Config ι ε Op Reply W α → Option (Config ι ε Op Reply W α)
  | [], c => some c
  | (i, choice) :: rest, c => (stepOf exec cond i choice c).bind (runSchedule exec cond rest)

theorem step_of_stepOf {exec : Exec ι ε Op Reply Choice W} {cond : ι → Op → W → Prop}
    [∀ i op w, Decidable (cond i op w)] {i : ι} {choice : Choice}
    {c c' : Config ι ε Op Reply W α} (h : stepOf exec cond i choice c = some c') :
    Step exec cond i c c' := by
  unfold stepOf at h
  split at h
  · cases h
  · rename_i op next hprogram
    split at h
    · rename_i hcond
      obtain ⟨⟨reply, world⟩, hexec, heq⟩ := Option.map_eq_some_iff.mp h
      cases heq
      exact .mk hprogram hcond hexec
    · cases h

theorem steps_of_runSchedule {exec : Exec ι ε Op Reply Choice W} {cond : ι → Op → W → Prop}
    [∀ i op w, Decidable (cond i op w)] {schedule : List (ι × Choice)}
    {c c' : Config ι ε Op Reply W α} (h : runSchedule exec cond schedule c = some c') :
    Steps exec cond c c' := by
  induction schedule generalizing c with
  | nil =>
    cases h
    exact .refl
  | cons entry rest ih =>
    obtain ⟨i, choice⟩ := entry
    obtain ⟨c₁, hstep, hrest⟩ := Option.bind_eq_some_iff.mp h
    exact .head ⟨i, step_of_stepOf hstep⟩ (ih hrest)

end

/-- The run of one program alone, with the same choice throughout. -/
def Prog.run {ι ε Op Choice W α : Type} {Reply : Op → Type} (exec : Exec ι ε Op Reply Choice W)
    (i : ι) (choice : Choice) : Prog ε Op Reply α → W → Option (Except ε α × W)
  | .done r, w => some (r, w)
  | .call op next, w => (exec i op choice w).bind fun (reply, w') =>
    (next reply).run exec i choice w'

/-! ## Proof outlines -/

/-- What a proof about interleaved programs relies on: how operations execute and when they are
allowed, an invariant of the world, and what a step of a process may do to it. -/
structure Rely (ι ε Op : Type) (Reply : Op → Type) (Choice W : Type) where
  exec : Exec ι ε Op Reply Choice W
  cond : ι → Op → W → Prop
  inv : W → Prop
  guar : ι → W → W → Prop

section

variable {ι ε Op Choice W α β : Type} {Reply : Op → Type}
  (S : Rely ι ε Op Reply Choice W) (i : ι)

/-- The other processes keep an assertion of process `i`. -/
def Stable (P : W → Prop) : Prop :=
  ∀ w w' j, j ≠ i → S.inv w → S.inv w' → S.guar j w w' → P w → P w'

/-- From a world with `P` an operation of process `i` keeps the invariant, does what the process
may do, and ends with `R`. -/
def Triple (P : W → Prop) (op : Op) (R : Except ε (Reply op) → W → Prop) : Prop :=
  ∀ w choice r w', S.inv w → P w → S.cond i op w → S.exec i op choice w = some (r, w') →
    S.inv w' ∧ S.guar i w w' ∧ R r w'

/-- A proof outline of a program, from `P` to `Q`. -/
def Outline (P : W → Prop) (p : Prog ε Op Reply α) (Q : Except ε α → W → Prop) : Prop :=
  match p with
  | .done r => ∀ w, S.inv w → P w → Q r w
  | .call op next =>
    ∃ R, (∀ r, Stable S i (R r)) ∧ Triple S i P op R ∧ ∀ r, Outline (R r) (next r) Q

/-- A postcondition of the programs that return; one that raises promises nothing. -/
def okOnly (Q : α → W → Prop) : Except ε α → W → Prop
  | .ok a => Q a
  | .error _ => fun _ => True

/-- A postcondition of the programs that return, and one of those that raise. -/
def okOr (Q : α → W → Prop) (E : W → Prop) : Except ε α → W → Prop
  | .ok a => Q a
  | .error _ => E

variable {S i}

theorem Stable.and {P P' : W → Prop} (h : Stable S i P) (h' : Stable S i P') :
    Stable S i (fun w => P w ∧ P' w) := by
  intro w w' j hj hinv hinv' hguar hw
  exact ⟨h w w' j hj hinv hinv' hguar hw.1, h' w w' j hj hinv hinv' hguar hw.2⟩

/-- A fact that does not speak of the world. -/
theorem stable_const (p : Prop) : Stable S i (fun _ => p) := fun _ _ _ _ _ _ _ hp => hp

/-- A process without others. -/
theorem stable_of_subsingleton [Subsingleton ι] (P : W → Prop) : Stable S i P :=
  fun _ _ j hj => absurd (Subsingleton.elim j i) hj

namespace Outline

theorem pre {P P' : W → Prop} {p : Prog ε Op Reply α} {Q : Except ε α → W → Prop}
    (h : Outline S i P p Q) (hpre : ∀ w, S.inv w → P' w → P w) : Outline S i P' p Q := by
  cases p with
  | done r => exact fun w hinv hw => h w hinv (hpre w hinv hw)
  | call op next =>
    obtain ⟨R, hstable, htriple, hnext⟩ := h
    refine ⟨R, hstable, ?_, hnext⟩
    intro w choice r w' hinv hw hcond hexec
    exact htriple w choice r w' hinv (hpre w hinv hw) hcond hexec

theorem post {P : W → Prop} {p : Prog ε Op Reply α} {Q Q' : Except ε α → W → Prop}
    (h : Outline S i P p Q) (hpost : ∀ r w, S.inv w → Q r w → Q' r w) : Outline S i P p Q' := by
  induction p generalizing P with
  | done r => exact fun w hinv hw => hpost r w hinv (h w hinv hw)
  | call op next ih =>
    obtain ⟨R, hstable, htriple, hnext⟩ := h
    exact ⟨R, hstable, htriple, fun r => ih r (hnext r)⟩

theorem of_false {p : Prog ε Op Reply α} {Q : Except ε α → W → Prop} :
    Outline S i (fun _ => False) p Q := by
  induction p with
  | done r => exact fun _ _ h => False.elim h
  | call op next ih =>
    exact ⟨fun _ _ => False, fun _ => stable_const False, fun _ _ _ _ _ h => False.elim h, ih⟩

/-- What follows from the precondition alone may be assumed. -/
theorem assume {P : W → Prop} {p : Prog ε Op Reply α} {Q : Except ε α → W → Prop} {fact : Prop}
    (hfact : ∀ w, S.inv w → P w → fact) (h : fact → Outline S i P p Q) : Outline S i P p Q := by
  by_cases hcase : fact
  · exact h hcase
  · exact of_false.pre (fun w hinv hw => hcase (hfact w hinv hw))

theorem of_and {P : W → Prop} {p : Prog ε Op Reply α} {Q : Except ε α → W → Prop} {fact : Prop}
    (h : fact → Outline S i P p Q) : Outline S i (fun w => fact ∧ P w) p Q :=
  assume (fun _ _ hw => hw.1) (fun hfact => (h hfact).pre (fun _ _ hw => hw.2))

/-- What the precondition knows of some value may be said of that value. -/
theorem of_exists {A : Type} {P : A → W → Prop} {p : Prog ε Op Reply α}
    {Q : Except ε α → W → Prop} (h : ∀ a, Outline S i (P a) p Q) :
    Outline S i (fun w => ∃ a, P a w) p Q := by
  induction p generalizing P with
  | done r =>
    rintro w hinv ⟨a, hP⟩
    exact h a w hinv hP
  | call op next ih =>
    choose R hstable htriple hnext using h
    refine ⟨fun r w => ∃ a, R a r w, ?_, ?_, fun r => ih r (fun a => hnext a r)⟩
    · rintro r w w' j hj hinv hinv' hguar ⟨a, hR⟩
      exact ⟨a, hstable a r w w' j hj hinv hinv' hguar hR⟩
    · rintro w choice r w' hinv ⟨a, hP⟩ hcond hexec
      obtain ⟨hinv', hguar, hR⟩ := htriple a w choice r w' hinv hP hcond hexec
      exact ⟨hinv', hguar, a, hR⟩

theorem pure {P : W → Prop} {Q : Except ε α → W → Prop} {a : α}
    (h : ∀ w, S.inv w → P w → Q (.ok a) w) : Outline S i P (Pure.pure a) Q := h

theorem raise {P : W → Prop} {Q : Except ε α → W → Prop} {e : ε}
    (h : ∀ w, S.inv w → P w → Q (.error e) w) : Outline S i P (Prog.raise e) Q := h

theorem ofExcept {P : W → Prop} {Q : Except ε α → W → Prop} {r : Except ε α}
    (h : ∀ w, S.inv w → P w → Q r w) : Outline S i P (Prog.ofExcept r) Q := h

theorem perform {P : W → Prop} {op : Op} {R : Except ε (Reply op) → W → Prop}
    (hstable : ∀ r, Stable S i (R r)) (h : Triple S i P op R) :
    Outline S i P (Prog.perform op) R :=
  ⟨R, hstable, h, fun _ _ _ hw => hw⟩

theorem bind {P : W → Prop} {p : Prog ε Op Reply α} {f : α → Prog ε Op Reply β}
    {Q : Except ε α → W → Prop} {Q' : Except ε β → W → Prop} (h : Outline S i P p Q)
    (hok : ∀ a, Outline S i (Q (.ok a)) (f a) Q')
    (herror : ∀ e w, S.inv w → Q (.error e) w → Q' (.error e) w) :
    Outline S i P (p >>= f) Q' := by
  induction p generalizing P with
  | done r =>
    cases r with
    | ok a => exact (hok a).pre h
    | error e => exact fun w hinv hw => herror e w hinv (h w hinv hw)
  | call op next ih =>
    obtain ⟨R, hstable, htriple, hnext⟩ := h
    exact ⟨R, hstable, htriple, fun r => ih r (hnext r)⟩

theorem bindOk {P : W → Prop} {p : Prog ε Op Reply α} {f : α → Prog ε Op Reply β}
    {Q : α → W → Prop} {Q' : β → W → Prop} (h : Outline S i P p (okOnly Q))
    (hok : ∀ a, Outline S i (Q a) (f a) (okOnly Q')) : Outline S i P (p >>= f) (okOnly Q') :=
  h.bind hok (fun _ _ _ _ => trivial)

theorem postOr {P E E' : W → Prop} {p : Prog ε Op Reply α} {Q Q' : α → W → Prop}
    (h : Outline S i P p (okOr Q E)) (hok : ∀ a w, Q a w → Q' a w) (herror : ∀ w, E w → E' w) :
    Outline S i P p (okOr Q' E') := by
  refine h.post ?_
  intro r w _ hr
  cases r with
  | ok a => exact hok a w hr
  | error e => exact herror w hr

theorem bindOr {P E : W → Prop} {p : Prog ε Op Reply α} {f : α → Prog ε Op Reply β}
    {Q : α → W → Prop} {Q' : β → W → Prop} (h : Outline S i P p (okOr Q E))
    (hok : ∀ a, Outline S i (Q a) (f a) (okOr Q' E)) : Outline S i P (p >>= f) (okOr Q' E) :=
  h.bind hok (fun _ _ _ hE => hE)

/-- A call that is not allowed. -/
theorem blocked {P : W → Prop} {op : Op} {next : Except ε (Reply op) → Prog ε Op Reply α}
    {Q : Except ε α → W → Prop} (hblocked : ∀ w, P w → ¬ S.cond i op w) :
    Outline S i P (.call op next) Q :=
  ⟨fun _ _ => False, fun _ => stable_const False,
    fun w _ _ _ _ hw hcond => absurd hcond (hblocked w hw), fun _ => of_false⟩

theorem attempt {P : W → Prop} {p : Prog ε Op Reply α} {Q : Except ε α → W → Prop}
    {Q' : Except ε (Except ε α) → W → Prop} (h : Outline S i P p Q)
    (hpost : ∀ r w, S.inv w → Q r w → Q' (.ok r) w) : Outline S i P p.attempt Q' := by
  induction p generalizing P with
  | done r => exact fun w hinv hw => hpost r w hinv (h w hinv hw)
  | call op next ih =>
    obtain ⟨R, hstable, htriple, hnext⟩ := h
    exact ⟨R, hstable, htriple, fun r => ih r (hnext r)⟩

theorem attemptOk {P : W → Prop} {p : Prog ε Op Reply α} {Q : Except ε α → W → Prop}
    (h : Outline S i P p Q) : Outline S i P p.attempt (okOnly Q) :=
  h.attempt (fun _ _ _ hQ => hQ)

theorem attemptOr {P : W → Prop} {p : Prog ε Op Reply α} {Q : Except ε α → W → Prop}
    (h : Outline S i P p Q) : Outline S i P p.attempt (okOr Q (fun _ => False)) :=
  h.attempt (fun _ _ _ hQ => hQ)

/-- A loop keeps what each of its rounds keeps. -/
theorem forEach {P : W → Prop} {items : List β} {body : β → Prog ε Op Reply Unit}
    {Q : Except ε Unit → W → Prop}
    (hbody : ∀ item ∈ items, Outline S i P (body item)
      (fun r w => match r with
        | .ok _ => P w
        | .error e => Q (.error e) w))
    (hdone : ∀ w, S.inv w → P w → Q (.ok ()) w) :
    Outline S i P (Prog.forEach items body) Q := by
  induction items with
  | nil => exact Outline.pure hdone
  | cons item rest ih =>
    refine Outline.bind (hbody item List.mem_cons_self) (fun _ => ?_) (fun _ _ _ h => h)
    exact ih (fun item' hitem' => hbody item' (List.mem_cons_of_mem item hitem'))

/-- A loop that carries a value: the assertion speaks of the items done so far. -/
theorem foldEach {σ : Type} {items : List β} {acc : σ} {body : σ → β → Prog ε Op Reply σ}
    (J : List β → σ → W → Prop) {Q : Except ε σ → W → Prop} (before : List β)
    (hbody : ∀ before item acc, Outline S i (J before acc) (body acc item)
      (fun r w => match r with
        | .ok acc' => J (before ++ [item]) acc' w
        | .error e => Q (.error e) w))
    (hdone : ∀ acc w, S.inv w → J (before ++ items) acc w → Q (.ok acc) w) :
    Outline S i (J before acc) (Prog.foldEach items acc body) Q := by
  induction items generalizing before acc with
  | nil =>
    refine Outline.pure ?_
    intro w hinv hJ
    exact hdone acc w hinv (by rwa [List.append_nil])
  | cons item rest ih =>
    refine Outline.bind (hbody before item acc) (fun acc' => ?_) (fun _ _ _ h => h)
    refine ih (before ++ [item]) ?_
    intro acc w hinv hJ
    exact hdone acc w hinv (by simpa using hJ)

/-- A loop whose assertion speaks of the items that are left. -/
theorem forRest {items : List β} {body : β → Prog ε Op Reply Unit} (J : List β → W → Prop)
    {Q : Except ε Unit → W → Prop}
    (hbody : ∀ item rest, Outline S i (J (item :: rest)) (body item)
      (fun r w => match r with
        | .ok _ => J rest w
        | .error e => Q (.error e) w))
    (hdone : ∀ w, S.inv w → J [] w → Q (.ok ()) w) :
    Outline S i (J items) (Prog.forEach items body) Q := by
  induction items with
  | nil => exact Outline.pure hdone
  | cons item rest ih =>
    exact Outline.bind (hbody item rest) (fun _ => ih) (fun _ _ _ h => h)

/-- The same for a loop that carries a value. -/
theorem foldRest {σ : Type} {items : List β} {acc : σ} {body : σ → β → Prog ε Op Reply σ}
    (J : List β → σ → W → Prop) {Q : Except ε σ → W → Prop}
    (hbody : ∀ item rest acc, Outline S i (J (item :: rest) acc) (body acc item)
      (fun r w => match r with
        | .ok acc' => J rest acc' w
        | .error e => Q (.error e) w))
    (hdone : ∀ acc w, S.inv w → J [] acc w → Q (.ok acc) w) :
    Outline S i (J items acc) (Prog.foldEach items acc body) Q := by
  induction items generalizing acc with
  | nil => exact Outline.pure (hdone acc)
  | cons item rest ih =>
    exact Outline.bind (hbody item rest acc) (fun _ => ih) (fun _ _ _ h => h)

/-- A program whose operations keep an assertion. -/
theorem of_calls_keeping {P : Op → Prop} {J : W → Prop} {p : Prog ε Op Reply α} (hJ : Stable S i J)
    (h : ∀ op, P op → Triple S i J op (fun _ => J)) (hp : p.Calls P) :
    Outline S i J p (fun _ => J) := by
  induction p with
  | done r => exact fun _ _ hw => hw
  | call op next ih =>
    exact ⟨fun _ => J, fun _ => hJ, h op hp.1, fun reply => ih reply (hp.2 reply)⟩

/-- A program whose operations ask for nothing and promise nothing. -/
theorem of_calls {P : Op → Prop} {p : Prog ε Op Reply α}
    (h : ∀ op, P op → Triple S i (fun _ => True) op (fun _ _ => True)) (hp : p.Calls P) :
    Outline S i (fun _ => True) p (fun _ _ => True) :=
  of_calls_keeping (stable_const True) h hp

end Outline

variable (S)

/-- Every process has an outline that goes on from a stable assertion of the present world. -/
structure Covered (Q : ι → Except ε α → W → Prop) (c : Config ι ε Op Reply W α) : Prop where
  inv : S.inv c.world
  outline : ∀ i, ∃ P, Stable S i P ∧ P c.world ∧ Outline S i P (c.programs i) (Q i)

variable {S} {Q : ι → Except ε α → W → Prop} {c c' : Config ι ε Op Reply W α}

namespace Covered

/-- A finished process has reached its postcondition. -/
theorem result (h : Covered S Q c) {r : Except ε α} (hdone : c.programs i = .done r) :
    Q i r c.world := by
  obtain ⟨P, -, hP, houtline⟩ := h.outline i
  rw [hdone] at houtline
  exact houtline c.world h.inv hP

variable [DecidableEq ι]

theorem step (h : Covered S Q c) (hstep : Step S.exec S.cond i c c') :
    Covered S Q c' ∧ S.guar i c.world c'.world := by
  obtain @⟨op, next, choice, reply, world, hprogram, hallowed, hexec⟩ := hstep
  obtain ⟨P, hstable, hP, houtline⟩ := h.outline i
  rw [hprogram] at houtline
  obtain ⟨R, hstableR, htriple, hnext⟩ := houtline
  obtain ⟨hinv, hguar, hR⟩ := htriple c.world choice reply world h.inv hP hallowed hexec
  refine ⟨⟨hinv, ?_⟩, hguar⟩
  intro j
  by_cases hji : j = i
  · subst hji
    refine ⟨R reply, hstableR reply, hR, ?_⟩
    simp only [Function.update_self]
    exact hnext reply
  · obtain ⟨P', hstable', hP', houtline'⟩ := h.outline j
    refine ⟨P', hstable', hstable' _ _ i (Ne.symm hji) h.inv hinv hguar hP', ?_⟩
    simp only [Function.update_of_ne hji]
    exact houtline'

theorem steps (h : Covered S Q c) (hsteps : Steps S.exec S.cond c c') : Covered S Q c' := by
  induction hsteps with
  | refl => exact h
  | tail _ hlast ih =>
    obtain ⟨i, hstep⟩ := hlast
    exact (ih.step hstep).1

end Covered

end

end HotAirBalloon.Library
