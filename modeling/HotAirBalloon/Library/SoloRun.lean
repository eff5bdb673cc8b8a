import HotAirBalloon.Library.Resumption

/-!
# Programs that run alone

`Finishes` says that a program that runs alone comes to an end, and with what: total correctness,
with one rule for each way to build programs.
-/

namespace HotAirBalloon.Library

variable {ι ε Op Choice W α β : Type} {Reply : Op → Type}

/-- The program ends when it runs alone, with a result and a world that satisfy `Q`. -/
def Finishes (exec : Exec ι ε Op Reply Choice W) (i : ι) (choice : Choice) (p : Prog ε Op Reply α)
    (w : W) (Q : Except ε α → W → Prop) : Prop :=
  ∃ r w', p.run exec i choice w = some (r, w') ∧ Q r w'

namespace Finishes

variable {exec : Exec ι ε Op Reply Choice W} {i : ι} {choice : Choice} {w : W}

theorem post {p : Prog ε Op Reply α} {Q Q' : Except ε α → W → Prop}
    (h : Finishes exec i choice p w Q) (hpost : ∀ r w', Q r w' → Q' r w') :
    Finishes exec i choice p w Q' := by
  obtain ⟨r, w', hrun, hQ⟩ := h
  exact ⟨r, w', hrun, hpost r w' hQ⟩

theorem ofExcept {r : Except ε α} {Q : Except ε α → W → Prop} (h : Q r w) :
    Finishes exec i choice (Prog.ofExcept r) w Q :=
  ⟨r, w, rfl, h⟩

theorem pure {a : α} {Q : Except ε α → W → Prop} (h : Q (.ok a) w) :
    Finishes exec i choice (Pure.pure a) w Q :=
  ofExcept h

theorem raise {e : ε} {Q : Except ε α → W → Prop} (h : Q (.error e) w) :
    Finishes exec i choice (Prog.raise e) w Q :=
  ofExcept h

theorem perform {op : Op} {Q : Except ε (Reply op) → W → Prop} {r : Except ε (Reply op)} {w' : W}
    (hexec : exec i op choice w = some (r, w')) (h : Q r w') :
    Finishes exec i choice (Prog.perform op) w Q := by
  refine ⟨r, w', ?_, h⟩
  change (exec i op choice w).bind _ = _
  rw [hexec]
  rfl

theorem bind {p : Prog ε Op Reply α} {f : α → Prog ε Op Reply β} {Q : Except ε α → W → Prop}
    {Q' : Except ε β → W → Prop} (h : Finishes exec i choice p w Q)
    (hok : ∀ a w', Q (.ok a) w' → Finishes exec i choice (f a) w' Q')
    (herror : ∀ e w', Q (.error e) w' → Q' (.error e) w') :
    Finishes exec i choice (p >>= f) w Q' := by
  induction p generalizing w with
  | done r =>
    obtain ⟨r', w', hrun, hQ⟩ := h
    cases hrun
    cases r with
    | ok a => exact hok a w hQ
    | error e => exact ⟨.error e, w, rfl, herror e w hQ⟩
  | call op next ih =>
    obtain ⟨r', w', hrun, hQ⟩ := h
    obtain ⟨⟨reply, w₁⟩, hexec, hrest⟩ := Option.bind_eq_some_iff.mp hrun
    obtain ⟨r'', w'', hrun', hQ'⟩ := ih reply ⟨r', w', hrest, hQ⟩
    refine ⟨r'', w'', ?_, hQ'⟩
    change (exec i op choice w).bind _ = _
    rw [hexec]
    exact hrun'

theorem attempt {p : Prog ε Op Reply α} {Q : Except ε α → W → Prop}
    {Q' : Except ε (Except ε α) → W → Prop} (h : Finishes exec i choice p w Q)
    (hpost : ∀ r w', Q r w' → Q' (.ok r) w') : Finishes exec i choice p.attempt w Q' := by
  induction p generalizing w with
  | done r =>
    obtain ⟨r', w', hrun, hQ⟩ := h
    cases hrun
    exact ⟨.ok r, w, rfl, hpost r w hQ⟩
  | call op next ih =>
    obtain ⟨r', w', hrun, hQ⟩ := h
    obtain ⟨⟨reply, w₁⟩, hexec, hrest⟩ := Option.bind_eq_some_iff.mp hrun
    obtain ⟨r'', w'', hrun', hQ'⟩ := ih reply ⟨r', w', hrest, hQ⟩
    refine ⟨r'', w'', ?_, hQ'⟩
    change (exec i op choice w).bind _ = _
    rw [hexec]
    exact hrun'

/-- A loop whose rounds all succeed; the assertion speaks of the items done so far. -/
theorem forEach {items : List β} {body : β → Prog ε Op Reply Unit} (J : List β → W → Prop)
    (before : List β) {Q : Except ε Unit → W → Prop} (hstart : J before w)
    (hbody : ∀ before item w, J before w → item ∈ items → Finishes exec i choice (body item) w
      (fun r w' => r = .ok () ∧ J (before ++ [item]) w'))
    (hdone : ∀ w', J (before ++ items) w' → Q (.ok ()) w') :
    Finishes exec i choice (Prog.forEach items body) w Q := by
  induction items generalizing before w with
  | nil => exact pure (hdone w (by rwa [List.append_nil]))
  | cons item rest ih =>
    refine bind (hbody before item w hstart List.mem_cons_self) ?_ (fun e w' h => by cases h.1)
    rintro _ w' ⟨-, hJ⟩
    refine ih (before ++ [item]) hJ ?_ ?_
    · intro before item' w hJ hitem'
      exact hbody before item' w hJ (List.mem_cons_of_mem item hitem')
    · intro w' hJ
      exact hdone w' (by simpa using hJ)

/-- A loop that carries a value, whose rounds all succeed. -/
theorem foldEach {σ : Type} {items : List β} {acc : σ} {body : σ → β → Prog ε Op Reply σ}
    (J : List β → σ → W → Prop) (before : List β) {Q : Except ε σ → W → Prop}
    (hstart : J before acc w)
    (hbody : ∀ before item acc w, J before acc w → item ∈ items →
      Finishes exec i choice (body acc item) w
        (fun r w' => ∃ acc', r = .ok acc' ∧ J (before ++ [item]) acc' w'))
    (hdone : ∀ acc w', J (before ++ items) acc w' → Q (.ok acc) w') :
    Finishes exec i choice (Prog.foldEach items acc body) w Q := by
  induction items generalizing before acc w with
  | nil => exact pure (hdone acc w (by rwa [List.append_nil]))
  | cons item rest ih =>
    refine bind (hbody before item acc w hstart List.mem_cons_self) ?_
      (fun e w' h => by obtain ⟨acc', heq, -⟩ := h; cases heq)
    rintro acc' w' ⟨acc'', heq, hJ⟩
    cases heq
    refine ih (before ++ [item]) hJ ?_ ?_
    · intro before item' acc w hJ hitem'
      exact hbody before item' acc w hJ (List.mem_cons_of_mem item hitem')
    · intro acc w' hJ
      exact hdone acc w' (by simpa using hJ)

/-- Only the operations that a program may call matter. -/
theorem of_agree {Choice' : Type} {exec' : Exec ι ε Op Reply Choice' W} {choice' : Choice'}
    {P : Op → Prop} {p : Prog ε Op Reply α} {Q : Except ε α → W → Prop}
    (h : Finishes exec i choice p w Q) (hp : p.Calls P)
    (hagree : ∀ op w, P op → exec' i op choice' w = exec i op choice w) :
    Finishes exec' i choice' p w Q := by
  induction p generalizing w with
  | done r => exact h
  | call op next ih =>
    obtain ⟨r', w', hrun, hQ⟩ := h
    obtain ⟨⟨reply, w₁⟩, hexec, hrest⟩ := Option.bind_eq_some_iff.mp hrun
    obtain ⟨r'', w'', hrun', hQ'⟩ := ih reply ⟨r', w', hrest, hQ⟩ (hp.2 reply)
    refine ⟨r'', w'', ?_, hQ'⟩
    change (exec' i op choice' w).bind _ = _
    rw [hagree op w hp.1, hexec]
    exact hrun'

end Finishes

/-! ## The run of a composed program -/

namespace Prog

variable {exec : Exec ι ε Op Reply Choice W} {i : ι} {choice : Choice} {w : W}

theorem run_bind (p : Prog ε Op Reply α) (f : α → Prog ε Op Reply β) :
    (p >>= f).run exec i choice w = (p.run exec i choice w).bind fun (r, w') =>
      match r with
      | .ok a => (f a).run exec i choice w'
      | .error e => some (.error e, w') := by
  induction p generalizing w with
  | done r => cases r <;> rfl
  | call op next ih =>
    change (exec i op choice w).bind _ = ((exec i op choice w).bind _).bind _
    rw [Option.bind_assoc]
    congr 1
    funext ⟨reply, w₁⟩
    exact ih reply

theorem run_attempt (p : Prog ε Op Reply α) :
    p.attempt.run exec i choice w = (p.run exec i choice w).map fun (r, w') => (.ok r, w') := by
  induction p generalizing w with
  | done r => rfl
  | call op next ih =>
    change (exec i op choice w).bind _ = ((exec i op choice w).bind _).map _
    rw [Option.map_bind]
    congr 1
    funext ⟨reply, w₁⟩
    exact ih reply

end Prog

/-! ## Operations that always answer -/

namespace Prog

/-- What a program that runs alone does when every operation answers. -/
def interpret (reply : (op : Op) → W → Except ε (Reply op) × W) :
    Prog ε Op Reply α → W → Except ε α × W
  | .done r, w => (r, w)
  | .call op next, w => (next (reply op w).1).interpret reply (reply op w).2

variable {reply : (op : Op) → W → Except ε (Reply op) × W}

theorem interpret_bind (p : Prog ε Op Reply α) (f : α → Prog ε Op Reply β) (w : W) :
    (p >>= f).interpret reply w =
      match p.interpret reply w with
      | (.ok a, w') => (f a).interpret reply w'
      | (.error e, w') => (.error e, w') := by
  induction p generalizing w with
  | done r => cases r <;> rfl
  | call op next ih => exact ih (reply op w).1 (reply op w).2

theorem interpret_perform (op : Op) (w : W) :
    (Prog.perform op : Prog ε Op Reply (Reply op)).interpret reply w = reply op w :=
  rfl

end Prog

end HotAirBalloon.Library
