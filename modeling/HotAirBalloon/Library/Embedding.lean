import HotAirBalloon.Library.Resumption

/-!
# Programs inside programs

A program over some operations is run as a part of a program over more of them: `embed` names its
operations anew and reads the replies back. What is known of its operations, and its proof outlines,
carry over.
-/

namespace HotAirBalloon.Library

section

variable {ε Op Op' : Type} {Reply : Op → Type} {Reply' : Op' → Type} {α : Type}

/-- The program with other names for its operations. -/
def Prog.embed (name : Op → Op')
    (back : ∀ op, Except ε (Reply' (name op)) → Except ε (Reply op)) :
    Prog ε Op Reply α → Prog ε Op' Reply' α
  | .done result => .done result
  | .call op next => .call (name op) (fun reply => (next (back op reply)).embed name back)

variable {name : Op → Op'} {back : ∀ op, Except ε (Reply' (name op)) → Except ε (Reply op)}

theorem Prog.Calls.embed {P : Op → Prop} {P' : Op' → Prop} {p : Prog ε Op Reply α}
    (h : p.Calls P) (himp : ∀ op, P op → P' (name op)) : (p.embed name back).Calls P' := by
  induction p with
  | done result => trivial
  | call op next ih =>
    refine ⟨himp op h.1, ?_⟩
    intro reply
    exact ih (back op reply) (h.2 (back op reply))

variable {ι ι' Choice Choice' W : Type} {S : Rely ι ε Op Reply Choice W}
  {S' : Rely ι' ε Op' Reply' Choice' W} {i : ι} {i' : ι'}

/-- An outline carries over when the larger system keeps what the smaller one keeps. -/
theorem Outline.embed {P : W → Prop} {p : Prog ε Op Reply α} {Q : Except ε α → W → Prop}
    (hinv : ∀ w, S'.inv w → S.inv w) (hstable : ∀ P : W → Prop, Stable S i P → Stable S' i' P)
    (htriple : ∀ (P : W → Prop) op (R : Except ε (Reply op) → W → Prop), Triple S i P op R →
      Triple S' i' P (name op) (fun reply => R (back op reply)))
    (h : Outline S i P p Q) : Outline S' i' P (p.embed name back) Q := by
  induction p generalizing P with
  | done result => exact fun w hw hP => h w (hinv w hw) hP
  | call op next ih =>
    obtain ⟨R, hR, hop, hnext⟩ := h
    refine ⟨fun reply => R (back op reply), ?_, htriple P op R hop, ?_⟩
    · intro reply
      exact hstable _ (hR (back op reply))
    · intro reply
      exact ih (back op reply) (hnext (back op reply))

end

end HotAirBalloon.Library
