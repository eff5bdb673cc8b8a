import Mathlib.Tactic

/-!
# Things that are opened and closed

`replay` runs through a sequence of openings and closings and keeps what is open, newest first. It
fails as soon as something is closed that is not the newest open one, so a sequence that it accepts
closes in the reverse order of opening; `replay_count` counts.
-/

namespace HotAirBalloon.Library

inductive Bracket (α : Type) where
  | opened (a : α)
  | closed (a : α)
  deriving DecidableEq

namespace Bracket

variable {α : Type} [DecidableEq α]

/-- What is open after some brackets. -/
def replay : List (Bracket α) → List α → Option (List α)
  | [], held => some held
  | opened a :: rest, held => replay rest (a :: held)
  | closed a :: rest, newest :: held => if newest = a then replay rest held else none
  | closed _ :: _, [] => none

variable {brackets : List (Bracket α)} {held held' : List α}

theorem replay_append (h : replay brackets held = some held') (brackets' : List (Bracket α)) :
    replay (brackets ++ brackets') held = replay brackets' held' := by
  fun_induction replay brackets held with
  | case1 held =>
    cases h
    rfl
  | case2 a rest held ih => exact ih h
  | case3 rest newest held ih =>
    change (if newest = newest then replay (rest ++ brackets') held else none) = _
    rw [if_pos rfl]
    exact ih h
  | case4 => cases h
  | case5 => cases h

theorem replay_opened (items held : List α) :
    replay (items.map opened) held = some (items.reverse ++ held) := by
  induction items generalizing held with
  | nil => rfl
  | cons a rest ih =>
    rw [List.reverse_cons, List.append_assoc]
    exact ih (a :: held)

theorem replay_closed (items held : List α) :
    replay (items.map closed) (items ++ held) = some held := by
  induction items with
  | nil => rfl
  | cons a rest ih =>
    change (if a = a then replay (rest.map closed) (rest ++ held) else none) = _
    rw [if_pos rfl, ih]

/-- Everything that is opened is closed once, or is still open. -/
theorem replay_count (h : replay brackets held = some held') (a : α) :
    held.count a + brackets.count (opened a) = held'.count a + brackets.count (closed a) := by
  fun_induction replay brackets held with
  | case1 held =>
    cases h
    rfl
  | case2 b rest held ih =>
    have hcount := ih h
    have hclosed : (opened b :: rest).count (closed a) = rest.count (closed a) :=
      List.count_cons_of_ne (by simp)
    rw [List.count_cons] at hcount
    rw [hclosed, List.count_cons]
    simp only [beq_iff_eq, opened.injEq] at hcount ⊢
    omega
  | case3 rest newest held ih =>
    have hcount := ih h
    have hopened : (closed newest :: rest).count (opened a) = rest.count (opened a) :=
      List.count_cons_of_ne (by simp)
    rw [hopened, List.count_cons, List.count_cons]
    simp only [beq_iff_eq, closed.injEq]
    omega
  | case4 => cases h
  | case5 => cases h

end Bracket

end HotAirBalloon.Library
