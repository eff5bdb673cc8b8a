import Mathlib.Tactic

/-!
# Backtracking regular expressions

Patterns over any alphabet, with greedy repetition, ordered alternation, capture groups and
tests of the neighbouring symbols, as a backtracking engine reads them. `Pattern.ways`
lists the ways a pattern can match at a position in the order in which the engine tries
them, so the match it reports is the head of that list.
-/

namespace HotAirBalloon.Regex

variable {α : Type}

/-- A position in a text: the symbols before it, the nearest first, and those after it. -/
structure Cursor (α : Type) where
  before : List α
  after : List α
  deriving DecidableEq

inductive Pattern (α : Type) where
  /-- One symbol of a class. -/
  | sym (p : α → Bool)
  /-- A test of the symbols on both sides, `none` at an end of the text. -/
  | look (p : Option α → Option α → Bool)
  | empty
  | seq (r s : Pattern α)
  /-- Ordered choice. -/
  | alt (r s : Pattern α)
  /-- Greedy repetition, at least `least` times and at most `most`. -/
  | rep (least : Nat) (most : Option Nat) (r : Pattern α)
  | group (index : Nat) (r : Pattern α)

/-- A position and the groups captured on the way to it, the latest first. -/
structure Progress (α : Type) where
  cursor : Cursor α
  groups : List (Nat × List α)

/-- Exactly `n` rounds of a step. -/
def exactly {σ : Type} (step : σ → List σ) : Nat → σ → List σ
  | 0, s => [s]
  | n + 1, s => (step s).flatMap (exactly step n)

/-- At most `n` rounds of a step, as many as possible first; a round that consumes nothing
ends the repetition. -/
def greedily (step : Progress α → List (Progress α)) : Nat → Progress α → List (Progress α)
  | 0, s => [s]
  | n + 1, s =>
    ((step s).filter (fun t => t.cursor.after.length < s.cursor.after.length)).flatMap
      (greedily step n) ++ [s]

namespace Pattern

/-- Every way to match at a position, in the order of the search. -/
def ways : Pattern α → Progress α → List (Progress α)
  | sym p, s =>
    match s.cursor.after with
    | [] => []
    | a :: rest => if p a then [⟨⟨a :: s.cursor.before, rest⟩, s.groups⟩] else []
  | look p, s => if p s.cursor.before.head? s.cursor.after.head? then [s] else []
  | empty, s => [s]
  | seq r t, s => (r.ways s).flatMap t.ways
  | alt r t, s => r.ways s ++ t.ways s
  | rep least most r, s =>
    (exactly r.ways least s).flatMap fun t =>
      greedily r.ways (match most with
        | none => t.cursor.after.length
        | some most => most - least) t
  | group index r, s =>
    (r.ways s).map fun t =>
      ⟨t.cursor, (index,
        s.cursor.after.take (s.cursor.after.length - t.cursor.after.length)) :: t.groups⟩

def seqs (rs : List (Pattern α)) : Pattern α := rs.foldr seq empty

/-- Ordered choice among at least one pattern. -/
def alts : List (Pattern α) → Pattern α
  | [] => sym (fun _ => false)
  | [r] => r
  | r :: rest => alt r (alts rest)

def opt (r : Pattern α) : Pattern α := rep 0 (some 1) r
def star (r : Pattern α) : Pattern α := rep 0 none r
def plus (r : Pattern α) : Pattern α := rep 1 none r

end Pattern

/-- A match: the text before it (the nearest symbol first), the matched text, the rest, and
the groups. -/
structure Match (α : Type) where
  before : List α
  text : List α
  after : List α
  groups : List (Nat × List α)

/-- The text of a group that took part in the match. -/
def Match.group (m : Match α) (index : Nat) : Option (List α) := m.groups.lookup index

/-- The match from `start` to `stop`. -/
def matchBetween (start : Cursor α) (stop : Progress α) : Match α where
  before := start.before
  text := start.after.take (start.after.length - stop.cursor.after.length)
  after := stop.cursor.after
  groups := stop.groups

def matchAt (r : Pattern α) (c : Cursor α) : Option (Match α) :=
  (r.ways ⟨c, []⟩).head?.map (matchBetween c)

/-- The leftmost match at or after a position. -/
def searchFrom (r : Pattern α) (before : List α) : List α → Option (Match α)
  | [] => matchAt r ⟨before, []⟩
  | a :: rest => (matchAt r ⟨before, a :: rest⟩).or (searchFrom r (a :: before) rest)

def search (r : Pattern α) (text : List α) : Option (Match α) := searchFrom r [] text

/-- A match of the whole text. -/
def fullMatch (r : Pattern α) (text : List α) : Option (Match α) :=
  ((r.ways ⟨⟨[], text⟩, []⟩).find? (fun s => s.cursor.after.isEmpty)).map (matchBetween ⟨[], text⟩)

/-- At most `n` matches from left to right, none overlapping the one before it. -/
def findIter (r : Pattern α) : Nat → Cursor α → List (Match α)
  | 0, _ => []
  | n + 1, c =>
    match searchFrom r c.before c.after with
    | none => []
    | some m =>
      m :: (match m.text, m.after with
        | [], [] => []
        | [], a :: rest => findIter r n ⟨a :: m.before, rest⟩
        | _ :: _, after => findIter r n ⟨m.text.reverse ++ m.before, after⟩)

/-- All matches in a text. -/
def findAll (r : Pattern α) (text : List α) : List (Match α) :=
  findIter r (text.length + 1) ⟨[], text⟩

/-- The text with every match replaced. -/
def substitute (r : Pattern α) (replacement : List α) (text : List α) : List α :=
  match (findAll r text).getLast? with
  | none => text
  | some last => go [] (findAll r text) ++ last.after
where
  /-- The text up to the end of the last match; `done` is what is consumed so far. -/
  go (done : List α) : List (Match α) → List α
    | [] => []
    | m :: rest =>
      (m.before.reverse.drop done.length) ++ replacement ++
        go (m.before.reverse ++ m.text) rest

end HotAirBalloon.Regex
