import HotAirBalloon.Agent.State
import HotAirBalloon.Library.Recency

/-!
# What the working set keeps

The working set over a sequence of merges. The dict of `merge_working_sets` has an entity at the
place where it was first inserted, and the slice drops the places in front. So a merge drops what
entered the set first, and this is what was mentioned least recently only as long as none of it was
mentioned again (`keeps_iff`).
-/

namespace HotAirBalloon.Agent

open Library

/-- The working set of the checkpoint after a sequence of updates. -/
def mergeAll (start : ConversationWorkingSet) (updates : List ConversationWorkingSet) :
    ConversationWorkingSet :=
  updates.foldl mergeWorkingSets start

/-- The entities in the order in which they were mentioned. -/
def mentions (start : ConversationWorkingSet) (updates : List ConversationWorkingSet) :
    List WorkingSetEntity :=
  start.referencedEntities ++ updates.flatMap (·.referencedEntities)

/-- The keys of the dict of a merge. -/
def entered (current update : ConversationWorkingSet) : List WorkingSetEntity :=
  (current.referencedEntities ++ update.referencedEntities).eraseDups

/-- The entities that entered first, as many as there are above the bound. -/
def surplus (current update : ConversationWorkingSet) : List WorkingSetEntity :=
  (entered current update).take ((entered current update).length - maxWorkingSetEntities)

/-- What a merge into the working set promises, for a history of mentions that ends with the
update. -/
structure Keeps (history : List WorkingSetEntity)
    (current update : ConversationWorkingSet) : Prop where
  bounded : (mergeWorkingSets current update).referencedEntities.length ≤ maxWorkingSetEntities
  distinct : (mergeWorkingSets current update).referencedEntities.Nodup
  taken : ∀ entity ∈ (mergeWorkingSets current update).referencedEntities,
    entity ∈ current.referencedEntities ∨ entity ∈ update.referencedEntities
  mentioned : update.referencedEntities.eraseDups.length ≤ maxWorkingSetEntities →
    ∀ entity ∈ update.referencedEntities,
      entity ∈ (mergeWorkingSets current update).referencedEntities
  recent : HoldsRecent history (mergeWorkingSets current update).referencedEntities

/-- Of the entities that entered first, none was mentioned again after the last mention of one of
the others. -/
def SurplusOldest (history : List WorkingSetEntity)
    (current update : ConversationWorkingSet) : Prop :=
  ∀ first ∈ surplus current update, ∀ other ∈ entered current update,
    other ∉ surplus current update → MoreRecent history first other

section

variable (current update : ConversationWorkingSet)

theorem mem_entered {entity : WorkingSetEntity} : entity ∈ entered current update ↔
    entity ∈ current.referencedEntities ∨ entity ∈ update.referencedEntities := by
  unfold entered
  rw [List.mem_eraseDups, List.mem_append]

theorem surplus_append_merged : surplus current update ++
    (mergeWorkingSets current update).referencedEntities = entered current update :=
  List.take_append_drop _ _

theorem nodup_append : (surplus current update ++
    (mergeWorkingSets current update).referencedEntities).Nodup := by
  rw [surplus_append_merged]
  exact nodup_eraseDups _

theorem length_merged : (mergeWorkingSets current update).referencedEntities.length =
    min (entered current update).length maxWorkingSetEntities := by
  show ((entered current update).drop
    ((entered current update).length - maxWorkingSetEntities)).length = _
  rw [List.length_drop]
  omega

/-- A merge drops the surplus and nothing else. -/
theorem mem_merged_iff {entity : WorkingSetEntity} :
    entity ∈ (mergeWorkingSets current update).referencedEntities ↔
      entity ∈ entered current update ∧ entity ∉ surplus current update := by
  have hdisjoint := List.disjoint_of_nodup_append (nodup_append current update)
  rw [← surplus_append_merged current update, List.mem_append]
  constructor
  · intro hmerged
    exact ⟨Or.inr hmerged, fun hsurplus => hdisjoint hsurplus hmerged⟩
  · intro h
    exact h.1.resolve_left h.2

theorem mem_surplus {entity : WorkingSetEntity} (hentered : entity ∈ entered current update)
    (hnot : entity ∉ (mergeWorkingSets current update).referencedEntities) :
    entity ∈ surplus current update := by
  by_contra hsurplus
  exact hnot ((mem_merged_iff current update).mpr ⟨hentered, hsurplus⟩)

end

section

variable {history : List WorkingSetEntity} {current update : ConversationWorkingSet}

/-- One merge, from a set that holds what was mentioned last. -/
theorem holdsRecent_merge (h : HoldsRecent history current.referencedEntities)
    (holdest : SurplusOldest (history ++ update.referencedEntities) current update) :
    HoldsRecent (history ++ update.referencedEntities)
      (mergeWorkingSets current update).referencedEntities := by
  apply h.step
  · intro entity hmerged
    exact (mem_entered current update).mp ((mem_merged_iff current update).mp hmerged).1
  · intro dropped hmem hnot kept hkept
    obtain ⟨hentered, hsurplus⟩ := (mem_merged_iff current update).mp hkept
    exact holdest dropped (mem_surplus _ _ ((mem_entered current update).mpr hmem) hnot)
      kept hentered hsurplus

/-- The other promises follow. -/
theorem Keeps.of_holdsRecent (h : HoldsRecent (history ++ update.referencedEntities)
    (mergeWorkingSets current update).referencedEntities) :
    Keeps (history ++ update.referencedEntities) current update where
  bounded := by
    rw [length_merged]
    exact Nat.min_le_right _ _
  distinct := (List.nodup_append.mp (nodup_append current update)).2.1
  taken entity hmerged :=
    (mem_entered current update).mp ((mem_merged_iff current update).mp hmerged).1
  mentioned := by
    intro hfew entity hmem
    by_contra hnot
    have hsurplus :=
      mem_surplus current update ((mem_entered current update).mpr (Or.inr hmem)) hnot
    -- an entity is dropped only from a set that is full
    have hfull : 0 < (surplus current update).length := List.length_pos_of_mem hsurplus
    have hlength := length_merged current update
    unfold surplus at hfull
    rw [List.length_take] at hfull
    exact hnot (h.mem_of_length_le (List.nodup_append.mp (nodup_append current update)).2.1
      (by omega) hmem)
  recent := h

theorem Keeps.surplusOldest (h : Keeps history current update)
    (hhistory : ∀ entity ∈ entered current update, entity ∈ history) :
    SurplusOldest history current update := by
  intro first hfirst other hother hnot
  have hentered : first ∈ entered current update := by
    rw [← surplus_append_merged current update]
    exact List.mem_append_left _ hfirst
  refine h.recent first (hhistory first hentered) ?_ other
    ((mem_merged_iff current update).mpr ⟨hother, hnot⟩)
  exact fun hmerged => ((mem_merged_iff current update).mp hmerged).2 hfirst

end

/-! ## Sequences of merges -/

section

variable (start update : ConversationWorkingSet) (updates : List ConversationWorkingSet)

theorem mentions_concat : mentions start (updates ++ [update]) =
    mentions start updates ++ update.referencedEntities := by
  unfold mentions
  rw [List.flatMap_append, List.flatMap_singleton, List.append_assoc]

theorem mergeAll_concat : mergeAll start (updates ++ [update]) =
    mergeWorkingSets (mergeAll start updates) update :=
  List.foldl_concat ..

/-- The working set holds nothing that was never mentioned. -/
theorem mergeAll_subset : (mergeAll start updates).referencedEntities ⊆ mentions start updates := by
  induction updates using List.reverseRecOn with
  | nil => exact List.subset_append_left _ _
  | append_singleton updates update ih =>
    intro entity hentity
    rw [mergeAll_concat] at hentity
    rw [mentions_concat, List.mem_append]
    have hentered := ((mem_merged_iff _ _).mp hentity).1
    exact ((mem_entered _ _).mp hentered).imp (fun hmem => ih hmem) id

end

/-- A run of merges that drop the entities mentioned least recently. -/
theorem holdsRecent_mergeAll (start : ConversationWorkingSet)
    (updates : List ConversationWorkingSet)
    (holdest : ∀ before update after, updates = before ++ update :: after →
      SurplusOldest (mentions start (before ++ [update])) (mergeAll start before) update) :
    HoldsRecent (mentions start updates) (mergeAll start updates).referencedEntities := by
  induction updates using List.reverseRecOn with
  | nil =>
    have hmentions : mentions start [] = start.referencedEntities := List.append_nil _
    rw [hmentions]
    exact HoldsRecent.refl _
  | append_singleton updates update ih =>
    have hlast := holdest updates update [] rfl
    rw [mentions_concat] at hlast ⊢
    rw [mergeAll_concat]
    apply holdsRecent_merge _ hlast
    apply ih
    intro before earlier after heq
    exact holdest before earlier (after ++ [update]) (by rw [heq, List.append_assoc]; rfl)

/-- Every merge of a sequence keeps what was just mentioned and drops what was mentioned least
recently, if and only if at every merge the surplus was not mentioned again. -/
theorem keeps_iff (start : ConversationWorkingSet) (updates : List ConversationWorkingSet) :
    (∀ before update after, updates = before ++ update :: after →
      Keeps (mentions start (before ++ [update])) (mergeAll start before) update) ↔
    ∀ before update after, updates = before ++ update :: after →
      SurplusOldest (mentions start (before ++ [update])) (mergeAll start before) update := by
  constructor
  · intro h before update after heq
    apply (h before update after heq).surplusOldest
    intro entity hentered
    rw [mentions_concat, List.mem_append]
    exact ((mem_entered _ _).mp hentered).imp (fun hmem => mergeAll_subset start before hmem) id
  · intro h before update after heq
    rw [mentions_concat]
    apply Keeps.of_holdsRecent
    rw [← mentions_concat, ← mergeAll_concat]
    apply holdsRecent_mergeAll
    intro earlier last later hsplit
    refine h earlier last (later ++ after) ?_
    have hprefix : before ++ update :: after = (before ++ [update]) ++ after := by simp
    rw [heq, hprefix, hsplit, List.append_assoc]
    rfl

/-- A full working set whose first entity is mentioned again, with a new one. -/
def assets (numbers : List Nat) : ConversationWorkingSet where
  activeIntent := none
  referencedEntities := numbers.map fun number => ⟨"asset_code", s!"A-{number}"⟩

theorem merge_drops_mentioned : ¬ ∀ start updates before update after,
    updates = before ++ update :: after →
    Keeps (mentions start (before ++ [update])) (mergeAll start before) update := by
  intro h
  have hkept := (h (assets (List.range 32)) [assets [0, 32]] [] (assets [0, 32]) [] rfl).mentioned
    (by decide) ⟨"asset_code", "A-0"⟩ (by decide)
  exact absurd hkept (by decide)

end HotAirBalloon.Agent
