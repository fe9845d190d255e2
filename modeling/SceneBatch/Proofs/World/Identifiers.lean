import SceneBatch.Proofs.World.Calls

/-!
# Identifiers are never reused

An identifier that a world chooses for a new entity is above all those that were ever in use there,
chosen or pinned, and in particular above those of entities that are gone (`WorldLog.NeverReuses`).
For the next one is always one more than the highest that entered (`WorldLog.IsAhead`): entities
that leave do not lower it, and calls that fail do not raise it.
-/

namespace SceneBatch

namespace WorldCall

/-- The entity that a call brought into the world. -/
def entered? (c : WorldCall) : Option EntityId :=
  match c.answer with
  | .ok (.entered id) => some id
  | _ => none

/-- The entity that a call brought into the world, if the world chose its identifier. -/
def spawned? (c : WorldCall) : Option EntityId :=
  match c.step with
  | .spawn _ => c.entered?
  | _ => none

/-- All entities that calls brought into the world, also those that left it since. -/
def entered (calls : List WorldCall) : List EntityId := calls.filterMap entered?

theorem entered_concat (calls : List WorldCall) (c : WorldCall) :
    entered (calls ++ [c]) = entered calls ++ c.entered?.toList := by
  rw [entered, List.filterMap_append]
  cases h : c.entered? <;> simp [h, entered]

theorem entered?_of_spawned? {c : WorldCall} {id : EntityId} (h : c.spawned? = some id) :
    c.entered? = some id := by
  unfold spawned? at h
  split at h
  · exact h
  · cases h

end WorldCall

/-- The highest of some identifiers, 0 if there is none. -/
def EntityId.highest (ids : List EntityId) : Nat := ids.foldl (fun n id => max n id.raw) 0

theorem EntityId.highest_concat (ids : List EntityId) (id : EntityId) :
    highest (ids ++ [id]) = max (highest ids) id.raw := List.foldl_concat ..

theorem EntityId.le_highest {ids : List EntityId} {id : EntityId} (h : id ∈ ids) :
    id.raw ≤ highest ids := by
  induction ids using List.reverseRecOn with
  | nil => cases h
  | append_singleton ids last ih =>
      rw [highest_concat]
      rcases List.mem_append.mp h with h | h
      · exact (ih h).trans (Nat.le_max_left ..)
      · rw [List.mem_singleton.mp h]
        exact Nat.le_max_right ..

namespace WorldStep

variable {σ : Type} [HandleSupply σ] {w w' : WorldOver σ} {s : WorldStep} {answer : WorldAnswer}

/-- What an effect does to the identifiers: one comes into use, which is the next one unless it was
pinned, or none does and the next one stays. -/
theorem Effect.identifiers (e : Effect w s answer w') :
    (∃ id, answer = .entered id ∧ ((∃ name, s = .spawn name) → id = ⟨w.ids.next⟩) ∧
        w'.ids.next = max w.ids.next (id.raw + 1) ∧ ∀ id' ∈ w'.idents, id' = id ∨ id' ∈ w.idents) ∨
      ((∀ id, answer ≠ .entered id) ∧ w'.ids.next = w.ids.next ∧
        ∀ id ∈ w'.idents, id ∈ w.idents) := by
  -- whatever is tied to the new identifier, the others were there before
  have htied : ∀ (id : EntityId) (name : String) (ids : IdSource),
      ∀ id' ∈ ({ w with ids }.register id name).idents, id' = id ∨ id' ∈ w.idents := by
    intro id name ids id' hid'
    rcases List.mem_cons.mp hid' with rfl | hid'
    · exact .inl rfl
    · exact .inr ((List.filter_sublist.map Prod.fst).subset hid')
  cases e with
  | @spawned name _ =>
      refine .inl ⟨_, rfl, fun _ => rfl, ?_, htied _ name _⟩
      exact (Nat.max_eq_right (Nat.le_succ _)).symm
  | @pinned id name _ _ =>
      refine .inl ⟨id, rfl, ?_, rfl, htied id name _⟩
      rintro ⟨name', hname'⟩
      cases hname'
  | despawned _ _ =>
      exact .inr ⟨fun _ => WorldAnswer.noConfusion, rfl,
        fun _ hid => (List.filter_sublist.map Prod.fst).subset hid⟩
  | inserted _ _ => exact .inr ⟨fun _ => WorldAnswer.noConfusion, rfl, fun _ => id⟩
  | removed _ _ _ => exact .inr ⟨fun _ => WorldAnswer.noConfusion, rfl, fun _ => id⟩
  | advanced dt => exact .inr ⟨fun _ => WorldAnswer.noConfusion, rfl, fun _ => id⟩
  | cleared => exact .inr ⟨fun _ => WorldAnswer.noConfusion, rfl, fun _ hid => by cases hid⟩

end WorldStep

namespace WorldLog

open WorldCall EntityId

variable {σ : Type} {x : WorldLog σ}

/-- The next identifier is one more than the highest that was ever in use, entities that are alive
have entered, and each identifier that was chosen is above those that entered before. -/
structure IsAhead (x : WorldLog σ) : Prop where
  next : x.world.ids.next = highest (entered x.calls) + 1
  alive : ∀ id ∈ x.world.idents, id ∈ entered x.calls
  above : x.calls.Pairwise fun earlier later => ∀ id', earlier.entered? = some id' →
    ∀ id, later.spawned? = some id → id'.raw < id.raw

theorem IsAhead.lt_next (h : x.IsAhead) {id : EntityId} (hid : id ∈ entered x.calls) :
    id.raw < x.world.ids.next := by
  rw [h.next]
  exact Nat.lt_succ_of_le (le_highest hid)

/-- A call that brings in nothing, and moves nothing. -/
theorem IsAhead.concat (h : x.IsAhead) {c : WorldCall} (hc : c.entered? = none) {w' : WorldOver σ}
    (hnext : w'.ids.next = x.world.ids.next) (hidents : ∀ id ∈ w'.idents, id ∈ x.world.idents) :
    IsAhead ⟨w', x.calls ++ [c]⟩ := by
  -- The call entered nobody, so the ids entered so far stay the same.
  have hentered : entered (x.calls ++ [c]) = entered x.calls := by
    rw [entered_concat, hc]
    exact List.append_nil _
  refine ⟨?_, ?_, ?_⟩
  · rw [hentered, hnext, h.next]
  · intro id hid
    rw [hentered]
    exact h.alive id (hidents id hid)
  · refine List.pairwise_append.mpr ⟨h.above, List.pairwise_singleton .., ?_⟩
    intro earlier _ later hlater id' _ id hid
    rw [List.mem_singleton.mp hlater] at hid
    cases hc.symm.trans (entered?_of_spawned? hid)

variable [HandleSupply σ]

theorem isAhead_new : IsAhead (⟨.empty, []⟩ : WorldLog σ) where
  next := rfl
  alive id hid := by cases hid
  above := .nil

theorem IsAhead.done (h : x.IsAhead) {s : WorldStep} {answer : WorldAnswer} {w' : WorldOver σ}
    (e : WorldStep.Effect x.world s answer w') : IsAhead ⟨w', x.calls ++ [⟨s, .ok answer⟩]⟩ := by
  -- an entity entered, or identifiers were left alone
  rcases e.identifiers with ⟨id, rfl, hchosen, hnext, hidents⟩ | ⟨hnone, hnext, hidents⟩
  · have hentered : entered (x.calls ++ [⟨s, .ok (.entered id)⟩]) = entered x.calls ++ [id] :=
      entered_concat ..
    refine ⟨?_, ?_, ?_⟩
    · rw [hentered, hnext, h.next, highest_concat, Nat.succ_max_succ]
    · intro id' hid'
      rw [hentered, List.mem_append, List.mem_singleton]
      exact (hidents id' hid').symm.imp_left (h.alive id')
    · refine List.pairwise_append.mpr ⟨h.above, List.pairwise_singleton .., ?_⟩
      intro earlier hearlier later hlater id' hid' chosen hspawned
      rw [List.mem_singleton.mp hlater] at hspawned
      cases s with
      | spawn name =>
          -- only this operation chooses an identifier itself
          cases hspawned
          rw [hchosen ⟨name, rfl⟩]
          exact h.lt_next (List.mem_filterMap.mpr ⟨earlier, hearlier, hid'⟩)
      | _ => cases hspawned
  · refine h.concat ?_ hnext hidents
    cases answer with
    | entered id => exact absurd rfl (hnone id)
    | detached component => rfl
    | done => rfl

/-- Identifiers that a world chooses are new for good. Each is above all that entered before it, so
they increase; the next one is told by the calls, and it is not that of an entity that is alive. -/
structure NeverReuses (x : WorldLog σ) : Prop where
  above : x.calls.Pairwise fun earlier later => ∀ id', earlier.entered? = some id' →
    ∀ id, later.spawned? = some id → id'.raw < id.raw
  increasing : (x.calls.filterMap spawned?).Pairwise fun id' id => id'.raw < id.raw
  answer : ∀ name, ((WorldStep.spawn name).perform.outcome x.world).1 =
    if (x.world.id? name).isSome then .error (.duplicateEntityName name)
    else .ok (.entered ⟨highest (entered x.calls) + 1⟩)
  alive : ∀ id, x.world.contains id → id ∈ entered x.calls
  fresh : ∀ name id w', (WorldStep.spawn name).perform.outcome x.world = (.ok (.entered id), w') →
    x.world.contains id = false ∧ ∀ id' ∈ entered x.calls, id'.raw < id.raw

theorem IsAhead.answer (h : x.IsAhead) (name : String) :
    ((WorldStep.spawn name).perform.outcome x.world).1 =
      if (x.world.id? name).isSome then .error (.duplicateEntityName name)
      else .ok (.entered ⟨highest (entered x.calls) + 1⟩) := by
  rw [← h.next, WorldStep.perform, WorldM.outcome_bind, WorldM.outcome_spawn]
  by_cases hname : (x.world.id? name).isSome = true
  · rw [if_pos hname, if_pos hname]
  · rw [if_neg hname, if_neg hname]
    rfl

theorem IsAhead.neverReuses (h : x.IsAhead) : x.NeverReuses := by
  have halive : ∀ id, x.world.contains id → id ∈ entered x.calls :=
    fun id hid => h.alive id (WorldOver.contains_iff.mp hid)
  refine ⟨h.above, ?_, h.answer, halive, ?_⟩
  · -- a chosen identifier has entered too, so it is below those chosen later
    rw [List.pairwise_filterMap]
    refine h.above.imp ?_
    intro earlier later hlt id' hid' id hid
    exact hlt id' (entered?_of_spawned? hid') id hid
  · intro name id w' houtcome
    -- the answer tells which identifier was chosen
    have hid : id = ⟨highest (entered x.calls) + 1⟩ := by
      have hanswer := h.answer name
      rw [houtcome] at hanswer
      split at hanswer
      · cases hanswer
      · cases hanswer
        rfl
    subst hid
    have hlt : ∀ id' ∈ entered x.calls, id'.raw < highest (entered x.calls) + 1 :=
      fun id' hid' => Nat.lt_succ_of_le (le_highest hid')
    refine ⟨?_, hlt⟩
    rw [Bool.eq_false_iff]
    intro hcontains
    exact Nat.lt_irrefl _ (hlt _ (halive _ hcontains))

/-- Whatever was called on a world, it does not reuse identifiers. -/
theorem neverReuses_run (steps : List WorldStep) : (run steps : WorldLog σ).NeverReuses := by
  have hahead : (run steps : WorldLog σ).IsAhead := by
    refine (run_induction isAhead_new ?_ ?_ steps).2
    · intro x s answer w' _ h e
      exact h.done e
    · intro x s fault h
      exact h.concat rfl rfl fun _ => id
  exact hahead.neverReuses

/-- Neither a lower pinned identifier, nor a despawn, nor a cleared world, nor a call that fails
sets identifiers back or on. -/
theorem neverReuses_after_clear :
    let x : WorldLog Slots := run [.spawnWithId ⟨40⟩ "a", .spawn "b", .spawnWithId ⟨7⟩ "c",
      .spawn "b", .despawn ⟨41⟩, .clear, .spawn "b"]
    entered x.calls = [⟨40⟩, ⟨41⟩, ⟨7⟩, ⟨42⟩] ∧ x.calls.filterMap spawned? = [⟨41⟩, ⟨42⟩] ∧
      x.NeverReuses := by
  intro x
  have hentered : entered x.calls = [⟨40⟩, ⟨41⟩, ⟨7⟩, ⟨42⟩] := by decide
  have hspawned : x.calls.filterMap spawned? = [⟨41⟩, ⟨42⟩] := by decide
  exact ⟨hentered, hspawned, neverReuses_run _⟩

end WorldLog

end SceneBatch
