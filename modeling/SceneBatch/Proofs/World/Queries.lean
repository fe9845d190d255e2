import SceneBatch.Proofs.World.Calls
import SceneBatch.Proofs.World.Components

/-!
# What queries visit

What an entity carries is told by the calls that the world went through: of each kind, the component
that was last stored and not removed since (`WorldCall.lastStored?`), with the clock moved on by all
the time that passed. The three queries visit each entity by that and by nothing else, once or not
at all (`WorldLog.PartitionsQueries`).
-/

namespace SceneBatch

/-- What is stored of a kind for an entity after a step that does not fail, if `stored` was before
it. -/
def WorldStep.leaves (id : EntityId) (kind : ComponentKind) (stored : Option Component) :
    WorldStep → Option Component
  | .spawn _ => stored
  | .spawnWithId _ _ => stored
  | .despawn id' => if id' = id then none else stored
  | .insert id' component => if id' = id ∧ component.kind = kind then some component else stored
  | .remove id' kind' => if id' = id ∧ kind' = kind then none else stored
  | .advance dt => stored.map (Component.advance dt)
  | .clear => none

namespace WorldCall

/-- What is stored after a call. One that failed stores nothing. -/
def update (id : EntityId) (kind : ComponentKind) (stored : Option Component) (c : WorldCall) :
    Option Component :=
  match c.answer with
  | .ok _ => c.step.leaves id kind stored
  | .error _ => stored

/-- What was last stored of a kind for an entity, as it is after all the calls. -/
def lastStored? (id : EntityId) (kind : ComponentKind) (calls : List WorldCall) :
    Option Component := calls.foldl (update id kind) none

theorem lastStored?_concat (id : EntityId) (kind : ComponentKind) (calls : List WorldCall)
    (c : WorldCall) :
    lastStored? id kind (calls ++ [c]) = update id kind (lastStored? id kind calls) c :=
  List.foldl_concat ..

end WorldCall

/-! ### Visits of one entity -/

namespace WorldOver

variable {σ : Type} {w : WorldOver σ} [HandleSupply σ]

namespace IsConsistent

/-- An entity resides in a world once if it is alive, and else not at all. -/
theorem filter_residents (h : w.IsConsistent) (id : EntityId) :
    w.residents.filter (·.id == id) = ((w.living? id).map (Resident.mk id)).toList := by
  have hnodup : (w.residents.map Resident.id).Nodup :=
    h.residents_perm.nodup_iff.mpr h.nodup_idents
  rw [filter_key_eq_find? hnodup]
  congr 1
  apply Option.ext
  intro r
  rw [find?_key_eq_some_iff hnodup, h.mem_residents_iff, Option.map_eq_some_iff]
  constructor
  · rintro ⟨hliving, rfl⟩
    exact ⟨r.components, hliving, rfl⟩
  · rintro ⟨components, hliving, rfl⟩
    exact ⟨hliving, rfl⟩

/-- A query that passes the identifier of an entity on, and passes over entities without components,
visits an entity by the components that it has, and once. -/
theorem filter_visits (h : w.IsConsistent) {β : Type} {visit? : Resident → Option β}
    {ident : β → EntityId} (hident : ∀ r v, visit? r = some v → ident v = r.id)
    (hempty : ∀ id, visit? ⟨id, {}⟩ = none) (id : EntityId) :
    (w.residents.filterMap visit?).filter (ident · == id) =
      (visit? ⟨id, w.components id⟩).toList := by
  -- a visit has the identifier of its entity, so entities may be sorted out before they are visited
  have hvisits : ∀ r, ((visit? r).filter fun v => ident v == id) =
      if r.id == id then visit? r else none := by
    intro r
    cases hv : visit? r with
    | none => simp
    | some v => simp [Option.filter, hident r v hv]
  rw [List.filter_filterMap, List.filterMap_congr fun r _ => hvisits r, ← List.filterMap_filter,
    h.filter_residents, components_eq_getD]
  cases w.living? id with
  | none => simp [hempty]
  | some components => cases hv : visit? ⟨id, components⟩ <;> simp [hv]

theorem filter_staticMeshes (h : w.IsConsistent) (id : EntityId) :
    w.staticMeshes.filter (·.id == id) =
      (Resident.staticMesh? ⟨id, w.components id⟩).toList := by
  refine h.filter_visits ?_ (fun _ => rfl) id
  rintro ⟨id, _ | t, _ | m, _ | p, l⟩ v hv
  all_goals cases hv
  rfl

theorem filter_animatedMeshes (h : w.IsConsistent) (id : EntityId) :
    w.animatedMeshes.filter (·.id == id) =
      (Resident.animatedMesh? ⟨id, w.components id⟩).toList := by
  refine h.filter_visits ?_ (fun _ => rfl) id
  rintro ⟨id, _ | t, _ | m, _ | p, l⟩ v hv
  all_goals cases hv
  rfl

theorem filter_lights (h : w.IsConsistent) (id : EntityId) :
    w.lights.filter (·.id == id) = (Resident.placedLight? ⟨id, w.components id⟩).toList := by
  refine h.filter_visits ?_ (fun _ => rfl) id
  rintro ⟨id, _ | t, m, p, _ | l⟩ v hv
  all_goals cases hv
  rfl

end IsConsistent

end WorldOver

/-! ### What is stored -/

section Stored

open WorldCall

variable {σ : Type} [HandleSupply σ] {w w' : WorldOver σ} {s : WorldStep} {answer : WorldAnswer}

/-- An entity that enters has nothing, and what was not alive had nothing either. -/
theorem WorldOver.IsConsistent.components_register_eq (h : w.IsConsistent) {id : EntityId}
    (hid : id ∉ w.idents) {name : String} (hname : w.id? name = none) (ids : IdSource)
    (id' : EntityId) : ({ w with ids }.register id name).components id' = w.components id' := by
  rw [WorldOver.components_eq_getD, h.living?_register hid hname]
  by_cases hsame : id' = id
  · rw [if_pos hsame, hsame, (h.lacks hid).components]
    rfl
  · rw [if_neg hsame]
    rfl

/-- One component more, one less, or all of them gone: what an effect changes is what the step
says. -/
theorem WorldStep.Effect.get?_components (e : Effect w s answer w') (h : w.IsConsistent)
    (id : EntityId) (kind : ComponentKind) :
    (w'.components id).get? kind = s.leaves id kind ((w.components id).get? kind) := by
  cases e with
  | spawned hname =>
      exact congrArg (·.get? kind) (h.components_register_eq h.next_notMem hname _ id)
  | pinned hname hid =>
      exact congrArg (·.get? kind)
        (h.components_register_eq (WorldOver.notMem_of_contains hid) hname _ id)
  | @despawned id' handle store hhandle hstore =>
      -- the last row moves into the place that is left, and keeps its handle
      rw [leaves, WorldOver.components_eq_getD, h.living?_forget hhandle hstore]
      by_cases hid : id = id'
      · rw [if_pos hid, if_pos hid.symm]
        exact Components.get?_empty kind
      · rw [if_neg hid, if_neg (Ne.symm hid)]
        rfl
  | @inserted id' component handle row hhandle hrow =>
      rw [leaves, WorldOver.components_eq_getD, h.living?_setComponents hhandle hrow]
      by_cases hid : id = id'
      · rw [if_pos hid, hid, components_eq hhandle hrow, Option.getD_some, Components.get?_insert]
        simp only [true_and]
      · rw [if_neg hid, if_neg fun hkind => hid hkind.1.symm]
        rfl
  | @removed id' kind' component handle row hhandle hrow hcomponent =>
      rw [leaves, WorldOver.components_eq_getD, h.living?_setComponents hhandle hrow]
      by_cases hid : id = id'
      · rw [if_pos hid, hid, components_eq hhandle hrow, Option.getD_some, Components.get?_erase]
        simp only [true_and]
      · rw [if_neg hid, if_neg fun hkind => hid hkind.1.symm]
        rfl
  | advanced dt =>
      rw [leaves, WorldOver.components_eq_getD, WorldOver.living?_advance,
        WorldOver.components_eq_getD, ← Components.get?_advance]
      cases w.living? id with
      | none => rfl
      | some components => rfl
  | cleared =>
      rw [leaves, WorldOver.components_eq_getD, WorldOver.living?_clear]
      exact Components.get?_empty kind

end Stored

/-! ### Queries -/

namespace WorldLog

open WorldCall

variable {σ : Type}

/-- The three queries share the entities of a world out. Each entity that has a transform and a
model is visited once, by the query of the animated if it has a clock and by the other if not, and
each that has a transform and a light once by the query of lights; no others are visited. A visit
passes on what was last stored for the entity. -/
structure PartitionsQueries (x : WorldLog σ) : Prop where
  stored : ∀ id kind, (x.world.components id).get? kind = lastStored? id kind x.calls
  alive : ∀ id kind, (lastStored? id kind x.calls).isSome → x.world.contains id
  once : ∀ id,
    x.world.staticMeshes.countP (·.id == id) + x.world.animatedMeshes.countP (·.id == id) =
      if (lastStored? id .transform x.calls).isSome ∧ (lastStored? id .mesh x.calls).isSome
      then 1 else 0
  still : ∀ id, x.world.staticMeshes.filter (·.id == id) =
    match lastStored? id .transform x.calls, lastStored? id .mesh x.calls,
      lastStored? id .playback x.calls with
    | some (.transform t), some (.mesh m), none => [⟨id, t, m⟩]
    | _, _, _ => []
  animated : ∀ id, x.world.animatedMeshes.filter (·.id == id) =
    match lastStored? id .transform x.calls, lastStored? id .mesh x.calls,
      lastStored? id .playback x.calls with
    | some (.transform t), some (.mesh m), some (.playback p) => [⟨id, t, m, p⟩]
    | _, _, _ => []
  lit : ∀ id, x.world.lights.filter (·.id == id) =
    match lastStored? id .transform x.calls, lastStored? id .light x.calls with
    | some (.transform t), some (.light l) => [⟨id, t, l⟩]
    | _, _ => []

variable [HandleSupply σ] {x : WorldLog σ}

theorem partitionsQueries_of_stored (h : x.world.IsConsistent)
    (hstored : ∀ id kind, (x.world.components id).get? kind = lastStored? id kind x.calls) :
    x.PartitionsQueries := by
  refine ⟨hstored, ?_, ?_, ?_, ?_, ?_⟩
  · intro id kind hsome
    by_contra hid
    -- what is not alive has no components
    have hempty := (h.lacks (mt WorldOver.contains_iff.mpr hid)).components
    rw [← hstored, hempty, Components.get?_empty] at hsome
    cases hsome
  · intro id
    rw [List.countP_eq_length_filter, List.countP_eq_length_filter, h.filter_staticMeshes,
      h.filter_animatedMeshes, ← hstored, ← hstored]
    rcases x.world.components id with ⟨_ | t, _ | m, _ | p, l⟩ <;> rfl
  · intro id
    rw [h.filter_staticMeshes, ← hstored, ← hstored, ← hstored]
    rcases x.world.components id with ⟨_ | t, _ | m, _ | p, l⟩ <;> rfl
  · intro id
    rw [h.filter_animatedMeshes, ← hstored, ← hstored, ← hstored]
    rcases x.world.components id with ⟨_ | t, _ | m, _ | p, l⟩ <;> rfl
  · intro id
    rw [h.filter_lights, ← hstored, ← hstored]
    rcases x.world.components id with ⟨_ | t, m, p, _ | l⟩ <;> rfl

/-- Whatever was called on a world, queries share its entities out by what the calls stored. -/
theorem partitionsQueries_run (steps : List WorldStep) :
    (run steps : WorldLog σ).PartitionsQueries := by
  obtain ⟨hconsistent, hstored⟩ : (run steps : WorldLog σ).world.IsConsistent ∧
      ∀ id kind, ((run steps : WorldLog σ).world.components id).get? kind =
        lastStored? id kind (run steps : WorldLog σ).calls := by
    -- Each step's effect on a component is that of the last call that stored one.
    refine run_induction (I := fun x => ∀ id kind,
      (x.world.components id).get? kind = lastStored? id kind x.calls) ?_ ?_ ?_ steps
    · intro id kind
      exact Components.get?_empty kind
    · intro x s answer w' hconsistent hstored e id kind
      rw [lastStored?_concat, ← hstored, e.get?_components hconsistent]
      rfl
    · intro x s fault hstored id kind
      rw [lastStored?_concat, ← hstored]
      rfl
  exact partitionsQueries_of_stored hconsistent hstored

/-- The place of an entity that is gone is taken by another one, which gets none of its components;
a clock that is detached makes an entity still. Of two clocks the one that is enabled moves on when
time passes. -/
theorem partitionsQueries_of_recycled_place :
    let x : WorldLog Slots := run [.spawn "a", .insert ⟨1⟩ (.transform .identity),
      .insert ⟨1⟩ (.mesh ⟨"m"⟩), .insert ⟨1⟩ (.playback {}), .despawn ⟨1⟩, .spawn "b",
      .insert ⟨2⟩ (.mesh ⟨"m"⟩), .spawn "c", .insert ⟨3⟩ (.mesh ⟨"m"⟩), .insert ⟨3⟩ (.playback {}),
      .insert ⟨3⟩ (.transform .identity), .remove ⟨3⟩ .playback,
      .insert ⟨2⟩ (.transform .identity), .insert ⟨2⟩ (.playback ⟨true, 2, 1⟩), .spawn "d",
      .insert ⟨4⟩ (.transform .identity), .insert ⟨4⟩ (.mesh ⟨"m"⟩),
      .insert ⟨4⟩ (.playback ⟨false, 2, 1⟩), .advance 3]
    x.world.staticMeshes.map (·.id) = [⟨3⟩] ∧
      x.world.animatedMeshes.map (fun v => (v.id, v.playback)) =
        [(⟨2⟩, ⟨true, 2, 7⟩), (⟨4⟩, ⟨false, 2, 1⟩)] ∧
      x.PartitionsQueries := by
  intro x
  have hstill : x.world.staticMeshes.map (·.id) = [⟨3⟩] := by decide +kernel
  have hanimated : x.world.animatedMeshes.map (fun v => (v.id, v.playback)) =
      [(⟨2⟩, ⟨true, 2, 7⟩), (⟨4⟩, ⟨false, 2, 1⟩)] := by decide +kernel
  exact ⟨hstill, hanimated, partitionsQueries_run _⟩

end WorldLog

end SceneBatch
