import SceneBatch.Proofs.World.Residents
import SceneBatch.Proofs.Frame.Building

/-!
# Entities that are left out

An entity that is left out adds one to a count and nothing else. So the same frame is built of a
world without these entities (`build_without_skipped`), except that the count is zero: a draft
forgets its count (`FrameDraft.forget`), and each visit does the same to what it has not forgotten.
The other counts of a frame are told from its visits.
-/

namespace SceneBatch

open Batch FrameDraft

/-! ### Counting records -/

namespace Batch

/-- How many of the root nodes of a model's default scene have a mesh, as often as they are
roots. -/
def meshRootCount (models : ModelLibrary) (name : String) : Nat :=
  match models.find? name with
  | none => 0
  | some m =>
      (m.document.defaultRoots?.getD []).countP fun node => (nodeMesh? m.document node).isSome

variable {b : Batch} {c : Call} {origin : MeshKey → List MeshPart → Prop}

theorem length_withMeshes (d : Gltf.Document) (nodes : List Nat) :
    (withMeshes d nodes).length = nodes.countP fun node => (nodeMesh? d node).isSome := by
  rw [withMeshes, List.length_filterMap_eq_countP]
  simp only [Option.isSome_map]

theorem length_roots (c : Call) : c.roots.length = meshRootCount c.models c.model := by
  rw [Call.roots, meshRootCount]
  cases c.models.find? c.model with
  | none => rfl
  | some m => exact length_withMeshes m.document (m.document.defaultRoots?.getD [])

/-- A call adds a record for every root node with a mesh. -/
theorem card_records_after (hb : b.Sound origin) (h : b.answer c = .ok ()) :
    (b.after c).records.card = b.records.card + meshRootCount c.models c.model := by
  have hafter : (b.after c).Sound fun _ _ => True := hb.forget.after fun _ _ _ => trivial
  have hkeyed := (keyed_after_of_ok hb.forget h).length_eq
  -- An accepted call puts one record under each of its mesh nodes.
  have hrecords : (c.records (b.after c)).length = c.roots.length := by
    rw [Call.records]
    cases hm : c.models.find? c.model with
    | none =>
        rw [Call.roots, hm]
        rfl
    | some m => exact List.length_map ..
  rw [List.length_append, hrecords, length_roots] at hkeyed
  rw [hafter.records_eq, hb.records_eq, Multiset.coe_card, Multiset.coe_card, List.length_map,
    List.length_map, hkeyed]

end Batch

namespace FrameStats

/-- How many entities were visited. -/
def visited (s : FrameStats) : Nat := s.staticInstances + s.animatedInstances + s.skipped

theorem skipped_countPlaced (s : FrameStats) (isAnimated : Bool) :
    (s.countPlaced isAnimated).skipped = s.skipped := by
  cases isAnimated <;> rfl

theorem visited_countPlaced (s : FrameStats) (isAnimated : Bool) :
    (s.countPlaced isAnimated).visited = s.visited + 1 := by
  cases isAnimated with
  | false =>
      show s.staticInstances + 1 + s.animatedInstances + s.skipped = s.visited + 1
      rw [visited]
      omega
  | true =>
      show s.staticInstances + (s.animatedInstances + 1) + s.skipped = s.visited + 1
      rw [visited]
      omega

end FrameStats

namespace FrameDraft

variable {models : ModelLibrary} {d : FrameDraft} {ε : Type}
  {step : FrameDraft → ε → Logged FrameDraft} {wish : List (Mat4 Float32) → ε → Option Placement}

/-! ### Visits by what they ask for -/

/-- A visit leaves its entity out if it asks for nothing or cannot be placed, and otherwise puts it
into the draft. -/
theorem visit_cases (hstep : Follows models step wish) (d : FrameDraft) (e : ε) :
    ((wish d.palette e).bind (d.place models) = none ∧ (visit step d e).isSkipped = true ∧
        (visit step d e).after = d.skipped) ∨
      ∃ p d', wish d.palette e = some p ∧ d.place models p = some d' ∧
        (visit step d e).isSkipped = false ∧ (visit step d e).after = d' := by
  have hafter : (visit step d e).after = d.visitBy models (wish d.palette e) := hstep d e
  cases hplaced : (wish d.palette e).bind (d.place models) with
  | none =>
      rw [visitBy, hplaced] at hafter
      exact .inl ⟨rfl, Visit.isSkipped_skipped hafter, hafter⟩
  | some d' =>
      rw [visitBy, hplaced] at hafter
      obtain ⟨p, hp, hplace⟩ := Option.bind_eq_some_iff.mp hplaced
      refine .inr ⟨p, d', hp, hplace, ?_, hafter⟩
      -- A visit counts as skipped by its counter, which placing leaves alone.
      apply Visit.isSkipped_of_skipped_eq
      rw [hafter, Option.getD_some, (of_place_eq_some hplace).2]
      exact d.stats.skipped_countPlaced p.isAnimated

/-! ### Forgetting the count -/

/-- A draft without the count of the entities that were left out. -/
def forget (d : FrameDraft) : FrameDraft := { d with stats := { d.stats with skipped := 0 } }

theorem place_forget {p : Placement} {d' : FrameDraft} (h : d.place models p = some d') :
    d.forget.place models p = some d'.forget := by
  obtain ⟨hanswer, rfl⟩ := of_place_eq_some h
  -- the batch, the palette and the library have nothing to forget
  have hagain : d.forget.batch.answer (d.forget.request models p) = .ok () := hanswer
  rw [place_of_ok hagain]
  cases p with
  | mk model transform animation matrices isAnimated => cases isAnimated <;> rfl

/-- The entities that were placed are placed again in the same way, and none of them is left
out. -/
theorem walk_placed (hstep : Follows models step wish) (d : FrameDraft) (es : List ε) :
    walk step d.forget ((Visit.placed (visits step d es)).map (·.entity)) =
      (walk step d es).forget := by
  induction es generalizing d with
  | nil => rfl
  | cons e es ih =>
      rw [visits, Visit.placed_cons, walk_cons]
      obtain ⟨-, hskipped, hafter⟩ | ⟨p, d', hp, hplace, hskipped, hafter⟩ :=
        visit_cases hstep d e
      · -- what the visit has counted is forgotten, so the rest starts from the same draft
        rw [hskipped, if_pos rfl, ← ih, hafter]
        rfl
      · have hagain : (visit step d.forget e).after = d'.forget := by
          show (step d.forget e).value = _
          rw [hstep]
          show d.forget.visitBy models (wish d.palette e) = _
          rw [hp, visitBy, Option.bind_some, place_forget hplace, Option.getD_some]
        rw [hskipped, if_neg Bool.false_ne_true, List.map_cons, walk_cons, ← ih, hafter]
        show walk step (visit step d.forget e).after _ = _
        rw [hagain]

/-! ### Counts of a walk -/

theorem visited_walk (hstep : Follows models step wish) (d : FrameDraft) (es : List ε) :
    (walk step d es).stats.visited = d.stats.visited + es.length := by
  induction es generalizing d with
  | nil => rfl
  | cons e es ih =>
      -- every visit is counted once, whatever its outcome
      have hone : (visit step d e).after.stats.visited = d.stats.visited + 1 := by
        rcases visit_cases hstep d e with ⟨-, -, hafter⟩ | ⟨p, d', -, hplace, -, hafter⟩
        · rw [hafter]
          rfl
        · rw [hafter, (of_place_eq_some hplace).2]
          exact d.stats.visited_countPlaced p.isAnimated
      rw [walk_cons, ih, hone, List.length_cons]
      omega

/-- Each entity that is placed adds as many records as its model has root nodes with meshes. -/
theorem card_records_walk (hstep : Follows models step wish) (model : ε → String)
    (hmodel : ∀ palette e p, wish palette e = some p → p.model = model e)
    (hd : d.batch.Sound fun _ _ => True) (es : List ε) :
    (walk step d es).batch.records.card =
      d.batch.records.card +
        ((Visit.placed (visits step d es)).map fun v =>
          meshRootCount models (model v.entity)).sum := by
  -- on the entities: an entity that is left out adds nothing, and the other ones what their models
  -- say
  induction es generalizing d with
  | nil => rfl
  | cons e es ih =>
      rw [walk_cons, visits, Visit.placed_cons]
      obtain ⟨-, hskipped, hafter⟩ | ⟨p, d', hp, hplace, hskipped, hafter⟩ :=
        visit_cases hstep d e
      · rw [hskipped, if_pos rfl, hafter]
        exact ih hd
      · obtain ⟨hanswer, rfl⟩ := of_place_eq_some hplace
        have hadded := card_records_after hd hanswer
        have hsound : (d.batch.after (d.request models p)).Sound fun _ _ => True :=
          hd.after fun _ _ _ => trivial
        have hname : (d.request models p).model = model e := hmodel d.palette e p hp
        rw [hname] at hadded
        rw [hskipped, if_neg Bool.false_ne_true, List.map_cons, List.sum_cons, hafter, ih hsound]
        show (d.batch.after (d.request models p)).records.card + _ = _
        rw [hadded, add_assoc]
        rfl

/-- Every visit of a walk is a visit of its step. -/
theorem exists_visit_of_mem_visits {v : Visit ε} {es : List ε} (hv : v ∈ visits step d es) :
    ∃ d', v = visit step d' v.entity := by
  induction es generalizing d with
  | nil => cases hv
  | cons e es ih =>
      rcases List.mem_cons.mp hv with rfl | hv
      · exact ⟨d, rfl⟩
      · exact ih hv

/-! ### Reasons -/

theorem answer_eq_error_iff {b : Batch} {c : Call} {fault : Fault} :
    b.answer c = .error fault ↔ b.Refuses c.models c.model fault := by
  -- a call fails just if it cannot be planned
  cases hplan : b.plan c.models c.model with
  | error cause =>
      rw [answer, addModel_of_plan_eq_error hplan]
      constructor
      · intro h
        cases h
        exact refuses_of_plan_eq hplan
      · intro h
        rw [h.plan_eq] at hplan
        cases hplan
        rfl
  | ok planned =>
      rw [answer, addModel_of_plan_eq_ok hplan]
      constructor
      · intro h
        cases h
      · intro h
        cases hplan.symm.trans h.plan_eq

theorem place_eq_none_iff {p : Placement} :
    d.place models p = none ↔ ∃ fault, d.batch.Refuses models p.model fault := by
  cases h : d.batch.answer (d.request models p) with
  | error fault =>
      rw [place_of_error h]
      exact ⟨fun _ => ⟨fault, answer_eq_error_iff.mp h⟩, fun _ => rfl⟩
  | ok _ =>
      rw [place_of_ok h]
      constructor
      · intro hnone
        cases hnone
      · rintro ⟨fault, hrefuses⟩
        have hanswer : d.batch.answer (d.request models p) = .error fault :=
          answer_eq_error_iff.mpr hrefuses
        cases h.symm.trans hanswer

/-- An entity is left out unless it asks for a placement that the batch does not refuse. -/
theorem isSkipped_iff (hstep : Follows models step wish) (d : FrameDraft) (e : ε) :
    (visit step d e).isSkipped ↔
      ∀ p, wish d.palette e = some p → ∃ fault, d.batch.Refuses models p.model fault := by
  rcases visit_cases hstep d e with ⟨hnone, hskipped, -⟩ | ⟨p, d', hp, hplace, hskipped, -⟩
  · -- nothing was asked for, or the batch refused it
    rw [hskipped]
    refine ⟨fun _ p hp => ?_, fun _ => rfl⟩
    rw [hp, Option.bind_some] at hnone
    exact place_eq_none_iff.mp hnone
  · rw [hskipped]
    constructor
    · intro h
      cases h
    · intro h
      have hnone := place_eq_none_iff.mpr (h p hp)
      cases hplace.symm.trans hnone

theorem isSkipped_static_iff (models : ModelLibrary) (d : FrameDraft) (e : StaticMesh) :
    (visit (addStatic models) d e).isSkipped ↔
      ∃ fault, d.batch.Refuses models e.mesh.model fault := by
  rw [isSkipped_iff (follows_addStatic models)]
  constructor
  · intro h
    exact h _ rfl
  · rintro h p hp
    cases hp
    exact h

theorem isSkipped_animated_iff (models : ModelLibrary) (skeletons : SkeletonLibrary)
    (maxJoints slots : Nat) (d : FrameDraft) (e : AnimatedMesh) :
    (visit (addAnimated models skeletons maxJoints slots) d e).isSkipped ↔
      skeletons.find? e.mesh.model = none ∨ slots ≤ d.palette.length / maxJoints ∨
        ∃ fault, d.batch.Refuses models e.mesh.model fault := by
  rw [isSkipped_iff (follows_addAnimated models skeletons maxJoints slots), animatedPlacement?]
  cases skeletons.find? e.mesh.model with
  | none => simp
  | some s =>
      by_cases hfull : slots ≤ d.palette.length / maxJoints
      · simp [hfull]
      · simp [hfull, animatedPlacement]

theorem model_of_animatedPlacement? {skeletons : SkeletonLibrary} {maxJoints slots : Nat}
    {palette : List (Mat4 Float32)} {e : AnimatedMesh} {p : Placement}
    (h : animatedPlacement? skeletons maxJoints slots palette e = some p) :
    p.model = e.mesh.model := by
  rw [animatedPlacement?] at h
  split at h
  · cases h
  · split at h
    · cases h
    · cases h
      rfl

end FrameDraft

/-! ### Worlds of visited entities -/

/-- A resident that is visited as a model that stands still. -/
def StaticMesh.resident (e : StaticMesh) : Resident :=
  ⟨e.id, { transform := some e.transform, mesh := some e.mesh }⟩

/-- A resident that is visited as an animated model. -/
def AnimatedMesh.resident (e : AnimatedMesh) : Resident :=
  ⟨e.id, { transform := some e.transform, mesh := some e.mesh, playback := some e.playback }⟩

/-- A resident that is visited as a light. -/
def PlacedLight.resident (e : PlacedLight) : Resident :=
  ⟨e.id, { transform := some e.transform, light := some e.light }⟩

namespace World

/-- A world of which nothing is visited but the given entities, in their order. -/
def ofVisited (static : List StaticMesh) (animated : List AnimatedMesh)
    (lights : List PlacedLight) : World :=
  .ofResidents (static.map StaticMesh.resident ++ (animated.map AnimatedMesh.resident ++
    lights.map PlacedLight.resident))

/-- The queries find the given entities. -/
theorem queries_ofVisited (static : List StaticMesh) (animated : List AnimatedMesh)
    (lights : List PlacedLight) :
    (ofVisited static animated lights).staticMeshes = static ∧
      (ofVisited static animated lights).animatedMeshes = animated ∧
      (ofVisited static animated lights).lights = lights := by
  have hresidents := residents_ofResidents (static.map StaticMesh.resident ++
    (animated.map AnimatedMesh.resident ++ lights.map PlacedLight.resident))
  -- each query finds the residents of its own kind, and none of the others
  have hstatic : (∀ e : StaticMesh, e.resident.staticMesh? = some e) ∧
      (∀ e : AnimatedMesh, e.resident.staticMesh? = none) ∧
      ∀ e : PlacedLight, e.resident.staticMesh? = none :=
    ⟨fun _ => rfl, fun _ => rfl, fun _ => rfl⟩
  have hanimated : (∀ e : StaticMesh, e.resident.animatedMesh? = none) ∧
      (∀ e : AnimatedMesh, e.resident.animatedMesh? = some e) ∧
      ∀ e : PlacedLight, e.resident.animatedMesh? = none :=
    ⟨fun _ => rfl, fun _ => rfl, fun _ => rfl⟩
  have hlights : (∀ e : StaticMesh, e.resident.placedLight? = none) ∧
      (∀ e : AnimatedMesh, e.resident.placedLight? = none) ∧
      ∀ e : PlacedLight, e.resident.placedLight? = some e :=
    ⟨fun _ => rfl, fun _ => rfl, fun _ => rfl⟩
  refine ⟨?_, ?_, ?_⟩
  · simp [WorldOver.staticMeshes, ofVisited, hresidents, hstatic]
  · simp [WorldOver.animatedMeshes, ofVisited, hresidents, hanimated]
  · simp [WorldOver.lights, ofVisited, hresidents, hlights]

end World

namespace Frame

theorem collectLights_congr {w w' : World} (h : w'.lights = w.lights) (limit : Nat) :
    collectLights w' limit = collectLights w limit := by
  rw [collectLights, collectLights, h]

/-- A frame of a world without the entities that were left out. -/
theorem build_placed (f : Frame) (w w' : World) (a : Assets)
    (hstatic : w'.staticMeshes = (Visit.placed (f.staticVisits w a)).map (·.entity))
    (hanimated : w'.animatedMeshes = (Visit.placed (f.animatedVisits w a)).map (·.entity))
    (hlights : w'.lights = w.lights) :
    (f.build w' a).value =
      ({ (f.build w a).value.1 with
          stats := { (f.build w a).value.1.stats with skipped := 0 } },
        (f.build w a).value.2) := by
  -- both walks place the same entities, the second one from where the first one ends
  have hhalfway : f.halfway w' a = (f.halfway w a).forget := by
    rw [halfway, hstatic]
    exact walk_placed (follows_addStatic a.models) (f.start a) w.staticMeshes
  have hdrafted : f.drafted w' a = (f.drafted w a).forget := by
    rw [drafted, hhalfway, hanimated]
    exact walk_placed (follows_addAnimated a.models a.skeletons f.maxJoints f.paletteSlots)
      (f.halfway w a) w.animatedMeshes
  rw [build_value, build_value, hdrafted, collectLights_congr hlights]
  rfl

theorem visited_build (f : Frame) (w : World) (a : Assets) :
    (f.build w a).value.1.stats.visited = w.staticMeshes.length + w.animatedMeshes.length := by
  have hstatic := visited_walk (follows_addStatic a.models) (f.start a) w.staticMeshes
  have hanimated := visited_walk
    (follows_addAnimated a.models a.skeletons f.maxJoints f.paletteSlots) (f.halfway w a)
    w.animatedMeshes
  have hnone : (f.start a).stats.visited = 0 := rfl
  show (f.drafted w a).stats.visited = _
  rw [drafted, hanimated, halfway, hstatic, hnone, Nat.zero_add]

/-- The instances of a frame are those that the models of its placed entities have to have. -/
theorem instances_build_eq_sum (f : Frame) (w : World) (a : Assets) :
    (f.build w a).value.1.stats.instances =
      ((Visit.placed (f.staticVisits w a)).map fun v =>
          meshRootCount a.models v.entity.mesh.model).sum +
        ((Visit.placed (f.animatedVisits w a)).map fun v =>
          meshRootCount a.models v.entity.mesh.model).sum := by
  have hhalfway : (f.halfway w a).batch.Sound fun _ _ => True :=
    halfway_induction (I := fun b _ => b.Sound fun _ _ => True) w (sound_cleanUp _ f.batch)
      fun _ _ _ hb => hb.after fun _ _ _ => trivial
  -- the two walks, from a batch without records
  have hstatic := card_records_walk (follows_addStatic a.models) (fun e => e.mesh.model)
    (fun _ e p hp => by cases hp; rfl) (sound_cleanUp _ f.batch) w.staticMeshes (d := f.start a)
  have hanimated := card_records_walk
    (follows_addAnimated a.models a.skeletons f.maxJoints f.paletteSlots)
    (fun e => e.mesh.model) (fun _ _ _ hp => model_of_animatedPlacement? hp) hhalfway
    w.animatedMeshes
  have hnone : (f.start a).batch.records.card = 0 := rfl
  have hinstances : (f.build w a).value.1.stats.instances = (f.drafted w a).batch.records.card := by
    show (Draws.ofBatch (f.drafted w a).batch).instances.length = _
    rw [← (sound_drafted f w a).coe_instances_ofBatch, Multiset.coe_card]
  rw [hinstances, drafted, hanimated, halfway, hstatic, hnone, Nat.zero_add]
  rfl

/-- The entities of `w` that the frame leaves out do not show in it but for their number, and its
counts add up. They are the visited entities that there is a reason to leave out. -/
structure IgnoresSkipped (f : Frame) (w : World) (a : Assets) : Prop where
  order : (f.staticVisits w a).map (·.entity) = w.staticMeshes ∧
    (f.animatedVisits w a).map (·.entity) = w.animatedMeshes
  static_iff : ∀ v ∈ f.staticVisits w a,
    v.isSkipped ↔ ∃ fault, v.before.batch.Refuses a.models v.entity.mesh.model fault
  animated_iff : ∀ v ∈ f.animatedVisits w a,
    v.isSkipped ↔ a.skeletons.find? v.entity.mesh.model = none ∨
      f.paletteSlots ≤ v.before.palette.length / f.maxJoints ∨
      ∃ fault, v.before.batch.Refuses a.models v.entity.mesh.model fault
  without : ∃ w' : World,
    w'.staticMeshes = (Visit.placed (f.staticVisits w a)).map (·.entity) ∧
      w'.animatedMeshes = (Visit.placed (f.animatedVisits w a)).map (·.entity) ∧
      w'.lights = w.lights
  same : ∀ w' : World,
    w'.staticMeshes = (Visit.placed (f.staticVisits w a)).map (·.entity) →
    w'.animatedMeshes = (Visit.placed (f.animatedVisits w a)).map (·.entity) →
    w'.lights = w.lights →
    (f.build w' a).value =
      ({ (f.build w a).value.1 with
          stats := { (f.build w a).value.1.stats with skipped := 0 } },
        (f.build w a).value.2)
  visited : (f.build w a).value.1.stats.staticInstances +
      (f.build w a).value.1.stats.animatedInstances + (f.build w a).value.1.stats.skipped =
    w.staticMeshes.length + w.animatedMeshes.length
  entries : (f.build w a).value.1.stats.entries = (f.build w a).value.1.batch.entries.length
  instances : (f.build w a).value.1.stats.instances =
    ((Visit.placed (f.staticVisits w a)).map fun v =>
        meshRootCount a.models v.entity.mesh.model).sum +
      ((Visit.placed (f.animatedVisits w a)).map fun v =>
        meshRootCount a.models v.entity.mesh.model).sum

theorem build_ignoresSkipped (f : Frame) (w : World) (a : Assets) : f.IgnoresSkipped w a := by
  refine ⟨⟨map_entity_visits _ _ _, map_entity_visits _ _ _⟩, ?_, ?_, ?_, ?_, ?_, rfl, ?_⟩
  · intro v hv
    obtain ⟨d, hvisit⟩ := exists_visit_of_mem_visits hv
    rw [hvisit]
    exact isSkipped_static_iff a.models d v.entity
  · intro v hv
    obtain ⟨d, hvisit⟩ := exists_visit_of_mem_visits hv
    rw [hvisit]
    exact isSkipped_animated_iff a.models a.skeletons f.maxJoints f.paletteSlots d v.entity
  · exact ⟨_, World.queries_ofVisited _ _ w.lights⟩
  · -- Building the filtered visits instead.
    intro w' hstatic hanimated hlights
    exact build_placed f w w' a hstatic hanimated hlights
  · exact visited_build f w a
  · exact instances_build_eq_sum f w a

end Frame

end SceneBatch
