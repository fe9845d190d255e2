import SceneBatch.Proofs.World.Residents
import SceneBatch.Proofs.Frame.Building

/-!
# The joint palette of a frame

Every animated entity that is drawn has a run of the joint palette to itself. The runs follow each
other without gaps in the order of the visits, each holds the pose of its entity, and the records
that name it are those of its entity: `Frame.AllotsSlots` says so, and `allotsSlots_build` that it
is true of every frame that is built, whatever was built and uploaded before and whichever entities
are left out.
-/

namespace SceneBatch

open Batch FrameDraft

namespace Frame

variable {f : Frame} {w : World} {a : Assets} {c : RenderConfig}

/-- A run of the palette has a place for each joint, and slots are told apart by their numbers. -/
structure IsLimited (f : Frame) : Prop where
  joints : 0 < f.maxJoints
  slots : f.paletteSlots < UInt32.size

theorem MadeFor.isLimited (hf : f.MadeFor c) : f.IsLimited where
  joints := by
    rw [hf.keepsOnly.maxJoints]
    exact Nat.lt_of_lt_of_le Nat.one_pos (Nat.le_max_right ..)
  slots := by
    rw [hf.keepsOnly.paletteSlots]
    exact c.paletteSlots.toNat_lt

theorem MadeFor.maxJoints_eq (hf : f.MadeFor c) (hpos : 1 ≤ c.maxJoints) :
    f.maxJoints = c.maxJoints := by
  rw [hf.keepsOnly.maxJoints]
  exact Nat.max_eq_left hpos

theorem sound_start (f : Frame) (a : Assets) : (f.start a).Sound a.models f.maxJoints where
  batch := drawsFrom_cleanUp a.models f.batch
  palette := (Nat.zero_mul _).symm
  taken := by
    show 0 < UInt32.size
    decide
  records r hr := by cases Multiset.notMem_zero r hr

theorem sound_halfway (f : Frame) (w : World) (a : Assets) :
    (f.halfway w a).Sound a.models f.maxJoints :=
  sound_walk isSound_static_visit (f.sound_start a)

theorem IsLimited.isAnimated_visit (hf : f.IsLimited) (a : Assets) (d : FrameDraft)
    (e : AnimatedMesh) (hd : d.Sound a.models f.maxJoints) :
    (visit (addAnimated a.models a.skeletons f.maxJoints f.paletteSlots) d e).IsAnimated a.models
      a.skeletons f.maxJoints f.paletteSlots :=
  FrameDraft.isAnimated_visit hd hf.joints a.skeletons hf.slots e

theorem IsLimited.isSound_visit (hf : f.IsLimited) (a : Assets) (d : FrameDraft) (e : AnimatedMesh)
    (hd : d.Sound a.models f.maxJoints) :
    (visit (addAnimated a.models a.skeletons f.maxJoints f.paletteSlots) d e).IsSound a.models
      f.maxJoints := (hf.isAnimated_visit a d e hd).toIsSound

theorem IsLimited.sound_drafted (hf : f.IsLimited) (w : World) (a : Assets) :
    (f.drafted w a).Sound a.models f.maxJoints :=
  sound_walk (hf.isSound_visit a) (f.sound_halfway w a)

/-! ### Slots -/

/-- The slots of a frame's joint palette are dense and private, and each has the right pose. Records
name a slot by its number in 32 bits with a sign, as the device reads it. `static` and `animated`
are the visits that the frame of `w` was built by. -/
structure AllotsSlots (g : Frame) (c : RenderConfig) (w : World) (a : Assets)
    (static : List (Visit StaticMesh)) (animated : List (Visit AnimatedMesh)) : Prop where
  order : static.map (·.entity) = w.staticMeshes ∧ animated.map (·.entity) = w.animatedMeshes
  length_palette : g.palette.length = g.stats.animatedInstances * c.maxJoints
  count : g.stats.animatedInstances = (Visit.placed animated).length
  room : g.stats.animatedInstances ≤ c.paletteSlots.toNat
  pose : ∀ (k : Nat) v, (Visit.placed animated)[k]? = some v →
    ∃ s, a.skeletons.find? v.entity.mesh.model = some s ∧
      (g.palette.drop (k * c.maxJoints)).take c.maxJoints =
        s.jointMatrices v.entity.playback.time
  slot : ∀ (k : Nat) v, (Visit.placed animated)[k]? = some v →
    ∀ r ∈ v.contributed, r.animation = Int32.ofNat k
  own : ∀ (k : Nat) v, (Visit.placed animated)[k]? = some v →
    (g.draws.instances : Multiset InstanceRecord).filter (fun r => r.animation = Int32.ofNat k) =
      v.contributed
  still : ∀ v ∈ static, ∀ r ∈ v.contributed, r.animation = -1
  skipped_iff : ∀ v ∈ animated,
    v.isSkipped ↔ v.before.LeavesOut a.models a.skeletons c.paletteSlots.toNat v.entity
  skipped : ∀ v ∈ animated, v.isSkipped → v.contributed = 0
  instances : (g.draws.instances : Multiset InstanceRecord) =
    (static.map Visit.contributed).sum + (animated.map Visit.contributed).sum

theorem isStatic_of_mem (f : Frame) (w : World) (a : Assets) :
    ∀ v ∈ f.staticVisits w a, v.IsStatic a.models f.maxJoints :=
  forall_mem_visits isSound_static_visit (f.sound_start a) isStatic_visit

theorem IsLimited.isAnimated_of_mem (hf : f.IsLimited) (w : World) (a : Assets) :
    ∀ v ∈ f.animatedVisits w a,
      v.IsAnimated a.models a.skeletons f.maxJoints f.paletteSlots ∧
        v.after.Extends (f.drafted w a) := by
  intro v hv
  constructor
  · exact forall_mem_visits (hf.isSound_visit a) (f.sound_halfway w a) (hf.isAnimated_visit a) v hv
  · exact extends_of_mem_visits (hf.isSound_visit a) (f.sound_halfway w a) v hv

/-- No slot is taken before the animated models are visited. -/
theorem animatedInstances_halfway (f : Frame) (w : World) (a : Assets) :
    (f.halfway w a).stats.animatedInstances = 0 :=
  animatedInstances_walk_addStatic a.models (f.start a) w.staticMeshes

theorem IsLimited.instances_build (hf : f.IsLimited) (w : World) (a : Assets) :
    ((f.build w a).value.1.draws.instances : Multiset InstanceRecord) =
      (f.drafted w a).batch.records := by
  rw [draws_build]
  exact (hf.sound_drafted w a).batch.sound.coe_instances_ofBatch

/-- An entity that was placed after `k` others has slot `k`, and what it put into the draft is still
there at the end. -/
theorem IsLimited.placed_spec (hf : f.IsLimited) {k : Nat} {v : Visit AnimatedMesh}
    (hv : (Visit.placed (f.animatedVisits w a))[k]? = some v) :
    v.IsAnimated a.models a.skeletons f.maxJoints f.paletteSlots ∧
      v.after.Extends (f.drafted w a) ∧ v.isSkipped = false ∧
      v.before.stats.animatedInstances = k := by
  obtain ⟨hvisit, hskipped⟩ := List.mem_filter.mp (List.mem_of_getElem? hv)
  obtain ⟨hanimated, hextends⟩ := hf.isAnimated_of_mem w a v hvisit
  refine ⟨hanimated, hextends, by simpa using hskipped, ?_⟩
  rw [taken_of_placed (hf.isAnimated_visit a) (f.sound_halfway w a) hv,
    animatedInstances_halfway, Nat.zero_add]

/-- The run of an entity's slot holds its pose. -/
theorem IsLimited.pose_of_placed (hf : f.IsLimited) {k : Nat} {v : Visit AnimatedMesh}
    (hv : (Visit.placed (f.animatedVisits w a))[k]? = some v) :
    ∃ s, a.skeletons.find? v.entity.mesh.model = some s ∧
      ((f.drafted w a).palette.drop (k * f.maxJoints)).take f.maxJoints =
        s.writeJointMatrices v.entity.playback.time f.maxJoints := by
  obtain ⟨hanimated, hextends, hskipped, hslot⟩ := hf.placed_spec hv
  obtain ⟨s, hs, hpalette⟩ := hanimated.pose hskipped
  refine ⟨s, hs, ?_⟩
  -- the run of the entity stands behind those of the entities before it
  have hstands : StandsAt (s.writeJointMatrices v.entity.playback.time f.maxJoints)
      (f.drafted w a).palette (k * f.maxJoints) := by
    refine ⟨v.before.palette, ?_, ?_⟩
    · rw [hanimated.before.palette, hslot]
    · rw [← hpalette]
      exact hextends.palette
  have hrun := hstands.take_drop
  rw [Skeleton.length_writeJointMatrices] at hrun
  exact hrun

/-- The records of a slot are those that its entity added. -/
theorem IsLimited.recordsOf_placed (hf : f.IsLimited) {k : Nat} {v : Visit AnimatedMesh}
    (hv : (Visit.placed (f.animatedVisits w a))[k]? = some v) :
    (f.drafted w a).batch.recordsOf k = v.contributed := by
  obtain ⟨hanimated, hextends, hskipped, rfl⟩ := hf.placed_spec hv
  have htaken : v.before.stats.animatedInstances < v.after.stats.animatedInstances := by
    rw [hanimated.taken, hskipped]
    exact Nat.lt_succ_self _
  rw [hextends.records _ htaken]
  exact hanimated.recordsOf_after htaken

/-- All records of a frame come from its visits. -/
theorem IsLimited.records_drafted (hf : f.IsLimited) (w : World) (a : Assets) :
    (f.drafted w a).batch.records =
      ((f.staticVisits w a).map Visit.contributed).sum +
        ((f.animatedVisits w a).map Visit.contributed).sum := by
  have hstatic := records_walk isSound_static_visit (f.sound_start a) w.staticMeshes
  have hanimated := records_walk (hf.isSound_visit a) (f.sound_halfway w a) w.animatedMeshes
  -- the frame is built from a batch without records
  have hnone : (f.start a).batch.records = 0 := rfl
  rw [hnone, zero_add] at hstatic
  rw [drafted, hanimated, halfway, hstatic]
  rfl

/-- No more slots are taken than there are. -/
theorem IsLimited.taken_drafted_le (hf : f.IsLimited) (w : World) (a : Assets) :
    (f.drafted w a).stats.animatedInstances ≤ f.paletteSlots := by
  apply taken_walk_le (hf.isAnimated_visit a) (f.sound_halfway w a)
  rw [animatedInstances_halfway]
  exact Nat.zero_le _

/-- The slots of a frame that is built for a configuration, from assets for the same one. -/
theorem allotsSlots_build {c : RenderConfig} (hpos : 1 ≤ c.maxJoints) {f : Frame}
    (hf : f.MadeFor c) {a : Assets} (ha : a.MadeFor c) (w : World) :
    (f.build w a).value.1.AllotsSlots c w a (f.staticVisits w a) (f.animatedVisits w a) := by
  have hlimited := hf.isLimited
  have hmem := hlimited.isAnimated_of_mem w a
  have hinstances := hlimited.instances_build w a
  have hjoints := hf.maxJoints_eq hpos
  have hslots := hf.keepsOnly.paletteSlots
  refine ⟨⟨map_entity_visits _ _ _, map_entity_visits _ _ _⟩, ?_, ?_, ?_, ?_, ?_, ?_, ?_, ?_, ?_,
    ?_⟩
  · -- one run of matrices for each slot
    rw [← hjoints]
    exact (hlimited.sound_drafted w a).palette
  · -- one slot for each entity that was placed
    have htaken := taken_walk (hlimited.isAnimated_visit a) (f.sound_halfway w a) w.animatedMeshes
    rw [animatedInstances_halfway, Nat.zero_add] at htaken
    exact htaken
  · rw [← hslots]
    exact hlimited.taken_drafted_le w a
  · -- the run of a slot is the pose of its entity, at its clock
    intro k v hv
    obtain ⟨s, hs, hpose⟩ := hlimited.pose_of_placed hv
    refine ⟨s, hs, ?_⟩
    rw [hjoints] at hpose
    rw [palette_build, hpose, Skeleton.jointMatrices, ha.maxJoints_of_find? hpos hs]
  · -- the entity's records name the slot
    intro k v hv r hr
    obtain ⟨hanimated, -, -, hslot⟩ := hlimited.placed_spec hv
    rw [← hslot]
    exact hanimated.contributed r hr
  · -- and no others do
    intro k v hv
    rw [hinstances]
    exact hlimited.recordsOf_placed hv
  · intro v hv
    exact (f.isStatic_of_mem w a v hv).contributed
  · -- entities are left out for the reasons given, and then add nothing
    intro v hv
    rw [← hslots]
    exact (hmem v hv).1.skipped_iff
  · intro v hv
    exact (hmem v hv).1.contributed_of_skipped
  · rw [hinstances]
    exact hlimited.records_drafted w a

end Frame

/-- Assets that consist of a plain model with its skeleton, which has no bones. -/
def Assets.plain (c : RenderConfig) : Assets where
  models := (plainCall [0] [3]).models
  skeletons := ((Assets.empty c).skeletons.add "m.glb" (plainModel "m.glb" [0] [3])).value.2
  textures := (Assets.empty c).textures

/-- A world with two entities of a plain model, of which the second is animated. -/
def World.plain : World :=
  .ofResidents [
    ⟨⟨1⟩, { transform := some .identity, mesh := some ⟨"m.glb"⟩ }⟩,
    ⟨⟨2⟩, { transform := some .identity, mesh := some ⟨"m.glb"⟩, playback := some {} }⟩]

theorem Assets.madeFor_plain (c : RenderConfig) : (Assets.plain c).MadeFor c :=
  .posed (.exchanged .empty (plainCall [0] [3]).models _) "m.glb" (plainModel "m.glb" [0] [3])

namespace Frame

/-- The first frame of the defaults with one animated entity. -/
theorem first_build_allotsSlots :
    let c : RenderConfig := {}
    let g := ((Frame.empty c).build .plain (.plain c)).value.1
    1 ≤ c.maxJoints ∧ (Frame.empty c).MadeFor c ∧ (Assets.plain c).MadeFor c ∧
      g.stats.animatedInstances = 1 ∧
      g.AllotsSlots c .plain (.plain c) ((Frame.empty c).staticVisits .plain (.plain c))
        ((Frame.empty c).animatedVisits .plain (.plain c)) := by
  intro c g
  have hpos : 1 ≤ c.maxJoints := by decide
  have hf : (Frame.empty c).MadeFor c := .new
  have ha : (Assets.plain c).MadeFor c := Assets.madeFor_plain c
  have hone : g.stats.animatedInstances = 1 := by decide
  exact ⟨hpos, hf, ha, hone, allotsSlots_build hpos hf ha .plain⟩

end Frame

end SceneBatch
