import SceneBatch.Proofs.Batch.Units
import SceneBatch.Proofs.Device.Upload
import SceneBatch.Proofs.Frame.Walk

/-!
# Building frames

A frame is built by drafting the entities of a world, the static ones first. So whatever calls
preserve, of the batch and of the texture library, building preserves (`drafted_induction`). From
one world to the next a frame keeps nothing but the limits of its configuration, however many worlds
and uploads it has been through (`MadeFor.keepsOnly`).
-/

namespace SceneBatch

open Batch FrameDraft

namespace FrameDraft

variable {models : ModelLibrary} {d : FrameDraft} {ε : Type}
  {step : FrameDraft → ε → Logged FrameDraft} {wish : List (Mat4 Float32) → ε → Option Placement}

/-- What calls preserve, of the batch and of the texture library, a visit preserves. -/
theorem visitBy_induction {I : Batch → TextureLibrary → Prop} (hd : I d.batch d.textures)
    (calls : ∀ (b : Batch) (c : Call), c.models = models → I b c.textures →
      I (b.after c) (b.texturesAfter c)) (p : Option Placement) :
    I (d.visitBy models p).batch (d.visitBy models p).textures := by
  cases p with
  | none => exact hd
  | some p =>
      rw [visitBy, Option.bind_some]
      cases h : d.batch.answer (d.request models p) with
      | error fault =>
          -- the draft of a refused call is the one before it
          rw [place_of_error h]
          exact hd
      | ok _ =>
          rw [place_of_ok h]
          exact calls d.batch (d.request models p) rfl hd

theorem walk_induction {I : Batch → TextureLibrary → Prop} (hstep : Follows models step wish)
    (hd : I d.batch d.textures)
    (calls : ∀ (b : Batch) (c : Call), c.models = models → I b c.textures →
      I (b.after c) (b.texturesAfter c)) (es : List ε) :
    I (walk step d es).batch (walk step d es).textures := by
  induction es generalizing d with
  | nil => exact hd
  | cons e es ih =>
      rw [walk_cons]
      apply ih
      show I (step d e).value.batch (step d e).value.textures
      rw [hstep d e]
      exact visitBy_induction hd calls _

end FrameDraft

namespace Frame

/-! ### How frames come about -/

/-- Frames of a configuration: a new one, and what becomes of it by building and by uploads. -/
inductive MadeFor (c : RenderConfig) : Frame → Prop
  | new : MadeFor c (.empty c)
  | built {f : Frame} (hf : MadeFor c f) (w : World) (a : Assets) : MadeFor c (f.build w a).value.1
  | uploaded {f : Frame} (hf : MadeFor c f) (r : Renderer) (reader : PictureReader) (a : Assets)
      (uniforms : FrameUniforms) : MadeFor c (r.uploadFrame reader f a uniforms).value.2.2.1

/-- The draft that a frame is built from. -/
def start (f : Frame) (a : Assets) : FrameDraft where
  batch := f.batch.cleanUp
  textures := a.textures

variable (f : Frame) (w : World) (a : Assets)

/-- The visits of the models that stand still. -/
def staticVisits : List (Visit StaticMesh) := visits (addStatic a.models) (f.start a) w.staticMeshes

/-- The draft when these have been visited. -/
def halfway : FrameDraft := walk (addStatic a.models) (f.start a) w.staticMeshes

/-- The visits of the animated models. -/
def animatedVisits : List (Visit AnimatedMesh) :=
  visits (addAnimated a.models a.skeletons f.maxJoints f.paletteSlots) (f.halfway w a)
    w.animatedMeshes

/-- The draft when all entities have been visited. -/
def drafted : FrameDraft :=
  walk (addAnimated a.models a.skeletons f.maxJoints f.paletteSlots) (f.halfway w a)
    w.animatedMeshes

theorem palette_build : (f.build w a).value.1.palette = (f.drafted w a).palette := rfl

theorem draws_build : (f.build w a).value.1.draws = Draws.ofBatch (f.drafted w a).batch := rfl

variable {f w a} {c : RenderConfig}

/-! ### What drafting preserves -/

section Induction

variable {I : Batch → TextureLibrary → Prop} (w : World) (hstart : I f.batch.cleanUp a.textures)
  (calls : ∀ (b : Batch) (c : Call), c.models = a.models → I b c.textures →
    I (b.after c) (b.texturesAfter c))

include hstart calls

theorem halfway_induction : I (f.halfway w a).batch (f.halfway w a).textures :=
  walk_induction (follows_addStatic a.models) hstart calls w.staticMeshes

/-- What calls preserve, of the batch and of the texture library, the drafting of a frame
preserves. -/
theorem drafted_induction : I (f.drafted w a).batch (f.drafted w a).textures :=
  walk_induction (follows_addAnimated a.models a.skeletons f.maxJoints f.paletteSlots)
    (halfway_induction w hstart calls) calls w.animatedMeshes

end Induction

/-- All that drafting does to the texture library is to bind the textures of the batch. -/
theorem binds_drafted (f : Frame) (w : World) (a : Assets) :
    (f.drafted w a).batch.Binds a.models a.textures (f.drafted w a).textures := by
  refine drafted_induction (I := fun b textures => b.Binds a.models a.textures textures) w
    (binds_cleanUp a.models a.textures f.batch) ?_
  intro b c hc hb
  refine hb.after fun key => ?_
  -- calls of a draft find the models of the assets
  rw [hc]

/-! ### Frames of one configuration -/

/-- The frame that a draft becomes. -/
def finish (f : Frame) (lights : List LightRecord) (d : FrameDraft) : Frame :=
  { f with
    batch := d.batch
    palette := d.palette
    draws := Draws.ofBatch d.batch
    lights
    stats := { d.stats with
      lights := lights.length - 1
      entries := d.batch.entries.length
      commands := (Draws.ofBatch d.batch).commands.length
      instances := (Draws.ofBatch d.batch).instances.length
      triangles := (Draws.ofBatch d.batch).triangleCount } }

theorem build_value (f : Frame) (w : World) (a : Assets) :
    (f.build w a).value =
      (f.finish (collectLights w f.maxLights).value (f.drafted w a),
        { a with textures := (f.drafted w a).textures }) := rfl

/-- What a frame keeps from one world to the next is what its configuration says. -/
structure KeepsOnly (c : RenderConfig) (f : Frame) : Prop where
  batch : f.batch.cleanUp = (Frame.empty c).batch
  maxJoints : f.maxJoints = max c.maxJoints 1
  paletteSlots : f.paletteSlots = c.paletteSlots.toNat
  maxLights : f.maxLights = c.limits.lights.toNat
  sound : f.batch.Sound fun _ _ => True

theorem sound_drafted (f : Frame) (w : World) (a : Assets) :
    (f.drafted w a).batch.Sound fun _ _ => True :=
  drafted_induction (I := fun b _ => b.Sound fun _ _ => True) w (sound_cleanUp _ f.batch)
    fun _ _ _ hb => hb.after fun _ _ _ => trivial

theorem cleanUp_drafted (f : Frame) (w : World) (a : Assets) :
    (f.drafted w a).batch.cleanUp = f.batch.cleanUp := by
  refine drafted_induction (I := fun b _ => b.cleanUp = f.batch.cleanUp) w rfl ?_
  intro b c _ hb
  rw [cleanUp_after, hb]

theorem MadeFor.keepsOnly (hf : f.MadeFor c) : f.KeepsOnly c := by
  induction hf with
  | new => exact ⟨rfl, rfl, rfl, rfl, (Batch.Reached.empty _ _).sound⟩
  | @built f _ w a ih =>
      have hbatch := (cleanUp_drafted f w a).trans ih.batch
      exact ⟨hbatch, ih.maxJoints, ih.paletteSlots, ih.maxLights, sound_drafted f w a⟩
  | @uploaded f _ r reader a uniforms ih =>
      -- all that an upload does to a batch is to mark it clean
      have hsame : (r.uploadFrame reader f a uniforms).value.2.2.1.batch = f.batch ∨
          (r.uploadFrame reader f a uniforms).value.2.2.1.batch = f.batch.markClean :=
        f.batch.upload_eq_or ih.sound.aligned r reader f.draws a.textures uniforms f.palette
          f.lights
      refine ⟨?_, ih.maxJoints, ih.paletteSlots, ih.maxLights, ?_⟩
      · rcases hsame with h | h
        · rw [h]
          exact ih.batch
        · rw [h]
          exact ih.batch
      · rcases hsame with h | h
        · rw [h]
          exact ih.sound
        · rw [h]
          exact ih.sound.setDirty false

end Frame

end SceneBatch
