import SceneBatch.Proofs.Device.Contents
import SceneBatch.Proofs.Frame.Palette

/-!
# Sessions

An upload leaves out the geometry of a batch that is clean. It may do so because a clean batch has
its staging arrays on the device (`InSync`): a batch becomes clean by an upload that writes them, or
by starting over, and then it has none until a model is added, which makes it dirty. This holds in
every session of one frame and one renderer, however builds and uploads follow each other
(`Session.inSync`), so after an upload that is taken the buffers hold the current frame and nothing
else is drawn (`upload_showsFrame`).
-/

namespace SceneBatch

open Batch

/-! ### Passes -/

theorem PassCommand.executed_append (xs ys : List PassCommand) :
    executed (xs ++ ys) = executed xs ++ executed ys := List.flatMap_append

theorem PassCommand.executed_map {α : Type} (f : α → PassCommand) (xs : List α) :
    executed (xs.map f) = xs.flatMap fun x => executed [f x] := by
  rw [executed, List.flatMap_map]
  apply List.flatMap_congr
  intro x _
  exact (List.append_nil _).symm

theorem DispatchPlan.ofCommands_of_two_le {count : Nat} {multiDraw : Bool} (h : 2 ≤ count) :
    ofCommands count multiDraw = if multiDraw then multi count else sequential count := by
  match count, h with
  | _ + 2, _ => rfl

namespace Renderer

open PassCommand

/-- A pass executes the commands that were uploaded, each once and in their order, however they are
submitted. -/
theorem executed_render {r : Renderer} {commands : List DrawCommand}
    (hcount : r.buffers.capacity.drawCount = commands.length)
    (hnarrow : ∀ c ∈ commands, c.IsNarrow)
    (hmemory : DeviceRecord.encodeAll commands <+: r.buffers.memory .commands) :
    executed r.render = commands.map DrawCommand.stored := by
  -- one submission executes the commands that stand in the buffer where it points to
  have hdraw : ∀ first count, first + count ≤ commands.length →
      executed [r.drawFrom first count] =
        ((commands.drop first).take count).map DrawCommand.stored := by
    intro first count hfits
    rw [← BufferMemory.commandsAt_eq hnarrow hmemory hfits]
    exact List.append_nil _
  have hbind : executed bindCommands = [] := rfl
  have hdraws : executed r.drawCommands = commands.map DrawCommand.stored := by
    rw [drawCommands, plan, hcount]
    cases commands with
    | nil => rfl
    | cons c cs =>
        cases cs with
        | nil => exact hdraw 0 1 (by simp)
        | cons c' cs =>
            rw [DispatchPlan.ofCommands_of_two_le (by simp)]
            cases r.multiDraw with
            | true =>
                have hall := hdraw 0 (c :: c' :: cs).length (by simp)
                rw [List.drop_zero, List.take_length] at hall
                exact hall
            | false =>
                -- a submission for each command
                show executed ((List.range _).map fun i => r.drawFrom i 1) = _
                conv_rhs => rw [← flatMap_range_take_drop (c :: c' :: cs), List.map_flatMap]
                rw [executed_map]
                apply List.flatMap_congr
                intro i hi
                exact hdraw i 1 (Nat.succ_le_of_lt (List.mem_range.mp hi))
  rw [render]
  split
  · next hnothing =>
    rw [← hdraws, drawCommands, hnothing]
  · rw [executed_append, hbind, List.nil_append, hdraws]

end Renderer

/-! ### Sessions -/

/-- A frame and a renderer of one configuration that are used together: worlds are built and
uploads are made, in any order. Assets, readers and cameras may be others each time. -/
inductive Session (c : RenderConfig) : Frame → Renderer → Prop
  | new (multiDraw : Bool) : Session c (.empty c) (Renderer.ofConfig c multiDraw).value
  | built {f : Frame} {r : Renderer} (h : Session c f r) (w : World) (a : Assets) :
      Session c (f.build w a).value.1 r
  | uploaded {f : Frame} {r : Renderer} (h : Session c f r) (reader : PictureReader) (a : Assets)
      (uniforms : FrameUniforms) :
      Session c (r.uploadFrame reader f a uniforms).value.2.2.1
        (r.uploadFrame reader f a uniforms).value.2.1

/-- The device has what the frame takes it to have: the draws are those of the batch, and if the
batch is clean then its staging arrays stand in their buffers. -/
structure InSync (c : RenderConfig) (f : Frame) (r : Renderer) : Prop where
  sound : f.batch.Sound fun _ _ => True
  draws : f.draws = Draws.ofBatch f.batch
  room : r.buffers.capacity.elements = (Capacity.ofConfig c).elements
  geometry : f.batch.isDirty = false →
    ∀ role, f.batch.staging.bytes role <+: r.buffers.memory role
  fits : f.batch.isDirty = false →
    f.batch.staging.vertexCount ≤ c.limits.vertices.toNat ∧
      f.batch.staging.indices.length ≤ c.limits.indices.toNat

/-- A batch that was not added to since it was cleaned has nothing to be drawn. -/
theorem Frame.staging_drafted (f : Frame) (w : World) (a : Assets)
    (hclean : (f.drafted w a).batch.isDirty = false) : (f.drafted w a).batch.staging = {} := by
  have hall : (f.drafted w a).batch.isDirty = false → (f.drafted w a).batch.staging = {} := by
    -- a call that succeeds marks the batch dirty
    refine drafted_induction (I := fun b _ => b.isDirty = false → b.staging = {}) w
      (fun _ => rfl) ?_
    intro b call _ hb
    rcases call_cases b call with ⟨_, -, hsame⟩ | ⟨m, pending, -, -, -, hafter⟩
    · rw [hsame]
      exact hb
    · intro hdirty
      rw [hafter] at hdirty
      cases hdirty
  exact hall hclean

variable {c : RenderConfig} {f : Frame} {r : Renderer}

theorem InSync.built (h : InSync c f r) (w : World) (a : Assets) :
    InSync c (f.build w a).value.1 r where
  sound := f.sound_drafted w a
  draws := rfl
  room := h.room
  geometry hclean role := by
    have hstaging : (f.build w a).value.1.batch.staging = {} := f.staging_drafted w a hclean
    rw [hstaging, Staging.bytes_empty]
    exact List.nil_prefix
  fits hclean := by
    have hstaging : (f.build w a).value.1.batch.staging = {} := f.staging_drafted w a hclean
    rw [hstaging]
    exact ⟨Nat.zero_le _, Nat.zero_le _⟩

/-- A frame that is taken is on the device as a whole. -/
theorem InSync.upload_of_fits (h : InSync c f r) (reader : PictureReader) (a : Assets)
    (uniforms : FrameUniforms)
    (hfits : FrameFits r.buffers.capacity.elements f.batch f.draws f.palette f.lights) :
    let after := (r.uploadFrame reader f a uniforms).value
    after.1.result = .ok () ∧ after.2.2.1 = { f with batch := f.batch.markClean } ∧
      after.2.1.buffers.capacity =
        { r.buffers.capacity with drawCount := f.draws.commands.length } ∧
      after.2.1.buffers.memory = r.buffers.memory.writeAll (f.writes uniforms) := by
  have hupload := r.upload_eq_of_fits reader a.textures uniforms h.sound.aligned hfits
  simp only [Renderer.uploadFrame, Logged.bind_value, Logged.pure_value, hupload]
  exact ⟨trivial, trivial, trivial, rfl⟩

/-- Geometry that the device has, or that there is room for, fits into the buffers. -/
theorem InSync.geometry_fits (h : InSync c f r)
    (hfits : f.batch.Fits f.draws r.buffers.capacity.elements) :
    f.batch.staging.vertexCount ≤ c.limits.vertices.toNat ∧
      f.batch.staging.indices.length ≤ c.limits.indices.toNat := by
  cases hdirty : f.batch.isDirty with
  | false => exact h.fits hdirty
  | true =>
      have hvertices := hfits.vertices hdirty
      have hindices := hfits.indices hdirty
      rw [h.room] at hvertices hindices
      exact ⟨hvertices, hindices⟩

theorem InSync.prefix_memory (h : InSync c f r) (uniforms : FrameUniforms) (role : BufferRole) :
    f.bytes uniforms role <+: r.buffers.memory.writeAll (f.writes uniforms) role :=
  BufferMemory.prefix_writeAll (fun _ => Frame.data_of_mem_writes)
    (Frame.prefix_or_written h.sound h.geometry role)

theorem InSync.uploaded (h : InSync c f r) (reader : PictureReader) (a : Assets)
    (uniforms : FrameUniforms) :
    InSync c (r.uploadFrame reader f a uniforms).value.2.2.1
      (r.uploadFrame reader f a uniforms).value.2.1 := by
  by_cases hfits : FrameFits r.buffers.capacity.elements f.batch f.draws f.palette f.lights
  · obtain ⟨-, hframe, hcapacity, hmemory⟩ := h.upload_of_fits reader a uniforms hfits
    rw [hframe]
    refine ⟨h.sound.setDirty false, h.draws, ?_, fun _ role => ?_, fun _ => ?_⟩
    · rw [hcapacity]
      exact h.room
    · rw [hmemory]
      exact (Frame.prefix_bytes f uniforms role).trans (h.prefix_memory uniforms role)
    · exact h.geometry_fits hfits.batch
  · -- nothing is written but uniforms, and the batch stays as it is
    obtain ⟨fault, layers, textures, library, hupload⟩ :=
      r.upload_of_not_fits reader a.textures uniforms h.sound.aligned hfits
    simp only [Renderer.uploadFrame, Logged.bind_value, Logged.pure_value, hupload]
    refine ⟨h.sound, h.draws, h.room, fun hclean role => ?_, h.fits⟩
    by_cases hrole : role = .uniforms
    · subst hrole
      exact List.nil_prefix
    · have hsame : (r.buffers.memory.writeAll (Capacity.uploadUniforms uniforms)) role =
          r.buffers.memory role := BufferMemory.write_of_ne hrole
      show _ <+: (r.buffers.memory.writeAll (Capacity.uploadUniforms uniforms)) role
      rw [hsame]
      exact h.geometry hclean role

theorem Session.inSync (h : Session c f r) : InSync c f r := by
  induction h with
  | new multiDraw =>
      -- nothing is on the device yet, and an empty batch has no geometry to be there
      have hroom : (Renderer.ofConfig c multiDraw).value.buffers = .ofConfig c := by
        cases multiDraw <;> rfl
      refine ⟨(Batch.Reached.empty _ _).sound, rfl, ?_, fun _ role => ?_, fun _ => ?_⟩
      · rw [hroom]
        rfl
      · show ({} : Staging).bytes role <+: _
        rw [Staging.bytes_empty]
        exact List.nil_prefix
      · exact ⟨Nat.zero_le _, Nat.zero_le _⟩
  | built _ w a ih => exact ih.built w a
  | uploaded _ reader a uniforms ih => exact ih.uploaded reader a uniforms

/-! ### What is drawn -/

/-- The numbers of commands fit into 32 bits if those of all that they draw do. -/
theorem Batch.Sound.isNarrow {b : Batch} {origin : MeshKey → List MeshPart → Prop}
    (h : b.Sound origin) (hindices : b.staging.indices.length < UInt32.size)
    (hinstances : (Draws.ofBatch b).instances.length < UInt32.size) :
    ∀ command ∈ (Draws.ofBatch b).commands, command.IsNarrow := by
  intro command hcommand
  obtain ⟨hindex, -, hinstance⟩ := h.bounds_of_mem_commands hcommand
  rw [h.allots.instanceCount] at hinstances
  exact ⟨by omega, by omega, by omega, by omega⟩

/-- A frame is on the device: its buffers begin with all that the frame consists of, and passes
execute the frame's commands. A first vertex past what 32 bits with a sign can tell is stored as
another number. -/
structure ShowsFrame (f : Frame) (uniforms : FrameUniforms) (r : Renderer) : Prop where
  draws : f.draws = Draws.ofBatch f.batch
  buffers : ∀ role, f.bytes uniforms role <+: r.buffers.memory role
  executed : PassCommand.executed r.render = f.draws.commands.map DrawCommand.stored
  executed_eq : f.batch.staging.vertexCount < 2147483648 →
    PassCommand.executed r.render = f.draws.commands

/-- In every session, an upload that is taken puts the whole current frame on the device. -/
theorem upload_showsFrame (h : Session c f r) (reader : PictureReader) (a : Assets)
    (uniforms : FrameUniforms)
    (hok : (r.uploadFrame reader f a uniforms).value.1.result = .ok ()) :
    ShowsFrame (r.uploadFrame reader f a uniforms).value.2.2.1 uniforms
      (r.uploadFrame reader f a uniforms).value.2.1 := by
  have hsync := h.inSync
  -- an upload that is taken had room for the whole frame
  have hfits : FrameFits r.buffers.capacity.elements f.batch f.draws f.palette f.lights := by
    by_contra hnot
    obtain ⟨fault, layers, textures, library, hupload⟩ :=
      r.upload_of_not_fits reader a.textures uniforms hsync.sound.aligned hnot
    simp only [Renderer.uploadFrame, Logged.bind_value, Logged.pure_value, hupload] at hok
    cases hok
  obtain ⟨-, hframe, hcapacity, hmemory⟩ := hsync.upload_of_fits reader a uniforms hfits
  have hbuffers : ∀ role, f.bytes uniforms role <+:
      (r.uploadFrame reader f a uniforms).value.2.1.buffers.memory role := by
    intro role
    rw [hmemory]
    exact hsync.prefix_memory uniforms role
  -- what the limits allow fits into the 32 bits of a command's fields
  have hnarrow : ∀ command ∈ f.draws.commands, command.IsNarrow := by
    have hindices := (hsync.geometry_fits hfits.batch).2
    have hinstances := hfits.batch.instances
    have hlimits := c.limits.indices.toNat_lt
    have hlimits' := c.limits.instances.toNat_lt
    rw [hsync.room] at hinstances
    rw [hsync.draws] at hinstances ⊢
    change _ ≤ c.limits.instances.toNat at hinstances
    apply hsync.sound.isNarrow
    · exact Nat.lt_of_le_of_lt hindices hlimits
    · exact Nat.lt_of_le_of_lt hinstances hlimits'
  have hexecuted := Renderer.executed_render (congrArg (·.drawCount) hcapacity) hnarrow
    (hbuffers .commands)
  rw [hframe]
  refine ⟨hsync.draws, hbuffers, hexecuted, fun hvertices => ?_⟩
  rw [hexecuted]
  -- a command is stored as it is if its first vertex fits into 31 bits
  conv_rhs => rw [← List.map_id f.draws.commands]
  apply List.map_congr_left
  intro command hcommand
  rw [hsync.draws] at hcommand
  obtain ⟨-, ⟨hnonneg, hle⟩, -⟩ := hsync.sound.bounds_of_mem_commands hcommand
  change f.batch.staging.vertexCount < 2147483648 at hvertices
  exact DrawCommand.stored_eq hnonneg (by omega)

/-- A plain frame of the defaults that is uploaded twice: the second upload leaves the geometry
out. -/
theorem second_upload_showsFrame :
    let c : RenderConfig := {}
    let uniforms : FrameUniforms := .new .identity .identity .zero 20
    let f := ((Frame.empty c).build .plain (.plain c)).value.1
    let first :=
      ((Renderer.ofConfig c false).value.uploadFrame .empty f (.plain c) uniforms).value
    Session c first.2.2.1 first.2.1 ∧ first.2.2.1.batch.isDirty = false ∧
      first.2.2.1.draws.commands.length = 1 ∧
      (first.2.1.uploadFrame .empty first.2.2.1 (.plain c) uniforms).value.1.result = .ok () ∧
      ShowsFrame (first.2.1.uploadFrame .empty first.2.2.1 (.plain c) uniforms).value.2.2.1
        uniforms (first.2.1.uploadFrame .empty first.2.2.1 (.plain c) uniforms).value.2.1 := by
  intro c uniforms f first
  have hsession : Session c first.2.2.1 first.2.1 :=
    .uploaded (.built (.new false) .plain (.plain c)) .empty (.plain c) uniforms
  have hclean : first.2.2.1.batch.isDirty = false := by decide
  have hone : first.2.2.1.draws.commands.length = 1 := by decide
  -- the frame fits the buffers of the defaults
  have hfits : FrameFits first.2.1.buffers.capacity.elements first.2.2.1.batch first.2.2.1.draws
      first.2.2.1.palette first.2.2.1.lights :=
    ⟨⟨by decide, by decide, by decide, by decide, by decide⟩, by decide, by decide⟩
  have hok := (hsession.inSync.upload_of_fits .empty (.plain c) uniforms hfits).1
  exact ⟨hsession, hclean, hone, hok,
    upload_showsFrame hsession .empty (.plain c) uniforms hok⟩

end SceneBatch
