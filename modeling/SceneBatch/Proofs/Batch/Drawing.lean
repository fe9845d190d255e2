import SceneBatch.Proofs.Batch.Places
import SceneBatch.Proofs.Batch.Slots

/-!
# What the draws of a batch show

A device reads draws by numbers: a command's instances from the instance list, its indices from
the staged ones, and the vertices that they lead to (`Draws.expand?`). Without a batch, every root
node of every model would be drawn by itself, from its own decoded parts (`Call.draw?`).
`expand?_ofBatch` says that both show the same, up to order.

The proof follows the records. `keyed` lists them with their nodes: commits leave them alone and
calls add theirs (`keyed_afterAll`). What an instance shows depends on its record and its node
only (`Sound.expand?_eq`, `draw?_eq`).
-/

namespace SceneBatch

open Batch MeshPart

/-! ### Reading draws -/

/-- The vertices that one instance of a command reads. -/
def DrawCommand.read? (c : DrawCommand) (s : Staging) : Option (List Vertex) :=
  (List.range c.indexCount).mapM fun k => do
    let i ← s.indices[c.firstIndex + k]?
    s.vertex? (← (c.baseVertex + i).toNat?)

/-- The instances of a command, each with the vertices that it reads. -/
def DrawCommand.expand? (c : DrawCommand) (instances : List InstanceRecord) (s : Staging) :
    Option (List (InstanceRecord × List Vertex)) := do
  let vertices ← c.read? s
  (List.range c.instanceCount).mapM fun k => do
    return (← instances[c.firstInstance + k]?, vertices)

/-- The instances of all commands, each with the vertices that it reads. -/
def Draws.expand? (d : Draws) (s : Staging) : Option (List (InstanceRecord × List Vertex)) := do
  return (← d.commands.mapM fun c => c.expand? d.instances s).flatten

namespace Batch

/-- What a call draws without a batch: for every root node the record of the instance, with the
material that the node has in `b`, and the vertices that the parts of the node's mesh name. -/
def Call.draw? (c : Call) (b : Batch) : Option (List (InstanceRecord × List Vertex)) := do
  let m ← c.models.find? c.model
  c.roots.mapM fun (node, mesh) => do
    let parts ← (mesh.primitives.mapM fun p => MeshPart.decode m p b.maxJoints).toOption
    return (b.instanceOf m.document c.model c.transform c.animation node, ← meshStream? parts)

variable {origin : MeshKey → List MeshPart → Prop} {b b' : Batch} {c : Call}

/-! ### Records with their nodes -/

/-- The records of a batch with the nodes that they draw, in the order of the entries. -/
def keyed (b : Batch) : List (MeshKey × InstanceRecord) :=
  (b.entries.zip b.registry.slots).flatMap fun (e, slot) => slot.records.map (e.key, ·)

/-- The records that a call adds, with the nodes that they draw and their materials in `b`. -/
def Call.records (c : Call) (b : Batch) : List (MeshKey × InstanceRecord) :=
  match c.models.find? c.model with
  | none => []
  | some m => c.roots.map fun (node, _) =>
    (⟨c.model, node⟩, b.instanceOf m.document c.model c.transform c.animation node)

theorem keyed_committed {p : PendingEntry} (h : Committed b p b')
    (hslots : b.registry.slots.length = b.entries.length) : b'.keyed = b.keyed := by
  obtain ⟨material, hslots'⟩ := h.slots hslots
  rw [keyed, h.entries, hslots', List.zip_append hslots.symm, List.flatMap_append]
  exact List.append_nil _

theorem keyed_commitAll (hslots : b.registry.slots.length = b.entries.length)
    (textures : TextureLibrary) (pending : List PendingEntry) :
    (b.commitAll textures pending).keyed = b.keyed := by
  have hboth : (b.commitAll textures pending).registry.slots.length =
        (b.commitAll textures pending).entries.length ∧
      (b.commitAll textures pending).keyed = b.keyed := by
    refine commitAll_induction
      (I := fun b' => b'.registry.slots.length = b'.entries.length ∧ b'.keyed = b.keyed)
      ⟨hslots, rfl⟩ textures ?_
    rintro b' textures p - ⟨hslots', hkeyed⟩
    have hcommit := commit_spec b' textures p
    exact ⟨hcommit.length_slots hslots', (keyed_committed hcommit hslots').trans hkeyed⟩
  exact hboth.2

/-- A push adds one record. -/
theorem keyed_pushInstance (hslots : b.registry.slots.length = b.entries.length)
    (d : Gltf.Document) {name : String} (t : Transform) (animation : Int32) {node : Nat}
    (hkey : ⟨name, node⟩ ∈ b.keys) :
    (pushInstance d name t animation b node).keyed.Perm
      (b.keyed ++ [(⟨name, node⟩, b.instanceOf d name t animation node)]) := by
  cases h : b.place? ⟨name, node⟩ with
  | none => exact absurd hkey (place?_eq_none_iff.mp h)
  | some place =>
      obtain ⟨e, he, hekey⟩ := exists_of_place? h
      have hplace : place < b.registry.slots.length := by
        rw [hslots]
        exact (List.getElem?_eq_some_iff.mp he).1
      have hat : (b.entries.zip b.registry.slots)[place]? = some (e, b.registry.slots[place]) :=
        List.getElem?_zip_eq_some.mpr ⟨he, List.getElem?_eq_getElem hplace⟩
      rw [pushInstance_of_place h, keyed, InstanceRegistry.push, zip_modify]
      -- Only the run of this entry grows, by one record at its end.
      refine flatMap_modify_perm hat ?_
      rw [← hekey]
      exact List.map_append

/-- Pushes add their records. -/
theorem keyed_pushAll (hb : b.Sound origin) (d : Gltf.Document) {nodes : List Nat}
    (hkeys : ∀ node ∈ nodes, ⟨c.model, node⟩ ∈ b.keys) :
    (b.pushAll d c nodes).keyed.Perm
      (b.keyed ++ nodes.map fun node =>
        (⟨c.model, node⟩, b.instanceOf d c.model c.transform c.animation node)) := by
  induction nodes generalizing b with
  | nil => exact .of_eq (List.append_nil _).symm
  | cons node nodes ih =>
      have hpush := keyed_pushInstance hb.slots d c.transform c.animation
        (hkeys node List.mem_cons_self)
      have hkeys' : ∀ node' ∈ nodes,
          ⟨c.model, node'⟩ ∈ (pushInstance d c.model c.transform c.animation b node).keys := by
        intro node' hnode'
        rw [keys_pushInstance]
        exact hkeys node' (List.mem_cons_of_mem node hnode')
      have hrest := ih (hb.pushInstance d c.model c.transform c.animation node) hkeys'
      -- the later records have the materials of `b`, since pushes bind no textures
      simp only [instanceOf_pushInstance] at hrest
      rw [List.map_cons, List.append_cons]
      exact hrest.trans (hpush.append_right _)

/-- The records of a call depend on a batch only for the materials of the nodes. -/
theorem records_congr (h : ∀ key ∈ c.keys, b.materialOf key = b'.materialOf key) :
    c.records b = c.records b' := by
  rw [Call.records, Call.records]
  cases c.models.find? c.model with
  | none => rfl
  | some m =>
      apply List.map_congr_left
      rintro ⟨node, mesh⟩ hroot
      have hmaterial : b.materialOf ⟨c.model, node⟩ = b'.materialOf ⟨c.model, node⟩ :=
        h _ (List.mem_map_of_mem hroot)
      simp only [instanceOf, hmaterial]

theorem keyed_after_of_ok (hb : b.Sound fun _ _ => True) (h : b.answer c = .ok ()) :
    (b.after c).keyed.Perm (b.keyed ++ c.records (b.after c)) := by
  rcases call_spec b c with ⟨_, herror, -⟩ | ⟨m, pending, hm, hpending, hparts, -, hafter⟩
  · rw [h] at herror
    cases herror
  · have hcommitted : (b.commitAll c.textures pending).Sound fun _ _ => True := by
      refine commitAll_induction hb _ fun b' textures p hp hb' => ?_
      exact hb'.committed (commit_spec b' textures p) (isAligned_of_parts? (hparts p hp)) trivial
    -- every root node has an entry by now, so no push is without effect
    have hroots : ∀ node ∈ c.roots.map Prod.fst,
        ⟨c.model, node⟩ ∈ (b.commitAll c.textures pending).keys := by
      intro node hnode
      obtain ⟨root, hroot, rfl⟩ := List.mem_map.mp hnode
      have hkey : ⟨c.model, root.1⟩ ∈ c.keys := List.mem_map_of_mem hroot
      rw [keys_commitAll, hpending, ← keys_after_of_ok h]
      exact (mem_keys_after_of_ok h).mpr (.inr hkey)
    have hpushed := keyed_pushAll hcommitted m.document hroots
    rw [keyed_commitAll hb.slots] at hpushed
    -- materials were settled by the commits
    have hrecords : c.records (b.after c) = (c.roots.map Prod.fst).map fun node =>
        (⟨c.model, node⟩, (b.commitAll c.textures pending).instanceOf m.document c.model
          c.transform c.animation node) := by
      rw [Call.records, hm, List.map_map, hafter]
      refine List.map_congr_left fun root _ => ?_
      show (_, ((b.commitAll c.textures pending).pushAll m.document c _).instanceOf _ _ _ _ _) = _
      rw [instanceOf_pushAll]
      rfl
    rw [hrecords, hafter]
    exact hpushed

/-- The records of a batch are those that its calls added, up to order. -/
theorem keyed_afterAll (hb : b.Sound fun _ _ => True) (calls : List Call) :
    (b.afterAll calls).keyed.Perm
      (b.keyed ++ (b.accepted calls).flatMap fun c => c.records (b.afterAll calls)) := by
  induction calls generalizing b with
  | nil => exact .of_eq (List.append_nil _).symm
  | cons c cs ih =>
      cases h : b.answer c with
      | error fault =>
          rw [accepted_cons_of_error h, afterAll_cons_of_error h]
          exact ih hb
      | ok _ =>
          have hafter : (b.after c).Sound fun _ _ => True := hb.after fun _ _ _ => trivial
          -- the nodes of this call have their entries now, and later calls leave the materials be
          have hrecords : c.records (b.after c) = c.records ((b.after c).afterAll cs) := by
            refine records_congr fun key hkey => ?_
            rw [materialOf_afterAll hafter cs ((mem_keys_after_of_ok h).mpr (.inr hkey))]
          have hcall := keyed_after_of_ok hb h
          rw [hrecords] at hcall
          rw [afterAll_cons, accepted_cons_of_ok h, List.flatMap_cons, ← List.append_assoc]
          exact (ih hafter).trans (hcall.append_right _)

/-! ### What an instance shows -/

/-- The vertices that an instance of a node shows. -/
def streamOf (models : ModelLibrary) (maxJoints : Nat) (key : MeshKey) : List Vertex :=
  ((parts? models maxJoints key).bind meshStream?).getD []

end Batch

/-- A command that draws a staged entry reads the vertices that the parts of the mesh name. -/
theorem DrawCommand.IsOf.read?_eq {c : DrawCommand} {instances : List InstanceRecord}
    {e : MeshEntry} {records : List InstanceRecord} {s : Staging} {parts : List MeshPart}
    (h : c.IsOf instances e records) (hstages : e.Stages s parts) :
    c.read? s = meshStream? parts := by
  obtain ⟨vertices, hvertices, hread⟩ := hstages.stream
  rw [hvertices, ← hread, read?, h.indexCount, hstages.indexCount]
  apply mapM_range
  intro k i hi
  rw [h.firstIndex, h.baseVertex, hstages.indices k i hi]
  rfl

/-- A command finds the records of its entry one by one. -/
theorem DrawCommand.IsOf.expand?_eq {c : DrawCommand} {instances : List InstanceRecord}
    {e : MeshEntry} {records : List InstanceRecord} {s : Staging} {vertices : List Vertex}
    (h : c.IsOf instances e records) (hcount : records.length = e.instanceCount)
    (hread : c.read? s = some vertices) :
    c.expand? instances s = some (records.map (·, vertices)) := by
  have hlength : records.length = c.instanceCount := hcount.trans h.instanceCount.symm
  rw [expand?, hread, ← hlength]
  show (List.range records.length).mapM _ = some (records.map (·, vertices))
  rw [mapM_range (g := fun record => some (record, vertices))]
  · exact List.mapM_pure
  · intro k record hk
    -- Instance `k` of the run is record `k` of the entry.
    have hinstance : instances[c.firstInstance + k]? = some record := by
      rw [← h.run, List.getElem?_take, List.getElem?_drop] at hk
      split at hk
      · exact hk
      · cases hk
    rw [hinstance]
    rfl

namespace Batch

variable {models : ModelLibrary} {origin : MeshKey → List MeshPart → Prop} {b b' : Batch}
  {c : Call}

theorem meshStream?_eq_streamOf {maxJoints : Nat} {key : MeshKey} {parts : List MeshPart}
    (h : parts? models maxJoints key = some parts) :
    meshStream? parts = some (streamOf models maxJoints key) := by
  obtain ⟨vertices, hvertices⟩ := Option.isSome_iff_exists.mp
    (meshStream?_isSome (isAligned_of_parts? h))
  rw [streamOf, h, Option.bind_some, hvertices]
  rfl

theorem Sound.keyed_eq (h : b.Sound origin) :
    b.keyed = b.listing.flatMap fun (e, records) => records.map (e.key, ·) := by
  rw [h.listing_eq, List.flatMap_map]
  rfl

/-- The draws of a batch show each record with the vertices of its node. -/
theorem Sound.expand?_eq
    (h : b.Sound fun key parts => parts? models b.maxJoints key = some parts) :
    (Draws.ofBatch b).expand? b.staging =
      some (b.keyed.map fun (key, record) => (record, streamOf models b.maxJoints key)) := by
  have hcommands : (Draws.ofBatch b).commands.mapM
      (fun c => c.expand? (Draws.ofBatch b).instances b.staging) =
      some (b.drawn.map fun (e, records) =>
        records.map (·, streamOf models b.maxJoints e.key)) := by
    -- pair by pair, so that each entry is known to be one of the batch
    obtain ⟨hlength, hdraws⟩ := List.forall₂_iff_zip.mp h.isOf_drawn
    rw [mapM_eq_some_iff, List.forall₂_map_right_iff, List.forall₂_iff_zip]
    refine ⟨hlength, ?_⟩
    rintro command ⟨e, records⟩ hmem
    have hdrawn : (e, records) ∈ b.drawn := (List.of_mem_zip hmem).2
    obtain ⟨parts, hparts, hstages⟩ := h.stages e (mem_entries_of_mem_drawn hdrawn)
    have hread := (hdraws hmem).read?_eq hstages
    rw [meshStream?_eq_streamOf hparts] at hread
    exact (hdraws hmem).expand?_eq (h.length_of_mem_drawn _ hdrawn) hread
  rw [Draws.expand?, hcommands, h.keyed_eq]
  show some (b.drawn.map _).flatten = _
  rw [← List.flatMap_def, flatMap_drawn fun _ => rfl, List.map_flatMap]
  simp only [List.map_map]
  rfl

/-- A call that finds its model draws its records, each with the vertices of its node. -/
theorem draw?_eq (h : b.Sound fun key parts => parts? c.models b.maxJoints key = some parts)
    {m : Model} (hm : c.models.find? c.model = some m) (hkeys : ∀ key ∈ c.keys, key ∈ b.keys) :
    c.draw? b =
      some ((c.records b).map fun (key, record) =>
        (record, streamOf c.models b.maxJoints key)) := by
  rw [Call.draw?, Call.records, hm]
  show c.roots.mapM _ = some _
  rw [mapM_eq_some_iff, List.map_map, List.forall₂_map_right_iff, List.forall₂_same]
  rintro ⟨node, mesh⟩ hroot
  obtain ⟨e, he, hkey⟩ := List.mem_map.mp (hkeys ⟨c.model, node⟩ (List.mem_map_of_mem hroot))
  obtain ⟨parts, hparts, -⟩ := h.stages e he
  rw [hkey] at hparts
  -- decoding the node once more gives the parts that were staged
  have hdecode : (mesh.primitives.mapM fun p => MeshPart.decode m p b.maxJoints).toOption =
      some parts := by
    rw [← hparts, parts?, hm]
    show _ = (nodeMesh? m.document node).bind _
    rw [nodeMesh?_of_mem_roots hm hroot]
    rfl
  show Option.bind _ _ = _
  rw [hdecode]
  show Option.bind (meshStream? parts) _ = _
  rw [meshStream?_eq_streamOf hparts]
  rfl

/-- Drawing a batch is drawing every root node of every model that was added, each from its own
parts. -/
theorem expand?_ofBatch (models : ModelLibrary) (b₀ : Batch) (requests : List Request) :
    let calls : List Call := requests.map fun r => { r with models }
    let b := b₀.cleanUp.afterAll calls
    ∃ drawn naive,
      (Draws.ofBatch b).expand? b.staging = some drawn ∧
      (b₀.cleanUp.accepted calls).mapM (fun c => c.draw? b) = some naive ∧
      drawn.Perm naive.flatten := by
  intro calls b
  have hmodels : ∀ c ∈ calls, c.models = models := by
    intro c hc
    obtain ⟨r, -, rfl⟩ := List.mem_map.mp hc
    rfl
  have hsound : b.Sound fun key parts => parts? models b.maxJoints key = some parts := by
    refine (sound_cleanUp _ b₀).afterAll fun c hc key parts hparts => ?_
    rw [hmodels c hc] at hparts
    rw [maxJoints_afterAll]
    exact hparts
  have hrecords := keyed_afterAll (sound_cleanUp _ b₀) calls
  have hnaive : ∀ c ∈ b₀.cleanUp.accepted calls, c.draw? b =
      some ((c.records b).map fun (key, record) =>
        (record, streamOf models b.maxJoints key)) := by
    intro c hc
    have hfound := hmodels c ((accepted_sublist _ _).subset hc)
    obtain ⟨m, hm⟩ := exists_model_of_mem_accepted hc
    have hkeys : ∀ key ∈ c.keys, key ∈ b.keys := fun key hkey =>
      (mem_keys_afterAll b₀.cleanUp calls).mpr (.inr (List.mem_flatMap.mpr ⟨c, hc, hkey⟩))
    rw [← hfound] at hsound ⊢
    exact draw?_eq hsound hm hkeys
  -- both sides are the records with their nodes, each record with the vertices of its node
  refine ⟨_, (b₀.cleanUp.accepted calls).map fun c => (c.records b).map fun (key, record) =>
    (record, streamOf models b.maxJoints key), hsound.expand?_eq, ?_, ?_⟩
  · rw [mapM_eq_some_iff, List.forall₂_map_right_iff, List.forall₂_same]
    exact hnaive
  · rw [← List.flatMap_def, ← List.map_flatMap]
    exact hrecords.map _

end Batch

end SceneBatch
