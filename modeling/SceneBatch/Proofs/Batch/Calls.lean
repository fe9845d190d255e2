import SceneBatch.Proofs.Batch.Growth

/-!
# Calls

A call that adds a model is a run of commits and then a run of pushes, or it changes nothing
(`call_cases`). What commits and pushes preserve, every call preserves: `addModel_induction` says so
of the batch together with the texture library, and `call_induction` of the batch alone.
-/

namespace SceneBatch

open MeshPart

namespace Logged

theorem foldlM_value {α β : Type} (f : β → α → Logged β) (xs : List α) (b : β) :
    (xs.foldlM f b).value = xs.foldl (fun b x => (f b x).value) b := by
  induction xs generalizing b with
  | nil => rfl
  | cons x xs ih => rw [List.foldlM_cons, bind_value, ih, List.foldl_cons]

end Logged

namespace Batch

/-- A request for an instance of a model, and the textures that it finds. -/
structure Request where
  model : String
  transform : Transform
  animation : Int32
  textures : TextureLibrary

/-- A request with the models that it finds. -/
structure Call extends Request where
  models : ModelLibrary

/-- The mesh of a node. -/
def nodeMesh? (d : Gltf.Document) (node : Nat) : Option Gltf.Mesh := do
  d.meshes[← (d.node node).mesh]?

/-- Some nodes with their meshes, without those that have none. -/
def withMeshes (d : Gltf.Document) (nodes : List Nat) : List (Nat × Gltf.Mesh) :=
  nodes.filterMap fun node => (nodeMesh? d node).map (node, ·)

/-- What is drawn of some nodes are those that have a mesh. -/
theorem meshNodes_eq_withMeshes (d : Gltf.Document) (nodes : List Nat) :
    meshNodes d nodes = withMeshes d nodes := by
  rw [meshNodes, withMeshes]
  congr 1
  funext node
  rw [nodeMesh?]
  cases (d.node node).mesh with
  | none => rfl
  | some i =>
      show (d.meshes[i]?).bind (fun mesh => some (node, mesh)) = (d.meshes[i]?).map (node, ·)
      rw [Option.map_eq_bind]
      rfl

namespace Call

/-- The root nodes with a mesh in the default scene of the model that is asked for. -/
def roots (c : Call) : List (Nat × Gltf.Mesh) :=
  match c.models.find? c.model with
  | none => []
  | some m => withMeshes m.document (m.document.defaultRoots?.getD [])

/-- The nodes that a call draws, as often as they are roots. -/
def keys (c : Call) : List MeshKey := c.roots.map fun (node, _) => ⟨c.model, node⟩

end Call

variable {b : Batch}

/-- What a call answers. -/
def answer (b : Batch) (c : Call) : Except Fault Unit :=
  (b.addModel c.models c.model c.transform c.animation c.textures).value.1

/-- The batch after a call. -/
def after (b : Batch) (c : Call) : Batch :=
  (b.addModel c.models c.model c.transform c.animation c.textures).value.2.1

/-- The texture library after a call. -/
def texturesAfter (b : Batch) (c : Call) : TextureLibrary :=
  (b.addModel c.models c.model c.transform c.animation c.textures).value.2.2

/-- Commit decoded nodes in order. -/
def commitAll (b : Batch) (textures : TextureLibrary) (pending : List PendingEntry) : Batch :=
  (pending.foldl (fun state p => (commit state p).value) (b, textures)).1

/-- Push an instance onto each of some nodes. -/
def pushAll (b : Batch) (d : Gltf.Document) (c : Call) (nodes : List Nat) : Batch :=
  nodes.foldl (pushInstance d c.model c.transform c.animation) b

/-- What a call needs is planned from the model's default scene. -/
theorem plan_eq_ok {c : Call} {planned : Model × List Nat × List PendingEntry}
    (h : b.plan c.models c.model = .ok planned) :
    c.models.find? c.model = some planned.1 ∧ planned.2.1 = c.roots.map Prod.fst ∧
      List.Forall₂
        (fun (node, mesh) p => decodeEntry planned.1 c.model b.maxJoints node mesh = .ok p)
        (c.roots.filter fun (node, _) => (b.place? ⟨c.model, node⟩).isNone) planned.2.2 := by
  obtain ⟨m, hm, h⟩ := exists_of_bind_eq_ok h
  have hfind : c.models.find? c.model = some m := by
    rw [ModelLibrary.get] at hm
    split at hm
    · next found hfound => cases hm; exact hfound
    · cases hm
  split at h
  · cases h
  · next roots hroots =>
    obtain ⟨pending, hpending, h⟩ := exists_of_bind_eq_ok h
    cases h
    -- the nodes that the program collects are those that the document has
    have hc : c.roots = meshNodes m.document roots := by
      simp only [Call.roots, hfind, hroots, Option.getD_some, meshNodes_eq_withMeshes]
    rw [hc]
    exact ⟨hfind, rfl, mapM_eq_ok_iff.mp hpending⟩

/-- What was planned is carried out: all commits, then all pushes. -/
theorem addModel_of_plan_eq_ok {c : Call} {m : Model} {nodes : List Nat}
    {pending : List PendingEntry} (h : b.plan c.models c.model = .ok (m, nodes, pending)) :
    (b.addModel c.models c.model c.transform c.animation c.textures).value =
      (.ok (),
        { (b.commitAll c.textures pending).pushAll m.document c nodes with isDirty := true },
        (pending.foldl (fun state p => (commit state p).value) (b, c.textures)).2) := by
  rw [addModel, h, Logged.bind_value, Logged.foldlM_value]
  rfl

/-- A call changes nothing, or it commits the root nodes that have no entry yet, all of which could
be decoded, and then pushes one instance for every root node. -/
theorem call_cases (b : Batch) (c : Call) :
    (∃ fault, b.answer c = .error fault ∧ b.after c = b) ∨
    ∃ m pending, c.models.find? c.model = some m ∧
      List.Forall₂ (fun (node, mesh) p => decodeEntry m c.model b.maxJoints node mesh = .ok p)
        (c.roots.filter fun (node, _) => (b.place? ⟨c.model, node⟩).isNone) pending ∧
      b.answer c = .ok () ∧
      b.after c =
        { (b.commitAll c.textures pending).pushAll m.document c (c.roots.map Prod.fst) with
          isDirty := true } := by
  cases hplan : b.plan c.models c.model with
  | error fault =>
      left
      exact ⟨fault, by rw [answer, addModel, hplan]; rfl, by rw [after, addModel, hplan]; rfl⟩
  | ok planned =>
      right
      obtain ⟨m, nodes, pending⟩ := planned
      obtain ⟨hm, rfl, hpending⟩ := plan_eq_ok hplan
      have hcall := addModel_of_plan_eq_ok hplan
      exact ⟨m, pending, hm, hpending, by rw [answer, hcall], by rw [after, hcall]⟩

/-! ### What calls preserve -/

/-- The parts of a node's mesh, if there is such a node and all of them can be decoded. -/
def parts? (models : ModelLibrary) (maxJoints : Nat) (key : MeshKey) : Option (List MeshPart) := do
  let m ← models.find? key.model
  let mesh ← nodeMesh? m.document key.node
  (mesh.primitives.mapM fun p => MeshPart.decode m p maxJoints).toOption

/-- The parts of a node are the decoded primitives of its mesh. -/
theorem exists_decode_of_parts? {models : ModelLibrary} {maxJoints : Nat} {key : MeshKey}
    {parts : List MeshPart} (h : parts? models maxJoints key = some parts) :
    ∃ m mesh, models.find? key.model = some m ∧ nodeMesh? m.document key.node = some mesh ∧
      List.Forall₂ (fun p part => decode m p maxJoints = .ok part) mesh.primitives parts := by
  obtain ⟨m, hm, h⟩ := Option.bind_eq_some_iff.mp h
  obtain ⟨mesh, hmesh, h⟩ := Option.bind_eq_some_iff.mp h
  refine ⟨m, mesh, hm, hmesh, mapM_eq_ok_iff.mp ?_⟩
  -- A part that fails would leave the mesh without parts.
  cases hdecode : mesh.primitives.mapM fun p => decode m p maxJoints with
  | error fault =>
      rw [hdecode] at h
      cases h
  | ok parts' =>
      rw [hdecode] at h
      cases h
      rfl

/-- The base color of a node's mesh: that of the first of its primitives that has one. -/
def baseColor? (models : ModelLibrary) (key : MeshKey) : Option String := do
  let m ← models.find? key.model
  let mesh ← nodeMesh? m.document key.node
  mesh.primitives.findSome? m.baseColorTexture?

theorem isAligned_of_parts? {models : ModelLibrary} {maxJoints : Nat} {key : MeshKey}
    {parts : List MeshPart} (h : parts? models maxJoints key = some parts) :
    ∀ p ∈ parts, p.IsAligned := by
  obtain ⟨m, mesh, -, -, hdecode⟩ := exists_decode_of_parts? h
  intro p hp
  obtain ⟨primitive, -, hp⟩ := exists_mem_of_forall₂ hdecode.flip hp
  exact decode_isAligned hp

theorem nodeMesh?_of_mem_roots {c : Call} {m : Model} (hm : c.models.find? c.model = some m)
    {node : Nat} {mesh : Gltf.Mesh} (h : (node, mesh) ∈ c.roots) :
    nodeMesh? m.document node = some mesh := by
  simp only [Call.roots, hm] at h
  obtain ⟨root, -, h⟩ := List.mem_filterMap.mp h
  obtain ⟨mesh', hmesh, h⟩ := Option.map_eq_some_iff.mp h
  cases h
  exact hmesh

/-- A decoded root node consists of the parts of the node's mesh. -/
theorem parts?_of_decodeEntry {c : Call} {m : Model} {maxJoints node : Nat} {mesh : Gltf.Mesh}
    {p : PendingEntry} (hm : c.models.find? c.model = some m) (hroot : (node, mesh) ∈ c.roots)
    (hp : decodeEntry m c.model maxJoints node mesh = .ok p) :
    p.key = ⟨c.model, node⟩ ∧ parts? c.models maxJoints p.key = some p.parts := by
  obtain ⟨parts, hparts, hp⟩ := exists_of_bind_eq_ok hp
  cases hp
  refine ⟨rfl, ?_⟩
  simp only [parts?, hm, Option.bind_eq_bind, Option.bind_some,
    nodeMesh?_of_mem_roots hm hroot, hparts]
  rfl

/-- The texture of a decoded root node is the base color of the node's mesh. -/
theorem texture_of_decodeEntry {c : Call} {m : Model} {maxJoints node : Nat} {mesh : Gltf.Mesh}
    {p : PendingEntry} (hm : c.models.find? c.model = some m) (hroot : (node, mesh) ∈ c.roots)
    (hp : decodeEntry m c.model maxJoints node mesh = .ok p) :
    p.texture = baseColor? c.models p.key := by
  obtain ⟨parts, -, hp⟩ := exists_of_bind_eq_ok hp
  cases hp
  simp only [baseColor?, hm, Option.bind_eq_bind, Option.bind_some,
    nodeMesh?_of_mem_roots hm hroot]

theorem parts?_of_forall₂ {c : Call} {m : Model} {maxJoints : Nat}
    {roots : List (Nat × Gltf.Mesh)} {pending : List PendingEntry}
    (hm : c.models.find? c.model = some m) (hroots : ∀ root ∈ roots, root ∈ c.roots)
    (h : List.Forall₂ (fun (node, mesh) p => decodeEntry m c.model maxJoints node mesh = .ok p)
      roots pending) :
    pending.map (·.key) = roots.map (fun (node, _) => ⟨c.model, node⟩) ∧
      ∀ p ∈ pending, parts? c.models maxJoints p.key = some p.parts := by
  induction h with
  | nil => exact ⟨rfl, fun p hp => absurd hp List.not_mem_nil⟩
  | cons hp _ ih =>
      obtain ⟨hkey, hparts⟩ := parts?_of_decodeEntry hm (hroots _ List.mem_cons_self) hp
      obtain ⟨hkeys, hrest⟩ := ih fun root hroot => hroots root (List.mem_cons_of_mem _ hroot)
      refine ⟨by rw [List.map_cons, List.map_cons, hkey, hkeys], fun q hq => ?_⟩
      rcases List.mem_cons.mp hq with rfl | hq
      · exact hparts
      · exact hrest q hq

/-- A call changes nothing, or it commits the nodes that it reaches for the first time, all of
which can be decoded, and then pushes one instance for every root node. -/
theorem call_spec (b : Batch) (c : Call) :
    (∃ fault, b.answer c = .error fault ∧ b.after c = b) ∨
    ∃ m pending, c.models.find? c.model = some m ∧
      pending.map (·.key) = c.keys.filter (· ∉ b.keys) ∧
      (∀ p ∈ pending, parts? c.models b.maxJoints p.key = some p.parts) ∧
      b.answer c = .ok () ∧
      b.after c =
        { (b.commitAll c.textures pending).pushAll m.document c (c.roots.map Prod.fst) with
          isDirty := true } := by
  rcases call_cases b c with hfail | ⟨m, pending, hm, hpending, hanswer, hafter⟩
  · exact .inl hfail
  · obtain ⟨hkeys, hparts⟩ := parts?_of_forall₂ hm (fun _ => List.mem_of_mem_filter) hpending
    refine .inr ⟨m, pending, hm, ?_, hparts, hanswer, hafter⟩
    -- a node has no place exactly when it is none of the keys
    rw [hkeys, Call.keys, List.filter_map]
    congr 1
    apply List.filter_congr
    intro root _
    show (b.place? ⟨c.model, root.1⟩).isNone = decide (⟨c.model, root.1⟩ ∉ b.keys)
    rw [Bool.eq_iff_iff, Option.isNone_iff_eq_none, place?_eq_none_iff, decide_eq_true_iff]

theorem commits_induction {I : Batch → TextureLibrary → Prop} {pending : List PendingEntry}
    (textures : TextureLibrary) (hb : I b textures)
    (commits : ∀ b' textures, ∀ p ∈ pending, I b' textures →
      I (commit (b', textures) p).value.1 (commit (b', textures) p).value.2) :
    let state := pending.foldl (fun state p => (commit state p).value) (b, textures)
    I state.1 state.2 := by
  induction pending generalizing b textures with
  | nil => exact hb
  | cons p ps ih =>
      exact ih _ (commits b textures p List.mem_cons_self hb)
        fun b' textures q hq => commits b' textures q (List.mem_cons_of_mem p hq)

theorem commitAll_induction {I : Batch → Prop} {pending : List PendingEntry} (hb : I b)
    (textures : TextureLibrary)
    (commits : ∀ b' textures, ∀ p ∈ pending, I b' → I (commit (b', textures) p).value.1) :
    I (b.commitAll textures pending) :=
  commits_induction (I := fun b' _ => I b') textures hb commits

theorem pushAll_induction {I : Batch → Prop} {d : Gltf.Document} {c : Call} (hb : I b)
    (nodes : List Nat)
    (pushes : ∀ b' node, I b' → I (pushInstance d c.model c.transform c.animation b' node)) :
    I (b.pushAll d c nodes) := by
  induction nodes generalizing b with
  | nil => exact hb
  | cons node nodes ih => exact ih (pushes b node hb)

/-- What every commit of a node and every push of an instance preserves, of the batch and of the
texture library, a call preserves. -/
theorem addModel_induction {I : Batch → TextureLibrary → Prop} {c : Call} (hb : I b c.textures)
    (commits : ∀ b' textures p, I b' textures → parts? c.models b.maxJoints p.key = some p.parts →
      p.texture = baseColor? c.models p.key →
      I (commit (b', textures) p).value.1 (commit (b', textures) p).value.2)
    (pushes : ∀ b' textures d node, I b' textures →
      I (pushInstance d c.model c.transform c.animation b' node) textures)
    (marks : ∀ b' textures, I b' textures → I { b' with isDirty := true } textures) :
    I (b.after c) (b.texturesAfter c) := by
  cases hplan : b.plan c.models c.model with
  | error fault =>
      rw [after, texturesAfter, addModel, hplan]
      exact hb
  | ok planned =>
      obtain ⟨m, nodes, pending⟩ := planned
      obtain ⟨hm, -, hpending⟩ := plan_eq_ok hplan
      rw [after, texturesAfter, addModel_of_plan_eq_ok hplan]
      apply marks
      refine pushAll_induction (I := fun b' => I b' _) ?_ nodes
        fun b' node => pushes b' _ m.document node
      apply commits_induction c.textures hb
      intro b' textures p hp hb'
      -- every node that is committed is a decoded root
      obtain ⟨root, hroot, hdecode⟩ := exists_mem_of_forall₂ hpending.flip hp
      have hmem := List.mem_of_mem_filter hroot
      exact commits b' textures p hb' (parts?_of_decodeEntry hm hmem hdecode).2
        (texture_of_decodeEntry hm hmem hdecode)

/-- What every commit of a node and every push of an instance preserves, a call preserves. -/
theorem call_induction {I : Batch → Prop} {c : Call} (hb : I b)
    (commits : ∀ b' textures p, I b' → parts? c.models b.maxJoints p.key = some p.parts →
      I (commit (b', textures) p).value.1)
    (pushes : ∀ b' d node, I b' → I (pushInstance d c.model c.transform c.animation b' node))
    (marks : ∀ b', I b' → I { b' with isDirty := true }) : I (b.after c) :=
  addModel_induction (I := fun b' _ => I b') hb
    (fun b' textures p hb' hparts _ => commits b' textures p hb' hparts)
    (fun b' _ => pushes b') fun b' _ => marks b'

/-! ### Plain models -/

/-- A model of one node that stands among the roots. Its mesh has a part for each number of
vertices, all at the origin, and without indices. -/
def plainModel (name : String) (roots counts : List Nat) : Model where
  name := name
  path := ⟨name⟩
  asset :=
    { document :=
        { accessors := counts.map fun n => ⟨some 0, 0, n, .float32, .vec3, false, none, true⟩
          views := [⟨0, 0, 12 * counts.foldr max 0, none⟩]
          buffers := [⟨12 * counts.foldr max 0, none⟩]
          meshes := [⟨none, (List.range counts.length).map fun i =>
            ⟨[(.position, i)], none, none, .triangles, []⟩⟩]
          nodes := [⟨none, some 0, none, none, [], .identity⟩]
          scenes := [roots]
          scene := some 0 }
      buffers := [List.replicate (12 * counts.foldr max 0) 0] }

/-- A call for a plain model, the only one that is loaded. -/
def plainCall (roots counts : List Nat) : Call where
  model := "m.glb"
  transform := .identity
  animation := -1
  textures := .empty 0 1
  models := { models := [("m.glb", plainModel "m.glb" roots counts)] }

end Batch

end SceneBatch
