import SceneBatch.Proofs.Animation.Channels

/-!
# Skeletons of models

The skeleton of a model has a bone for each joint of the first skin, up to the number of joints that
there is room for (`Skeleton.IsExtracted`). All parents are among the bones, and a property with
keys has a value at every time. Where joints are distinct and no node has two parents, the skeleton
has the hierarchy of the nodes and the tracks of the first clip (`Skeleton.Follows`).
-/

namespace SceneBatch

/-! ### Bones at rest -/

namespace Gltf.Document

/-- No node is the child of two. -/
def HasSingleParents (d : Document) : Prop :=
  ∀ p q child, child ∈ (d.node p).children → child ∈ (d.node q).children → p = q

end Gltf.Document

namespace Skeleton

variable {d : Gltf.Document} {joints : List Nat} {binds : List (Mat4 Float32)}

theorem mem_parents_iff {place p joint : Nat} :
    (joint, p) ∈ joints.zipIdx.filter (fun (joint, _) =>
        (d.node joint).children.any fun child => joints.idxOf? child = some place) ↔
      joints[p]? = some joint ∧
        ∃ child ∈ (d.node joint).children, joints.idxOf? child = some place := by
  rw [List.mem_filter, List.mk_mem_zipIdx_iff_getElem?]
  simp

/-- A parent is a joint that has the child. -/
theorem exists_joint_of_parentOf? {place p : Nat} (h : parentOf? d joints place = some p) :
    ∃ joint, joints[p]? = some joint ∧
      ∃ child ∈ (d.node joint).children, joints.idxOf? child = some place := by
  obtain ⟨⟨joint, p⟩, hlast, rfl⟩ := Option.map_eq_some_iff.mp h
  exact ⟨joint, mem_parents_iff.mp (List.mem_of_getLast? hlast)⟩

/-- Where joints are distinct and have one parent at most, the parent of a joint is the joint that
has it as a child. -/
theorem parentOf?_eq_some_iff (hjoints : joints.Nodup) (hd : d.HasSingleParents) {place child : Nat}
    (hchild : joints[place]? = some child) {p : Nat} :
    parentOf? d joints place = some p ↔
      ∃ joint, joints[p]? = some joint ∧ child ∈ (d.node joint).children := by
  have hplace : joints.idxOf? child = some place := (idxOf?_eq_some_iff_getElem? hjoints).mpr hchild
  have hparent {p : Nat} (h : parentOf? d joints place = some p) :
      ∃ joint, joints[p]? = some joint ∧ child ∈ (d.node joint).children := by
    obtain ⟨joint, hjoint, child', hmem, hplace'⟩ := exists_joint_of_parentOf? h
    cases hchild.symm.trans ((idxOf?_eq_some_iff_getElem? hjoints).mp hplace')
    exact ⟨joint, hjoint, hmem⟩
  constructor
  · exact hparent
  · rintro ⟨joint, hjoint, hmem⟩
    have hsome : (parentOf? d joints place).isSome := by
      rw [parentOf?, Option.isSome_map, List.getLast?_isSome]
      exact List.ne_nil_of_mem (mem_parents_iff.mpr ⟨hjoint, child, hmem, hplace⟩)
    obtain ⟨p', hp'⟩ := Option.isSome_iff_exists.mp hsome
    obtain ⟨joint', hjoint', hmem'⟩ := hparent hp'
    -- both joints have the child, and each joint is at one place
    cases hd joint' joint child hmem' hmem
    rw [hp', ← (idxOf?_eq_some_iff_getElem? hjoints).mpr hjoint',
      (idxOf?_eq_some_iff_getElem? hjoints).mpr hjoint]

theorem map_node_bonesOf : (bonesOf d joints binds).map Bone.node = joints := by
  rw [bonesOf, List.map_map]
  exact List.zipIdx_map_fst ..

/-- The place of a node among bones is its place among the joints. -/
theorem placeOf?_of_bones {s : Skeleton Float32} (h : s.bones = bonesOf d joints binds)
    (node : Nat) : s.placeOf? node = joints.idxOf? node := by
  rw [placeOf?_eq, h, map_node_bonesOf]

/-- The bone at a place, before any channel. -/
theorem getElem?_bonesOf {i : Nat} {b : Bone Float32}
    (h : (bonesOf d joints binds)[i]? = some b) :
    joints[i]? = some b.node ∧ b.parent = parentOf? d joints i ∧
      b.name = (d.node b.node).name.getD s!"joint_{i}" ∧
      b.inverseBind = binds[i]?.getD .identity ∧ b.rest = (d.node b.node).pose ∧ b.still = b := by
  rw [bonesOf, List.getElem?_map, List.getElem?_zipIdx] at h
  obtain ⟨⟨joint, place⟩, hjoint, rfl⟩ := Option.map_eq_some_iff.mp h
  obtain ⟨joint', hjoint', heq⟩ := Option.map_eq_some_iff.mp hjoint
  cases heq
  rw [Nat.zero_add]
  exact ⟨hjoint', rfl, rfl, rfl, rfl, rfl⟩

end Skeleton

/-! ### Skeletons of models -/

namespace Model

/-- The joints of a model: those of its first skin. -/
def joints (m : Model) : List Nat := (m.document.skins.head?.map Gltf.Skin.joints).getD []

/-- The inverse bind matrices of a model: those of its first skin. -/
def inverseBinds (m : Model) : List (Mat4 Float32) :=
  (m.document.skins.head?.map (Skeleton.inverseBinds m.asset)).getD []

/-- The track that a model has for a property of a node: that of the last channel in the first clip
that gives one, and a track without keys if none does. -/
def trackOf (m : Model) (node : Nat) (p : JointProperty) : Track Float32 p.Value :=
  match m.document.clips with
  | [] => {}
  | clip :: _ =>
    ((clip.channels.filter (·.node = node)).filterMap (p.given? m.asset clip)).getLast?.getD {}

/-- A bone after the channels of the first clip on the joint at its place. -/
def animate (m : Model) (maxJoints place : Nat) (b : Bone Float32) : Bone Float32 :=
  match m.document.clips with
  | [] => b
  | clip :: _ =>
    (clip.channels.filter fun c => (m.joints.take maxJoints).idxOf? c.node = some place).foldl
      (Bone.gain m.asset clip) b

/-- A model that keeps some of the channels of its clips. -/
def onlyChannels (m : Model) (keep : Gltf.Channel → Bool) : Model :=
  { m with
    asset := { m.asset with
      document := { m.document with
        clips := m.document.clips.map fun clip =>
          { clip with channels := clip.channels.filter keep } } } }

variable {m : Model} {maxJoints place : Nat} {b : Bone Float32}

theorem still_animate : (m.animate maxJoints place b).still = b.still := by
  unfold animate
  split
  · rfl
  · exact Bone.still_foldl_gain ..

theorem isAligned_animate {p : JointProperty} (hb : (p.track b).IsAligned) :
    (p.track (m.animate maxJoints place b)).IsAligned := by
  unfold animate
  split
  · exact hb
  · rw [Bone.track_foldl_gain]
    cases hlast : List.getLast? _ with
    | none => exact hb
    | some t =>
        obtain ⟨c, -, hgiven⟩ := List.mem_filterMap.mp (List.mem_of_getLast? hlast)
        exact JointProperty.isAligned_of_given? hgiven

theorem track_animate (hjoints : m.joints.Nodup) {node : Nat}
    (hnode : (m.joints.take maxJoints)[place]? = some node) {p : JointProperty}
    (hb : p.track b = {}) : p.track (m.animate maxJoints place b) = m.trackOf node p := by
  have hkept : (m.joints.take maxJoints).Nodup := hjoints.sublist (List.take_sublist ..)
  unfold animate trackOf
  split
  · exact hb
  · next clip _ _ =>
    have hplace (c : Gltf.Channel) :
        (m.joints.take maxJoints).idxOf? c.node = some place ↔ c.node = node := by
      rw [idxOf?_eq_some_iff_getElem? hkept, hnode, Option.some.injEq, eq_comm]
    rw [Bone.track_foldl_gain, hb]
    simp only [hplace]

end Model

/-- A bone is the joint at a place, as it is when at rest. -/
structure Bone.IsJoint (b : Bone Float32) (m : Model) (place : Nat) : Prop where
  node : m.joints[place]? = some b.node
  name : b.name = (m.document.node b.node).name.getD s!"joint_{place}"
  inverseBind : b.inverseBind = m.inverseBinds[place]?.getD .identity
  rest : b.rest = (m.document.node b.node).pose

namespace Skeleton

variable {name : String} {m : Model} {maxJoints : Nat}

/-- The skeleton of a model before its clip is read. -/
def atRest (name : String) (m : Model) (maxJoints : Nat) : Skeleton Float32 where
  name
  clip := none
  bones := bonesOf m.document (m.joints.take maxJoints) m.inverseBinds
  duration := 0
  maxJoints

theorem keptJoints_value (name : String) (skin : Gltf.Skin) (maxJoints : Nat) :
    (keptJoints name skin maxJoints).value = skin.joints.take maxJoints := by
  rw [keptJoints]
  simp only [apply_ite Logged.value, Logged.bind_value, Logged.pure_value, ite_self]

/-- The skeleton of a model is the one at rest with the channels of the first clip. -/
theorem ofModel_value (name : String) (m : Model) (maxJoints : Nat) :
    (ofModel name m maxJoints).value =
      match m.document.skins with
      | [] => atRest name m maxJoints
      | _ :: _ =>
        match m.document.clips with
        | [] => atRest name m maxJoints
        | clip :: _ => (clip.channels.foldlM (addChannel m.asset clip)
            { atRest name m maxJoints with clip := clip.name }).value := by
  rw [ofModel, atRest, Model.joints, Model.inverseBinds]
  dsimp only
  cases hskins : m.document.skins with
  | nil =>
      rw [List.head?_nil, Option.map_none, Option.getD_none, List.take_nil]
      rfl
  | cons skin others =>
      rw [List.head?_cons]
      -- a cut-off joint list is only logged
      simp only [apply_ite Logged.value, Logged.bind_value, ite_self, keptJoints_value]
      cases m.document.clips with
      | nil => rfl
      | cons clip _ => rfl

theorem getElem?_bones_ofModel (name : String) (m : Model) (maxJoints i : Nat) :
    (ofModel name m maxJoints).value.bones[i]? =
      (atRest name m maxJoints).bones[i]?.map (m.animate maxJoints i) := by
  rw [ofModel_value]
  cases hskins : m.document.skins with
  | nil =>
      have hjoints : m.joints = [] := by rw [Model.joints, hskins]; rfl
      simp [atRest, hjoints, bonesOf]
  | cons skin others =>
      unfold Model.animate
      cases hclips : m.document.clips with
      | nil => simp
      | cons clip clips =>
          have hplace (node : Nat) :
              placeOf? { atRest name m maxJoints with clip := clip.name } node =
                (m.joints.take maxJoints).idxOf? node := placeOf?_of_bones rfl node
          dsimp only
          rw [getElem?_bones_addChannels]
          simp only [hplace]

/-- Channels on other nodes than the kept joints change nothing. -/
theorem ofModel_onlyChannels (name : String) (m : Model) (maxJoints : Nat) :
    (ofModel name (m.onlyChannels fun c => c.node ∈ m.joints.take maxJoints) maxJoints).value =
      (ofModel name m maxJoints).value := by
  generalize hkeep : (fun c : Gltf.Channel => decide (c.node ∈ m.joints.take maxJoints)) = keep
  have hrest : atRest name (m.onlyChannels keep) maxJoints = atRest name m maxJoints := rfl
  have hskins : (m.onlyChannels keep).document.skins = m.document.skins := rfl
  rw [ofModel_value, ofModel_value, hrest, hskins]
  cases m.document.skins with
  | nil => rfl
  | cons skin others =>
      have hclips : (m.onlyChannels keep).document.clips = m.document.clips.map fun clip =>
        { clip with channels := clip.channels.filter keep } := rfl
      rw [hclips]
      cases m.document.clips with
      | nil => rfl
      | cons clip clips =>
          -- the data of a channel is the same in both models
          show ((clip.channels.filter keep).foldlM (addChannel m.asset clip) _).value = _
          apply addChannels_filter
          intro c hc hnot
          rw [placeOf?_of_bones rfl, List.idxOf?_eq_none_iff]
          simpa [← hkeep] using hnot

/-- A skeleton is made of the joints of a model, as many as it has room for. Parents are bones too,
and where a property has keys its value is never that at rest. -/
structure IsExtracted (s : Skeleton Float32) (m : Model) (maxJoints : Nat) : Prop where
  length : s.bones.length = min m.joints.length maxJoints
  joint : ∀ (i : Nat) b, s.bones[i]? = some b → b.IsJoint m i
  parent : ∀ b ∈ s.bones, ∀ p, b.parent = some p → p < s.bones.length
  aligned : ∀ b ∈ s.bones, ∀ p : JointProperty, (p.track b).times.length = (p.track b).values.length
  sampled : ∀ b ∈ s.bones, ∀ p : JointProperty, (p.track b).isEmpty = false →
    ∀ time, ∃ value, (p.track b).sample time = some value ∧ p.ofPose (b.poseAt time) = value

/-- A skeleton follows the graph of a model's nodes, and its first clip. -/
structure Follows (s : Skeleton Float32) (m : Model) : Prop where
  parent : ∀ (i p : Nat) b, s.bones[i]? = some b →
    (b.parent = some p ↔
      ∃ b', s.bones[p]? = some b' ∧ b.node ∈ (m.document.node b'.node).children)
  track : ∀ b ∈ s.bones, ∀ p : JointProperty, p.track b = m.trackOf b.node p

theorem exists_rest_of_ofModel {i : Nat} {b : Bone Float32}
    (h : (ofModel name m maxJoints).value.bones[i]? = some b) :
    (bonesOf m.document (m.joints.take maxJoints) m.inverseBinds)[i]? = some b.still ∧
      b = m.animate maxJoints i b.still := by
  rw [getElem?_bones_ofModel] at h
  obtain ⟨b', hb', rfl⟩ := Option.map_eq_some_iff.mp h
  obtain ⟨-, -, -, -, -, hstill⟩ := getElem?_bonesOf hb'
  rw [Model.still_animate, hstill]
  exact ⟨hb', rfl⟩

theorem map_node_ofModel (name : String) (m : Model) (maxJoints : Nat) :
    (ofModel name m maxJoints).value.bones.map Bone.node = m.joints.take maxJoints := by
  have hnode (i : Nat) : Bone.node ∘ m.animate maxJoints i = Bone.node := by
    funext b
    have hstill : (m.animate maxJoints i b).still = b.still := Model.still_animate
    exact (congrArg Bone.node hstill :)
  apply List.ext_getElem?
  intro i
  rw [List.getElem?_map, getElem?_bones_ofModel, Option.map_map, hnode, ← List.getElem?_map, atRest,
    map_node_bonesOf]

theorem isAligned_of_ofModel {b : Bone Float32} (hb : b ∈ (ofModel name m maxJoints).value.bones)
    (p : JointProperty) : (p.track b).IsAligned := by
  obtain ⟨i, hi⟩ := List.mem_iff_getElem?.mp hb
  obtain ⟨-, hanimate⟩ := exists_rest_of_ofModel hi
  rw [hanimate]
  apply Model.isAligned_animate
  rw [Bone.track_still]
  rfl

theorem isExtracted_ofModel (name : String) (m : Model) (maxJoints : Nat) :
    (ofModel name m maxJoints).value.IsExtracted m maxJoints where
  length := by
    rw [← List.length_map, map_node_ofModel, List.length_take, Nat.min_comm]
  joint i b hb := by
    obtain ⟨hbone, -⟩ := exists_rest_of_ofModel hb
    obtain ⟨hnode, -, hname, hbind, hrest, -⟩ := getElem?_bonesOf hbone
    exact ⟨getElem?_of_isPrefix (List.take_prefix ..) hnode, hname, hbind, hrest⟩
  parent b hb p hp := by
    obtain ⟨i, hi⟩ := List.mem_iff_getElem?.mp hb
    obtain ⟨hbone, -⟩ := exists_rest_of_ofModel hi
    obtain ⟨-, hparent, -⟩ := getElem?_bonesOf hbone
    -- the parent is the place of a kept joint, and each of these has a bone
    obtain ⟨joint, hjoint, -⟩ := exists_joint_of_parentOf? (hparent.symm.trans hp)
    rw [← map_node_ofModel name, List.getElem?_map, Option.map_eq_some_iff] at hjoint
    obtain ⟨_, hbone', -⟩ := hjoint
    exact (List.getElem?_eq_some_iff.mp hbone').1
  aligned b hb p := isAligned_of_ofModel hb p
  sampled b hb p hkeys time := by
    obtain ⟨value, hvalue⟩ := (isAligned_of_ofModel hb p).exists_sample hkeys time
    refine ⟨value, hvalue, ?_⟩
    rw [p.ofPose_poseAt, hvalue]
    rfl

/-- Where joints are distinct and have one parent at most, the skeleton of a model follows the
model. -/
theorem follows_ofModel (name : String) (hjoints : m.joints.Nodup)
    (hd : m.document.HasSingleParents) (maxJoints : Nat) :
    (ofModel name m maxJoints).value.Follows m where
  parent i p b hb := by
    obtain ⟨hbone, -⟩ := exists_rest_of_ofModel hb
    obtain ⟨hnode, hparent, -⟩ := getElem?_bonesOf hbone
    have hkept : (m.joints.take maxJoints).Nodup := hjoints.sublist (List.take_sublist ..)
    -- parents are told by places among the kept joints, and these are the nodes of the bones
    have hiff := parentOf?_eq_some_iff hkept hd hnode (p := p)
    rw [← hparent, ← map_node_ofModel name, List.getElem?_map] at hiff
    show b.still.parent = some p ↔ _
    rw [hiff]
    constructor
    · rintro ⟨_, hjoint, hchild⟩
      obtain ⟨b', hb', rfl⟩ := Option.map_eq_some_iff.mp hjoint
      exact ⟨b', hb', hchild⟩
    · rintro ⟨b', hb', hchild⟩
      exact ⟨b'.node, by rw [hb', Option.map_some], hchild⟩
  track b hb p := by
    obtain ⟨i, hi⟩ := List.mem_iff_getElem?.mp hb
    obtain ⟨hbone, hanimate⟩ := exists_rest_of_ofModel hi
    obtain ⟨hnode, -⟩ := getElem?_bonesOf hbone
    have htrack := Model.track_animate hjoints hnode (b.track_still p)
    rw [← hanimate] at htrack
    exact htrack

/-- Every model has a skeleton. It is made of the joints of the model, and channels on other nodes
do not matter to it. Where joints are distinct and no node has two parents, it follows the model. -/
theorem ofModel_isExtracted_follows (name : String) (m : Model) (maxJoints : Nat) :
    (ofModel name m maxJoints).value.IsExtracted m maxJoints ∧
      (ofModel name (m.onlyChannels fun c => c.node ∈ m.joints.take maxJoints) maxJoints).value =
        (ofModel name m maxJoints).value ∧
      (m.joints.Nodup → m.document.HasSingleParents →
        (ofModel name m maxJoints).value.Follows m) :=
  ⟨isExtracted_ofModel name m maxJoints, ofModel_onlyChannels name m maxJoints,
    fun hjoints hd => follows_ofModel name hjoints hd maxJoints⟩

/-- A door on a post, which moves along one axis within a second. -/
def door : Model where
  name := "door.gltf"
  path := ⟨"door.gltf"⟩
  asset := {
    document := {
      accessors := [⟨some 0, 0, 2, .float32, .scalar, false, none, true⟩,
        ⟨some 1, 0, 2, .float32, .vec3, false, none, false⟩]
      views := [⟨0, 0, 8, none⟩, ⟨0, 8, 24, none⟩]
      nodes := [{ Gltf.Node.empty with name := some "post", children := [1] },
        { Gltf.Node.empty with name := some "door" }]
      skins := [⟨[0, 1], none, none⟩]
      clips := [⟨none, [⟨0, 1, some .position⟩], [⟨0, 1, .linear⟩]⟩] }
    buffers := [[0, 0, 0, 0, 0, 0, 128, 63] ++ List.replicate 12 0 ++ [0, 0, 128, 63] ++
      List.replicate 8 0] }

theorem door_follows :
    door.joints.Nodup ∧ door.document.HasSingleParents ∧
      ((ofModel "door" door 20).value.bones.map fun b => (b.parent, b.position.times.length)) =
        [(none, 0), (some 0, 2)] ∧
      (ofModel "door" door 20).value.Follows door := by
  have hjoints : door.joints.Nodup := by decide
  have hpost (p child : Nat) (h : child ∈ (door.document.node p).children) : p = 0 := by
    match p with
    | 0 => rfl
    | 1 => cases h
    | p + 2 => cases h
  have hparents : door.document.HasSingleParents := by
    intro p q child hp hq
    rw [hpost p child hp, hpost q child hq]
  exact ⟨hjoints, hparents, by decide +kernel,
    (ofModel_isExtracted_follows "door" door 20).2.2 hjoints hparents⟩

end Skeleton

end SceneBatch
