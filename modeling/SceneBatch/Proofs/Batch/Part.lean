import SceneBatch.Batch.MeshPart
import SceneBatch.Proofs.Traverse

/-!
# Decoded mesh parts

What decoding guarantees about a mesh part: attributes that are there have one element for each
vertex, and no index leads past the last vertex (`decode_isAligned`). So a part can be read back
vertex by vertex: `vertex?` is one vertex, with zeros for the attributes that the part lacks, and
`stream?` is the run of vertices that its indices name. For an aligned part the run is complete
(`stream?_isSome`).
-/

namespace SceneBatch

/-- What the vertex shader gets for one vertex. -/
structure Vertex where
  position : Vec3 Float32
  normal : Vec3 Float32
  texcoord : Vec2 Float32
  joints : Vec4 Nat
  weights : Vec4 Float32
  deriving DecidableEq

namespace MeshPart

/-- An attribute of a part with `count` vertices, and the filler for each of them if the part has
no such attribute. -/
def filled {α : Type} (count : Nat) (filler : α) (xs : Option (List α)) : List α :=
  xs.getD (List.replicate count filler)

/-- One vertex of a part, with zeros for the attributes that the part lacks. -/
def vertex? (p : MeshPart) (i : Nat) : Option Vertex := do
  let count := p.positions.length
  return {
    position := ← p.positions[i]?
    normal := ← (filled count .zero p.normals)[i]?
    texcoord := ← (filled count ⟨0, 0⟩ p.texcoords)[i]?
    joints := ← (filled count ⟨0, 0, 0, 0⟩ (p.influences.map Prod.fst))[i]?
    weights := ← (filled count .zero (p.influences.map Prod.snd))[i]? }

/-- The vertices that a part's indices name, in order. -/
def stream? (p : MeshPart) : Option (List Vertex) := p.indices.mapM p.vertex?

/-- The vertices that the parts of a mesh name, part after part. -/
def meshStream? (parts : List MeshPart) : Option (List Vertex) := do
  return (← parts.mapM stream?).flatten

/-- The number of vertices of a mesh. -/
def vertexTotal (parts : List MeshPart) : Nat := (parts.map (·.positions.length)).sum

/-- A part whose attributes go along with its positions and whose indices are places among
them. -/
structure IsAligned (p : MeshPart) : Prop where
  normals : ∀ ns, p.normals = some ns → ns.length = p.positions.length
  texcoords : ∀ ts, p.texcoords = some ts → ts.length = p.positions.length
  influences : ∀ js ws, p.influences = some (js, ws) →
    js.length = p.positions.length ∧ ws.length = p.positions.length
  indices : ∀ i ∈ p.indices, i < p.positions.length

/-! ### Decoding -/

/-- Influences are kept only where there is one for each of `count` vertices. -/
theorem length_influencesOf {count maxJoints : Nat} {joints : Option (List (Vec4 Nat))}
    {weights : Option (List (Vec4 Float32))} {js : List (Vec4 Nat)} {ws : List (Vec4 Float32)}
    (h : influencesOf count maxJoints joints weights = some (js, ws)) :
    js.length = count ∧ ws.length = count := by
  obtain ⟨joints, -, h⟩ := Option.bind_eq_some_iff.mp h
  obtain ⟨weights, -, h⟩ := Option.bind_eq_some_iff.mp h
  split at h
  · next hcount =>
    simp only [Option.pure_def, Option.some.injEq, List.unzip_eq_map, Prod.mk.injEq] at h
    obtain ⟨rfl, rfl⟩ := h
    simp [hcount]
  · cases h

/-- What a decoded part consists of. -/
theorem decode_eq_ok {m : Model} {p : Gltf.Primitive} {maxJoints : Nat} {part : MeshPart}
    (h : decode m p maxJoints = .ok part) :
    ∃ positions, positions? m p = some positions ∧
      (∀ i ∈ indicesOf m p positions.length, i < positions.length) ∧
      part =
        { positions, indices := indicesOf m p positions.length
          normals := (normals? m p).filter (·.length = positions.length)
          texcoords := (texcoords? m p).filter (·.length = positions.length)
          influences := influencesOf positions.length maxJoints (joints? m p) (weights? m p) } := by
  rw [decode] at h
  -- the three checks: the mode, the positions and the range of the indices
  by_cases hmode : p.mode ≠ .triangles
  · rw [if_pos hmode] at h
    cases h
  rw [if_neg hmode] at h
  obtain ⟨_, -, h⟩ := exists_of_bind_eq_ok h
  split at h
  · cases h
  next positions hp =>
    refine ⟨positions, hp, ?_⟩
    dsimp only at h
    split at h
    · cases h
    next hbad =>
      cases h
      refine ⟨fun i hi => ?_, rfl⟩
      have hin := List.find?_eq_none.mp hbad i hi
      simpa using hin

theorem decode_isAligned {m : Model} {p : Gltf.Primitive} {maxJoints : Nat} {part : MeshPart}
    (h : decode m p maxJoints = .ok part) : part.IsAligned := by
  obtain ⟨positions, -, hin, rfl⟩ := decode_eq_ok h
  refine ⟨fun ns hns => ?_, fun ts hts => ?_, fun js ws hw => length_influencesOf hw, hin⟩
  · simpa using (Option.filter_eq_some_iff.mp hns).2
  · simpa using (Option.filter_eq_some_iff.mp hts).2

/-! ### Reading parts -/

theorem length_filled {α : Type} {count : Nat} (filler : α) {xs : Option (List α)}
    (hxs : ∀ l, xs = some l → l.length = count) : (filled count filler xs).length = count := by
  cases xs with
  | none => simp [filled]
  | some l => exact hxs l rfl

/-- There is an element for every vertex. -/
theorem exists_getElem?_filled {α : Type} {count i : Nat} (filler : α) {xs : Option (List α)}
    (hxs : ∀ l, xs = some l → l.length = count) (hi : i < count) :
    ∃ x, (filled count filler xs)[i]? = some x :=
  ⟨_, List.getElem?_eq_getElem (by rw [length_filled filler hxs]; exact hi)⟩

namespace IsAligned

variable {p : MeshPart} (hp : p.IsAligned)
include hp

theorem length_joints : ∀ js, p.influences.map Prod.fst = some js →
    js.length = p.positions.length := by
  intro js hjs
  obtain ⟨w, hw, rfl⟩ := Option.map_eq_some_iff.mp hjs
  exact (hp.influences w.1 w.2 hw).1

theorem length_weights : ∀ ws, p.influences.map Prod.snd = some ws →
    ws.length = p.positions.length := by
  intro ws hws
  obtain ⟨w, hw, rfl⟩ := Option.map_eq_some_iff.mp hws
  exact (hp.influences w.1 w.2 hw).2

end IsAligned

theorem vertex?_isSome {p : MeshPart} (hp : p.IsAligned) {i : Nat}
    (hi : i < p.positions.length) : (p.vertex? i).isSome := by
  obtain ⟨_, hv⟩ : ∃ v, p.positions[i]? = some v := ⟨_, List.getElem?_eq_getElem hi⟩
  obtain ⟨_, hn⟩ := exists_getElem?_filled .zero hp.normals hi
  obtain ⟨_, ht⟩ := exists_getElem?_filled ⟨0, 0⟩ hp.texcoords hi
  obtain ⟨_, hj⟩ := exists_getElem?_filled ⟨0, 0, 0, 0⟩ hp.length_joints hi
  obtain ⟨_, hw⟩ := exists_getElem?_filled .zero hp.length_weights hi
  rw [vertex?, hv, hn, ht, hj, hw]
  rfl

/-- An aligned part names only vertices that it has. -/
theorem stream?_isSome {p : MeshPart} (hp : p.IsAligned) : p.stream?.isSome :=
  mapM_isSome fun i hi => vertex?_isSome hp (hp.indices i hi)

theorem meshStream?_cons (p : MeshPart) (ps : List MeshPart) :
    meshStream? (p :: ps) = do return (← p.stream?) ++ (← meshStream? ps) := by
  simp only [meshStream?, List.mapM_cons]
  cases p.stream? with
  | none => rfl
  | some vs => cases ps.mapM stream? <;> rfl

theorem meshStream?_isSome {parts : List MeshPart} (hparts : ∀ p ∈ parts, p.IsAligned) :
    (meshStream? parts).isSome := by
  obtain ⟨streams, h⟩ := Option.isSome_iff_exists.mp
    (mapM_isSome fun p hp => stream?_isSome (hparts p hp))
  rw [meshStream?, h]
  rfl

@[simp] theorem vertexTotal_cons (p : MeshPart) (ps : List MeshPart) :
    vertexTotal (p :: ps) = p.positions.length + vertexTotal ps := by
  simp [vertexTotal]

end MeshPart

end SceneBatch
