import SceneBatch.Batch.MeshPart

/-!
# Staging arrays

The vertices and indices of everything that a frame draws, in arrays of which the device gets
copies. The attribute arrays go along with the positions; the indices of an entry count from the
entry's first vertex.
-/

namespace SceneBatch

/-- The staging arrays. -/
structure Staging where
  positions : List (Vec3 Float32) := []
  normals : List (Vec3 Float32) := []
  texcoords : List (Vec2 Float32) := []
  joints : List (Vec4 Nat) := []
  weights : List (Vec4 Float32) := []
  indices : List Nat := []
  deriving DecidableEq

namespace Staging

/-- The number of vertices. -/
def vertexCount (s : Staging) : Nat := s.positions.length

/-- The first `count` elements of a list, with `filler` where there are not enough. -/
def fit (count : Nat) (filler : α) (xs : List α) : List α :=
  xs.take count ++ List.replicate (count - xs.length) filler

/-- Bring the attribute arrays to the length of the positions, with zeros. -/
def pad (s : Staging) : Staging :=
  let n := s.vertexCount
  { s with
    normals := fit n .zero s.normals
    texcoords := fit n ⟨0, 0⟩ s.texcoords
    joints := fit n ⟨0, 0, 0, 0⟩ s.joints
    weights := fit n .zero s.weights }

/-- Add a mesh part of an entry that starts at vertex `base`. -/
def addPart (base : Nat) (s : Staging) (p : MeshPart) : Staging :=
  let n := p.positions.length
  let offset := s.vertexCount - base
  let (joints, weights) := p.influences.getD
    (List.replicate n ⟨0, 0, 0, 0⟩, List.replicate n .zero)
  { positions := s.positions ++ p.positions
    normals := s.normals ++ p.normals.getD (List.replicate n .zero)
    texcoords := s.texcoords ++ p.texcoords.getD (List.replicate n ⟨0, 0⟩)
    joints := s.joints ++ joints
    weights := s.weights ++ weights
    indices := s.indices ++ p.indices.map (· + offset) }

/-- Add the parts of a mesh behind everything else. -/
def addParts (s : Staging) (parts : List MeshPart) : Staging :=
  parts.foldl (addPart s.vertexCount) s

end Staging

end SceneBatch
