import SceneBatch.Proofs.Batch.Slots

/-!
# Triangles of merged parts

A draw cuts an entry's range of indices into threes. The range is the parts of a mesh one behind
the other, and decoding a part does not ask for whole triangles: indices left over at the end of a
part make a triangle with the first ones of the next. `keepsTriangles_iff_endsMeet` says exactly
when the draw makes the triangles that the parts make by themselves (`EndsMeet`), and
`Sound.triangleCount_eq_iff` when the triangles are counted right. A mesh with a part of four
vertices and one of five is an example of the contrary (`exists_mesh_with_mixed_triangle`).
-/

namespace SceneBatch

open Batch MeshPart

/-! ### Cutting a list in threes -/

/-- The triangles of a list of indices; an incomplete one at the end is left out. -/
def threes {α : Type} : List α → List (α × α × α)
  | a :: b :: c :: rest => (a, b, c) :: threes rest
  | _ => []

/-- What is left out when a list is cut in threes. -/
def leftOver {α : Type} : List α → List α
  | _ :: _ :: _ :: rest => leftOver rest
  | rest => rest

variable {α : Type}

@[simp] theorem threes_cons (a b c : α) (rest : List α) :
    threes (a :: b :: c :: rest) = (a, b, c) :: threes rest := rfl

@[simp] theorem leftOver_cons (a b c : α) (rest : List α) :
    leftOver (a :: b :: c :: rest) = leftOver rest := rfl

/-- Lists are built by threes, from one that is too short for a triangle. -/
theorem threes_induction {motive : List α → Prop}
    (short : ∀ xs : List α, xs.length < 3 → motive xs)
    (cut : ∀ a b c rest, motive rest → motive (a :: b :: c :: rest)) : ∀ xs, motive xs
  | a :: b :: c :: rest => cut a b c rest (threes_induction short cut rest)
  | [] => short [] (by simp)
  | [a] => short [a] (by simp)
  | [a, b] => short [a, b] (by simp)

theorem threes_of_short {xs : List α} (h : xs.length < 3) : threes xs = [] := by
  unfold threes
  split
  · simp only [List.length_cons] at h
    omega
  · rfl

theorem leftOver_of_short {xs : List α} (h : xs.length < 3) : leftOver xs = xs := by
  unfold leftOver
  split
  · simp only [List.length_cons] at h
    omega
  · rfl

theorem length_threes (xs : List α) : (threes xs).length = xs.length / 3 := by
  induction xs using threes_induction with
  | short xs h =>
      rw [threes_of_short h, List.length_nil]
      omega
  | cut a b c rest ih =>
      simp only [threes_cons, List.length_cons, ih]
      omega

theorem length_leftOver (xs : List α) : (leftOver xs).length = xs.length % 3 := by
  induction xs using threes_induction with
  | short xs h =>
      rw [leftOver_of_short h]
      omega
  | cut a b c rest ih =>
      simp only [leftOver_cons, List.length_cons, ih]
      omega

/-- What is left over of one list goes into the triangles of the next. -/
theorem threes_append (xs ys : List α) :
    threes (xs ++ ys) = threes xs ++ threes (leftOver xs ++ ys) := by
  induction xs using threes_induction with
  | short xs h => rw [threes_of_short h, leftOver_of_short h, List.nil_append]
  | cut a b c rest ih => simp only [List.cons_append, threes_cons, leftOver_cons, ih]

theorem threes_map {β : Type} (f : α → β) (xs : List α) :
    threes (xs.map f) = (threes xs).map fun (a, b, c) => (f a, f b, f c) := by
  induction xs using threes_induction with
  | short xs h => rw [threes_of_short h, threes_of_short (by simpa using h), List.map_nil]
  | cut a b c rest ih => simp only [List.map_cons, threes_cons, ih]

theorem mem_of_mem_leftOver {xs : List α} {x : α} (h : x ∈ leftOver xs) : x ∈ xs := by
  induction xs using threes_induction with
  | short xs hshort => rwa [leftOver_of_short hshort] at h
  | cut a b c rest ih => exact .tail a (.tail b (.tail c (ih h)))

theorem mem_of_mem_threes {xs : List α} {t : α × α × α} (h : t ∈ threes xs) :
    t.1 ∈ xs ∧ t.2.1 ∈ xs ∧ t.2.2 ∈ xs := by
  induction xs using threes_induction with
  | short xs hshort =>
      rw [threes_of_short hshort] at h
      cases h
  | cut a b c rest ih =>
      rcases List.mem_cons.mp h with rfl | h
      · simp
      · obtain ⟨h₁, h₂, h₃⟩ := ih h
        simp [h₁, h₂, h₃]

namespace MeshPart

/-! ### The triangles of parts -/

/-- A triangle as places among the vertices of a mesh, with `offset` vertices in front. -/
def shift (offset : Nat) : Nat × Nat × Nat → Nat × Nat × Nat
  | (a, b, c) => (a + offset, b + offset, c + offset)

/-- The triangles that the parts of a mesh make by themselves, where `offset` vertices of the mesh
come before. -/
def ownTriangles : Nat → List MeshPart → List (Nat × Nat × Nat)
  | _, [] => []
  | offset, p :: ps =>
    (threes p.indices).map (shift offset) ++ ownTriangles (offset + p.positions.length) ps

/-- The vertices of the parts of a mesh: for each part its first one, and the one behind it. -/
def spans : Nat → List MeshPart → List (Nat × Nat)
  | _, [] => []
  | offset, p :: ps =>
    (offset, offset + p.positions.length) :: spans (offset + p.positions.length) ps

/-- All corners of a triangle are in a span. -/
def IsWithin (span : Nat × Nat) (t : Nat × Nat × Nat) : Prop :=
  (span.1 ≤ t.1 ∧ t.1 < span.2) ∧ (span.1 ≤ t.2.1 ∧ t.2.1 < span.2) ∧
    (span.1 ≤ t.2.2 ∧ t.2.2 < span.2)

/-- The numbers of indices of the parts of a mesh, which are cut in threes together: a part ends
with a whole triangle, or what it leaves over does not make one with all that follows. -/
def EndsMeet : List Nat → Prop
  | [] => True
  | n :: ns => if n % 3 = 0 then EndsMeet ns else n % 3 + ns.sum < 3

instance decidableEndsMeet : (ns : List Nat) → Decidable (EndsMeet ns)
  | [] => inferInstanceAs (Decidable True)
  | n :: ns =>
    have := decidableEndsMeet ns
    inferInstanceAs (Decidable (if n % 3 = 0 then EndsMeet ns else n % 3 + ns.sum < 3))

/-- The numbers of indices of parts. -/
def indexCounts (parts : List MeshPart) : List Nat := parts.map (·.indices.length)

variable {offset : Nat} {parts : List MeshPart}

theorem length_mergedIndices (offset : Nat) (parts : List MeshPart) :
    (mergedIndices offset parts).length = (indexCounts parts).sum := by
  induction parts generalizing offset with
  | nil => rfl
  | cons p ps ih =>
      rw [mergedIndices, List.length_append, List.length_map, ih]
      rfl

theorem threes_map_add (offset : Nat) (xs : List Nat) :
    threes (xs.map (· + offset)) = (threes xs).map (shift offset) := threes_map ..

/-- A triangle that a part makes by itself has its corners in that part. -/
theorem exists_span_of_mem_ownTriangles (hparts : ∀ p ∈ parts, p.IsAligned)
    {t : Nat × Nat × Nat} (h : t ∈ ownTriangles offset parts) :
    ∃ span ∈ spans offset parts, offset ≤ span.1 ∧ IsWithin span t := by
  induction parts generalizing offset with
  | nil => cases h
  | cons p ps ih =>
      rw [ownTriangles] at h
      rcases List.mem_append.mp h with h | h
      · -- a triangle of the first part
        obtain ⟨⟨i, j, k⟩, hijk, rfl⟩ := List.mem_map.mp h
        obtain ⟨hi, hj, hk⟩ := mem_of_mem_threes hijk
        have hin := (hparts p List.mem_cons_self).indices
        have hi := hin i hi
        have hj := hin j hj
        have hk := hin k hk
        refine ⟨_, List.mem_cons_self, Nat.le_refl _, ?_⟩
        simp only [IsWithin, shift]
        omega
      · -- one of the others
        obtain ⟨span, hspan, hle, hwithin⟩ :=
          ih (fun q hq => hparts q (List.mem_cons_of_mem p hq)) h
        exact ⟨span, List.mem_cons_of_mem _ hspan, by omega, hwithin⟩

theorem ownTriangles_eq_nil (h : (indexCounts parts).sum < 3) : ownTriangles offset parts = [] := by
  induction parts generalizing offset with
  | nil => rfl
  | cons p ps ih =>
      have hsum : p.indices.length + (indexCounts ps).sum < 3 := h
      rw [ownTriangles, threes_of_short (by omega), ih (by omega)]
      rfl

/-- A triangle that starts with a corner in front of a mesh is none of the mesh's own. -/
theorem threes_ne_ownTriangles (hparts : ∀ p ∈ parts, p.IsAligned) {a : Nat} {rest : List Nat}
    (ha : a < offset) (hlong : 3 ≤ (a :: rest).length) :
    threes (a :: rest) ≠ ownTriangles offset parts := by
  intro h
  rcases rest with _ | ⟨b, _ | ⟨c, rest⟩⟩
  · simp at hlong
  · simp at hlong
  · -- The first corner lies below `offset`, and no own triangle reaches there.
    have hmem : (a, b, c) ∈ ownTriangles offset parts := by
      rw [← h, threes_cons]
      exact List.mem_cons_self
    obtain ⟨span, -, hle, hwithin⟩ := exists_span_of_mem_ownTriangles hparts hmem
    have := hwithin.1.1
    simp only at this
    omega

/-- The merged indices of a mesh make the triangles of its parts exactly when the ends meet. -/
theorem threes_mergedIndices_iff (offset : Nat) (hparts : ∀ p ∈ parts, p.IsAligned) :
    threes (mergedIndices offset parts) = ownTriangles offset parts ↔
      EndsMeet (indexCounts parts) := by
  induction parts generalizing offset with
  | nil => exact ⟨fun _ => trivial, fun _ => rfl⟩
  | cons p ps ih =>
      have hps : ∀ q ∈ ps, q.IsAligned := fun q hq => hparts q (List.mem_cons_of_mem p hq)
      have hleft : (leftOver (p.indices.map (· + offset))).length = p.indices.length % 3 := by
        rw [length_leftOver, List.length_map]
      show _ ↔ EndsMeet (p.indices.length :: indexCounts ps)
      rw [mergedIndices, ownTriangles, threes_append, threes_map_add, List.append_cancel_left_eq,
        EndsMeet]
      split
      · next hwhole =>
        -- nothing is left over of the first part
        rw [hwhole] at hleft
        rw [List.length_eq_zero_iff.mp hleft, List.nil_append]
        exact ih _ hps
      · next hnot =>
        constructor
        · -- a longer rest would make a triangle with a corner in this part
          intro h
          by_contra hlong
          cases hcons : leftOver (p.indices.map (· + offset)) with
          | nil =>
              rw [hcons, List.length_nil] at hleft
              omega
          | cons a rest =>
              have ha : a < offset + p.positions.length := by
                have hmem : a ∈ p.indices.map (· + offset) :=
                  mem_of_mem_leftOver (hcons ▸ List.mem_cons_self)
                obtain ⟨i, hi, rfl⟩ := List.mem_map.mp hmem
                have := (hparts p List.mem_cons_self).indices i hi
                omega
              rw [hcons] at h hleft
              rw [List.cons_append] at h
              refine threes_ne_ownTriangles hps ha ?_ h
              rw [List.length_cons] at hleft
              rw [List.length_cons, List.length_append, length_mergedIndices]
              omega
        · -- too few indices are left for a triangle, in this part and all the others
          intro h
          rw [ownTriangles_eq_nil (by omega), threes_of_short]
          rw [List.length_append, hleft, length_mergedIndices]
          exact h

example : EndsMeet [3, 6, 4, 1] ∧ ¬EndsMeet [4, 5] := by decide

/-- The number of triangles that the parts of a mesh make by themselves. -/
def ownCount (parts : List MeshPart) : Nat := (parts.map fun p => (threes p.indices).length).sum

theorem length_ownTriangles (offset : Nat) (parts : List MeshPart) :
    (ownTriangles offset parts).length = ownCount parts := by
  induction parts generalizing offset with
  | nil => rfl
  | cons p ps ih =>
      rw [ownTriangles, List.length_append, List.length_map, ih]
      rfl

/-- The number of indices that the parts of a mesh leave over. -/
def leftCount (parts : List MeshPart) : Nat := ((indexCounts parts).map (· % 3)).sum

/-- Where the ends meet, the triangles are counted right as well: what the parts leave over does
not make one. -/
theorem EndsMeet.leftCount_lt {parts : List MeshPart} (h : EndsMeet (indexCounts parts)) :
    leftCount parts < 3 := by
  induction parts with
  | nil => exact Nat.zero_lt_succ 2
  | cons p ps ih =>
      have hcount : leftCount (p :: ps) = p.indices.length % 3 + leftCount ps := rfl
      rw [show indexCounts (p :: ps) = p.indices.length :: indexCounts ps from rfl, EndsMeet] at h
      split at h
      · next hwhole =>
        have := ih h
        omega
      · next hnot =>
        -- What is left of each part is no more than all of it.
        have hle : leftCount ps ≤ (indexCounts ps).sum := by
          conv_rhs => rw [← List.map_id (indexCounts ps)]
          exact List.sum_le_sum fun n _ => Nat.mod_le n 3
        omega

/-- Cut together, the parts make their own triangles and those of what they leave over. -/
theorem sum_indexCounts_div_three (parts : List MeshPart) :
    (indexCounts parts).sum / 3 = ownCount parts + leftCount parts / 3 := by
  have hsum : (indexCounts parts).sum = 3 * ownCount parts + leftCount parts := by
    induction parts with
    | nil => rfl
    | cons p ps ih =>
        have hlength := length_threes p.indices
        simp only [indexCounts, ownCount, leftCount, List.map_cons, List.sum_cons] at ih ⊢
        omega
  omega

end MeshPart

namespace MeshEntry

/-! ### The triangles of entries -/

/-- The triangles that a draw of an entry makes are those that its parts make by themselves, and
none has corners in two parts. -/
structure KeepsTriangles (e : MeshEntry) (s : Staging) (parts : List MeshPart) : Prop where
  triangles : threes ((s.indices.drop e.firstIndex).take e.indexCount) = ownTriangles 0 parts
  unmixed : ∀ t ∈ threes ((s.indices.drop e.firstIndex).take e.indexCount),
    ∃ span ∈ spans 0 parts, IsWithin span t

variable {e : MeshEntry} {s : Staging} {parts : List MeshPart}

/-- An entry's range of indices is that of its mesh. -/
theorem Stages.slice (h : e.Stages s parts) :
    (s.indices.drop e.firstIndex).take e.indexCount = mergedIndices 0 parts := by
  apply List.ext_getElem?
  intro k
  rw [List.getElem?_take, List.getElem?_drop, h.indexCount]
  split
  · next hk =>
    rw [List.getElem?_eq_getElem hk]
    exact h.indices k _ (List.getElem?_eq_getElem hk)
  · next hk => rw [List.getElem?_eq_none (Nat.le_of_not_lt hk)]

theorem Stages.keepsTriangles_iff (h : e.Stages s parts) :
    e.KeepsTriangles s parts ↔ EndsMeet (indexCounts parts) := by
  rw [← threes_mergedIndices_iff 0 h.aligned]
  constructor
  · intro hkeeps
    rw [← h.slice]
    exact hkeeps.triangles
  · intro htriangles
    refine ⟨h.slice ▸ htriangles, fun t ht => ?_⟩
    rw [h.slice, htriangles] at ht
    obtain ⟨span, hspan, -, hwithin⟩ := exists_span_of_mem_ownTriangles h.aligned ht
    exact ⟨span, hspan, hwithin⟩

end MeshEntry

namespace Batch

variable {origin : MeshKey → List MeshPart → Prop} {b : Batch}

/-- The draws of a batch make each entry's triangles as often as it has instances. -/
theorem Sound.triangleCount_eq (h : b.Sound origin) :
    (Draws.ofBatch b).triangleCount =
      (b.entries.map fun e => e.indexCount / 3 * e.instanceCount).sum := by
  have hcommands : (Draws.ofBatch b).commands.map (fun c => c.indexCount / 3 * c.instanceCount) =
      b.drawn.map fun x => x.1.indexCount / 3 * x.1.instanceCount := by
    rw [← List.forall₂_eq_eq_eq, List.forall₂_map_left_iff, List.forall₂_map_right_iff]
    refine h.isOf_drawn.imp fun c x hc => ?_
    rw [hc.indexCount, hc.instanceCount]
  rw [Draws.triangleCount, hcommands]
  show List.sum _ = _
  rw [drawn, sum_map_filter]
  · conv_rhs => rw [← map_fst_listing b, List.map_map]
    rfl
  · -- an entry without records counts no instances, so it contributes nothing
    intro x hx hrecords
    have hnil : x.2 = [] := by simpa using hrecords
    have hcount := h.length_of_mem_listing x hx
    rw [hnil, List.length_nil] at hcount
    rw [← hcount, Nat.mul_zero]

theorem sum_triangles {es : List MeshEntry} {meshes : List (List MeshPart)}
    (h : List.Forall₂ (fun e parts => e.indexCount = (indexCounts parts).sum) es meshes) :
    (es.map fun e => e.indexCount / 3 * e.instanceCount).sum =
      ((es.zip meshes).map fun x => x.1.instanceCount * ownCount x.2).sum +
        ((es.zip meshes).map fun x => x.1.instanceCount * (leftCount x.2 / 3)).sum := by
  induction h with
  | nil => rfl
  | cons hcount _ ih =>
      simp only [List.map_cons, List.zip_cons_cons, List.sum_cons, ih, hcount,
        sum_indexCounts_div_three]
      ring

/-- The triangles of a batch are counted right exactly when no entry that is drawn makes a triangle
of what its parts leave over. -/
theorem Sound.triangleCount_eq_iff (h : b.Sound origin) {meshes : List (List MeshPart)}
    (hmeshes : List.Forall₂ (fun e parts => e.Stages b.staging parts) b.entries meshes) :
    (Draws.ofBatch b).triangleCount =
        ((b.entries.zip meshes).map fun x => x.1.instanceCount * ownCount x.2).sum ↔
      ∀ x ∈ b.entries.zip meshes, 0 < x.1.instanceCount → leftCount x.2 < 3 := by
  have hcounts : List.Forall₂ (fun e parts => e.indexCount = (indexCounts parts).sum)
      b.entries meshes :=
    hmeshes.imp fun e parts hstages => hstages.indexCount.trans (length_mergedIndices 0 parts)
  -- the difference is what drawn entries make of indices left over
  rw [h.triangleCount_eq, sum_triangles hcounts, Nat.add_eq_left, List.sum_eq_zero_iff]
  constructor
  · intro hzero x hx hdrawn
    have := hzero _ (List.mem_map_of_mem hx)
    rcases Nat.mul_eq_zero.mp this with hnone | hfew
    · omega
    · omega
  · intro hfew n hn
    obtain ⟨x, hx, rfl⟩ := List.mem_map.mp hn
    by_cases hdrawn : 0 < x.1.instanceCount
    · rw [Nat.div_eq_of_lt (hfew x hx hdrawn), Nat.mul_zero]
    · rw [Nat.eq_zero_of_not_pos hdrawn, Nat.zero_mul]

/-- After any calls, each entry has the mesh of some model that a call found. A draw of the entry
makes the triangles of the mesh's parts exactly when the ends of the parts meet, and the triangles
of all draws are counted right exactly when no drawn mesh leaves over three indices. -/
theorem keepsTriangles_iff_endsMeet (b₀ : Batch) (calls : List Call) :
    ∃ meshes : List (List MeshPart),
      List.Forall₂
        (fun e parts => (∃ c ∈ calls, parts? c.models b₀.maxJoints e.key = some parts) ∧
          (e.KeepsTriangles (b₀.cleanUp.afterAll calls).staging parts ↔
            EndsMeet (indexCounts parts)))
        (b₀.cleanUp.afterAll calls).entries meshes ∧
      ((Draws.ofBatch (b₀.cleanUp.afterAll calls)).triangleCount =
          (((b₀.cleanUp.afterAll calls).entries.zip meshes).map fun x =>
            x.1.instanceCount * ownCount x.2).sum ↔
        ∀ x ∈ (b₀.cleanUp.afterAll calls).entries.zip meshes, 0 < x.1.instanceCount →
          leftCount x.2 < 3) := by
  have hsound : (b₀.cleanUp.afterAll calls).Sound fun key parts =>
      ∃ c ∈ calls, parts? c.models b₀.maxJoints key = some parts :=
    (sound_cleanUp _ b₀).afterAll fun c hc _ _ hparts => ⟨c, hc, hparts⟩
  obtain ⟨meshes, hmeshes⟩ := exists_forall₂ hsound.stages
  refine ⟨meshes, hmeshes.imp fun e parts h => ⟨h.1, h.2.keepsTriangles_iff⟩, ?_⟩
  exact hsound.triangleCount_eq_iff (hmeshes.imp fun e parts h => h.2)

/-- A part of four vertices and one of five make a triangle with corners in both. -/
theorem exists_mesh_with_mixed_triangle :
    ¬∀ (b₀ : Batch) (calls : List Call), ∀ e ∈ (b₀.cleanUp.afterAll calls).entries,
      ∃ parts, (∃ c ∈ calls, parts? c.models b₀.maxJoints e.key = some parts) ∧
        e.KeepsTriangles (b₀.cleanUp.afterAll calls).staging parts := by
  intro h
  let c := plainCall [0] [4, 5]
  let b := (empty 8 32).cleanUp.afterAll [c]
  let e : MeshEntry := ⟨⟨"m.glb", 0⟩, 0, 9, 0, 9, 1, false⟩
  have hentry : e ∈ b.entries := by decide
  have hdrawn : ((b.staging.indices.drop e.firstIndex).take e.indexCount).length = 9 := by decide
  -- Nine indices drawn, but the parts own two triangles: one more mixes their rests.
  have hown : (parts? c.models 32 e.key).map ownCount = some 2 := by decide
  obtain ⟨parts, ⟨c', hc', hparts⟩, hkeeps⟩ := h (empty 8 32) [c] e hentry
  rw [List.mem_singleton.mp hc'] at hparts
  have htriangles := congrArg List.length hkeeps.triangles
  rw [length_threes, length_ownTriangles, hdrawn] at htriangles
  rw [show parts? c.models 32 e.key = some parts from hparts, Option.map_some,
    ← htriangles] at hown
  cases hown

end Batch

end SceneBatch
