import SceneBatch.Proofs.Frame.Assets

/-!
# Poses of hierarchies

A skeleton is posed in one pass over its bones, each of which finds the matrix of its parent among
those that were made before. Where parents come first this gives what the hierarchy says
(`Skeleton.IsGlobal`): a bone stands where its parent stands, moved by its own pose. So it does
however many joints there is room for (`Skeleton.PosesHierarchy`).

The pass can be run on slices that are overwritten in place (`Skeleton.poseInPlace?`), and it never
leaves them, whatever parents the bones name. Nothing that was in the slice before is left in it.
-/

namespace SceneBatch

namespace Skeleton

variable {α : Type} [Scalar α]

/-! ### Hierarchies -/

/-- The global matrix of a bone: that of its parent times its own, or its own alone if it is a
root. -/
inductive IsGlobal (s : Skeleton α) (time : α) : Nat → Mat4 α → Prop
  | root {i : Nat} {b : Bone α} (hb : s.bones[i]? = some b) (hparent : b.parent = none) :
      IsGlobal s time i (b.localMatrix time)
  | child {i p : Nat} {b : Bone α} {g : Mat4 α} (hb : s.bones[i]? = some b)
      (hparent : b.parent = some p) (hg : IsGlobal s time p g) :
      IsGlobal s time i (g * b.localMatrix time)

/-- Every parent comes before its children. -/
def IsOrdered (s : Skeleton α) : Prop :=
  ∀ (i : Nat) b, s.bones[i]? = some b → ∀ p, b.parent = some p → p < i

variable {s : Skeleton α} {time : α} {i : Nat} {b : Bone α}

omit [Scalar α] in
theorem hasUnorderedParents_eq_false_iff : s.hasUnorderedParents = false ↔ s.IsOrdered := by
  rw [hasUnorderedParents, List.any_eq_false]
  constructor
  · intro h i b hb p hp
    have hnot := h (b, i) (List.mk_mem_zipIdx_iff_getElem?.mpr hb)
    simpa [hp] using hnot
  · rintro h ⟨b, i⟩ hmem
    have hbefore := h i b (List.mk_mem_zipIdx_iff_getElem?.mp hmem)
    cases hparent : b.parent with
    | none => simp [hparent]
    | some p => simpa [hparent] using hbefore p hparent

theorem IsGlobal.unique {g g' : Mat4 α} (h : s.IsGlobal time i g) (h' : s.IsGlobal time i g') :
    g = g' := by
  induction h generalizing g' with
  | root hb hparent =>
      -- A root has no parent, a child has one: the mixed cases cannot be.
      cases h' with
      | root hb' _ => cases hb.symm.trans hb'; rfl
      | child hb' hparent' _ =>
          cases hb.symm.trans hb'
          cases hparent.symm.trans hparent'
  | child hb hparent hg ih =>
      cases h' with
      | root hb' hparent' =>
          cases hb.symm.trans hb'
          cases hparent.symm.trans hparent'
      | child hb' hparent' hg' =>
          cases hb.symm.trans hb'
          cases hparent.symm.trans hparent'
          rw [ih hg']

/-! ### One pass over the bones -/

/-- The global matrix of a bone behind others whose matrices are done. -/
def globalAfter (time : α) (count : Nat) (done : List (Mat4 α)) (b : Bone α) : Mat4 α :=
  match b.parent with
  | some p => if p < count then (done[p]?.getD .identity) * b.localMatrix time
    else b.localMatrix time
  | none => b.localMatrix time

theorem globalsFrom_concat (time : α) (count : Nat) (done : List (Mat4 α)) (bones : List (Bone α))
    (b : Bone α) :
    globalsFrom time count done (bones ++ [b]) =
      globalsFrom time count done bones ++
        [globalAfter time count (globalsFrom time count done bones) b] := by
  induction bones generalizing done with
  | nil => rfl
  | cons b' bones ih => exact ih _

/-- The global matrices of the first `k` bones. -/
def globals (s : Skeleton α) (time : α) (count k : Nat) : List (Mat4 α) :=
  globalsFrom time count [] (s.bones.take k)

@[simp] theorem length_globals (s : Skeleton α) (time : α) (count k : Nat) :
    (s.globals time count k).length = min k s.bones.length := by
  simp [globals, length_globalsFrom]

theorem globals_succ (hb : s.bones[i]? = some b) (time : α) (count : Nat) :
    s.globals time count (i + 1) =
      s.globals time count i ++ [globalAfter time count (s.globals time count i) b] := by
  obtain ⟨hi, rfl⟩ := List.getElem?_eq_some_iff.mp hb
  rw [globals, ← List.take_concat_get' _ _ hi]
  exact globalsFrom_concat ..

/-- What is done is not touched again. -/
theorem globals_isPrefix (s : Skeleton α) (time : α) (count : Nat) {k k' : Nat} (h : k ≤ k') :
    s.globals time count k <+: s.globals time count k' := by
  induction h with
  | refl => exact List.prefix_rfl
  | @step k' _ ih =>
      apply ih.trans
      cases hb : s.bones[k']? with
      | none =>
          -- there are no more bones
          have hall : s.bones.take (k' + 1) = s.bones.take k' := by
            rw [List.getElem?_eq_none_iff] at hb
            rw [List.take_of_length_le hb, List.take_of_length_le (Nat.le_succ_of_le hb)]
          rw [globals, globals, hall]
      | some b =>
          rw [globals_succ hb]
          exact List.prefix_append ..

theorem getElem?_globals (hb : s.bones[i]? = some b) (time : α) (count : Nat) {k : Nat}
    (hi : i < k) :
    (s.globals time count k)[i]? = some (globalAfter time count (s.globals time count i) b) := by
  have hlt : i < s.bones.length := (List.getElem?_eq_some_iff.mp hb).1
  have hlength : (s.globals time count i).length = i := by simp [Nat.le_of_lt hlt]
  apply getElem?_of_isPrefix (globals_isPrefix s time count hi)
  rw [globals_succ hb, getElem?_concat_eq_some_iff]
  exact .inr ⟨hlength.symm, rfl⟩

/-- Where parents come first, the pass makes the global matrices of the hierarchy. The induction is
on the place of the bone, since its parent has a lower one. -/
theorem isGlobal_globalAfter (hs : s.IsOrdered) (time : α) {count : Nat}
    (hb : s.bones[i]? = some b) (hi : i < count) :
    s.IsGlobal time i (globalAfter time count (s.globals time count i) b) := by
  induction i using Nat.strongRecOn generalizing b with
  | ind i ih =>
      cases hparent : b.parent with
      | none =>
          rw [globalAfter, hparent]
          exact .root hb hparent
      | some p =>
          -- The parent stands before its child, which is what the induction needs.
          have hp : p < i := hs i b hb p hparent
          have hlt : p < s.bones.length := hp.trans (List.getElem?_eq_some_iff.mp hb).1
          have hpb : s.bones[p]? = some s.bones[p] := List.getElem?_eq_getElem hlt
          rw [globalAfter, hparent]
          dsimp only
          rw [if_pos (hp.trans hi), getElem?_globals hpb time count hp]
          exact .child hb hparent (ih p hp hpb (hp.trans hi))

/-! ### Joint matrices -/

theorem getElem?_writeJointMatrices_of_lt (hb : s.bones[i]? = some b) (time : α) {n : Nat}
    (hi : i < n) :
    (s.writeJointMatrices time n)[i]? =
      some (globalAfter (s.wrapTime time) (min n s.bones.length)
        (s.globals (s.wrapTime time) (min n s.bones.length) i) b * b.inverseBind) := by
  have hbone : (s.bones.take n)[i]? = some b := by rw [List.getElem?_take, if_pos hi, hb]
  have hglobal := getElem?_globals hb (s.wrapTime time) (min n s.bones.length) hi
  rw [globals, ← List.length_take] at hglobal
  rw [writeJointMatrices, ← List.length_take]
  apply getElem?_of_isPrefix (List.prefix_append ..)
  rw [List.getElem?_zipWith, hglobal, hbone]

theorem getElem?_writeJointMatrices_of_le (s : Skeleton α) (time : α) {n : Nat}
    (hi : s.bones.length ≤ i) (hn : i < n) :
    (s.writeJointMatrices time n)[i]? = some .identity := by
  have hlength : (s.bones.take n).length = s.bones.length := by
    rw [List.length_take]
    omega
  rw [writeJointMatrices, List.getElem?_append_right, List.getElem?_replicate_of_lt]
  · simp [length_globalsFrom, hlength]
    omega
  · simp [length_globalsFrom, hlength, hi]

/-- Matrices that pose `n` joints of a hierarchy at a time: each bone is seen from where it was when
the mesh was bound to it. -/
structure Poses (s : Skeleton α) (time : α) (n : Nat) (matrices : List (Mat4 α)) : Prop where
  length : matrices.length = n
  global : ∀ i < min s.bones.length n, ∃! g, s.IsGlobal (s.wrapTime time) i g
  joint : ∀ (i : Nat) b g, i < n → s.bones[i]? = some b → s.IsGlobal (s.wrapTime time) i g →
    matrices[i]? = some (g * b.inverseBind)
  others : ∀ i, s.bones.length ≤ i → i < n → matrices[i]? = some .identity

theorem IsOrdered.poses (hs : s.IsOrdered) (time : α) (n : Nat) :
    s.Poses time n (s.writeJointMatrices time n) := by
  have hglobal {i : Nat} {b : Bone α} (hb : s.bones[i]? = some b) (hi : i < n) :
      s.IsGlobal (s.wrapTime time) i (globalAfter (s.wrapTime time) (min n s.bones.length)
        (s.globals (s.wrapTime time) (min n s.bones.length) i) b) :=
    isGlobal_globalAfter hs _ hb (Nat.lt_min.mpr ⟨hi, (List.getElem?_eq_some_iff.mp hb).1⟩)
  refine ⟨length_writeJointMatrices s time n, ?_, ?_, ?_⟩
  · intro i hi
    obtain ⟨hbone, hn⟩ := Nat.lt_min.mp hi
    have hb := List.getElem?_eq_getElem hbone
    exact ⟨_, hglobal hb hn, fun g hg => hg.unique (hglobal hb hn)⟩
  · intro i b g hi hb hg
    rw [getElem?_writeJointMatrices_of_lt hb time hi, hg.unique (hglobal hb hi)]
  · -- Slots beyond the bones.
    intro i hi hn
    exact getElem?_writeJointMatrices_of_le s time hi hn

/-- Two poses of a skeleton at the same time agree as far as both go. -/
theorem Poses.take_eq {n m : Nat} {xs ys : List (Mat4 α)} (hx : s.Poses time n xs)
    (hy : s.Poses time m ys) : xs.take (min n m) = ys.take (min n m) := by
  apply List.ext_getElem?
  intro i
  rw [List.getElem?_take, List.getElem?_take]
  split
  · next hi =>
    obtain ⟨hn, hm⟩ := Nat.lt_min.mp hi
    -- Below the bones both hold the one global pose, beyond them both hold the identity.
    by_cases hbone : i < s.bones.length
    · obtain ⟨g, hg, -⟩ := hx.global i (Nat.lt_min.mpr ⟨hbone, hn⟩)
      have hb := List.getElem?_eq_getElem hbone
      rw [hx.joint i _ g hn hb hg, hy.joint i _ g hm hb hg]
    · have hnone : s.bones.length ≤ i := Nat.le_of_not_lt hbone
      rw [hx.others i hnone hn, hy.others i hnone hm]
  · rfl

/-! ### Slices -/

/-- Overwrite one element of a slice. There must be such an element. -/
def overwrite? {β : Type} (xs : List β) (i : Nat) (x : β) : Option (List β) :=
  if i < xs.length then some (xs.set i x) else none

theorem overwrite?_append_cons {β : Type} (xs : List β) (y x : β) (ys : List β) :
    overwrite? (xs ++ y :: ys) xs.length x = some (xs ++ [x] ++ ys) := by
  simp [overwrite?]

/-- The global matrix of a bone, for which that of its parent is read from a slice. -/
def globalFrom? (time : α) (count : Nat) (globals : List (Mat4 α)) (b : Bone α) :
    Option (Mat4 α) :=
  match b.parent with
  | some p => if p < count then (globals[p]?).map (· * b.localMatrix time)
    else some (b.localMatrix time)
  | none => some (b.localMatrix time)

/-- Pose one bone in place: its global matrix goes into the first slice, its joint matrix into the
second. There is no result if an element is read or written that is not there. -/
def poseBone? (s : Skeleton α) (time : α) (count : Nat)
    (slices : List (Mat4 α) × List (Mat4 α)) (i : Nat) :
    Option (List (Mat4 α) × List (Mat4 α)) := do
  let b ← s.bones[i]?
  let global ← globalFrom? time count slices.1 b
  return (← overwrite? slices.1 i global, ← overwrite? slices.2 i (global * b.inverseBind))

/-- Write the joint matrices over a slice: those of the bones, as far as there is room, and then
identities. -/
def poseInPlace? (s : Skeleton α) (time : α) (out : List (Mat4 α)) : Option (List (Mat4 α)) := do
  let count := min out.length s.bones.length
  let (_, posed) ← (List.range count).foldlM (s.poseBone? (s.wrapTime time) count)
    (List.replicate count .identity, out)
  return posed.take count ++ (posed.drop count).map fun _ => .identity

/-- The joint matrices of the first `k` bones. -/
def posed (s : Skeleton α) (time : α) (count k : Nat) : List (Mat4 α) :=
  List.zipWith (fun g b => g * b.inverseBind) (s.globals time count k) (s.bones.take k)

@[simp] theorem length_posed (s : Skeleton α) (time : α) (count k : Nat) :
    (s.posed time count k).length = min k s.bones.length := by
  simp [posed]

theorem posed_succ (hb : s.bones[i]? = some b) (time : α) (count : Nat) :
    s.posed time count (i + 1) =
      s.posed time count i ++
        [globalAfter time count (s.globals time count i) b * b.inverseBind] := by
  obtain ⟨hi, rfl⟩ := List.getElem?_eq_some_iff.mp hb
  have hlength : (s.globals time count i).length = (s.bones.take i).length := by simp
  rw [posed, globals_succ hb, ← List.take_concat_get' _ _ hi, List.zipWith_append hlength]
  rfl

/-- The slices when the first `k` bones are posed. The rest is as it was. -/
def slicesAt (s : Skeleton α) (time : α) (count : Nat) (out : List (Mat4 α)) (k : Nat) :
    List (Mat4 α) × List (Mat4 α) :=
  (s.globals time count k ++ List.replicate (count - k) .identity,
    s.posed time count k ++ out.drop k)

/-- A bone finds its parent's matrix, or the identity that stands in for it, as long as the parent
is one of those to be posed. -/
theorem globalFrom?_append_replicate (time : α) {count : Nat} {done : List (Mat4 α)}
    (hdone : done.length ≤ count) (b : Bone α) :
    globalFrom? time count (done ++ List.replicate (count - done.length) .identity) b =
      some (globalAfter time count done b) := by
  rw [globalFrom?, globalAfter]
  cases b.parent with
  | none => rfl
  | some p =>
      dsimp only
      by_cases hp : p < count
      · have hread : (done ++ List.replicate (count - done.length) Mat4.identity)[p]? =
            some (done[p]?.getD .identity) := by
          -- the parent is posed already, or its matrix is still the identity
          by_cases hlt : p < done.length
          · rw [List.getElem?_append_left hlt, List.getElem?_eq_getElem hlt]
            rfl
          · have hle : done.length ≤ p := Nat.le_of_not_lt hlt
            rw [List.getElem?_append_right hle, List.getElem?_eq_none hle,
              List.getElem?_replicate_of_lt (by omega)]
            rfl
        rw [if_pos hp, if_pos hp, hread]
        rfl
      · rw [if_neg hp, if_neg hp]

theorem poseBone?_slicesAt (time : α) {count : Nat} {out : List (Mat4 α)}
    (hbones : count ≤ s.bones.length) (hout : count ≤ out.length) (hi : i < count) :
    s.poseBone? time count (s.slicesAt time count out i) i =
      some (s.slicesAt time count out (i + 1)) := by
  obtain ⟨b, hb⟩ : ∃ b, s.bones[i]? = some b :=
    ⟨_, List.getElem?_eq_getElem (hi.trans_le hbones)⟩
  have hlt : i < out.length := hi.trans_le hout
  have hroom : count - i = count - (i + 1) + 1 := by omega
  have hglobals : (s.globals time count i).length = i := by simp; omega
  have hposed : (s.posed time count i).length = i := by simp; omega
  have hdone : (s.globals time count i).length ≤ count := by omega
  have hglobal := globalFrom?_append_replicate time hdone b
  rw [hglobals] at hglobal
  -- both slices are overwritten at the place where the part that is done ends
  have hfirst := overwrite?_append_cons (s.globals time count i) .identity
    (globalAfter time count (s.globals time count i) b)
    (List.replicate (count - (i + 1)) .identity)
  have hsecond := overwrite?_append_cons (s.posed time count i) out[i]
    (globalAfter time count (s.globals time count i) b * b.inverseBind) (out.drop (i + 1))
  rw [hglobals, ← List.replicate_succ, ← hroom] at hfirst
  rw [hposed, ← List.drop_eq_getElem_cons hlt] at hsecond
  rw [slicesAt, poseBone?, hb]
  simp only [Option.bind_eq_bind, Option.bind_some, hglobal, hfirst, hsecond]
  rw [slicesAt, globals_succ hb, posed_succ hb]
  rfl

/-- After `k` steps the first `k` bones are posed. -/
theorem foldlM_poseBone? (time : α) {count : Nat} {out : List (Mat4 α)}
    (hbones : count ≤ s.bones.length) (hout : count ≤ out.length) {k : Nat} (hk : k ≤ count) :
    (List.range k).foldlM (s.poseBone? time count) (s.slicesAt time count out 0) =
      some (s.slicesAt time count out k) := by
  induction k with
  | zero => rfl
  | succ k ih =>
      rw [List.range_succ, List.foldlM_append, ih (Nat.le_of_succ_le hk)]
      simp only [Option.bind_eq_bind, Option.bind_some, List.foldlM_cons, List.foldlM_nil,
        poseBone?_slicesAt time hbones hout hk]
      rfl

/-- Posing in place stays within the slices, whatever the parents are, and gives the joint matrices
whatever was there before. -/
theorem poseInPlace?_eq (s : Skeleton α) (time : α) (out : List (Mat4 α)) :
    s.poseInPlace? time out = some (s.writeJointMatrices time out.length) := by
  -- `count` slots are posed, whichever of the slice and the bones is shorter.
  generalize hcount : min out.length s.bones.length = count
  have hbones : count ≤ s.bones.length := hcount ▸ Nat.min_le_right ..
  have hout : count ≤ out.length := hcount ▸ Nat.min_le_left ..
  have htake : s.bones.take count = s.bones.take out.length := by
    rw [← hcount]
    exact List.take_eq_take_min.symm
  -- The walk starts from the slice as given, which is the invariant at place 0.
  have hslices : (List.replicate count .identity, out) =
      s.slicesAt (s.wrapTime time) count out 0 := by
    simp [slicesAt, posed, globals, globalsFrom]
  have hposed : (s.posed (s.wrapTime time) count count).length = count := by simpa using hbones
  rw [poseInPlace?, hcount, hslices]
  dsimp only
  rw [foldlM_poseBone? (s.wrapTime time) hbones hout (Nat.le_refl count)]
  -- Only the head of the slice was written; the tail is filled behind it.
  show some (List.take count (s.posed _ count count ++ _) ++
    (List.drop count (s.posed _ count count ++ _)).map _) = _
  rw [List.take_left' hposed, List.drop_left' hposed, List.map_const', List.length_drop,
    writeJointMatrices, posed, globals, htake, List.length_take, hcount]

/-! ### The pass and the hierarchy -/

/-- The joint matrices of a skeleton are those of its hierarchy, and a slice gets as many of them as
it has room for. -/
structure PosesHierarchy (s : Skeleton α) (time : α) : Prop where
  /-- A bone moves what was turned and, before that, stretched, as its tracks say, and where they
  say nothing as at rest. -/
  own : ∀ b ∈ s.bones, b.localMatrix (s.wrapTime time) =
    .ofPosition ((b.position.sample (s.wrapTime time)).getD b.rest.position) *
      .ofQuat ((b.rotation.sample (s.wrapTime time)).getD b.rest.rotation) *
      .ofScale ((b.scale.sample (s.wrapTime time)).getD b.rest.scale)
  joints : s.Poses time s.maxJoints (s.jointMatrices time)
  slices : ∀ n, s.Poses time n (s.writeJointMatrices time n)
  agree : ∀ n m, (s.writeJointMatrices time n).take (min n m) =
    (s.writeJointMatrices time m).take (min n m)

/-- Posing in place stays within the slices for any skeleton, and where parents come first it gives
the pose of the hierarchy. -/
theorem poseInPlace_posesHierarchy (s : Skeleton α) (time : α) :
    (∀ out, s.poseInPlace? time out = some (s.writeJointMatrices time out.length)) ∧
      (s.hasUnorderedParents = false → s.PosesHierarchy time) := by
  refine ⟨poseInPlace?_eq s time, fun h => ?_⟩
  have hordered : s.IsOrdered := hasUnorderedParents_eq_false_iff.mp h
  have hposes := hordered.poses time
  exact ⟨fun _ _ => rfl, hposes s.maxJoints, hposes, fun n m => (hposes n).take_eq (hposes m)⟩

/-- A shoulder, an elbow and a wrist, of which the first two are posed. -/
def arm : Skeleton Float32 where
  name := "arm"
  clip := none
  bones :=
    [{ name := "shoulder", node := 0, parent := none, inverseBind := .identity, rest := .identity },
     { name := "elbow", node := 1, parent := some 0, inverseBind := .identity
       rest := { LocalPose.identity with position := ⟨0, 1, 0⟩ } },
     { name := "wrist", node := 2, parent := some 1, inverseBind := .identity
       rest := { LocalPose.identity with position := ⟨0, 2, 0⟩ } }]
  duration := 2
  maxJoints := 2

theorem arm_posesHierarchy : arm.hasUnorderedParents = false ∧ arm.PosesHierarchy 3 := by
  have h : arm.hasUnorderedParents = false := by decide
  exact ⟨h, (poseInPlace_posesHierarchy arm 3).2 h⟩

end Skeleton

end SceneBatch
