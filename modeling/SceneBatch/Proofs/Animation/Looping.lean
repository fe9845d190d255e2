import Mathlib.Algebra.Group.ModEq
import SceneBatch.Proofs.Animation.Hierarchy
import SceneBatch.Proofs.Number.Exact

/-!
# Clips that repeat

A pose depends on the time only through the time within the clip (`Skeleton.wrapTime`), and with
exact numbers this is the residue of the time modulo the length of the clip
(`Skeleton.wrapTime_eq_toIcoMod`). So a clip repeats forever, backward in time as well
(`Skeleton.Repeats`). A clip without length shows one pose at all times.
-/

namespace SceneBatch

namespace Skeleton

section Wrapping

variable {α : Type} [Scalar α] {s : Skeleton α} {time time' : α}

/-- Times that are at the same place in the clip have the same pose. -/
theorem writeJointMatrices_eq_of_wrapTime_eq (h : s.wrapTime time = s.wrapTime time') (n : Nat) :
    s.writeJointMatrices time n = s.writeJointMatrices time' n := by
  rw [writeJointMatrices, writeJointMatrices, h]

end Wrapping

variable [RationalApproximation] {s : Skeleton ℚ} {time time' : ℚ}

theorem wrapTime_of_nonpos (h : s.duration ≤ 0) (time : ℚ) : s.wrapTime time = 0 :=
  if_neg (not_lt.mpr h)

theorem wrapTime_eq_toIcoMod (h : 0 < s.duration) (time : ℚ) :
    s.wrapTime time = toIcoMod h 0 time :=
  (if_pos h).trans (Exact.remainder_eq_toIcoMod h time)

theorem wrapTime_modEq (h : 0 < s.duration) (time : ℚ) :
    s.wrapTime time ≡ time [PMOD s.duration] := by
  rw [AddCommGroup.modEq_iff_zsmul', wrapTime_eq_toIcoMod h]
  exact ⟨toIcoDiv h 0 time, self_sub_toIcoMod h 0 time⟩

theorem wrapTime_eq_of_modEq (h : time ≡ time' [PMOD s.duration]) :
    s.wrapTime time = s.wrapTime time' := by
  by_cases hlength : 0 < s.duration
  · rw [wrapTime_eq_toIcoMod hlength, wrapTime_eq_toIcoMod hlength]
    exact h.toIcoMod_eq_toIcoMod hlength
  · have hnone := not_lt.mp hlength
    rw [wrapTime_of_nonpos hnone, wrapTime_of_nonpos hnone]

/-- A time is wrapped to the place in the clip that is a whole number of clips away. -/
structure Wraps (s : Skeleton ℚ) (time : ℚ) : Prop where
  nonneg : 0 ≤ s.wrapTime time
  lt : s.wrapTime time < s.duration
  whole : ∃ n : ℤ, s.wrapTime time - time = n * s.duration
  idempotent : s.wrapTime (s.wrapTime time) = s.wrapTime time

theorem wraps (h : 0 < s.duration) (time : ℚ) : s.Wraps time := by
  have hmem := toIcoMod_mem_Ico' h time
  rw [← wrapTime_eq_toIcoMod h] at hmem
  have hmod := wrapTime_modEq h time
  obtain ⟨n, hwhole⟩ := AddCommGroup.modEq_iff_zsmul'.mp hmod.symm
  refine ⟨hmem.1, hmem.2, ⟨n, ?_⟩, wrapTime_eq_of_modEq hmod⟩
  rw [hwhole, zsmul_eq_mul]

/-- The clip of a skeleton repeats: what is written over a slice depends on the residue of the time
modulo the length of the clip, and if the clip has no length not on the time at all. -/
structure Repeats (s : Skeleton ℚ) : Prop where
  wraps : 0 < s.duration → ∀ time, s.Wraps time
  joints : ∀ (time : ℚ) (k : ℤ), s.jointMatrices (time + k * s.duration) = s.jointMatrices time
  slices : ∀ time time' out, time ≡ time' [PMOD s.duration] →
    s.poseInPlace? time out = some (s.writeJointMatrices time' out.length)
  still : s.duration ≤ 0 → ∀ time time' out,
    s.jointMatrices time = s.jointMatrices time' ∧
      s.poseInPlace? time out = some (s.writeJointMatrices time' out.length)

/-- Every clip repeats. -/
theorem repeats (s : Skeleton ℚ) : s.Repeats where
  wraps h time := wraps h time
  joints time k := by
    have hmod : time + k • s.duration ≡ time [PMOD s.duration] := AddCommGroup.add_zsmul_modEq k
    rw [zsmul_eq_mul] at hmod
    exact writeJointMatrices_eq_of_wrapTime_eq (wrapTime_eq_of_modEq hmod) s.maxJoints
  slices time time' out h := by
    rw [poseInPlace?_eq, writeJointMatrices_eq_of_wrapTime_eq (wrapTime_eq_of_modEq h)]
  still h time time' out := by
    have hsame : s.wrapTime time = s.wrapTime time' := by
      rw [wrapTime_of_nonpos h, wrapTime_of_nonpos h]
    refine ⟨writeJointMatrices_eq_of_wrapTime_eq hsame s.maxJoints, ?_⟩
    rw [poseInPlace?_eq, writeJointMatrices_eq_of_wrapTime_eq hsame]

end Skeleton

end SceneBatch
