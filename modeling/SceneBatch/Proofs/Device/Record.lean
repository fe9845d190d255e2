import SceneBatch.Proofs.Files.Bytes
import SceneBatch.Render.Record

/-!
# Sizes of device records

Every record takes as many bytes as its layout says (`DeviceRecord.Sized`), so records that stand
one behind the other take that many bytes each (`length_encodeAll`).
-/

namespace SceneBatch

/-- Layouts whose size is that of the bytes they give. -/
class DeviceRecord.Sized (ρ : Type) [DeviceRecord ρ] : Prop where
  length_encode : ∀ r : ρ, (DeviceRecord.encode r).length = DeviceRecord.size ρ

theorem length_singlesBytes (xs : List Float32) : (singlesBytes xs).length = xs.length * 4 :=
  length_flatMap_of_length fun x _ => Bytes.length_ofSingle x

namespace DeviceRecord

/-! ### Numbers and vectors -/

instance : Sized Nat := ⟨fun n => Bytes.length_ofNat 4 n⟩

instance : Sized (Vec2 Float32) := ⟨fun v => length_singlesBytes v.toList⟩

instance : Sized (Vec3 Float32) := ⟨fun v => length_singlesBytes v.toList⟩

instance : Sized (Vec4 Float32) := ⟨fun v => length_singlesBytes v.toList⟩

instance : Sized (Vec4 Nat) := ⟨fun _ => length_flatMap_of_length fun n _ => Bytes.length_ofNat 4 n⟩

instance : Sized (Mat4 Float32) := ⟨fun m => length_singlesBytes m.toList⟩

/-! ### What draws refer to -/

instance : Sized InstanceRecord where
  length_encode r := by
    simp only [encode, List.length_append, length_singlesBytes, Bytes.length_ofInt32,
      List.length_replicate]
    rfl

instance : Sized MaterialBinding where
  length_encode m := by
    simp only [encode, List.length_append, Bytes.length_ofInt32, List.length_replicate]
    rfl

instance : Sized DrawCommand where
  length_encode c := by
    simp only [encode, List.length_append, Bytes.length_ofNat, Bytes.length_ofInt]
    rfl

instance : Sized LightRecord where
  length_encode r := by
    simp only [encode, List.length_append, length_singlesBytes, Bytes.length_ofNat]
    rfl

instance : Sized FrameUniforms where
  length_encode u := by
    simp only [encode, List.length_append, length_singlesBytes,
      length_flatMap_of_length fun n _ => Bytes.length_ofNat 4 n]
    rfl

/-! ### Several records -/

variable {ρ : Type} [DeviceRecord ρ] [Sized ρ]

theorem length_encodeAll (rs : List ρ) : (encodeAll rs).length = rs.length * size ρ :=
  length_flatMap_of_length fun r _ => Sized.length_encode r

end DeviceRecord

end SceneBatch
