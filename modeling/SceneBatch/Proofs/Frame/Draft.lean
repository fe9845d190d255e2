import SceneBatch.Frame.Basic
import SceneBatch.Proofs.Batch.Failure
import SceneBatch.Proofs.Batch.Influence
import SceneBatch.Proofs.Frame.Assets

/-!
# Frames under construction

A frame is drafted entity by entity. From the palette so far it is settled what an entity asks for
(`staticPlacement`, `animatedPlacement?`). If it asks for anything and the batch takes the call then
the draft grows by it (`FrameDraft.place`), and otherwise the entity is left out, and only counted:
both kinds of entities are visited in this way (`follows_addStatic`, `follows_addAnimated`).
`FrameDraft.Sound` is what all drafts have in common, and visits preserve it.
-/

namespace SceneBatch

open Batch

/-! ### The records of a batch -/

namespace Batch

/-- The records of all instances, in no order. -/
def records (b : Batch) : Multiset InstanceRecord := b.registry.slots.flatMap (·.records)

variable {origin : MeshKey → List MeshPart → Prop} {b : Batch} {c : Call}

theorem Sound.forget (h : b.Sound origin) : b.Sound fun _ _ => True where
  counts := h.counts
  aligned := h.aligned
  stages e he := by
    obtain ⟨parts, -, hstages⟩ := h.stages e he
    exact ⟨parts, trivial, hstages⟩
  tile := h.tile
  copies := h.copies

theorem Sound.records_eq (h : b.Sound origin) : b.records = ↑(b.keyed.map Prod.snd) := by
  rw [h.keyed_eq, List.map_flatMap]
  simp only [List.map_map]
  show _ = ((b.listing.flatMap fun x => x.2.map id : List InstanceRecord) : Multiset InstanceRecord)
  simp only [List.map_id]
  rw [records, List.flatMap_def, List.flatMap_def, h.map_snd_listing]

theorem Sound.coe_instances_ofBatch (h : b.Sound origin) :
    ((Draws.ofBatch b).instances : Multiset InstanceRecord) = b.records := by
  rw [h.instances_ofBatch, records, List.flatMap_def]

/-- A call adds records of the animation that it asks for. -/
theorem exists_records_after (hb : b.Sound origin) (h : b.answer c = .ok ()) :
    ∃ added : Multiset InstanceRecord, (b.after c).records = b.records + added ∧
      ∀ r ∈ added, r.animation = c.animation := by
  have hafter : (b.after c).Sound fun _ _ => True := hb.forget.after fun _ _ _ => trivial
  refine ⟨↑((c.records (b.after c)).map Prod.snd), ?_, ?_⟩
  · rw [hb.records_eq, hafter.records_eq, Multiset.coe_add, ← List.map_append, Multiset.coe_eq_coe]
    exact (keyed_after_of_ok hb.forget h).map _
  · -- Each new record was made by the call, with the call's animation.
    intro r hr
    obtain ⟨⟨key, record⟩, hmem, rfl⟩ := List.mem_map.mp (Multiset.mem_coe.mp hr)
    rw [Call.records] at hmem
    split at hmem
    · cases hmem
    · obtain ⟨root, -, heq⟩ := List.mem_map.mp hmem
      cases heq
      rfl

/-- A call that fails gives back what it got. -/
theorem addModel_of_error {fault : Fault} (h : b.answer c = .error fault) :
    (b.addModel c.models c.model c.transform c.animation c.textures).value =
      (.error fault, b, c.textures) := by
  cases hplan : b.plan c.models c.model with
  | error cause =>
      rw [answer, addModel_of_plan_eq_error hplan] at h
      cases h
      rw [addModel_of_plan_eq_error hplan]
      rfl
  | ok planned =>
      rw [answer, addModel, hplan] at h
      cases h

end Batch

/-! ### Slots in 32 bits -/

/-- Slots below `2 ^ 32` are told apart by their numbers in 32 bits. -/
theorem slot_inj {k k' : Nat} (hk : k < UInt32.size) (hk' : k' < UInt32.size)
    (h : Int32.ofNat k = Int32.ofNat k') : k = k' := by
  have hwords : (Int32.ofNat k).toUInt32.toNat = (Int32.ofNat k').toUInt32.toNat := by rw [h]
  rw [Int32.toUInt32_ofNat', Int32.toUInt32_ofNat', UInt32.toNat_ofNat', UInt32.toNat_ofNat',
    Nat.mod_eq_of_lt hk, Nat.mod_eq_of_lt hk'] at hwords
  exact hwords

/-- The number -1, which stands for no slot, is that of the last slot of `2 ^ 32` only. -/
theorem slot_ne_neg_one {k : Nat} (hk : k + 1 < UInt32.size) : Int32.ofNat k ≠ -1 := by
  have hlast : (-1 : Int32) = Int32.ofNat (UInt32.size - 1) := by decide
  rw [hlast]
  intro h
  have hk' := slot_inj (by omega) (by decide) h
  omega

/-- The number of a slot is the slot itself or, from `2 ^ 31` on, negative. -/
theorem slot_eq_of_nonneg {k : Nat} (hk : k < UInt32.size) (h : 0 ≤ (Int32.ofNat k).toInt) :
    (Int32.ofNat k).toInt = k := by
  rw [Int32.toInt_ofNat', Int.bmod_def] at h ⊢
  have hmod : (k : Int) % Int32.size = k :=
    Int.emod_eq_of_lt (Int.natCast_nonneg k) (by exact_mod_cast hk)
  rw [hmod] at h ⊢
  split at h
  · next hlow => rw [if_pos hlow]
  · -- a number in the upper half is the slot less `2 ^ 32`
    have : (k : Int) < Int32.size := by exact_mod_cast hk
    omega

/-! ### What entities ask for -/

/-- What an entity asks for: a model, where it stands, the animation that its records name, and the
joint matrices that it brings along. -/
structure Placement where
  model : String
  transform : Transform
  animation : Int32 := -1
  matrices : List (Mat4 Float32) := []
  isAnimated : Bool := false

/-- One more entity was placed. -/
def FrameStats.countPlaced (s : FrameStats) (isAnimated : Bool) : FrameStats :=
  if isAnimated then { s with animatedInstances := s.animatedInstances + 1 }
  else { s with staticInstances := s.staticInstances + 1 }

/-- What a model that stands still asks for. -/
def staticPlacement (e : StaticMesh) : Placement where
  model := e.mesh.model
  transform := e.transform

/-- What an animated model asks for: the slot behind the palette so far. -/
def animatedPlacement (s : Skeleton Float32) (maxJoints : Nat) (palette : List (Mat4 Float32))
    (e : AnimatedMesh) : Placement where
  model := e.mesh.model
  transform := e.transform
  animation := Int32.ofNat (palette.length / maxJoints)
  matrices := s.writeJointMatrices e.playback.time maxJoints
  isAnimated := true

/-- An animated model asks for nothing if it has no skeleton or all slots are taken. -/
def animatedPlacement? (skeletons : SkeletonLibrary) (maxJoints slots : Nat)
    (palette : List (Mat4 Float32)) (e : AnimatedMesh) : Option Placement :=
  match skeletons.find? e.mesh.model with
  | none => none
  | some s =>
    if slots ≤ palette.length / maxJoints then none
    else some (animatedPlacement s maxJoints palette e)

namespace FrameDraft

/-! ### One visit -/

/-- The draft after an entity was left out. -/
def skipped (d : FrameDraft) : FrameDraft :=
  { d with stats := { d.stats with skipped := d.stats.skipped + 1 } }

/-- The call that a placement makes. -/
def request (models : ModelLibrary) (d : FrameDraft) (p : Placement) : Call where
  model := p.model
  transform := p.transform
  animation := p.animation
  textures := d.textures
  models

/-- The draft with a placement, if the batch takes the call. -/
def place (models : ModelLibrary) (d : FrameDraft) (p : Placement) : Option FrameDraft :=
  match d.batch.answer (d.request models p) with
  | .error _ => none
  | .ok _ => some {
      batch := d.batch.after (d.request models p)
      palette := d.palette ++ p.matrices
      textures := d.batch.texturesAfter (d.request models p)
      stats := d.stats.countPlaced p.isAnimated }

/-- The draft after an entity that asks for a placement, or for none. -/
def visitBy (models : ModelLibrary) (d : FrameDraft) (p : Option Placement) : FrameDraft :=
  (p.bind (d.place models)).getD d.skipped

/-- A step visits entities by what they ask for. -/
def Follows {ε : Type} (models : ModelLibrary) (step : FrameDraft → ε → Logged FrameDraft)
    (wish : List (Mat4 Float32) → ε → Option Placement) : Prop :=
  ∀ d e, (step d e).value = d.visitBy models (wish d.palette e)

variable {models : ModelLibrary} {skeletons : SkeletonLibrary} {maxJoints slots : Nat}
  {d : FrameDraft} {p : Placement}

theorem place_of_error {fault : Fault} (h : d.batch.answer (d.request models p) = .error fault) :
    d.place models p = none := by
  rw [place, h]

theorem place_of_ok (h : d.batch.answer (d.request models p) = .ok ()) :
    d.place models p = some
      { batch := d.batch.after (d.request models p)
        palette := d.palette ++ p.matrices
        textures := d.batch.texturesAfter (d.request models p)
        stats := d.stats.countPlaced p.isAnimated } := by
  rw [place, h]

theorem of_place_eq_some {d' : FrameDraft} (h : d.place models p = some d') :
    d.batch.answer (d.request models p) = .ok () ∧
      d' = { batch := d.batch.after (d.request models p)
             palette := d.palette ++ p.matrices
             textures := d.batch.texturesAfter (d.request models p)
             stats := d.stats.countPlaced p.isAnimated } := by
  rw [place] at h
  split at h
  · cases h
  · next hanswer =>
    cases h
    exact ⟨hanswer, rfl⟩

theorem addModel_of_request_ok (h : d.batch.answer (d.request models p) = .ok ()) :
    (d.batch.addModel models p.model p.transform p.animation d.textures).value =
      (.ok (), d.batch.after (d.request models p), d.batch.texturesAfter (d.request models p)) :=
  Prod.ext h rfl

theorem follows_addStatic (models : ModelLibrary) :
    Follows models (addStatic models) fun _ e => some (staticPlacement e) := by
  intro d e
  rw [visitBy, Option.bind_some, addStatic, Logged.bind_value]
  cases h : d.batch.answer (d.request models (staticPlacement e)) with
  | error fault =>
      have hcall := addModel_of_error h
      simp only [request, staticPlacement] at hcall
      rw [place_of_error h, hcall]
      rfl
  | ok _ =>
      have hcall : (d.batch.addModel models e.mesh.model e.transform (-1) d.textures).value = _ :=
        addModel_of_request_ok h
      rw [place_of_ok h, hcall]
      -- a model that stands still has no matrices
      show _ = ({ batch := _, palette := d.palette ++ [], textures := _, stats := _ } : FrameDraft)
      rw [List.append_nil]
      rfl

theorem follows_addAnimated (models : ModelLibrary) (skeletons : SkeletonLibrary)
    (maxJoints slots : Nat) :
    Follows models (addAnimated models skeletons maxJoints slots)
      (animatedPlacement? skeletons maxJoints slots) := by
  intro d e
  rw [addAnimated, SkeletonLibrary.get, animatedPlacement?]
  cases skeletons.find? e.mesh.model with
  | none => rfl
  | some s =>
      dsimp only
      -- without a skeleton or a slot the batch is not called
      by_cases hfull : slots ≤ d.palette.length / maxJoints
      · rw [if_pos hfull, if_pos hfull]
        rfl
      · rw [if_neg hfull, if_neg hfull, Logged.bind_value, visitBy, Option.bind_some]
        cases h : d.batch.answer (d.request models (animatedPlacement s maxJoints d.palette e)) with
        | error fault =>
            have hcall := addModel_of_error h
            simp only [request, animatedPlacement] at hcall
            rw [place_of_error h, hcall]
            rfl
        | ok _ =>
            have hcall : (d.batch.addModel models e.mesh.model e.transform
                (Int32.ofNat (d.palette.length / maxJoints)) d.textures).value = _ :=
              addModel_of_request_ok h
            rw [place_of_ok h, hcall]
            rfl

/-! ### The outcome of a visit -/

/-- The call for a model that stands still. -/
def staticCall (models : ModelLibrary) (d : FrameDraft) (e : StaticMesh) : Call where
  model := e.mesh.model
  transform := e.transform
  animation := -1
  textures := d.textures
  models

/-- The call for an animated model: it is to take the next slot. -/
def animatedCall (models : ModelLibrary) (d : FrameDraft) (e : AnimatedMesh) : Call where
  model := e.mesh.model
  transform := e.transform
  animation := Int32.ofNat d.stats.animatedInstances
  textures := d.textures
  models

/-- Why an animated entity is left out: its model has no skeleton, all slots are taken, or the model
cannot be added to the batch. -/
inductive LeavesOut (models : ModelLibrary) (skeletons : SkeletonLibrary) (slots : Nat)
    (d : FrameDraft) (e : AnimatedMesh) : Prop
  | noSkeleton (h : skeletons.find? e.mesh.model = none)
  | full (h : slots ≤ d.stats.animatedInstances)
  | refused {fault : Fault} (h : d.batch.answer (d.animatedCall models e) = .error fault)

/-- What is true of every draft: its batch has the models of one library, the palette has one run
of joint matrices for each animated entity, and records name no other runs. There are fewer runs
than slot numbers, so a number names one of them only. -/
structure Sound (models : ModelLibrary) (maxJoints : Nat) (d : FrameDraft) : Prop where
  batch : d.batch.DrawsFrom models d.batch.maxJoints
  palette : d.palette.length = d.stats.animatedInstances * maxJoints
  taken : d.stats.animatedInstances < UInt32.size
  records : ∀ r ∈ d.batch.records,
    r.animation = -1 ∨ ∃ k < d.stats.animatedInstances, r.animation = Int32.ofNat k

/-- What a visit does for a model that stands still. -/
theorem addStatic_cases (models : ModelLibrary) (d : FrameDraft) (e : StaticMesh) :
    ((∃ fault, d.batch.answer (d.staticCall models e) = .error fault) ∧
        (addStatic models d e).value = d.skipped) ∨
      (d.batch.answer (d.staticCall models e) = .ok () ∧
        ∃ textures, (addStatic models d e).value =
          { d with
            batch := d.batch.after (d.staticCall models e)
            textures
            stats := { d.stats with staticInstances := d.stats.staticInstances + 1 } }) := by
  rw [follows_addStatic models d e, visitBy, Option.bind_some]
  cases h : d.batch.answer (d.staticCall models e) with
  | error fault =>
      have hplace : d.place models (staticPlacement e) = none := place_of_error h
      rw [hplace]
      exact .inl ⟨⟨fault, rfl⟩, rfl⟩
  | ok _ =>
      have hplace := place_of_ok (p := staticPlacement e) h
      refine .inr ⟨rfl, d.batch.texturesAfter (d.staticCall models e), ?_⟩
      rw [hplace]
      show ({ batch := _, palette := d.palette ++ [], textures := _, stats := _ } : FrameDraft) = _
      rw [List.append_nil]
      rfl

/-- Models that stand still take no slots. -/
theorem animatedInstances_addStatic (models : ModelLibrary) (d : FrameDraft) (e : StaticMesh) :
    (addStatic models d e).value.stats.animatedInstances = d.stats.animatedInstances := by
  rcases addStatic_cases models d e with ⟨-, hafter⟩ | ⟨-, textures, hafter⟩
  · rw [hafter]
    rfl
  · rw [hafter]

/-- What a visit does for an animated model. -/
theorem Sound.addAnimated_cases (hd : d.Sound models maxJoints) (hpos : 0 < maxJoints)
    (skeletons : SkeletonLibrary) (slots : Nat) (e : AnimatedMesh) :
    (d.LeavesOut models skeletons slots e ∧
        (addAnimated models skeletons maxJoints slots d e).value = d.skipped) ∨
      (¬d.LeavesOut models skeletons slots e ∧
        d.batch.answer (d.animatedCall models e) = .ok () ∧
        ∃ s textures, skeletons.find? e.mesh.model = some s ∧
          (addAnimated models skeletons maxJoints slots d e).value =
            { batch := d.batch.after (d.animatedCall models e)
              palette := d.palette ++ s.writeJointMatrices e.playback.time maxJoints
              textures
              stats := { d.stats with animatedInstances := d.stats.animatedInstances + 1 } }) := by
  -- the slot that is computed from the palette is the number of slots that are taken
  have hslot : d.palette.length / maxJoints = d.stats.animatedInstances := by
    rw [hd.palette, Nat.mul_div_cancel _ hpos]
  rw [follows_addAnimated models skeletons maxJoints slots d e, animatedPlacement?]
  cases hskeleton : skeletons.find? e.mesh.model with
  | none => exact .inl ⟨.noSkeleton hskeleton, rfl⟩
  | some s =>
      dsimp only
      rw [hslot]
      by_cases hfull : slots ≤ d.stats.animatedInstances
      · rw [if_pos hfull]
        exact .inl ⟨.full hfull, rfl⟩
      · have hcall : d.request models (animatedPlacement s maxJoints d.palette e) =
            d.animatedCall models e := by
          rw [request, animatedPlacement, hslot]
          rfl
        rw [if_neg hfull, visitBy, Option.bind_some]
        cases h : d.batch.answer (d.animatedCall models e) with
        | error fault =>
            rw [place_of_error (by rw [hcall, h])]
            exact .inl ⟨.refused h, rfl⟩
        | ok _ =>
            rw [place_of_ok (by rw [hcall, h]), hcall]
            refine .inr ⟨?_, rfl, s, d.batch.texturesAfter (d.animatedCall models e), rfl, rfl⟩
            rintro (hnone | hfull' | hrefused)
            · cases hskeleton.symm.trans hnone
            · exact hfull hfull'
            · cases h.symm.trans hrefused

/-! ### What visits preserve -/

theorem Sound.skipped (hd : d.Sound models maxJoints) : d.skipped.Sound models maxJoints :=
  ⟨hd.batch, hd.palette, hd.taken, hd.records⟩

theorem Sound.addStatic (hd : d.Sound models maxJoints) (e : StaticMesh) :
    (addStatic models d e).value.Sound models maxJoints := by
  rcases addStatic_cases models d e with ⟨-, hafter⟩ | ⟨hok, textures, hafter⟩
  · rw [hafter]
    exact hd.skipped
  · rw [hafter]
    refine ⟨hd.batch.after_self rfl, hd.palette, hd.taken, ?_⟩
    intro r hr
    obtain ⟨added, hadded, hanimation⟩ := exists_records_after hd.batch.sound hok
    change r ∈ (d.batch.after (d.staticCall models e)).records at hr
    rw [hadded] at hr
    -- a record was there before, or this visit added it
    rcases Multiset.mem_add.mp hr with hr | hr
    · exact hd.records r hr
    · exact .inl (hanimation r hr)

theorem Sound.addAnimated (hd : d.Sound models maxJoints) (hpos : 0 < maxJoints)
    (skeletons : SkeletonLibrary) (hslots : slots < UInt32.size) (e : AnimatedMesh) :
    (addAnimated models skeletons maxJoints slots d e).value.Sound models maxJoints := by
  rcases hd.addAnimated_cases hpos skeletons slots e with
    ⟨-, hafter⟩ | ⟨hin, hok, s, textures, -, hafter⟩
  · rw [hafter]
    exact hd.skipped
  · -- the slot is one of those of the frame, so its number has 32 bits
    have hroom : d.stats.animatedInstances < slots :=
      Nat.lt_of_not_le fun hfull => hin (.full hfull)
    rw [hafter]
    refine ⟨hd.batch.after_self rfl, ?_, Nat.lt_of_le_of_lt hroom hslots, ?_⟩
    · -- one run of matrices more
      show (d.palette ++ _).length = (d.stats.animatedInstances + 1) * maxJoints
      rw [List.length_append, Skeleton.length_writeJointMatrices, hd.palette, Nat.succ_mul]
    · intro r hr
      obtain ⟨added, hadded, hanimation⟩ := exists_records_after hd.batch.sound hok
      change r ∈ (d.batch.after (d.animatedCall models e)).records at hr
      rw [hadded] at hr
      -- old records keep their slots, and new ones name the next
      rcases Multiset.mem_add.mp hr with hr | hr
      · rcases hd.records r hr with hstatic | ⟨k, hk, hslot⟩
        · exact .inl hstatic
        · exact .inr ⟨k, Nat.lt_succ_of_lt hk, hslot⟩
      · exact .inr ⟨d.stats.animatedInstances, Nat.lt_succ_self _, hanimation r hr⟩

end FrameDraft

end SceneBatch
