import SceneBatch.Proofs.Frame.Draft

/-!
# Walks

A frame is drafted in two walks, over the models that stand still and over the animated ones. Each
visit of a walk has an outcome (`Visit.IsStatic`, `Visit.IsAnimated`), and what it put into the
draft stays there: later visits extend the palette and use other slots (`FrameDraft.Extends`). So
the slots of a walk can be told by counting the visits that took one (`taken_of_placed`).
-/

namespace SceneBatch

open Batch

/-- The records that name a slot by its number. -/
def Batch.recordsOf (b : Batch) (slot : Nat) : Multiset InstanceRecord :=
  b.records.filter fun r => r.animation = Int32.ofNat slot

namespace FrameDraft

/-- A draft that another one grew into: the palette begins as before, and the records of slots that
were taken are still the same. -/
structure Extends (d d' : FrameDraft) : Prop where
  palette : d.palette <+: d'.palette
  taken : d.stats.animatedInstances ≤ d'.stats.animatedInstances
  records : ∀ k < d.stats.animatedInstances, d'.batch.recordsOf k = d.batch.recordsOf k

theorem Extends.refl (d : FrameDraft) : d.Extends d :=
  ⟨List.prefix_rfl, Nat.le_refl _, fun _ _ => rfl⟩

theorem Extends.trans {d d' d'' : FrameDraft} (h : d.Extends d') (h' : d'.Extends d'') :
    d.Extends d'' where
  palette := h.palette.trans h'.palette
  taken := h.taken.trans h'.taken
  records k hk := (h'.records k (Nat.lt_of_lt_of_le hk h.taken)).trans (h.records k hk)

end FrameDraft

open FrameDraft

/-- A visit of an entity, with the drafts before and after it. -/
structure Visit (ε : Type) where
  before : FrameDraft
  entity : ε
  after : FrameDraft

namespace Visit

variable {ε : Type} (v : Visit ε)

/-- Whether the entity was left out. -/
def isSkipped : Bool := v.before.stats.skipped < v.after.stats.skipped

/-- The records that the entity added. -/
def contributed : Multiset InstanceRecord := v.after.batch.records - v.before.batch.records

/-- Those of some visits whose entities were not left out. -/
def placed (vs : List (Visit ε)) : List (Visit ε) := vs.filter fun v => !v.isSkipped

theorem placed_cons (v : Visit ε) (vs : List (Visit ε)) :
    placed (v :: vs) = if v.isSkipped then placed vs else v :: placed vs := by
  rw [placed, List.filter_cons]
  cases v.isSkipped <;> rfl

/-! ### Outcomes -/

/-- A visit adds to the draft, and takes nothing away. -/
structure IsSound (models : ModelLibrary) (maxJoints : Nat) : Prop where
  before : v.before.Sound models maxJoints
  after : v.after.Sound models maxJoints
  grows : v.before.Extends v.after
  records : v.after.batch.records = v.before.batch.records + v.contributed

/-- A visit of a model that stands still adds records without a slot. -/
structure IsStatic (models : ModelLibrary) (maxJoints : Nat) (v : Visit StaticMesh) : Prop
    extends v.IsSound models maxJoints where
  contributed : ∀ r ∈ v.contributed, r.animation = -1

/-- A visit of an animated model leaves it out for a reason, or gives it the next slot. -/
structure IsAnimated (models : ModelLibrary) (skeletons : SkeletonLibrary) (maxJoints slots : Nat)
    (v : Visit AnimatedMesh) : Prop extends v.IsSound models maxJoints where
  skipped_iff : v.isSkipped ↔ v.before.LeavesOut models skeletons slots v.entity
  taken : v.after.stats.animatedInstances =
    v.before.stats.animatedInstances + if v.isSkipped then 0 else 1
  contributed_of_skipped : v.isSkipped → v.contributed = 0
  contributed : ∀ r ∈ v.contributed, r.animation = Int32.ofNat v.before.stats.animatedInstances
  pose : v.isSkipped = false → ∃ s, skeletons.find? v.entity.mesh.model = some s ∧
    v.after.palette =
      v.before.palette ++ s.writeJointMatrices v.entity.playback.time maxJoints

variable {v} {models : ModelLibrary} {maxJoints : Nat}

theorem contributed_eq {added : Multiset InstanceRecord}
    (h : v.after.batch.records = v.before.batch.records + added) : v.contributed = added := by
  rw [contributed, h, add_tsub_cancel_left]

theorem contributed_skipped (h : v.after = v.before.skipped) : v.contributed = 0 :=
  contributed_eq (by rw [h]; exact (add_zero _).symm)

theorem isSkipped_skipped (h : v.after = v.before.skipped) : v.isSkipped = true := by
  rw [isSkipped, h]
  exact decide_eq_true (Nat.lt_succ_self _)

theorem isSkipped_of_skipped_eq (h : v.after.stats.skipped = v.before.stats.skipped) :
    v.isSkipped = false := by
  rw [isSkipped, h]
  exact decide_eq_false (Nat.lt_irrefl _)

/-- A visit that leaves an entity out changes nothing but the count. -/
theorem isSound_skipped (hv : v.before.Sound models maxJoints) (h : v.after = v.before.skipped) :
    v.IsSound models maxJoints where
  before := hv
  after := by
    rw [h]
    exact hv.skipped
  grows := by
    rw [h]
    exact ⟨List.prefix_rfl, Nat.le_refl _, fun _ _ => rfl⟩
  records := by
    rw [contributed_skipped h, h]
    exact (add_zero _).symm

/-- A visit that adds records of none of the slots that are taken. -/
theorem isSound_of_added {added : Multiset InstanceRecord}
    (hbefore : v.before.Sound models maxJoints) (hafter : v.after.Sound models maxJoints)
    (hpalette : v.before.palette <+: v.after.palette)
    (htaken : v.before.stats.animatedInstances ≤ v.after.stats.animatedInstances)
    (hrecords : v.after.batch.records = v.before.batch.records + added)
    (hadded : ∀ r ∈ added, ∀ k < v.before.stats.animatedInstances,
      r.animation ≠ Int32.ofNat k) :
    v.IsSound models maxJoints where
  before := hbefore
  after := hafter
  grows := by
    refine ⟨hpalette, htaken, ?_⟩
    intro k hk
    -- No new record belongs to an earlier slot.
    have hnone : added.filter (fun r => r.animation = Int32.ofNat k) = 0 :=
      Multiset.filter_eq_nil.mpr fun r hr => hadded r hr k hk
    rw [recordsOf, hrecords, Multiset.filter_add, hnone, add_zero]
    rfl
  records := by rw [contributed_eq hrecords, hrecords]

end Visit

namespace FrameDraft

variable {models : ModelLibrary} {skeletons : SkeletonLibrary} {maxJoints slots : Nat}
  {d : FrameDraft}

/-- The visit of an entity by one step. -/
def visit {ε : Type} (step : FrameDraft → ε → Logged FrameDraft) (d : FrameDraft) (e : ε) :
    Visit ε := ⟨d, e, (step d e).value⟩

theorem isStatic_visit (d : FrameDraft) (e : StaticMesh) (hd : d.Sound models maxJoints) :
    (visit (addStatic models) d e).IsStatic models maxJoints := by
  rcases addStatic_cases models d e with ⟨-, hafter⟩ | ⟨hok, textures, hafter⟩
  · refine ⟨Visit.isSound_skipped hd hafter, ?_⟩
    intro r hr
    rw [Visit.contributed_skipped hafter] at hr
    cases Multiset.notMem_zero r hr
  · obtain ⟨added, hadded, hanimation⟩ := exists_records_after hd.batch.sound hok
    have hrecords : (addStatic models d e).value.batch.records = d.batch.records + added := by
      rw [hafter]
      exact hadded
    refine ⟨Visit.isSound_of_added hd (hd.addStatic e) ?_ ?_ hrecords ?_, ?_⟩
    · show d.palette <+: (addStatic models d e).value.palette
      rw [hafter]
    · exact Nat.le_of_eq (animatedInstances_addStatic models d e).symm
    · -- the new records name no slot at all
      intro r hr k hk
      rw [hanimation r hr]
      exact (slot_ne_neg_one (Nat.lt_of_le_of_lt hk hd.taken)).symm
    · rw [Visit.contributed_eq hrecords]
      exact hanimation

theorem isSound_static_visit (d : FrameDraft) (e : StaticMesh) (hd : d.Sound models maxJoints) :
    (visit (addStatic models) d e).IsSound models maxJoints := (isStatic_visit d e hd).toIsSound

theorem isAnimated_visit (hd : d.Sound models maxJoints) (hpos : 0 < maxJoints)
    (skeletons : SkeletonLibrary) (hslots : slots < UInt32.size) (e : AnimatedMesh) :
    (visit (addAnimated models skeletons maxJoints slots) d e).IsAnimated models skeletons maxJoints
      slots := by
  rcases hd.addAnimated_cases hpos skeletons slots e with
    ⟨hout, hafter⟩ | ⟨hin, hok, s, textures, hs, hafter⟩
  · -- the entity is left out: the draft only counts it
    have hskipped := Visit.isSkipped_skipped
      (v := visit (addAnimated models skeletons maxJoints slots) d e) hafter
    have hcontributed := Visit.contributed_skipped
      (v := visit (addAnimated models skeletons maxJoints slots) d e) hafter
    refine ⟨Visit.isSound_skipped hd hafter, ⟨fun _ => hout, fun _ => hskipped⟩, ?_,
      fun _ => hcontributed, ?_, ?_⟩
    · rw [if_pos hskipped]
      show (addAnimated models skeletons maxJoints slots d e).value.stats.animatedInstances = _
      rw [hafter]
      rfl
    · intro r hr
      rw [hcontributed] at hr
      cases Multiset.notMem_zero r hr
    · intro h
      cases hskipped.symm.trans h
  · -- the entity is placed: the draft gains its records, its slot and its pose
    obtain ⟨added, hadded, hanimation⟩ := exists_records_after hd.batch.sound hok
    have hskipped :
        (visit (addAnimated models skeletons maxJoints slots) d e).isSkipped = false := by
      apply Visit.isSkipped_of_skipped_eq
      show (addAnimated models skeletons maxJoints slots d e).value.stats.skipped = _
      rw [hafter]
      rfl
    have hrecords : (addAnimated models skeletons maxJoints slots d e).value.batch.records =
        d.batch.records + added := by
      rw [hafter]
      exact hadded
    have htaken : (addAnimated models skeletons maxJoints slots d e).value.stats.animatedInstances =
        d.stats.animatedInstances + 1 := by
      rw [hafter]
    have hpalette : (addAnimated models skeletons maxJoints slots d e).value.palette =
        d.palette ++ s.writeJointMatrices e.playback.time maxJoints := by
      rw [hafter]
    refine ⟨Visit.isSound_of_added hd (hd.addAnimated hpos skeletons hslots e) ?_ ?_ hrecords ?_,
      ?_, ?_, ?_, ?_, fun _ => ⟨s, hs, hpalette⟩⟩
    · exact ⟨_, hpalette.symm⟩
    · exact Nat.le_of_lt (Nat.lt_of_lt_of_eq (Nat.lt_succ_self _) htaken.symm)
    · -- the new records name the next slot, which is none of those that are taken
      intro r hr k hk
      rw [hanimation r hr]
      exact fun h => Nat.ne_of_gt hk (slot_inj hd.taken (Nat.lt_trans hk hd.taken) h)
    · rw [hskipped]
      constructor
      · intro h
        cases h
      · intro h
        exact absurd h hin
    · rw [hskipped]
      exact htaken
    · intro h
      cases hskipped.symm.trans h
    · rw [Visit.contributed_eq hrecords]
      exact hanimation

/-! ### Walks -/

variable {ε : Type} {step : FrameDraft → ε → Logged FrameDraft} {es : List ε}

/-- The draft after a walk. -/
def walk (step : FrameDraft → ε → Logged FrameDraft) (d : FrameDraft) (es : List ε) : FrameDraft :=
  (es.foldlM step d).value

/-- The visits of a walk. -/
def visits (step : FrameDraft → ε → Logged FrameDraft) : FrameDraft → List ε → List (Visit ε)
  | _, [] => []
  | d, e :: es => visit step d e :: visits step (visit step d e).after es

theorem walk_cons (d : FrameDraft) (e : ε) (es : List ε) :
    walk step d (e :: es) = walk step (visit step d e).after es := by
  rw [walk, List.foldlM_cons, Logged.bind_value]
  rfl

/-- A walk visits the entities in their order. -/
theorem map_entity_visits (step : FrameDraft → ε → Logged FrameDraft) (d : FrameDraft)
    (es : List ε) : (visits step d es).map (·.entity) = es := by
  induction es generalizing d with
  | nil => rfl
  | cons e es ih =>
      rw [visits, List.map_cons, ih]
      rfl

theorem animatedInstances_walk_addStatic (models : ModelLibrary) (d : FrameDraft)
    (es : List StaticMesh) :
    (walk (addStatic models) d es).stats.animatedInstances = d.stats.animatedInstances := by
  induction es generalizing d with
  | nil => rfl
  | cons e es ih =>
      rw [walk_cons, ih]
      exact animatedInstances_addStatic models d e

section Sound

variable (hstep : ∀ d e, d.Sound models maxJoints → (visit step d e).IsSound models maxJoints)
include hstep

theorem sound_walk (hd : d.Sound models maxJoints) : (walk step d es).Sound models maxJoints := by
  induction es generalizing d with
  | nil => exact hd
  | cons e es ih =>
      rw [walk_cons]
      exact ih (hstep d e hd).after

/-- What every visit of a sound draft has to itself, every visit of a walk has. -/
theorem forall_mem_visits {P : Visit ε → Prop} (hd : d.Sound models maxJoints)
    (hP : ∀ d e, d.Sound models maxJoints → P (visit step d e)) : ∀ v ∈ visits step d es, P v := by
  -- on the entities: each visit leaves a sound draft to the next
  induction es generalizing d with
  | nil =>
      intro v hv
      cases hv
  | cons e es ih =>
      intro v hv
      rcases List.mem_cons.mp hv with rfl | hv
      · exact hP d e hd
      · exact ih (hstep d e hd).after v hv

theorem extends_walk (hd : d.Sound models maxJoints) : d.Extends (walk step d es) := by
  induction es generalizing d with
  | nil => exact .refl d
  | cons e es ih =>
      rw [walk_cons]
      exact (hstep d e hd).grows.trans (ih (hstep d e hd).after)

/-- The rest of a walk leaves alone what a visit put into the draft. -/
theorem extends_of_mem_visits (hd : d.Sound models maxJoints) :
    ∀ v ∈ visits step d es, v.after.Extends (walk step d es) := by
  induction es generalizing d with
  | nil =>
      intro v hv
      cases hv
  | cons e es ih =>
      intro v hv
      rw [walk_cons]
      rcases List.mem_cons.mp hv with rfl | hv
      · exact extends_walk hstep (hstep d e hd).after
      · exact ih (hstep d e hd).after v hv

/-- The records after a walk are those from before it and those of the visits. -/
theorem records_walk (hd : d.Sound models maxJoints) (es : List ε) :
    (walk step d es).batch.records =
      d.batch.records + ((visits step d es).map Visit.contributed).sum := by
  -- each visit's records are counted once, whatever the later ones add
  induction es generalizing d with
  | nil => exact (add_zero _).symm
  | cons e es ih =>
      rw [walk_cons, ih (hstep d e hd).after, (hstep d e hd).records, visits, List.map_cons,
        List.sum_cons, add_assoc]
      rfl

end Sound

/-! ### Slots -/

section Slots

variable {step : FrameDraft → AnimatedMesh → Logged FrameDraft} {es : List AnimatedMesh}
  (hstep : ∀ d e, d.Sound models maxJoints →
    (visit step d e).IsAnimated models skeletons maxJoints slots)
include hstep

/-- As many slots are taken as entities were placed. -/
theorem taken_walk (hd : d.Sound models maxJoints) (es : List AnimatedMesh) :
    (walk step d es).stats.animatedInstances =
      d.stats.animatedInstances + (Visit.placed (visits step d es)).length := by
  induction es generalizing d with
  | nil => rfl
  | cons e es ih =>
      have htaken := (hstep d e hd).taken
      rw [walk_cons, ih (hstep d e hd).after, htaken, visits, Visit.placed_cons]
      cases (visit step d e).isSkipped with
      | true => rfl
      | false =>
          show d.stats.animatedInstances + 1 + (Visit.placed _).length =
            d.stats.animatedInstances + ((Visit.placed _).length + 1)
          omega

/-- The slot that an entity gets is the number of entities that were placed before it. -/
theorem taken_of_placed (hd : d.Sound models maxJoints) {k : Nat} {v : Visit AnimatedMesh}
    (hv : (Visit.placed (visits step d es))[k]? = some v) :
    v.before.stats.animatedInstances = d.stats.animatedInstances + k := by
  -- on the entities still to visit; `k` counts from the draft that they are visited from
  induction es generalizing d k with
  | nil => cases hv
  | cons e es ih =>
      have htaken := (hstep d e hd).taken
      rw [visits, Visit.placed_cons] at hv
      cases hskipped : (visit step d e).isSkipped with
      | true =>
          rw [hskipped] at hv htaken
          rw [ih (hstep d e hd).after hv, htaken]
          rfl
      | false =>
          rw [hskipped] at hv htaken
          cases k with
          | zero =>
              cases hv
              rfl
          | succ k =>
              rw [ih (hstep d e hd).after hv, htaken]
              show d.stats.animatedInstances + 1 + k = _
              omega

/-- No more slots are taken than there are. -/
theorem taken_walk_le (hd : d.Sound models maxJoints) (hle : d.stats.animatedInstances ≤ slots) :
    (walk step d es).stats.animatedInstances ≤ slots := by
  induction es generalizing d with
  | nil => exact hle
  | cons e es ih =>
      rw [walk_cons]
      apply ih (hstep d e hd).after
      rw [(hstep d e hd).taken]
      split
      · exact hle
      · next hskipped =>
        -- a slot was free, or the entity would have been left out
        exact Nat.lt_of_not_le fun hfull =>
          hskipped ((hstep d e hd).skipped_iff.mpr (.full hfull))

end Slots

end FrameDraft

/-- A visit takes the next slot, so the records of that slot are its own. -/
theorem Visit.IsAnimated.recordsOf_after {models : ModelLibrary} {skeletons : SkeletonLibrary}
    {maxJoints slots : Nat} {v : Visit AnimatedMesh}
    (hv : v.IsAnimated models skeletons maxJoints slots)
    (htaken : v.before.stats.animatedInstances < v.after.stats.animatedInstances) :
    v.after.batch.recordsOf v.before.stats.animatedInstances = v.contributed := by
  -- before the visit records name lower slots only
  have hnone : v.before.batch.records.filter
      (fun r => r.animation = Int32.ofNat v.before.stats.animatedInstances) = 0 := by
    apply Multiset.filter_eq_nil.mpr
    intro r hr
    rcases hv.before.records r hr with hstatic | ⟨k, hk, hslot⟩
    · rw [hstatic]
      exact (slot_ne_neg_one (Nat.lt_of_le_of_lt htaken hv.after.taken)).symm
    · rw [hslot]
      exact fun h => Nat.ne_of_lt hk (slot_inj (hk.trans hv.before.taken) hv.before.taken h)
  have hall : v.contributed.filter
      (fun r => r.animation = Int32.ofNat v.before.stats.animatedInstances) = v.contributed :=
    Multiset.filter_eq_self.mpr hv.contributed
  rw [recordsOf, hv.records, Multiset.filter_add, hnone, hall, zero_add]

end SceneBatch
