import SceneBatch.Proofs.Animation.Keys

/-!
# Channels

A channel gives a track to one property of the first bone of its node, and no other bone changes
(`Skeleton.getElem?_bones_addChannel`). So after a run of channels each bone has gained from those
on its node, in their order (`Skeleton.getElem?_bones_addChannels`), and for each property it has
the last track that it was given (`Bone.track_foldl_gain`). Channels on nodes without a bone may be
left out.
-/

namespace SceneBatch

/-! ### Properties of joints -/

/-- A property of joints that clips animate. -/
inductive JointProperty where
  | position
  | rotation
  | scale

namespace JointProperty

/-- What the values of a property are. -/
@[reducible] def Value : JointProperty → Type
  | position | scale => Vec3 Float32
  | rotation => Quat Float32

instance (p : JointProperty) : Blend Float32 p.Value :=
  match p with
  | position | scale => inferInstanceAs (Blend Float32 (Vec3 Float32))
  | rotation => inferInstanceAs (Blend Float32 (Quat Float32))

/-- The name that channels have for a property. -/
def target : JointProperty → Gltf.Property
  | position => .position
  | rotation => .rotation
  | scale => .scale

/-- The track that a bone has for a property. -/
def track (b : Bone Float32) : (p : JointProperty) → Track Float32 p.Value
  | position => b.position
  | rotation => b.rotation
  | scale => b.scale

/-- A bone with another track. -/
def replace (b : Bone Float32) : (p : JointProperty) → Track Float32 p.Value → Bone Float32
  | position, t => { b with position := t }
  | rotation, t => { b with rotation := t }
  | scale, t => { b with scale := t }

/-- What a pose says of a property. -/
def ofPose (l : LocalPose Float32) : (p : JointProperty) → p.Value
  | position => l.position
  | rotation => l.rotation
  | scale => l.scale

/-- The values of a property in an accessor. -/
def read? (a : Gltf.Asset) (x : Gltf.Accessor) : (p : JointProperty) → Option (List p.Value)
  | position | scale => (a.singles? x 3).map (List.filterMap Vec3.ofList?)
  | rotation => (a.fractions? x 4).map (List.filterMap Quat.ofList?)

/-- Values of a property as those of a channel. -/
def values : (p : JointProperty) → List p.Value → ChannelValues
  | position, values => .positions values
  | rotation, values => .rotations values
  | scale, values => .scales values

/-- The times and values of a channel, as those of a property. -/
def data? (a : Gltf.Asset) (clip : Gltf.Clip) (c : Gltf.Channel) (p : JointProperty) :
    Option (List Float32 × Gltf.SamplerMode × List p.Value) := do
  let sampler ← clip.samplers[c.sampler]?
  let times ← a.singles? (← a.document.accessors[sampler.input]?) 1
  let values ← p.read? a (← a.document.accessors[sampler.output]?)
  return (times.flatten, sampler.mode, values)

/-- The track that a channel gives to a property. It gives none if it animates another one, or has
no key. -/
def given? (a : Gltf.Asset) (clip : Gltf.Clip) (p : JointProperty) (c : Gltf.Channel) :
    Option (Track Float32 p.Value) :=
  if c.property = some p.target then do
    let (times, mode, values) ← p.data? a clip c
    Track.ofSampler? times mode values
  else none

variable {a : Gltf.Asset} {clip : Gltf.Clip} {c : Gltf.Channel} {p : JointProperty}

theorem isAligned_of_given? {t : Track Float32 p.Value} (h : p.given? a clip c = some t) :
    t.IsAligned := by
  rw [given?] at h
  split at h
  · obtain ⟨⟨times, mode, values⟩, -, ht⟩ := Option.bind_eq_some_iff.mp h
    exact Track.isAligned_of_ofSampler? ht
  · cases h

theorem given?_of_ne (h : c.property ≠ some p.target) : p.given? a clip c = none := if_neg h

theorem property_of_given? {t : Track Float32 p.Value} (h : p.given? a clip c = some t) :
    c.property = some p.target := by
  by_contra hne
  rw [given?_of_ne hne] at h
  cases h

theorem target_injective : Function.Injective target := by
  intro p q h
  cases p
  all_goals
    cases q
    all_goals first | rfl | cases h

theorem target_ne_weights (p : JointProperty) : p.target ≠ .weights := by
  cases p
  all_goals decide

theorem channelValues_read? (a : Gltf.Asset) (x : Gltf.Accessor) (p : JointProperty) :
    ChannelValues.read? a x p.target = (p.read? a x).map p.values := by
  cases p
  all_goals exact (Option.map_map ..).symm

theorem readChannel?_of_property (h : c.property = some p.target) :
    Skeleton.readChannel? a clip c =
      (p.data? a clip c).map fun (times, mode, values) => (times, mode, p.values values) := by
  rw [Skeleton.readChannel?, data?, h]
  simp [channelValues_read?, Option.map_bind, Option.bind_map]

theorem given?_of_readChannel?_eq_none (h : Skeleton.readChannel? a clip c = none)
    (p : JointProperty) : p.given? a clip c = none := by
  by_cases hp : c.property = some p.target
  · rw [readChannel?_of_property hp, Option.map_eq_none_iff] at h
    rw [given?, if_pos hp, h]
    rfl
  · exact given?_of_ne hp

/-- A channel with data animates a property of joints, or weights. -/
theorem property_of_readChannel? {data : List Float32 × Gltf.SamplerMode × ChannelValues}
    (h : Skeleton.readChannel? a clip c = some data) :
    (∃ p : JointProperty, c.property = some p.target) ∨ c.property = some .weights := by
  match hc : c.property with
  | some .position => exact .inl ⟨position, rfl⟩
  | some .rotation => exact .inl ⟨rotation, rfl⟩
  | some .scale => exact .inl ⟨scale, rfl⟩
  | some .weights => exact .inr rfl
  | none => simp [Skeleton.readChannel?, hc] at h

theorem values_of_readChannel? {times : List Float32} {mode : Gltf.SamplerMode}
    {values : ChannelValues} (hc : c.property = some .weights)
    (h : Skeleton.readChannel? a clip c = some (times, mode, values)) : values = .weights := by
  simp only [Skeleton.readChannel?, hc, Option.bind_eq_bind, Option.pure_def,
    Option.bind_eq_some_iff] at h
  obtain ⟨_, -, _, -, _, -, _, -, _, hproperty, _, hread, heq⟩ := h
  cases hproperty
  obtain ⟨_, -, rfl⟩ := Option.map_eq_some_iff.mp hread
  cases heq
  rfl

@[simp] theorem replace_track (b : Bone Float32) (p : JointProperty) :
    p.replace b (p.track b) = b := by
  cases p
  all_goals rfl

theorem store_values (b : Bone Float32) (times : List Float32) (mode : Gltf.SamplerMode)
    (vs : List p.Value) :
    (b.store times mode (p.values vs)).value =
      match Track.ofSampler? times mode vs with
      | none => (none, b)
      | some t => (t.lastTime?, p.replace b t) := by
  -- Each property has its own branch in `store`; all three are this one expression.
  have hstore : (b.store times mode (p.values vs)).value =
      (((p.track b).store times (ChannelValues.keyed mode vs) mode.interpolation).value.1,
        p.replace b
          ((p.track b).store times (ChannelValues.keyed mode vs) mode.interpolation).value.2) := by
    cases p
    all_goals rfl
  rw [hstore, Track.store_value]
  cases Track.ofSampler? times mode vs with
  | none => simp
  | some t => rfl

/-- The pose of a bone holds what its track says of a property, and otherwise what is so at rest. -/
theorem ofPose_poseAt (p : JointProperty) (b : Bone Float32) (time : Float32) :
    p.ofPose (b.poseAt time) = ((p.track b).sample time).getD (p.ofPose b.rest) := by
  cases p
  all_goals rfl

end JointProperty

/-! ### Channels -/

/-- A bone after a channel on its node. Each property has the track that the channel gives, or else
the one it had. -/
def Bone.gain (a : Gltf.Asset) (clip : Gltf.Clip) (b : Bone Float32) (c : Gltf.Channel) :
    Bone Float32 :=
  { b with
    position := (JointProperty.given? a clip .position c).getD b.position
    rotation := (JointProperty.given? a clip .rotation c).getD b.rotation
    scale := (JointProperty.given? a clip .scale c).getD b.scale }

/-- A bone without its tracks. -/
def Bone.still (b : Bone Float32) : Bone Float32 :=
  { b with position := {}, rotation := {}, scale := {} }

namespace Bone

open JointProperty

variable {a : Gltf.Asset} {clip : Gltf.Clip} {b : Bone Float32} {c : Gltf.Channel}

theorem track_gain (p : JointProperty) :
    p.track (b.gain a clip c) = (p.given? a clip c).getD (p.track b) := by
  cases p
  all_goals rfl

theorem track_still (b : Bone Float32) (p : JointProperty) : p.track b.still = {} := by
  cases p
  all_goals rfl

theorem still_gain : (b.gain a clip c).still = b.still := rfl

theorem gain_eq_self (h : ∀ p : JointProperty, p.given? a clip c = none) :
    b.gain a clip c = b := by
  rw [gain, h, h, h]
  rfl

theorem gain_of_given? {p : JointProperty} {t : Track Float32 p.Value}
    (h : p.given? a clip c = some t) : b.gain a clip c = p.replace b t := by
  -- A channel drives one property, so the other two are given no track.
  have hothers (q : JointProperty) (hq : q.target ≠ p.target) : q.given? a clip c = none :=
    given?_of_ne fun hqc => hq (Option.some.inj (hqc.symm.trans (property_of_given? h)))
  cases p with
  | position =>
      rw [gain, h, hothers .rotation (by decide), hothers .scale (by decide)]
      rfl
  | rotation =>
      rw [gain, h, hothers .position (by decide), hothers .scale (by decide)]
      rfl
  | scale =>
      rw [gain, h, hothers .position (by decide), hothers .rotation (by decide)]
      rfl

/-- What the data of a channel does to a bone. -/
theorem store_of_readChannel? {times : List Float32} {mode : Gltf.SamplerMode}
    {values : ChannelValues}
    (h : Skeleton.readChannel? a clip c = some (times, mode, values)) :
    (∃ last, (b.store times mode values).value = (some last, b.gain a clip c)) ∨
      (b.store times mode values).value = (none, b) ∧ b.gain a clip c = b := by
  -- a channel on a property that skeletons have, or one on morph weights
  rcases property_of_readChannel? h with ⟨p, hp⟩ | hweights
  · rw [readChannel?_of_property hp] at h
    obtain ⟨⟨times, mode, vs⟩, hdata, heq⟩ := Option.map_eq_some_iff.mp h
    cases heq
    have hgiven : p.given? a clip c = Track.ofSampler? times mode vs := by
      rw [given?, if_pos hp, hdata]
      rfl
    rw [store_values]
    cases ht : Track.ofSampler? times mode vs with
    | none =>
        -- too few keys for a track: no property of the bone gets one
        right
        refine ⟨rfl, gain_eq_self fun q => ?_⟩
        by_cases hq : c.property = some q.target
        · cases target_injective (Option.some.inj (hq.symm.trans hp))
          exact hgiven.trans ht
        · exact given?_of_ne hq
    | some t =>
        obtain ⟨last, hlast⟩ := Track.exists_lastTime_of_ofSampler? ht
        rw [gain_of_given? (hgiven.trans ht)]
        exact .inl ⟨last, congrArg (·, p.replace b t) hlast⟩
  · -- morph weights are no property of a bone
    right
    cases values_of_readChannel? hweights h
    refine ⟨rfl, gain_eq_self fun p => given?_of_ne fun hp => ?_⟩
    exact p.target_ne_weights (Option.some.inj (hp.symm.trans hweights))

/-- The last channel that gives a track decides. -/
theorem track_foldl_gain (channels : List Gltf.Channel) (b : Bone Float32) (p : JointProperty) :
    p.track (channels.foldl (gain a clip) b) =
      ((channels.filterMap (p.given? a clip)).getLast?).getD (p.track b) := by
  -- on the channels, from the first on: a later track replaces the one before it
  induction channels generalizing b with
  | nil => rfl
  | cons c cs ih =>
      rw [List.foldl_cons, ih, track_gain]
      cases hgiven : p.given? a clip c with
      | none => rw [List.filterMap_cons_none hgiven, Option.getD_none]
      | some t =>
          rw [List.filterMap_cons_some hgiven, List.getLast?_cons, Option.getD_some,
            Option.getD_some]

theorem still_foldl_gain (channels : List Gltf.Channel) (b : Bone Float32) :
    (channels.foldl (gain a clip) b).still = b.still := by
  induction channels generalizing b with
  | nil => rfl
  | cons c cs ih => rw [List.foldl_cons, ih, still_gain]

end Bone

namespace Skeleton

variable {a : Gltf.Asset} {clip : Gltf.Clip} {s : Skeleton Float32}

/-- The first bone of a node. -/
def placeOf? (s : Skeleton Float32) (node : Nat) : Option Nat := s.bones.findIdx? (·.node = node)

theorem addChannel_of_not_joint {c : Gltf.Channel} (h : s.placeOf? c.node = none) :
    (addChannel a clip s c).value = s := by
  have hplace : s.bones.findIdx? (·.node = c.node) = none := h
  rw [addChannel, hplace]
  rfl

theorem bones_addChannel {c : Gltf.Channel} {place : Nat} (h : s.placeOf? c.node = some place) :
    (addChannel a clip s c).value.bones = s.bones.modify place fun b => b.gain a clip c := by
  have hfindIdx : s.bones.findIdx? (·.node = c.node) = some place := h
  obtain ⟨hlt, -⟩ := List.findIdx?_eq_some_iff_getElem.mp hfindIdx
  have hfind : s.bones.find? (·.node = c.node) = some s.bones[place] := by
    rw [List.find?_eq_bind_findIdx?_getElem?, hfindIdx]
    exact List.getElem?_eq_getElem hlt
  rw [List.modify_eq_set_get _ hlt, List.get_eq_getElem, addChannel, hfindIdx, hfind]
  dsimp only
  -- the bone is written back in each case, changed only where the channel gave a track
  cases hread : readChannel? a clip c with
  | none =>
      rw [Bone.gain_eq_self (JointProperty.given?_of_readChannel?_eq_none hread),
        List.set_getElem_self]
      rfl
  | some data =>
      obtain ⟨times, mode, values⟩ := data
      rcases Bone.store_of_readChannel? (b := s.bones[place]) hread with
        ⟨last, hstore⟩ | ⟨hstore, hb⟩
      · simp only [Logged.bind_value, hstore]
        rfl
      · simp only [Logged.bind_value, hstore]
        rw [hb, List.set_getElem_self]
        rfl

/-- A channel changes the first bone of its node, and no other. -/
theorem getElem?_bones_addChannel (a : Gltf.Asset) (clip : Gltf.Clip) (s : Skeleton Float32)
    (c : Gltf.Channel) (i : Nat) :
    (addChannel a clip s c).value.bones[i]? =
      s.bones[i]?.map fun b => if s.placeOf? c.node = some i then b.gain a clip c else b := by
  cases hplace : s.placeOf? c.node with
  | none =>
      rw [addChannel_of_not_joint hplace]
      simp
  | some place =>
      rw [bones_addChannel hplace, List.getElem?_modify]
      simp only [Option.some.injEq]
      rfl

theorem placeOf?_eq (s : Skeleton Float32) (node : Nat) :
    s.placeOf? node = (s.bones.map Bone.node).idxOf? node := by
  rw [placeOf?, List.idxOf?, List.findIdx?_map]
  congr 1

theorem placeOf?_addChannel (c : Gltf.Channel) (node : Nat) :
    (addChannel a clip s c).value.placeOf? node = s.placeOf? node := by
  have hnodes : (addChannel a clip s c).value.bones.map Bone.node = s.bones.map Bone.node := by
    apply List.ext_getElem?
    intro i
    rw [List.getElem?_map, List.getElem?_map, getElem?_bones_addChannel, Option.map_map]
    congr 1
    funext b
    show (if _ then b.gain a clip c else b).node = b.node
    split
    · rfl
    · rfl
  rw [placeOf?_eq, placeOf?_eq, hnodes]

/-- After a run each bone has gained from the channels on its node, in their order. -/
theorem getElem?_bones_addChannels (a : Gltf.Asset) (clip : Gltf.Clip) (s : Skeleton Float32)
    (channels : List Gltf.Channel) (i : Nat) :
    (channels.foldlM (addChannel a clip) s).value.bones[i]? =
      s.bones[i]?.map
        ((channels.filter fun c => s.placeOf? c.node = some i).foldl (Bone.gain a clip)) := by
  induction channels generalizing s with
  | nil => simp
  | cons c cs ih =>
      rw [List.foldlM_cons, Logged.bind_value, ih, getElem?_bones_addChannel, Option.map_map]
      congr 1
      funext b
      simp only [placeOf?_addChannel, Function.comp_apply]
      -- A channel of another joint leaves the bone alone, and the filter drops it.
      by_cases hc : s.placeOf? c.node = some i
      · rw [if_pos hc, List.filter_cons_of_pos (by simpa using hc), List.foldl_cons]
      · rw [if_neg hc, List.filter_cons_of_neg (by simpa using hc)]

/-- Channels on nodes that are no joints may be left out. -/
theorem addChannels_filter {keep : Gltf.Channel → Bool} {channels : List Gltf.Channel}
    (h : ∀ c ∈ channels, keep c = false → s.placeOf? c.node = none) :
    ((channels.filter keep).foldlM (addChannel a clip) s).value =
      (channels.foldlM (addChannel a clip) s).value := by
  induction channels generalizing s with
  | nil => rfl
  | cons c cs ih =>
      -- Placing a channel moves no joint, so the rest still drives none.
      have hrest : ∀ c' ∈ cs, keep c' = false →
          (addChannel a clip s c).value.placeOf? c'.node = none := by
        intro c' hc' hkeep
        rw [placeOf?_addChannel]
        exact h c' (List.mem_cons_of_mem c hc') hkeep
      rw [List.foldlM_cons, Logged.bind_value, ← ih hrest]
      cases hkeep : keep c with
      | true => rw [List.filter_cons_of_pos hkeep, List.foldlM_cons, Logged.bind_value]
      | false =>
          rw [List.filter_cons_of_neg (by simp [hkeep]),
            addChannel_of_not_joint (h c List.mem_cons_self hkeep)]

end Skeleton

end SceneBatch
