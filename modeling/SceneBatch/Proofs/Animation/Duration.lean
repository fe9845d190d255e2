import SceneBatch.Proofs.Animation.Extraction
import SceneBatch.Proofs.Number.Order

/-!
# The length of clips

A clip is as long as the largest of the last times of the tracks that its channels give, those
included that a later channel replaces (`Skeleton.duration_ofModel`). That is the largest of all
times in the skeleton's tracks where times ascend and no property of a joint is given twice, but in
general neither need reach the other (`Skeleton.ofModel_timesClip`): a time that is not the last of
its track is passed over (`Skeleton.exists_clip_cut_short`), and that of a track which is gone still
counts.
-/

namespace SceneBatch

/-! ### Last times -/

/-- The last time of the track that a channel gives, if it gives one. -/
def Gltf.Channel.end? (a : Gltf.Asset) (clip : Gltf.Clip) (c : Gltf.Channel) : Option Float32 :=
  match c.property with
  | some .position => (JointProperty.position.given? a clip c).bind Track.lastTime?
  | some .rotation => (JointProperty.rotation.given? a clip c).bind Track.lastTime?
  | some .scale => (JointProperty.scale.given? a clip c).bind Track.lastTime?
  | _ => none

section Channels

variable {a : Gltf.Asset} {clip : Gltf.Clip} {c : Gltf.Channel}

theorem Gltf.Channel.end?_of_property {p : JointProperty} (h : c.property = some p.target) :
    c.end? a clip = (p.given? a clip c).bind Track.lastTime? := by
  rw [end?, h]
  cases p
  all_goals rfl

theorem Gltf.Channel.end?_of_readChannel?_eq_none (h : Skeleton.readChannel? a clip c = none) :
    c.end? a clip = none := by
  rw [end?]
  simp only [JointProperty.given?_of_readChannel?_eq_none h, Option.bind_none]
  split
  all_goals rfl

theorem Gltf.Channel.end?_eq_some_iff {last : Float32} :
    c.end? a clip = some last ↔
      ∃ (p : JointProperty) (t : Track Float32 p.Value), p.given? a clip c = some t ∧
        t.lastTime? = some last := by
  constructor
  · intro h
    match hc : c.property with
    | some .position =>
        rw [end?_of_property (p := .position) hc] at h
        exact ⟨.position, Option.bind_eq_some_iff.mp h⟩
    | some .rotation =>
        rw [end?_of_property (p := .rotation) hc] at h
        exact ⟨.rotation, Option.bind_eq_some_iff.mp h⟩
    | some .scale =>
        rw [end?_of_property (p := .scale) hc] at h
        exact ⟨.scale, Option.bind_eq_some_iff.mp h⟩
    | some .weights => simp [end?, hc] at h
    | none => simp [end?, hc] at h
  · rintro ⟨p, t, hgiven, hlast⟩
    rw [end?_of_property (JointProperty.property_of_given? hgiven), hgiven, Option.bind_some, hlast]

/-- The times of a track are the first ones of the channel that gives it. -/
theorem JointProperty.exists_times_of_given? {p : JointProperty} {t : Track Float32 p.Value}
    (h : p.given? a clip c = some t) :
    ∃ times mode values, Skeleton.readChannel? a clip c = some (times, mode, values) ∧
      t.times <+: times := by
  have hp := property_of_given? h
  rw [given?, if_pos hp] at h
  obtain ⟨⟨times, mode, values⟩, hdata, ht⟩ := Option.bind_eq_some_iff.mp h
  refine ⟨times, mode, p.values values, ?_, ?_⟩
  · rw [readChannel?_of_property hp, hdata]
    rfl
  · -- The track keeps as many times as there are values: a prefix of those read.
    have hkeys : Track.ofSampler? times mode values = some t := ht
    rw [Track.ofSampler?_eq] at hkeys
    split at hkeys
    · cases hkeys
    · cases hkeys
      exact List.take_prefix ..

/-- What a bone answers to the data of a channel. -/
theorem Bone.store_value_fst (b : Bone Float32) {times : List Float32} {mode : Gltf.SamplerMode}
    {values : ChannelValues}
    (h : Skeleton.readChannel? a clip c = some (times, mode, values)) :
    (b.store times mode values).value.1 = c.end? a clip := by
  rcases JointProperty.property_of_readChannel? h with ⟨p, hp⟩ | hweights
  · rw [JointProperty.readChannel?_of_property hp] at h
    obtain ⟨⟨times, mode, vs⟩, hdata, heq⟩ := Option.map_eq_some_iff.mp h
    cases heq
    have hgiven : p.given? a clip c = Track.ofSampler? times mode vs := by
      rw [JointProperty.given?, if_pos hp, hdata]
      rfl
    rw [JointProperty.store_values, Gltf.Channel.end?_of_property hp, hgiven]
    cases Track.ofSampler? times mode vs with
    | none => rfl
    | some t => rfl
  · cases JointProperty.values_of_readChannel? hweights h
    rw [Gltf.Channel.end?, hweights]
    rfl

end Channels

namespace Skeleton

variable {a : Gltf.Asset} {clip : Gltf.Clip} {s : Skeleton Float32}

/-- A channel on a joint lengthens the clip up to the last time of the track that it gives. -/
theorem duration_addChannel (a : Gltf.Asset) (clip : Gltf.Clip) (s : Skeleton Float32)
    (c : Gltf.Channel) :
    (addChannel a clip s c).value.duration =
      if (s.placeOf? c.node).isSome then
        (c.end? a clip).toList.foldl Single.larger s.duration
      else s.duration := by
  cases hplace : s.placeOf? c.node with
  | none =>
      rw [addChannel_of_not_joint hplace]
      rfl
  | some place =>
      have hfindIdx : s.bones.findIdx? (·.node = c.node) = some place := hplace
      obtain ⟨hlt, -⟩ := List.findIdx?_eq_some_iff_getElem.mp hfindIdx
      have hfind : s.bones.find? (·.node = c.node) = some s.bones[place] := by
        rw [List.find?_eq_bind_findIdx?_getElem?, hfindIdx]
        exact List.getElem?_eq_getElem hlt
      rw [Option.isSome_some, if_pos rfl, addChannel, hfindIdx, hfind]
      dsimp only
      -- a channel without data ends nowhere, and neither does one whose keys make no track
      cases hread : readChannel? a clip c with
      | none =>
          rw [Gltf.Channel.end?_of_readChannel?_eq_none hread]
          rfl
      | some data =>
          obtain ⟨times, mode, values⟩ := data
          rw [← Bone.store_value_fst s.bones[place] hread]
          dsimp only
          rw [Logged.bind_value]
          rcases (s.bones[place].store times mode values).value with ⟨_ | last, bone⟩
          · rfl
          · rfl

/-- A run of channels takes the largest of their last times, as far as they are on joints. -/
theorem duration_addChannels (a : Gltf.Asset) (clip : Gltf.Clip) (s : Skeleton Float32)
    (channels : List Gltf.Channel) :
    (channels.foldlM (addChannel a clip) s).value.duration =
      ((channels.filter fun c => (s.placeOf? c.node).isSome).filterMap
        (Gltf.Channel.end? a clip)).foldl Single.larger s.duration := by
  induction channels generalizing s with
  | nil => rfl
  | cons c cs ih =>
      -- places do not move while channels are added, so the filter stays the same
      rw [List.foldlM_cons, Logged.bind_value, ih, duration_addChannel]
      simp only [placeOf?_addChannel]
      by_cases hc : (s.placeOf? c.node).isSome = true
      · rw [if_pos hc, List.filter_cons_of_pos (by simpa using hc)]
        cases hend : c.end? a clip with
        | none => rw [List.filterMap_cons_none hend, Option.toList_none, List.foldl_nil]
        | some last =>
            rw [List.filterMap_cons_some hend, Option.toList_some, List.foldl_cons, List.foldl_cons,
              List.foldl_nil]
      · rw [if_neg hc, List.filter_cons_of_neg (by simpa using hc)]

end Skeleton

/-! ### Clips of models -/

namespace Model

/-- The last times of all tracks that the channels of the first clip give to joints. -/
def lastTimes (m : Model) (maxJoints : Nat) : List Float32 :=
  match m.document.clips with
  | [] => []
  | clip :: _ =>
    (clip.channels.filter (·.node ∈ m.joints.take maxJoints)).filterMap
      (Gltf.Channel.end? m.asset clip)

/-- The times of the channels of the first clip are finite numbers. -/
def HasFiniteTimes (m : Model) : Prop :=
  ∀ clip ∈ m.document.clips.head?, ∀ c ∈ clip.channels,
    ∀ data ∈ Skeleton.readChannel? m.asset clip c, ∀ time ∈ data.1, time.isFinite

instance (m : Model) : Decidable m.HasFiniteTimes :=
  inferInstanceAs (Decidable (∀ clip ∈ m.document.clips.head?, ∀ c ∈ clip.channels,
    ∀ data ∈ Skeleton.readChannel? m.asset clip c, ∀ time ∈ data.1, time.isFinite))

/-- The times of each channel of the first clip ascend, and no two of its channels are on the same
property of one node. -/
structure HasOrderlyClip (m : Model) : Prop where
  ascending : ∀ clip ∈ m.document.clips.head?, ∀ c ∈ clip.channels,
    ∀ data ∈ Skeleton.readChannel? m.asset clip c, data.1.Pairwise (· ≤ ·)
  once : ∀ clip ∈ m.document.clips.head?,
    (clip.channels.map fun c => (c.node, c.property)).Nodup

end Model

namespace Skeleton

/-- All times in the tracks of a skeleton. -/
def keyTimes (s : Skeleton Float32) : List Float32 :=
  s.bones.flatMap fun b => b.position.times ++ b.rotation.times ++ b.scale.times

variable {name : String} {m : Model} {maxJoints : Nat}

theorem mem_keyTimes_iff {s : Skeleton Float32} {time : Float32} :
    time ∈ s.keyTimes ↔ ∃ b ∈ s.bones, ∃ p : JointProperty, time ∈ (p.track b).times := by
  rw [keyTimes, List.mem_flatMap]
  refine exists_congr fun b => and_congr_right fun _ => ?_
  constructor
  · intro h
    rcases List.mem_append.mp h with h | h
    · rcases List.mem_append.mp h with h | h
      · exact ⟨.position, h⟩
      · exact ⟨.rotation, h⟩
    · exact ⟨.scale, h⟩
  · rintro ⟨p, h⟩
    cases p with
    | position => exact List.mem_append_left _ (List.mem_append_left _ h)
    | rotation => exact List.mem_append_left _ (List.mem_append_right _ h)
    | scale => exact List.mem_append_right _ h

theorem duration_ofModel (name : String) (m : Model) (maxJoints : Nat) :
    (ofModel name m maxJoints).value.duration =
      (m.lastTimes maxJoints).foldl Single.larger 0 := by
  rw [ofModel_value, Model.lastTimes]
  cases hskins : m.document.skins with
  | nil =>
      -- without a skin there are no joints, so no channel is on one
      have hjoints : m.joints = [] := by rw [Model.joints, hskins]; rfl
      cases m.document.clips with
      | nil => rfl
      | cons clip _ => simp [hjoints, atRest]
  | cons skin others =>
      cases m.document.clips with
      | nil => rfl
      | cons clip _ =>
          have hplace (node : Nat) :
              (placeOf? { atRest name m maxJoints with clip := clip.name } node).isSome =
                decide (node ∈ m.joints.take maxJoints) := by
            rw [placeOf?_of_bones rfl, Bool.eq_iff_iff, List.isSome_idxOf?, decide_eq_true_iff]
          dsimp only
          rw [duration_addChannels]
          simp only [hplace]
          rfl

/-- The tracks of a skeleton are those that channels on its joints gave. -/
theorem track_ofModel {i : Nat} {b : Bone Float32}
    (hb : (ofModel name m maxJoints).value.bones[i]? = some b) (p : JointProperty) :
    p.track b = match m.document.clips with
      | [] => {}
      | clip :: _ =>
        ((clip.channels.filter fun c => (m.joints.take maxJoints).idxOf? c.node = some i).filterMap
          (p.given? m.asset clip)).getLast?.getD {} := by
  obtain ⟨-, hanimate⟩ := exists_rest_of_ofModel hb
  rw [hanimate, Model.animate]
  cases m.document.clips with
  | nil => exact Bone.track_still b p
  | cons clip _ =>
      dsimp only
      rw [Bone.track_foldl_gain, Bone.track_still]

/-- A track is that of a channel on the joint, or no channel gave one. -/
theorem track_cases {i : Nat} {b : Bone Float32}
    (hb : (ofModel name m maxJoints).value.bones[i]? = some b) (p : JointProperty) :
    (p.track b = {} ∧ ∀ clip ∈ m.document.clips.head?, ∀ c ∈ clip.channels,
      (m.joints.take maxJoints).idxOf? c.node = some i → p.given? m.asset clip c = none) ∨
    ∃ clip ∈ m.document.clips.head?, ∃ c ∈ clip.channels,
      (m.joints.take maxJoints).idxOf? c.node = some i ∧
        p.given? m.asset clip c = some (p.track b) := by
  have htrack := track_ofModel hb p
  cases hclips : m.document.clips with
  | nil =>
      rw [hclips] at htrack
      exact .inl ⟨htrack, fun clip hclip => by cases hclip⟩
  | cons clip clips =>
      rw [hclips] at htrack
      dsimp only at htrack
      -- the last track that channels on the joint gave, if there is one
      cases hlast : List.getLast? _ with
      | none =>
          rw [hlast] at htrack
          rw [List.getLast?_eq_none_iff, List.filterMap_eq_nil_iff] at hlast
          refine .inl ⟨htrack, fun clip' hclip c hc hplace => ?_⟩
          cases hclip
          exact hlast c (by simpa [hc] using hplace)
      | some t =>
          obtain ⟨c, hc, hgiven⟩ := List.mem_filterMap.mp (List.mem_of_getLast? hlast)
          obtain ⟨hc, hplace⟩ := List.mem_filter.mp hc
          refine .inr ⟨clip, rfl, c, hc, by simpa using hplace, ?_⟩
          rw [htrack, hlast]
          exact hgiven

/-- A time in a track comes from a channel on the joint. -/
theorem exists_channel_of_mem_times {i : Nat} {b : Bone Float32}
    (hb : (ofModel name m maxJoints).value.bones[i]? = some b) {p : JointProperty}
    {time : Float32} (htime : time ∈ (p.track b).times) :
    ∃ clip ∈ m.document.clips.head?, ∃ c ∈ clip.channels,
      (m.joints.take maxJoints).idxOf? c.node = some i ∧
        p.given? m.asset clip c = some (p.track b) := by
  rcases track_cases hb p with ⟨hnone, -⟩ | hgiven
  · rw [hnone] at htime
    cases htime
  · exact hgiven

theorem mem_lastTimes_iff {last : Float32} :
    last ∈ m.lastTimes maxJoints ↔ ∃ clip ∈ m.document.clips.head?, ∃ c ∈ clip.channels,
      c.node ∈ m.joints.take maxJoints ∧ c.end? m.asset clip = some last := by
  rw [Model.lastTimes]
  cases m.document.clips with
  | nil => simp
  | cons clip clips => simp [List.mem_filterMap, and_assoc]

theorem isNaN_of_mem_keyTimes (hm : m.HasFiniteTimes) {time : Float32}
    (htime : time ∈ (ofModel name m maxJoints).value.keyTimes) : time.isNaN = false := by
  obtain ⟨b, hb, p, htime⟩ := mem_keyTimes_iff.mp htime
  obtain ⟨i, hi⟩ := List.mem_iff_getElem?.mp hb
  obtain ⟨clip, hclip, c, hc, -, hgiven⟩ := exists_channel_of_mem_times hi htime
  obtain ⟨times, mode, values, hread, hfirst⟩ := JointProperty.exists_times_of_given? hgiven
  exact Single.isNaN_of_isFinite (hm clip hclip c hc _ hread time
    (hfirst.subset htime))

theorem isNaN_of_mem_lastTimes (hm : m.HasFiniteTimes) {last : Float32}
    (hlast : last ∈ m.lastTimes maxJoints) : last.isNaN = false := by
  obtain ⟨clip, hclip, c, hc, -, hend⟩ := mem_lastTimes_iff.mp hlast
  obtain ⟨p, t, hgiven, hend⟩ := Gltf.Channel.end?_eq_some_iff.mp hend
  obtain ⟨times, mode, values, hread, hfirst⟩ := JointProperty.exists_times_of_given? hgiven
  exact Single.isNaN_of_isFinite (hm clip hclip c hc _ hread last
    (hfirst.subset (List.mem_of_getLast? hend)))

/-- Where times ascend, each is reached by the last one of its channel. -/
theorem exists_lastTime_of_mem_keyTimes (hm : m.HasFiniteTimes) (horder : m.HasOrderlyClip)
    {time : Float32} (htime : time ∈ (ofModel name m maxJoints).value.keyTimes) :
    ∃ last ∈ m.lastTimes maxJoints, time ≤ last := by
  have hnumber := isNaN_of_mem_keyTimes hm htime
  obtain ⟨b, hb, p, htime⟩ := mem_keyTimes_iff.mp htime
  obtain ⟨i, hi⟩ := List.mem_iff_getElem?.mp hb
  obtain ⟨clip, hclip, c, hc, hplace, hgiven⟩ := exists_channel_of_mem_times hi htime
  obtain ⟨times, mode, values, hread, hfirst⟩ := JointProperty.exists_times_of_given? hgiven
  have hascending : (p.track b).times.Pairwise (· ≤ ·) :=
    (horder.ascending clip hclip c hc _ hread).sublist hfirst.sublist
  -- the last key of the track is the last time of its channel
  obtain ⟨before, last, hsplit⟩ := List.eq_nil_or_concat' (p.track b).times |>.resolve_left
    (List.ne_nil_of_mem htime)
  have hlast : (p.track b).lastTime? = some last := by
    rw [Track.lastTime?, hsplit, List.getLast?_concat]
  refine ⟨last, mem_lastTimes_iff.mpr ⟨clip, hclip, c, hc, ?_, ?_⟩, ?_⟩
  · -- the channel is on a kept joint
    rw [← List.isSome_idxOf?, hplace]
    rfl
  · exact Gltf.Channel.end?_eq_some_iff.mpr ⟨p, p.track b, hgiven, hlast⟩
  · -- and no key of it comes later
    rw [hsplit] at hascending htime
    rcases List.mem_append.mp htime with htime | htime
    · exact (List.pairwise_append.mp hascending).2.2 time htime last (List.mem_singleton_self last)
    · rw [← List.mem_singleton.mp htime, Single.le_iff_rank hnumber hnumber]

/-- Each joint has its bone. -/
theorem exists_bone_of_idxOf? (name : String) {i node : Nat}
    (h : (m.joints.take maxJoints).idxOf? node = some i) :
    (m.joints.take maxJoints)[i]? = some node ∧
      ∃ b, (ofModel name m maxJoints).value.bones[i]? = some b := by
  obtain ⟨hi, heq, -⟩ := List.idxOf?_eq_some_iff.mp h
  have hnode : (m.joints.take maxJoints)[i]? = some node := by
    rw [List.getElem?_eq_getElem hi, heq]
  refine ⟨hnode, ?_⟩
  rw [← map_node_ofModel name m maxJoints, List.getElem?_map, Option.map_eq_some_iff] at hnode
  exact hnode.imp fun _ h => h.1

/-- Where no property of a joint is given twice, the track that a channel gives stays. -/
theorem track_of_orderly (horder : m.HasOrderlyClip) {clip : Gltf.Clip}
    (hclip : clip ∈ m.document.clips.head?) {c : Gltf.Channel} (hc : c ∈ clip.channels) {i : Nat}
    (hplace : (m.joints.take maxJoints).idxOf? c.node = some i) {b : Bone Float32}
    (hb : (ofModel name m maxJoints).value.bones[i]? = some b) {p : JointProperty}
    {t : Track Float32 p.Value} (hgiven : p.given? m.asset clip c = some t) :
    p.track b = t := by
  rcases track_cases hb p with ⟨-, hnone⟩ | ⟨clip', hclip', c', hc', hplace', hgiven'⟩
  · cases hgiven.symm.trans (hnone clip hclip c hc hplace)
  · -- another channel that gives the same bone this property is on the same node
    cases Option.mem_unique hclip hclip'
    have hnode : c'.node = c.node := by
      have hnode := (exists_bone_of_idxOf? name hplace).1
      rw [(exists_bone_of_idxOf? name hplace').1] at hnode
      exact Option.some.inj hnode
    have hsame : (c'.node, c'.property) = (c.node, c.property) := by
      rw [hnode, JointProperty.property_of_given? hgiven', JointProperty.property_of_given? hgiven]
    cases List.inj_on_of_nodup_map (horder.once clip hclip) hc' hc hsame
    exact Option.some.inj (hgiven'.symm.trans hgiven)

/-- Where no property of a joint is given twice, each last time stays. -/
theorem mem_keyTimes_of_mem_lastTimes (name : String) (horder : m.HasOrderlyClip) {last : Float32}
    (hlast : last ∈ m.lastTimes maxJoints) :
    last ∈ (ofModel name m maxJoints).value.keyTimes := by
  obtain ⟨clip, hclip, c, hc, hnode, hend⟩ := mem_lastTimes_iff.mp hlast
  obtain ⟨p, t, hgiven, hend⟩ := Gltf.Channel.end?_eq_some_iff.mp hend
  obtain ⟨i, hplace⟩ := Option.isSome_iff_exists.mp (List.isSome_idxOf?.mpr hnode)
  obtain ⟨-, b, hb⟩ := exists_bone_of_idxOf? name hplace
  refine mem_keyTimes_iff.mpr ⟨b, List.mem_of_getElem? hb, p, ?_⟩
  rw [track_of_orderly horder hclip hc hplace hb hgiven]
  exact List.mem_of_getLast? hend

/-- How long the clip of a skeleton is: up to the largest of the last times of all tracks that the
channels gave. It is as long as the times in the tracks say if and only if each of these is at most
such a last time, and each last time at most one of these, from zero on. -/
structure TimesClip (s : Skeleton Float32) (m : Model) (maxJoints : Nat) : Prop where
  longest : Single.IsLargest s.duration (0 :: m.lastTimes maxJoints)
  isLargest_iff : Single.IsLargest s.duration (0 :: s.keyTimes) ↔
    (∀ time ∈ s.keyTimes, ∃ last ∈ 0 :: m.lastTimes maxJoints, time ≤ last) ∧
      ∀ last ∈ m.lastTimes maxJoints, ∃ time ∈ 0 :: s.keyTimes, last ≤ time
  orderly : m.HasOrderlyClip → Single.IsLargest s.duration (0 :: s.keyTimes)

/-- The clip of a model's skeleton is as long as its last times. Where the clip is orderly, no time
in the tracks exceeds it. -/
theorem ofModel_timesClip (name : String) (hm : m.HasFiniteTimes) (maxJoints : Nat) :
    (ofModel name m maxJoints).value.TimesClip m maxJoints := by
  have hkey : ∀ time ∈ (ofModel name m maxJoints).value.keyTimes, time.isNaN = false :=
    fun time => isNaN_of_mem_keyTimes hm
  have hlast : ∀ last ∈ m.lastTimes maxJoints, last.isNaN = false :=
    fun last => isNaN_of_mem_lastTimes hm
  -- The duration is a fold that starts at zero, so zero counts as one of the ends.
  have hlongest := Single.isLargest_foldl_larger
    (List.forall_mem_cons.mpr ⟨Single.isNaN_zero, hlast⟩)
  have hiff := Single.isLargest_foldl_larger_iff hlast hkey
  rw [← duration_ofModel name] at hlongest hiff
  refine ⟨hlongest, hiff, fun horder => hiff.mpr ⟨?_, ?_⟩⟩
  · -- Keys in order: each is at most the last one of its own track.
    intro time htime
    obtain ⟨last, hmem, hle⟩ := exists_lastTime_of_mem_keyTimes hm horder htime
    exact ⟨last, List.mem_cons_of_mem 0 hmem, hle⟩
  · -- Every end is itself a key.
    intro last hmem
    have hnumber := hlast last hmem
    exact ⟨last, List.mem_cons_of_mem 0 (mem_keyTimes_of_mem_lastTimes name horder hmem),
      (Single.le_iff_rank hnumber hnumber).mpr le_rfl⟩

theorem door_timesClip :
    door.HasFiniteTimes ∧ (ofModel "door" door 20).value.duration = 1 ∧
      (ofModel "door" door 20).value.TimesClip door 20 := by
  have hfinite : door.HasFiniteTimes := by decide +kernel
  exact ⟨hfinite, by decide +kernel, ofModel_timesClip "door" hfinite 20⟩

/-- A door that moves at times 0, 2 and 1, in this order. -/
def slammedDoor : Model where
  name := "door.gltf"
  path := ⟨"door.gltf"⟩
  asset := {
    document := { door.asset.document with
      accessors := [⟨some 0, 0, 3, .float32, .scalar, false, none, true⟩,
        ⟨some 1, 0, 3, .float32, .vec3, false, none, false⟩]
      views := [⟨0, 0, 12, none⟩, ⟨0, 12, 36, none⟩] }
    buffers := [List.replicate 7 0 ++ [64, 0, 0, 128, 63] ++ List.replicate 36 0] }

/-- A clip ends at the last time of a track, though an earlier one of the same track is larger. -/
theorem exists_clip_cut_short :
    ¬∀ (name : String) (m : Model) (maxJoints : Nat), m.HasFiniteTimes →
      Single.IsLargest (ofModel name m maxJoints).value.duration
        (0 :: (ofModel name m maxJoints).value.keyTimes) := by
  intro h
  have hle := (h "door" slammedDoor 20 (by decide +kernel)).le
  revert hle
  decide +kernel

end Skeleton

end SceneBatch
