import SceneBatch.Animation.Import
import SceneBatch.Proofs.ListLemmas

/-!
# Keys of tracks

A track with as many times as values (`Track.IsAligned`) has a value at every time as soon as it has
a key, since the keys around a time are keys of the track (`findKeyframe_lt`).

The tracks of models are like that. A sampler has a number of times and a number of values, and its
track has as many keys as there are of both (`Track.ofSampler?`). Of a spline, each third value
counts.
-/

namespace SceneBatch

/-! ### Sampling -/

section Sampling

variable {α : Type} [Scalar α]

theorem findBracket_lt {time : α} {index : Nat} {t : α} {times : List α} {key : KeyPosition α}
    (h : findBracket time index t times = some key) :
    key.prev < index + times.length + 1 ∧ key.next < index + times.length + 1 := by
  induction times generalizing index t with
  | nil => cases h
  | cons u rest ih =>
      rw [findBracket] at h
      split at h
      · cases h
        simp only [List.length_cons]
        omega
      · have hrest := ih h
        simp only [List.length_cons]
        omega

/-- The keys around a time are among those of the track. -/
theorem findKeyframe_lt {times : List α} (h : times ≠ []) (time : α) :
    (findKeyframe times time).prev < times.length ∧
      (findKeyframe times time).next < times.length := by
  cases times with
  | nil => exact absurd rfl h
  | cons first rest =>
      rw [findKeyframe, List.length_cons]
      split
      · exact ⟨Nat.succ_pos _, Nat.succ_pos _⟩
      · split
        · exact ⟨Nat.lt_succ_self _, Nat.lt_succ_self _⟩
        · cases hkey : findBracket time 0 first rest with
          | none => exact ⟨Nat.lt_succ_self _, Nat.lt_succ_self _⟩
          | some key => simpa using findBracket_lt hkey

variable {υ : Type} {t : Track α υ}

/-- Whether each key has a time and a value. -/
def Track.IsAligned (t : Track α υ) : Prop := t.times.length = t.values.length

/-- A track gives the value of the first key around a time, or blends it with that of the second. -/
theorem Track.IsAligned.exists_sample_eq [Blend α υ] (ht : t.IsAligned) (hne : t.times ≠ [])
    (time : α) :
    ∃ a b, t.values[(findKeyframe t.times time).prev]? = some a ∧
      t.values[(findKeyframe t.times time).next]? = some b ∧
      t.sample time = some
        (if (findKeyframe t.times time).prev = (findKeyframe t.times time).next ∨
          t.interpolation = .step then a
        else Blend.blend a b (findKeyframe t.times time).fraction) := by
  obtain ⟨hprev, hnext⟩ := findKeyframe_lt hne time
  rw [ht] at hprev hnext
  have hvalues : t.values ≠ [] := List.ne_nil_of_length_pos (Nat.zero_lt_of_lt hprev)
  refine ⟨_, _, List.getElem?_eq_getElem hprev, List.getElem?_eq_getElem hnext, ?_⟩
  rw [sample, if_neg (by simp [isEmpty, hne, hvalues])]
  dsimp only
  rw [List.getElem?_eq_getElem hprev, List.getElem?_eq_getElem hnext]
  dsimp only
  split
  · rfl
  · rfl

theorem Track.IsAligned.exists_sample [Blend α υ] (ht : t.IsAligned) (hkeys : t.isEmpty = false)
    (time : α) : ∃ value, t.sample time = some value := by
  have htimes : t.times ≠ [] := by
    rintro hnil
    simp [isEmpty, hnil] at hkeys
  obtain ⟨_, _, -, -, hsample⟩ := ht.exists_sample_eq htimes time
  exact ⟨_, hsample⟩

end Sampling

/-! ### Samplers -/

section Samplers

variable {υ : Type}

namespace Gltf.SamplerMode

/-- How many keys values are for. -/
def keyCount (mode : SamplerMode) (values : List υ) : Nat :=
  if mode = .cubicSpline then values.length / 3 else values.length

/-- The value at a key: of a spline, the one between two tangents. -/
def valueAt? (mode : SamplerMode) (values : List υ) (key : Nat) : Option υ :=
  values[if mode = .cubicSpline then 3 * key + 1 else key]?

end Gltf.SamplerMode

namespace ChannelValues

theorem length_middles (values : List υ) : (middles values).length = values.length / 3 := by
  induction values using middles.induct with
  | case1 a b c rest ih =>
      simp only [middles, List.length_cons, ih]
      omega
  | case2 values hvalues =>
      have hshort : values.length < 3 := by
        match values, hvalues with
        | [], _ => simp
        | [_], _ => simp
        | [_, _], _ => simp
        | a :: b :: c :: rest, h => exact absurd rfl (h a b c rest)
      rw [middles, Nat.div_eq_of_lt hshort]
      · rfl
      · exact hvalues

theorem getElem?_middles {values : List υ} {key : Nat} (h : key < values.length / 3) :
    (middles values)[key]? = values[3 * key + 1]? := by
  induction values using middles.induct generalizing key with
  | case1 a b c rest ih =>
      cases key with
      | zero => rfl
      | succ key =>
          have hrest : key < rest.length / 3 := by
            simp only [List.length_cons] at h
            omega
          have hplace : 3 * (key + 1) + 1 = 3 * key + 1 + 1 + 1 + 1 := by omega
          rw [middles, hplace]
          simpa only [List.getElem?_cons_succ] using ih hrest
  | case2 values hvalues =>
      rw [← length_middles, middles] at h
      · cases h
      · exact hvalues

theorem length_keyed (mode : Gltf.SamplerMode) (values : List υ) :
    (keyed mode values).length = mode.keyCount values := by
  unfold keyed Gltf.SamplerMode.keyCount
  split
  · exact length_middles values
  · rfl

theorem getElem?_keyed {mode : Gltf.SamplerMode} {values : List υ} {key : Nat}
    (h : key < mode.keyCount values) : (keyed mode values)[key]? = mode.valueAt? values key := by
  unfold Gltf.SamplerMode.keyCount at h
  unfold keyed Gltf.SamplerMode.valueAt?
  split
  · next hspline =>
    rw [if_pos hspline] at h
    exact getElem?_middles h
  · rfl

end ChannelValues

namespace Track

/-- The track of a sampler: as many keys as there are both times and values, and none if there are
no keys. -/
def ofSampler? (times : List Float32) (mode : Gltf.SamplerMode) (values : List υ) :
    Option (Track Float32 υ) :=
  let keys := min times.length (mode.keyCount values)
  if keys = 0 then none
  else some ⟨times.take keys, (List.range keys).filterMap (mode.valueAt? values),
    mode.interpolation⟩

theorem ofSampler?_eq (times : List Float32) (mode : Gltf.SamplerMode) (values : List υ) :
    ofSampler? times mode values =
      if min times.length (ChannelValues.keyed mode values).length = 0 then none
      else some (ofKeys times (ChannelValues.keyed mode values) mode.interpolation) := by
  have hvalues : (List.range (min times.length (mode.keyCount values))).filterMap
      (mode.valueAt? values) =
        (ChannelValues.keyed mode values).take (min times.length (mode.keyCount values)) := by
    apply filterMap_range_eq_take
    · rw [ChannelValues.length_keyed]
      exact Nat.min_le_right ..
    · intro key hkey
      exact (ChannelValues.getElem?_keyed (Nat.lt_min.mp hkey).2).symm
  rw [ofSampler?, ofKeys, hvalues, ChannelValues.length_keyed]

theorem isAligned_ofKeys (times : List Float32) (values : List υ) (i : Interpolation) :
    (ofKeys times values i).IsAligned := by
  simp [IsAligned, ofKeys]

theorem isAligned_of_ofSampler? {times : List Float32} {mode : Gltf.SamplerMode}
    {values : List υ} {t : Track Float32 υ} (h : ofSampler? times mode values = some t) :
    t.IsAligned := by
  rw [ofSampler?_eq] at h
  split at h
  · cases h
  · cases h
    exact isAligned_ofKeys ..

/-- A track is replaced by that of a sampler with keys; the answer is then the time of the last
one. -/
theorem store_value (t : Track Float32 υ) (times : List Float32) (mode : Gltf.SamplerMode)
    (values : List υ) :
    (t.store times (ChannelValues.keyed mode values) mode.interpolation).value =
      match ofSampler? times mode values with
      | none => (none, t)
      | some new => (new.lastTime?, new) := by
  rw [ofSampler?_eq, store]
  simp only [apply_ite Logged.value, Logged.bind_value, Logged.pure_value, ite_self]
  split
  · rfl
  · rfl

theorem exists_lastTime_of_ofSampler? {times : List Float32} {mode : Gltf.SamplerMode}
    {values : List υ} {t : Track Float32 υ} (h : ofSampler? times mode values = some t) :
    ∃ last, t.lastTime? = some last := by
  rw [ofSampler?] at h
  split at h
  · cases h
  · next hkeys =>
    cases h
    rw [← Option.isSome_iff_exists, lastTime?, List.getLast?_isSome, ← List.length_pos_iff,
      List.length_take]
    omega

end Track

end Samplers

end SceneBatch
