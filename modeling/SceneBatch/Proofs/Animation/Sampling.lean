import Mathlib.Tactic.FieldSimp
import Mathlib.Tactic.Ring
import SceneBatch.Proofs.Animation.Keys
import SceneBatch.Proofs.Number.Exact

/-!
# Sampling of tracks

With exact numbers, the keys around a time are what they should be when the times of a track
increase (`KeyPosition.Locates`): the first or the last key for a time that is not after the one or
not before the other, and else the only two neighbours that have the time between them. A track of
steps gives the value of the last key that has come (`Track.Holds`), and a linear one of vectors the
point on the line between two keys (`Track.OnLine`).
-/

namespace SceneBatch

/-! ### Neighbours -/

section Neighbours

/-- A time lies between the key at a place and the next one. -/
structure IsBetween (times : List ℚ) (time : ℚ) (i : Nat) (t u : ℚ) : Prop where
  left : times[i]? = some t
  right : times[i + 1]? = some u
  le : t ≤ time
  lt : time < u

variable {times : List ℚ} {time t u : ℚ} {i j : Nat}

theorem getElem?_lt_iff (h : times.Pairwise (· < ·)) (hi : times[i]? = some t)
    (hj : times[j]? = some u) : t < u ↔ i < j := by
  obtain ⟨hilt, rfl⟩ := List.getElem?_eq_some_iff.mp hi
  obtain ⟨hjlt, rfl⟩ := List.getElem?_eq_some_iff.mp hj
  rcases Nat.lt_trichotomy i j with hij | rfl | hji
  · exact iff_of_true (List.pairwise_iff_getElem.mp h i j hilt hjlt hij) hij
  · exact iff_of_false (lt_irrefl _) (Nat.lt_irrefl i)
  · exact iff_of_false (List.pairwise_iff_getElem.mp h j i hjlt hilt hji).not_gt hji.not_gt

theorem getElem?_length_eq_some (first : ℚ) (rest : List ℚ) :
    (first :: rest)[rest.length]? = some (rest.getLast?.getD first) := by
  rw [← List.getLast?_cons, List.getLast?_eq_getElem?]
  rfl

/-- The key that has come at a time: the last one that is not after it, or the first one if all are
after it. -/
structure IsReached (times : List ℚ) (time : ℚ) (k : Nat) : Prop where
  come : k = 0 ∨ ∃ t, times[k]? = some t ∧ t ≤ time
  last : ∀ (i : Nat) t, times[i]? = some t → t ≤ time → i ≤ k

theorem IsReached.unique (hi : IsReached times time i) (hj : IsReached times time j) : i = j := by
  have hle {i j : Nat} (hi : IsReached times time i) (hj : IsReached times time j) : i ≤ j := by
    rcases hi.come with rfl | ⟨t, ht, hle⟩
    · exact Nat.zero_le j
    · exact hj.last i t ht hle
  exact le_antisymm (hle hi hj) (hle hj hi)

theorem isReached_key (h : times.Pairwise (· < ·)) (hi : times[i]? = some t) :
    IsReached times t i where
  come := .inr ⟨t, hi, le_rfl⟩
  last _ _ hj hle := not_lt.mp ((getElem?_lt_iff h hi hj).not.mp hle.not_gt)

theorem IsBetween.isReached (h : times.Pairwise (· < ·)) (hi : IsBetween times time i t u) :
    IsReached times time i where
  come := .inr ⟨t, hi.left, hi.le⟩
  last _ _ hj hle := Nat.lt_succ_iff.mp ((getElem?_lt_iff h hj hi.right).mp (hle.trans_lt hi.lt))

/-! ### Lines -/

/-- The point at `x` on the line through `a` at `t` and `b` at `u`. -/
def pointOnLine (t u : ℚ) (a b : Vec3 ℚ) (x : ℚ) : Vec3 ℚ where
  x := ((u - x) * a.x + (x - t) * b.x) / (u - t)
  y := ((u - x) * a.y + (x - t) * b.y) / (u - t)
  z := ((u - x) * a.z + (x - t) * b.z) / (u - t)

theorem pointOnLine_left (hlt : t < u) (a b : Vec3 ℚ) : pointOnLine t u a b t = a := by
  have hspan : u - t ≠ 0 := (sub_pos.mpr hlt).ne'
  simp [pointOnLine, mul_div_cancel_left₀ _ hspan]

theorem pointOnLine_right (hlt : t < u) (a b : Vec3 ℚ) : pointOnLine t u a b u = b := by
  have hspan : u - t ≠ 0 := (sub_pos.mpr hlt).ne'
  simp [pointOnLine, mul_div_cancel_left₀ _ hspan]

end Neighbours

/-! ### Keys around a time -/

section Keyframes

variable [RationalApproximation] {times : List ℚ} {time t first : ℚ}

/-- What the search finds, after it has passed `before`, is between neighbours. -/
theorem isBetween_of_findBracket (before : List ℚ) {index : Nat} {key : KeyPosition ℚ}
    (hbefore : before.length = index) (h : findBracket time index t times = some key) :
    ∃ a b, IsBetween (before ++ t :: times) time key.prev a b ∧
      key = ⟨key.prev, key.prev + 1, (time - a) / (b - a)⟩ := by
  induction times generalizing index t before with
  | nil => cases h
  | cons u rest ih =>
      rw [findBracket] at h
      split at h
      · next hbetween =>
        have hspan : 0 < u - t := sub_pos.mpr (hbetween.1.trans_lt hbetween.2)
        dsimp only at h
        rw [if_pos hspan] at h
        cases h
        exact ⟨t, u, ⟨by simp [← hbefore], by simp [← hbefore], hbetween.1, hbetween.2⟩, rfl⟩
      · have hrest := ih (before ++ [t]) (by simp [hbefore]) h
        rwa [List.append_assoc] at hrest

/-- The search finds a time that is not before the first key, but before the last. -/
theorem exists_findBracket (index : Nat) (hle : t ≤ time) (hlt : time < times.getLast?.getD t) :
    ∃ key, findBracket time index t times = some key := by
  induction times generalizing index t with
  | nil => exact absurd hlt (not_lt.mpr hle)
  | cons u rest ih =>
      rw [findBracket]
      split
      · exact ⟨_, rfl⟩
      · next hnot =>
        have hle' : u ≤ time := not_lt.mp fun hlt' => hnot ⟨hle, hlt'⟩
        rw [List.getLast?_cons, Option.getD_some] at hlt
        exact ih (index + 1) hle' hlt

/-- The three ways in which the keys around a time come about. -/
theorem findKeyframe_cases (first : ℚ) (rest : List ℚ) (time : ℚ) :
    (time ≤ first ∧ findKeyframe (first :: rest) time = ⟨0, 0, 0⟩) ∨
      (first < time ∧ rest.getLast?.getD first ≤ time ∧
        findKeyframe (first :: rest) time = ⟨rest.length, rest.length, 0⟩) ∨
      (first < time ∧ time < rest.getLast?.getD first ∧
        findBracket time 0 first rest = some (findKeyframe (first :: rest) time)) := by
  rw [findKeyframe]
  by_cases hfirst : time ≤ first
  · exact .inl ⟨hfirst, if_pos hfirst⟩
  · rw [if_neg hfirst]
    by_cases hlast : rest.getLast?.getD first ≤ time
    · exact .inr (.inl ⟨not_le.mp hfirst, hlast, if_pos hlast⟩)
    · obtain ⟨key, hkey⟩ := exists_findBracket 0 (not_le.mp hfirst).le (not_le.mp hlast)
      refine .inr (.inr ⟨not_le.mp hfirst, not_le.mp hlast, ?_⟩)
      rw [if_neg hlast, hkey, Option.getD_some]

/-- The first of the keys around a time is the one that has come. -/
theorem isReached_findKeyframe (hne : times ≠ []) (h : times.Pairwise (· < ·)) (time : ℚ) :
    IsReached times time (findKeyframe times time).prev := by
  obtain ⟨first, rest, rfl⟩ := List.exists_cons_of_ne_nil hne
  rcases findKeyframe_cases first rest time with ⟨hle, heq⟩ | ⟨-, hle, heq⟩ | ⟨-, -, hkey⟩
  · rw [heq]
    exact ⟨.inl rfl, fun i t ht hle' => (isReached_key h (i := 0) rfl).last i t ht (hle'.trans hle)⟩
  · rw [heq]
    refine ⟨.inr ⟨_, getElem?_length_eq_some first rest, hle⟩, fun i t ht _ => ?_⟩
    exact Nat.lt_succ_iff.mp (List.getElem?_eq_some_iff.mp ht).1
  · obtain ⟨a, b, hb, -⟩ := isBetween_of_findBracket [] rfl hkey
    exact hb.isReached h

/-- The keys around a time, when times increase. A time that is not after the first key, or not
before the last, is at that key. Any other lies between two neighbours, and the search does find
them. -/
structure KeyPosition.Locates (key : KeyPosition ℚ) (times : List ℚ) (time : ℚ) : Prop where
  first : ∀ t ∈ times.head?, time ≤ t → key = ⟨0, 0, 0⟩
  last : ∀ t ∈ times.getLast?, t ≤ time → key = ⟨times.length - 1, times.length - 1, 0⟩
  between : ∀ t ∈ times.head?, ∀ u ∈ times.getLast?, t < time → time < u →
    findBracket time 0 t times.tail = some key ∧
      ∃ a b, IsBetween times time key.prev a b ∧
        key = ⟨key.prev, key.prev + 1, (time - a) / (b - a)⟩
  only : ∀ i a b, IsBetween times time i a b → i = key.prev
  fraction : 0 ≤ key.fraction ∧ key.fraction < 1

theorem findKeyframe_locates (hne : times ≠ []) (h : times.Pairwise (· < ·)) (time : ℚ) :
    (findKeyframe times time).Locates times time := by
  have honly (i : Nat) (a b : ℚ) (hb : IsBetween times time i a b) :
      i = (findKeyframe times time).prev :=
    (hb.isReached h).unique (isReached_findKeyframe hne h time)
  obtain ⟨first, rest, rfl⟩ := List.exists_cons_of_ne_nil hne
  have hend := getElem?_length_eq_some first rest
  rcases findKeyframe_cases first rest time with ⟨hle, heq⟩ | ⟨hlt, hle, heq⟩ | ⟨hlt, hlt', hkey⟩
  · refine ⟨fun _ _ _ => heq, ?_, ?_, honly, by rw [heq]; exact ⟨le_rfl, one_pos⟩⟩
    · intro t ht hlast
      rw [List.getLast?_cons, Option.mem_some_iff] at ht
      subst ht
      -- the last key is not after the first, so there is only one
      have hone : rest.length = 0 := Nat.eq_zero_of_not_pos
        ((getElem?_lt_iff h (i := 0) rfl hend).not.mp (hlast.trans hle).not_gt)
      rw [heq, List.length_cons, hone]
    · rintro t ⟨⟩ u - hlt
      exact absurd hle hlt.not_ge
  · refine ⟨?_, fun _ _ _ => heq, ?_, honly, by rw [heq]; exact ⟨le_rfl, one_pos⟩⟩
    · rintro t ⟨⟩ hle'
      exact absurd hle' hlt.not_ge
    · rintro t - u hu - hlt'
      rw [List.getLast?_cons, Option.mem_some_iff] at hu
      exact absurd hle (hu ▸ hlt'.not_ge)
  · obtain ⟨a, b, hb, hform⟩ := isBetween_of_findBracket [] rfl hkey
    have hspan : 0 < b - a := sub_pos.mpr (hb.le.trans_lt hb.lt)
    refine ⟨?_, ?_, ?_, honly, ?_⟩
    · rintro t ⟨⟩ hle
      exact absurd hle hlt.not_ge
    · intro t ht hle
      rw [List.getLast?_cons, Option.mem_some_iff] at ht
      exact absurd hle (ht ▸ hlt'.not_ge)
    · rintro t ⟨⟩ u - - -
      exact ⟨hkey, a, b, hb, hform⟩
    · rw [hform]
      exact ⟨div_nonneg (sub_nonneg.mpr hb.le) hspan.le,
        (div_lt_one hspan).mpr (sub_lt_sub_right hb.lt a)⟩

/-- A time that is that of a key is at the key. -/
theorem findKeyframe_key (h : times.Pairwise (· < ·)) {k : Nat} (hk : times[k]? = some t) :
    (findKeyframe times t).prev = k ∧ (findKeyframe times t).fraction = 0 := by
  have hne : times ≠ [] := by
    rintro rfl
    cases hk
  have hprev := (isReached_findKeyframe hne h t).unique (isReached_key h hk)
  refine ⟨hprev, ?_⟩
  obtain ⟨first, rest, rfl⟩ := List.exists_cons_of_ne_nil hne
  rcases findKeyframe_cases first rest t with ⟨-, heq⟩ | ⟨-, -, heq⟩ | ⟨-, -, hkey⟩
  · rw [heq]
  · rw [heq]
  · obtain ⟨a, b, hb, hform⟩ := isBetween_of_findBracket [] rfl hkey
    have hleft := hb.left
    rw [List.nil_append, hprev, hk] at hleft
    cases hleft
    rw [hform, sub_self, zero_div]

/-- A time after the first of two neighbours is between these. -/
theorem findKeyframe_of_isBetween (h : times.Pairwise (· < ·)) {i : Nat} {u : ℚ}
    (hb : IsBetween times time i t u) (hlt : t < time) :
    findKeyframe times time = ⟨i, i + 1, (time - t) / (u - t)⟩ := by
  have hne : times ≠ [] := by
    rintro rfl
    cases hb.left
  have hlocates := findKeyframe_locates hne h time
  obtain ⟨first, rest, rfl⟩ := List.exists_cons_of_ne_nil hne
  have hfirst : first ≤ t :=
    not_lt.mp ((getElem?_lt_iff h hb.left (j := 0) rfl).not.mpr (Nat.not_lt_zero i))
  have hlast : u ≤ rest.getLast?.getD first := by
    have hinside : i + 1 < rest.length + 1 := (List.getElem?_eq_some_iff.mp hb.right).1
    exact not_lt.mp ((getElem?_lt_iff h (getElem?_length_eq_some first rest) hb.right).not.mpr
      (by omega))
  -- the bracket that was found has the same left key, so it is this one
  obtain ⟨-, a, b, hb', hform⟩ := hlocates.between first rfl _ List.getLast?_cons
    (hfirst.trans_lt hlt) (hb.lt.trans_le hlast)
  rw [← hlocates.only i t u hb] at hb' hform
  cases hb.left.symm.trans hb'.left
  cases hb.right.symm.trans hb'.right
  exact hform

end Keyframes

/-! ### Tracks -/

section Tracks

variable [RationalApproximation]

namespace Track

section Keys

variable {υ : Type} [Blend ℚ υ] {t : Track ℚ υ} {time : ℚ} {value : υ}

/-- What a track gives when its times increase: at all times what `R` says, and at the time of a key
the value of the key. -/
structure IsSampledBy (t : Track ℚ υ) (R : ℚ → υ → Prop) : Prop where
  total : ∀ time, ∃ value, t.sample time = some value
  sample_iff : ∀ time value, t.sample time = some value ↔ R time value
  key : ∀ (k : Nat) time, t.times[k]? = some time → t.sample time = t.values[k]?

/-- At the time of a key a track has the key's value, if blends begin with their first value. -/
theorem IsAligned.sample_key (ht : t.IsAligned) (h : t.times.Pairwise (· < ·))
    (hblend : t.interpolation = .step ∨ ∀ a b : υ, Blend.blend a b (0 : ℚ) = a) {k : Nat}
    (hk : t.times[k]? = some time) : t.sample time = t.values[k]? := by
  have hne : t.times ≠ [] := by
    intro hnil
    rw [hnil] at hk
    cases hk
  obtain ⟨hprev, hfraction⟩ := findKeyframe_key h hk
  obtain ⟨a, b, ha, -, hsample⟩ := ht.exists_sample_eq hne time
  rw [hsample, ← hprev, ha, hfraction]
  rcases hblend with hstep | hblend
  · rw [if_pos (.inr hstep)]
  · rw [hblend, ite_self]

/-- A value is that of the key which has come. -/
def Holds (t : Track ℚ υ) (time : ℚ) (value : υ) : Prop :=
  ∃ k, IsReached t.times time k ∧ t.values[k]? = some value

theorem isSampledBy_holds (ht : t.IsAligned) (hne : t.times ≠ []) (h : t.times.Pairwise (· < ·))
    (hstep : t.interpolation = .step) : t.IsSampledBy t.Holds := by
  have hsample (time : ℚ) : ∃ a, t.values[(findKeyframe t.times time).prev]? = some a ∧
      t.sample time = some a := by
    obtain ⟨a, b, ha, -, heq⟩ := ht.exists_sample_eq hne time
    rw [if_pos (.inr hstep)] at heq
    exact ⟨a, ha, heq⟩
  refine ⟨fun time => ?_, fun time value => ?_, fun k time => ht.sample_key h (.inl hstep)⟩
  · obtain ⟨a, -, heq⟩ := hsample time
    exact ⟨a, heq⟩
  · -- only one key is reached, so both directions speak of its value
    have hreached := isReached_findKeyframe hne h time
    obtain ⟨a, ha, heq⟩ := hsample time
    rw [heq, ← ha]
    constructor
    · intro hvalue
      exact ⟨_, hreached, hvalue⟩
    · rintro ⟨k, hk, hvalue⟩
      rwa [hreached.unique hk]

end Keys

/-- A value is on the line between two keys, or it is that of the first or the last key at a time
before or after all of them. -/
inductive OnLine (t : Track ℚ (Vec3 ℚ)) (time : ℚ) : Vec3 ℚ → Prop
  | before {first : ℚ} {a : Vec3 ℚ} (hfirst : t.times.head? = some first)
      (ha : t.values.head? = some a) (hle : time ≤ first) : OnLine t time a
  | after {last : ℚ} {a : Vec3 ℚ} (hlast : t.times.getLast? = some last)
      (ha : t.values.getLast? = some a) (hle : last ≤ time) : OnLine t time a
  | between {k : Nat} {s u : ℚ} {a b : Vec3 ℚ} (hs : t.times[k]? = some s)
      (hu : t.times[k + 1]? = some u) (ha : t.values[k]? = some a) (hb : t.values[k + 1]? = some b)
      (hle : s ≤ time) (hle' : time ≤ u) : OnLine t time (pointOnLine s u a b time)

theorem blend_zero (a b : Vec3 ℚ) : Blend.blend a b (0 : ℚ) = a := by
  show (⟨a.x + (b.x - a.x) * 0, a.y + (b.y - a.y) * 0, a.z + (b.z - a.z) * 0⟩ : Vec3 ℚ) = a
  simp only [mul_zero, add_zero]

theorem blend_eq_pointOnLine {s u : ℚ} (hlt : s < u) (a b : Vec3 ℚ) (x : ℚ) :
    Blend.blend a b ((x - s) / (u - s)) = pointOnLine s u a b x := by
  have hspan : u - s ≠ 0 := (sub_pos.mpr hlt).ne'
  have hcomponent (p q : ℚ) :
      p + (q - p) * ((x - s) / (u - s)) = ((u - x) * p + (x - s) * q) / (u - s) := by
    field_simp
    ring
  show (⟨a.x + (b.x - a.x) * _, a.y + (b.y - a.y) * _, a.z + (b.z - a.z) * _⟩ : Vec3 ℚ) = _
  simp only [hcomponent, pointOnLine]

section Linear

variable {t : Track ℚ (Vec3 ℚ)} {time : ℚ} {value : Vec3 ℚ}

/-- On each line, both ends included, a track gives the point of the line. -/
theorem sample_of_onLine (ht : t.IsAligned) (hne : t.times ≠ []) (h : t.times.Pairwise (· < ·))
    (hlinear : t.interpolation = .linear) (hvalue : t.OnLine time value) :
    t.sample time = some value := by
  have hkey {k : Nat} {time : ℚ} (hk : t.times[k]? = some time) : t.sample time = t.values[k]? :=
    ht.sample_key h (.inr blend_zero) hk
  have hlocates := findKeyframe_locates hne h time
  obtain ⟨a', b', ha', hb', hsample⟩ := ht.exists_sample_eq hne time
  cases hvalue with
  | before hfirst ha hle =>
      rw [hlocates.first _ hfirst hle] at ha' hsample
      rw [hsample, if_pos (.inl rfl), ← ha', ← List.head?_eq_getElem?, ha]
  | after hlast ha hle =>
      rw [hlocates.last _ hlast hle] at ha' hsample
      rw [hsample, if_pos (.inl rfl), ← ha', ht, ← List.getLast?_eq_getElem?, ha]
  | @between k s u a b hs hu ha hb hle hle' =>
      -- both ends are times of keys; inside, the bracket and its fraction are known
      have hspan : s < u := (getElem?_lt_iff h hs hu).mpr k.lt_succ_self
      rcases hle.eq_or_lt with rfl | hlt
      · rw [hkey hs, ha, pointOnLine_left hspan]
      rcases hle'.eq_or_lt with rfl | hlt'
      · rw [hkey hu, hb, pointOnLine_right hspan]
      rw [findKeyframe_of_isBetween h ⟨hs, hu, hle, hlt'⟩ hlt] at ha' hb' hsample
      cases ha.symm.trans ha'
      cases hb.symm.trans hb'
      rw [hsample, if_neg (by simp [hlinear]), blend_eq_pointOnLine hspan]

theorem exists_onLine (ht : t.IsAligned) (hne : t.times ≠ []) (h : t.times.Pairwise (· < ·))
    (time : ℚ) : ∃ value, t.OnLine time value := by
  have hvalues : t.values ≠ [] := by
    rw [← List.length_pos_iff] at hne ⊢
    rwa [← ht]
  have hfirst := List.head?_eq_some_head hne
  have hlast := List.getLast?_eq_some_getLast hne
  rcases le_or_gt time (t.times.head hne) with hle | hlt
  · exact ⟨_, .before hfirst (List.head?_eq_some_head hvalues) hle⟩
  rcases le_or_gt (t.times.getLast hne) time with hle | hlt'
  · exact ⟨_, .after hlast (List.getLast?_eq_some_getLast hvalues) hle⟩
  obtain ⟨-, s, u, hb, -⟩ :=
    (findKeyframe_locates hne h time).between _ hfirst _ hlast hlt hlt'
  have hright := (List.getElem?_eq_some_iff.mp hb.right).1
  rw [ht] at hright
  exact ⟨_, .between hb.left hb.right (List.getElem?_eq_getElem (Nat.lt_of_succ_lt hright))
    (List.getElem?_eq_getElem hright) hb.le hb.lt.le⟩

theorem isSampledBy_onLine (ht : t.IsAligned) (hne : t.times ≠ []) (h : t.times.Pairwise (· < ·))
    (hlinear : t.interpolation = .linear) : t.IsSampledBy t.OnLine := by
  have hsample (time : ℚ) (value : Vec3 ℚ) (hvalue : t.OnLine time value) :
      t.sample time = some value := sample_of_onLine ht hne h hlinear hvalue
  refine ⟨fun time => ?_, fun time value => ⟨fun heq => ?_, hsample time value⟩,
    fun k time => ht.sample_key h (.inr blend_zero)⟩
  · obtain ⟨value, hvalue⟩ := exists_onLine ht hne h time
    exact ⟨value, hsample time value hvalue⟩
  · obtain ⟨value', hvalue⟩ := exists_onLine ht hne h time
    cases heq.symm.trans (hsample time value' hvalue)
    exact hvalue

end Linear

end Track

/-- Times find their keys, and tracks with these times give what they are to give: tracks of steps
hold the value of the key that has come, and tracks of vectors follow the lines between keys. -/
structure FollowsKeys (times : List ℚ) : Prop where
  locates : ∀ time, (findKeyframe times time).Locates times time
  steps : ∀ {υ : Type} [Blend ℚ υ] (values : List υ), values.length = times.length →
    Track.IsSampledBy ⟨times, values, .step⟩ (Track.Holds ⟨times, values, .step⟩)
  lines : ∀ values : List (Vec3 ℚ), values.length = times.length →
    Track.IsSampledBy ⟨times, values, .linear⟩ (Track.OnLine ⟨times, values, .linear⟩)

/-- The keys around a time are always keys, and where times increase they are the right ones. -/
theorem findKeyframe_lt_and_followsKeys {times : List ℚ} (hne : times ≠ []) :
    (∀ time, (findKeyframe times time).prev < times.length ∧
      (findKeyframe times time).next < times.length) ∧
    (times.Pairwise (· < ·) → FollowsKeys times) := by
  refine ⟨findKeyframe_lt hne, fun h => ⟨findKeyframe_locates hne h, ?_, ?_⟩⟩
  · intro υ _ values hvalues
    exact Track.isSampledBy_holds hvalues.symm hne h rfl
  · intro values hvalues
    exact Track.isSampledBy_onLine hvalues.symm hne h rfl

end Tracks

theorem followsKeys_three :
    letI := Exact.firstTerms
    ([0, 1, 3] : List ℚ) ≠ [] ∧ ([0, 1, 3] : List ℚ).Pairwise (· < ·) ∧
      findKeyframe [0, 1, 3] (2 : ℚ) = ⟨1, 2, 1 / 2⟩ ∧ FollowsKeys [0, 1, 3] := by
  let approximation := Exact.firstTerms
  have hne : ([0, 1, 3] : List ℚ) ≠ [] := by decide
  have hascending : ([0, 1, 3] : List ℚ).Pairwise (· < ·) := by decide
  exact ⟨hne, hascending, by decide +kernel, (findKeyframe_lt_and_followsKeys hne).2 hascending⟩

end SceneBatch
