import Mathlib
import SceneBatch.Number.Single

/-!
# The order of single-precision numbers

Numbers are compared by their side of zero, then by their exponents, and then by their significands.
So they stand in a line (`Single.rank`), with the two zeros at one place of it, and a list of them
has a largest one (`Single.IsLargest`), which a running maximum finds
(`Single.isLargest_foldl_larger`). A not-a-number has no place in the line.
-/

namespace SceneBatch

namespace Single

open Float.Model (UnpackedFloat)

/-! ### Ranks -/

/-- Where a number stands in the line. -/
def rankOf : UnpackedFloat → ℤ ×ₗ ℤ ×ₗ ℤ
  | .infinity .negative => toLex (-2, toLex (0, 0))
  | .finite .negative m e _ => toLex (-1, toLex (-e, -m))
  | .zero _ => toLex (0, toLex (0, 0))
  | .finite .positive m e _ => toLex (1, toLex (e, m))
  | .infinity .positive => toLex (2, toLex (0, 0))
  | .notANumber => toLex (0, toLex (0, 0))

theorem compare_neg (a b : ℤ) : compare (-a) (-b) = compare b a := by
  simp only [compare, compareOfLessAndEq, neg_lt_neg_iff, neg_inj, eq_comm]

theorem compare_natCast (m n : ℕ) : compare (m : ℤ) n = compare m n := by
  simp only [compare, compareOfLessAndEq, Nat.cast_lt, Nat.cast_inj]

theorem compare_eq_rankOf {x y : UnpackedFloat} (hx : x ≠ .notANumber) (hy : y ≠ .notANumber) :
    x.compare y = some (compare (rankOf x) (rankOf y)) := by
  rcases x with (_ | _) | _ | (_ | _) | ⟨(_ | _), m, e, hm⟩
  all_goals
    rcases y with (_ | _) | _ | (_ | _) | ⟨(_ | _), m', e', hm'⟩
    -- only two numbers on the same side of zero need their exponents and significands compared
    all_goals first | exact absurd rfl hx | exact absurd rfl hy | rfl | skip
  case finite.negative.finite.negative =>
      show some ((compare e e').then (compare m m')).swap =
        some ((compare (-e) (-e')).then (compare (-m : ℤ) (-m')))
      rw [compare_neg, compare_neg, compare_natCast, Ordering.swap_then, Int.compare_swap,
        Nat.compare_swap]
  case finite.positive.finite.positive =>
      show some ((compare e e').then (compare m m')) =
        some ((compare e e').then (compare (m : ℤ) m'))
      rw [compare_natCast]

/-- Only the two zeros share a rank. -/
theorem eq_of_rankOf_eq {x y : UnpackedFloat} (hx : x ≠ .notANumber) (hy : y ≠ .notANumber)
    (h : rankOf x = rankOf y) (hzero : rankOf x ≠ toLex (0, toLex (0, 0))) : x = y := by
  rcases x with (_ | _) | _ | (_ | _) | ⟨(_ | _), m, e, hm⟩
  all_goals
    rcases y with (_ | _) | _ | (_ | _) | ⟨(_ | _), m', e', hm'⟩
    all_goals simp_all [rankOf]

/-- Where a single-precision number stands in the line. -/
def rank (x : Float32) : ℤ ×ₗ ℤ ×ₗ ℤ := rankOf x.toModel.unpack

variable {x y : Float32}

theorem unpack_ne_of_isNaN (hx : x.isNaN = false) : x.toModel.unpack ≠ .notANumber := by
  intro h
  have hnan : x.toModel.unpack.isNaN = false := hx
  rw [h] at hnan
  cases hnan

theorem lt_iff_rank (hx : x.isNaN = false) (hy : y.isNaN = false) : x < y ↔ rank x < rank y := by
  have hlt : x < y ↔ (x.toModel.unpack.compare y.toModel.unpack == some .lt) = true :=
    decide_eq_true_iff
  rw [hlt, compare_eq_rankOf (unpack_ne_of_isNaN hx) (unpack_ne_of_isNaN hy), beq_iff_eq,
    Option.some.injEq, compare_lt_iff_lt]
  rfl

theorem le_iff_rank (hx : x.isNaN = false) (hy : y.isNaN = false) : x ≤ y ↔ rank x ≤ rank y := by
  have hle : x ≤ y ↔ (x.toModel.unpack.compare y.toModel.unpack).any Ordering.isLE = true :=
    decide_eq_true_iff
  rw [hle, compare_eq_rankOf (unpack_ne_of_isNaN hx) (unpack_ne_of_isNaN hy), Option.any_some,
    Ordering.isLE_iff_ne_gt, ← compare_le_iff_le]
  rfl

theorem isNaN_of_isFinite (hx : x.isFinite) : x.isNaN = false := by
  have hfinite : x.toModel.unpack.isFinite = true := hx
  show x.toModel.unpack.isNaN = false
  cases h : x.toModel.unpack with
  | notANumber => simp [h, UnpackedFloat.isFinite] at hfinite
  | infinity s => rfl
  | zero s => rfl
  | finite s m e hm => rfl

/-- Numbers of one rank are equal, unless they are zeros. -/
theorem eq_of_rank_eq (hx : x.isNaN = false) (hy : y.isNaN = false) (hpos : rank 0 < rank x)
    (h : rank x = rank y) : x = y := by
  have hunpack : x.toModel.unpack = y.toModel.unpack :=
    eq_of_rankOf_eq (unpack_ne_of_isNaN hx) (unpack_ne_of_isNaN hy) h (ne_of_gt hpos)
  have hbits : x.toModel.toBits.toBitVec = y.toModel.toBits.toBitVec :=
    (UnpackedFloat.unpack_inj_of_valid x.toModel.valid y.toModel.valid).mp hunpack
  rcases x with ⟨⟨x, hx⟩⟩
  rcases y with ⟨⟨y, hy⟩⟩
  cases UInt32.toBitVec_inj.mp hbits
  rfl

/-! ### Largest numbers -/

theorem larger_eq (hx : x.isNaN = false) (hy : y.isNaN = false) :
    larger x y = if x < y then y else x := by
  rw [larger, if_neg (by rw [hx]; exact Bool.false_ne_true),
    if_neg (by rw [hy]; exact Bool.false_ne_true)]

theorem larger_cases (hx : x.isNaN = false) (hy : y.isNaN = false) :
    (x < y ∧ larger x y = y) ∨ larger x y = x := by
  rw [larger_eq hx hy]
  split
  · next hlt => exact .inl ⟨hlt, rfl⟩
  · exact .inr rfl

theorem rank_larger (hx : x.isNaN = false) (hy : y.isNaN = false) :
    rank (larger x y) = max (rank x) (rank y) := by
  rw [larger_eq hx hy]
  split
  · next hlt => exact (max_eq_right ((lt_iff_rank hx hy).mp hlt).le).symm
  · next hlt => exact (max_eq_left (not_lt.mp (mt (lt_iff_rank hx hy).mpr hlt))).symm

/-- A number of a list that no other one of it exceeds. -/
structure IsLargest (x : Float32) (xs : List Float32) : Prop where
  mem : x ∈ xs
  le : ∀ y ∈ xs, y ≤ x

variable {xs ys : List Float32}

theorem IsLargest.concat (h : IsLargest x xs) (hxs : ∀ z ∈ xs, z.isNaN = false)
    (hy : y.isNaN = false) : IsLargest (larger x y) (xs ++ [y]) := by
  have hx : x.isNaN = false := hxs x h.mem
  have hmem : larger x y ∈ xs ++ [y] := by
    rcases larger_cases hx hy with ⟨-, hlarger⟩ | hlarger
    · rw [hlarger]
      simp
    · rw [hlarger]
      exact List.mem_append_left [y] h.mem
  have hnumbers : ∀ z ∈ xs ++ [y], z.isNaN = false := by
    simpa [or_imp, forall_and] using And.intro hxs hy
  refine ⟨hmem, fun z hz => ?_⟩
  -- Among numbers the order is that of their ranks.
  rw [le_iff_rank (hnumbers z hz) (hnumbers _ hmem), rank_larger hx hy]
  rcases List.mem_append.mp hz with hz | hz
  · exact le_max_of_le_left ((le_iff_rank (hxs z hz) hx).mp (h.le z hz))
  · rw [List.mem_singleton.mp hz]
    exact le_max_right ..

/-- A running maximum is the largest number so far. -/
theorem isLargest_foldl_larger (hxs : ∀ z ∈ x :: xs, z.isNaN = false) :
    IsLargest (xs.foldl larger x) (x :: xs) := by
  induction xs using List.reverseRecOn with
  | nil =>
      have hx := hxs x List.mem_cons_self
      exact ⟨List.mem_singleton_self x, by simp [le_iff_rank hx hx]⟩
  | append_singleton xs y ih =>
      rw [List.foldl_concat, ← List.cons_append]
      rw [← List.cons_append] at hxs
      have hbefore : ∀ z ∈ x :: xs, z.isNaN = false :=
        fun z hz => hxs z (List.mem_append_left [y] hz)
      exact (ih hbefore).concat hbefore (hxs y (by simp))

/-- A running maximum leaves its start only for a number above it. -/
theorem foldl_larger_cases (hxs : ∀ z ∈ x :: xs, z.isNaN = false) :
    xs.foldl larger x = x ∨ rank x < rank (xs.foldl larger x) := by
  -- on the list from behind: the last number is above the maximum before it, or is left aside
  induction xs using List.reverseRecOn with
  | nil => exact .inl rfl
  | append_singleton xs y ih =>
      rw [← List.cons_append] at hxs
      have hbefore : ∀ z ∈ x :: xs, z.isNaN = false :=
        fun z hz => hxs z (List.mem_append_left [y] hz)
      have hrun : (xs.foldl larger x).isNaN = false :=
        hbefore _ (isLargest_foldl_larger hbefore).mem
      have hy : y.isNaN = false := hxs y (by simp)
      rw [List.foldl_concat]
      rcases larger_cases hrun hy with ⟨hlt, hlarger⟩ | hlarger
      · have hle : rank x ≤ rank (xs.foldl larger x) := by
          rcases ih hbefore with hsame | hpos
          · rw [hsame]
          · exact hpos.le
        rw [hlarger]
        exact .inr (hle.trans_lt ((lt_iff_rank hrun hy).mp hlt))
      · rw [hlarger]
        exact ih hbefore

theorem isNaN_zero : (0 : Float32).isNaN = false := by decide

/-- Two lists have the same largest number, from zero on, if each number of the one is reached in
the other. -/
theorem isLargest_foldl_larger_iff (hxs : ∀ z ∈ xs, z.isNaN = false)
    (hys : ∀ z ∈ ys, z.isNaN = false) :
    IsLargest (xs.foldl larger 0) (0 :: ys) ↔
      (∀ y ∈ ys, ∃ x ∈ 0 :: xs, y ≤ x) ∧ ∀ x ∈ xs, ∃ y ∈ 0 :: ys, x ≤ y := by
  have hxs' : ∀ z ∈ 0 :: xs, z.isNaN = false := List.forall_mem_cons.mpr ⟨isNaN_zero, hxs⟩
  have hys' : ∀ z ∈ 0 :: ys, z.isNaN = false := List.forall_mem_cons.mpr ⟨isNaN_zero, hys⟩
  have hlargest := isLargest_foldl_larger hxs'
  have hcases := foldl_larger_cases hxs'
  generalize xs.foldl larger 0 = d at hlargest hcases
  have hd : d.isNaN = false := hxs' d hlargest.mem
  constructor
  · intro h
    exact ⟨fun y hy => ⟨d, hlargest.mem, h.le y (List.mem_cons_of_mem 0 hy)⟩,
      fun x hx => ⟨d, h.mem, hlargest.le x (List.mem_cons_of_mem 0 hx)⟩⟩
  · -- each number of the second list is below one of the first, so below the maximum
    rintro ⟨hreached, hreaches⟩
    have hle : ∀ y ∈ 0 :: ys, rank y ≤ rank d := by
      intro y hy
      rcases List.mem_cons.mp hy with rfl | hy
      · exact (le_iff_rank isNaN_zero hd).mp (hlargest.le 0 List.mem_cons_self)
      · obtain ⟨x, hx, hyx⟩ := hreached y hy
        exact ((le_iff_rank (hys y hy) (hxs' x hx)).mp hyx).trans
          ((le_iff_rank (hxs' x hx) hd).mp (hlargest.le x hx))
    refine ⟨?_, fun y hy => (le_iff_rank (hys' y hy) hd).mpr (hle y hy)⟩
    rcases hcases with rfl | hpos
    · exact List.mem_cons_self
    · -- a maximum above zero is one of the numbers, and one of the second list reaches it
      have hmem : d ∈ xs := by
        rcases List.mem_cons.mp hlargest.mem with rfl | hmem
        · exact absurd hpos (lt_irrefl _)
        · exact hmem
      obtain ⟨y, hy, hdy⟩ := hreaches d hmem
      have hrank : rank d = rank y :=
        le_antisymm ((le_iff_rank hd (hys' y hy)).mp hdy) (hle y hy)
      rw [eq_of_rank_eq hd (hys' y hy) hpos hrank]
      exact hy

end Single

end SceneBatch
