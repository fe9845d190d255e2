import Mathlib
import SceneBatch.Files.Bytes

/-!
# Lemmas on byte strings

Numbers are read back from their bytes, pieces of one size are cut where they were joined, and what
is cut out of a byte string is found there also when more bytes follow.
-/

namespace SceneBatch

/-- Elements that take `n` bytes each take `n` times their number. -/
theorem length_flatMap_of_length {α : Type} {f : α → Bytes} {n : Nat} {xs : List α}
    (h : ∀ x ∈ xs, (f x).length = n) : (xs.flatMap f).length = xs.length * n := by
  induction xs with
  | nil => simp
  | cons x xs ih =>
      rw [List.flatMap_cons, List.length_append, h x List.mem_cons_self,
        ih fun x' hx' => h x' (List.mem_cons_of_mem x hx'), List.length_cons, Nat.add_mul,
        Nat.one_mul, Nat.add_comm]

namespace Bytes

/-! ### Numbers -/

theorem toNat_ofNat (count n : Nat) : toNat (ofNat count n) = n % 256 ^ count := by
  induction count generalizing n with
  | zero => exact (Nat.mod_one n).symm
  | succ count ih =>
      show (UInt8.ofNat n).toNat + 256 * toNat (ofNat count (n / 256)) = _
      rw [ih, Nat.pow_succ, Nat.mul_comm (256 ^ count), Nat.mod_mul, UInt8.toNat_ofNat']

theorem toNat_ofNat_of_lt {count n : Nat} (h : n < 256 ^ count) : toNat (ofNat count n) = n := by
  rw [toNat_ofNat, Nat.mod_eq_of_lt h]

theorem toNat_ofNat_four {n : Nat} (h : n < UInt32.size) : toNat (ofNat 4 n) = n := by
  have hsize : 256 ^ 4 = UInt32.size := by norm_num [UInt32.size]
  exact toNat_ofNat_of_lt (hsize ▸ h)

/-! ### Pieces -/

section Pieces

variable {α : Type} {size : Nat} {encode : α → Bytes}

theorem go_pieces_flatMap (h : ∀ x, (encode x).length = size) (xs : List α) (count : Nat)
    (rest : Bytes) :
    pieces.go size (xs.length + count) (xs.flatMap encode ++ rest) =
      xs.map encode ++ pieces.go size count rest := by
  induction xs with
  | nil => simp
  | cons x xs ih =>
      rw [List.length_cons, Nat.add_right_comm, pieces.go, List.flatMap_cons, List.append_assoc,
        List.map_cons, List.cons_append, ← h x, List.take_left, List.drop_left, h x, ih]

/-- Pieces of one size are cut where they were joined, whatever stands behind them. -/
theorem pieces_flatMap_append (h : ∀ x, (encode x).length = size) (hsize : 0 < size) (xs : List α)
    (rest : Bytes) :
    pieces size (xs.flatMap encode ++ rest) = xs.map encode ++ pieces size rest := by
  have hcount : (xs.flatMap encode ++ rest).length / size = xs.length + rest.length / size := by
    rw [List.length_append, length_flatMap_of_length fun x _ => h x, Nat.mul_comm,
      Nat.mul_add_div hsize]
  rw [pieces, hcount, go_pieces_flatMap h, pieces]

theorem pieces_flatMap (h : ∀ x, (encode x).length = size) (hsize : 0 < size) (xs : List α) :
    pieces size (xs.flatMap encode) = xs.map encode := by
  have hnone : pieces size [] = [] := by simp [pieces, pieces.go]
  have hall := pieces_flatMap_append h hsize xs []
  rwa [List.append_nil, hnone, List.append_nil] at hall

theorem length_pieces (size : Nat) (b : Bytes) : (pieces size b).length = b.length / size := by
  have hgo : ∀ count (b : Bytes), (pieces.go size count b).length = count := by
    intro count
    induction count with
    | zero => exact fun _ => rfl
    | succ count ih => exact fun b => congrArg (· + 1) (ih (b.drop size))
  exact hgo _ b

/-- A string of whole pieces falls into them. -/
theorem go_pieces_of_length {count : Nat} {b : Bytes} (h : b.length = count * size) :
    (pieces.go size count b).flatten = b ∧ ∀ p ∈ pieces.go size count b, p.length = size := by
  induction count generalizing b with
  | zero =>
      rw [Nat.zero_mul, List.length_eq_zero_iff] at h
      rw [h]
      exact ⟨rfl, fun p hp => by cases hp⟩
  | succ count ih =>
      rw [Nat.add_mul, Nat.one_mul] at h
      obtain ⟨hflatten, hsizes⟩ := ih (b := b.drop size) (by rw [List.length_drop]; omega)
      rw [pieces.go, List.flatten_cons, hflatten, List.take_append_drop]
      refine ⟨rfl, fun p hp => ?_⟩
      rcases List.mem_cons.mp hp with rfl | hp
      · rw [List.length_take]
        omega
      · exact hsizes p hp

theorem pieces_of_length {count : Nat} (hsize : 0 < size) {b : Bytes}
    (h : b.length = count * size) :
    (pieces size b).length = count ∧ (pieces size b).flatten = b ∧
      ∀ p ∈ pieces size b, p.length = size := by
  have hcount : b.length / size = count := by rw [h, Nat.mul_div_cancel _ hsize]
  rw [length_pieces, hcount, pieces, hcount]
  exact ⟨rfl, go_pieces_of_length h⟩

end Pieces

/-! ### Parts -/

theorem slice?_append (front b rest : Bytes) :
    slice? (front ++ b ++ rest) front.length b.length = some b := by
  rw [slice?, if_pos (by simp), List.append_assoc, List.drop_left, List.take_left]

/-- A part stays where it is when more bytes follow. -/
theorem slice?_of_isPrefix {b b' part : Bytes} {offset count : Nat} (hb : b <+: b')
    (h : slice? b offset count = some part) : slice? b' offset count = some part := by
  unfold slice? at h ⊢
  split at h
  · next hle =>
    obtain ⟨rest, rfl⟩ := hb
    rw [if_pos (by rw [List.length_append]; omega), List.drop_append_of_le_length (by omega),
      List.take_append_of_le_length (by rw [List.length_drop]; omega)]
    exact h
  · cases h

/-! ### Padding -/

/-- Fewer bytes than a unit fill a string up to a multiple of it. -/
theorem exists_padTo {unit : Nat} (hunit : 0 < unit) (filler : UInt8) (b : Bytes) :
    ∃ count < unit, padTo unit filler b = b ++ List.replicate count filler ∧
      unit ∣ (padTo unit filler b).length := by
  refine ⟨(unit - b.length % unit) % unit, Nat.mod_lt _ hunit, rfl, ?_⟩
  have hlt := Nat.mod_lt b.length hunit
  rw [padTo, List.length_append, List.length_replicate, Nat.dvd_iff_mod_eq_zero, Nat.add_mod_mod,
    ← Nat.mod_add_mod, Nat.add_sub_cancel' hlt.le, Nat.mod_self]

end Bytes

end SceneBatch
