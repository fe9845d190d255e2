import SceneBatch.Device.Readback
import SceneBatch.Proofs.Files.Bytes

/-!
# Reading back undoes the copy

A device copies the rows of a frame to starts that are multiples of 256 bytes. The pitch is the
least such distance that a row fits into (`isLeast_pitch`), computed in 32 bits, and reading back
takes the rows out again without what lies between them (`readRows?_copyRows`).
-/

namespace SceneBatch

namespace Readback

variable {width height : UInt32} {rows : List Bytes} {filler : Nat → Bytes}

/-! ### The pitch -/

/-- Some distance of 32 bits between starts is one that a row fits into. -/
def HasPitch (width : UInt32) : Prop := ∃ n < UInt32.size, 256 ∣ n ∧ 4 * width.toNat ≤ n

theorem HasPitch.toNat_rowBytes (h : HasPitch width) :
    (rowBytes width).toNat = 4 * width.toNat := by
  obtain ⟨n, hn, -, hle⟩ := h
  have hfour : (4 : UInt32).toNat = 4 := rfl
  rw [rowBytes, UInt32.toNat_mul, hfour, Nat.mul_comm]
  exact Nat.mod_eq_of_lt (Nat.lt_of_le_of_lt hle hn)

/-- No step of the computation leaves the 32 bits. -/
theorem HasPitch.toNat_pitch (h : HasPitch width) :
    (pitch width).toNat = (4 * width.toNat + 255) / 256 * 256 := by
  have hrow := h.toNat_rowBytes
  obtain ⟨n, hn, ⟨units, rfl⟩, hle⟩ := h
  change 256 * units < 2 ^ 32 at hn
  have halignment : alignment.toNat = 256 := rfl
  have hrest : rowBytes width % alignment = 0 ↔ 4 * width.toNat % 256 = 0 := by
    rw [← UInt32.toNat_inj, UInt32.toNat_mod, hrow, halignment]
    rfl
  unfold pitch
  dsimp only
  split
  · next hzero =>
    -- a row of whole units is its own pitch
    rw [hrest] at hzero
    rw [UInt32.toNat_mul, UInt32.toNat_div, hrow, halignment]
    omega
  · next hzero =>
    -- any other is rounded up to the next unit
    rw [hrest] at hzero
    have hone : (1 : UInt32).toNat = 1 := rfl
    rw [UInt32.toNat_mul, UInt32.toNat_add, UInt32.toNat_div, hrow, halignment, hone]
    omega

/-- The pitch is the least distance between starts that a row fits into. -/
theorem HasPitch.isLeast_pitch (h : HasPitch width) :
    IsLeast {n | 256 ∣ n ∧ 4 * width.toNat ≤ n} (pitch width).toNat := by
  rw [h.toNat_pitch]
  constructor
  · exact ⟨Nat.dvd_mul_left .., by omega⟩
  · rintro n ⟨⟨units, rfl⟩, hle⟩
    omega

/-! ### Rows -/

/-- A line is read up to the end of its row, and the next one starts where its filler ends. -/
theorem readLines?_append {row line : Nat} (hline : 0 < line) {texels rest : Bytes} {b : Bytes}
    (htexels : texels.length = row) (hb : (texels ++ b).length = line) (count : Nat) :
    readLines? row line (count + 1) (texels ++ b ++ rest) =
      (readLines? row line count rest).map (texels ++ ·) := by
  have hsome : (texels ++ b ++ rest).isEmpty = false := by
    rw [List.isEmpty_eq_false_iff, ← List.length_pos_iff, List.length_append]
    omega
  have hslice : Bytes.slice? (texels ++ b) 0 row = some texels := by
    have hfront := Bytes.slice?_append [] texels b
    rwa [List.nil_append, List.length_nil, htexels] at hfront
  rw [readLines?, hsome, if_neg Bool.false_ne_true, ← hb, List.take_left, List.drop_left, hslice]
  cases readLines? row (texels ++ b).length count rest with
  | none => rfl
  | some _ => rfl

/-- All rows are read, whatever is between them. -/
theorem readLines?_flatMap {row line : Nat} (hline : 0 < line)
    (hrow : ∀ texels ∈ rows, texels.length = row) (hfiller : ∀ i, row + (filler i).length = line)
    (start : Nat) :
    readLines? row line rows.length
        ((rows.zipIdx start).flatMap fun (texels, i) => texels ++ filler i) =
      some rows.flatten := by
  induction rows generalizing start with
  | nil => rfl
  | cons texels rows ih =>
      have htexels : texels.length = row := hrow texels List.mem_cons_self
      have hb : (texels ++ filler start).length = line := by
        rw [List.length_append, htexels, hfiller]
      rw [List.zipIdx_cons, List.flatMap_cons, List.length_cons,
        readLines?_append hline htexels hb, ih fun t ht => hrow t (List.mem_cons_of_mem texels ht)]
      rfl

theorem length_copyRows {row line : Nat} (hrow : ∀ texels ∈ rows, texels.length = row)
    (hfiller : ∀ i, row + (filler i).length = line) :
    (copyRows filler rows).length = rows.length * line := by
  rw [copyRows, length_flatMap_of_length, List.length_zipIdx]
  rintro ⟨texels, i⟩ hmem
  rw [List.length_append, hrow texels (List.fst_mem_of_mem_zipIdx hmem), hfiller]

theorem HasPitch.le_pitch (h : HasPitch width) : 4 * width.toNat ≤ (pitch width).toNat :=
  h.isLeast_pitch.1.2

/-- Reading back gives the rows of a frame and nothing else. -/
theorem HasPitch.readRows?_eq (h : HasPitch width) (hwidth : 0 < width)
    (hrows : rows.length = height.toNat) (hrow : ∀ row ∈ rows, row.length = 4 * width.toNat)
    (hfiller : ∀ i, 4 * width.toNat + (filler i).length = (pitch width).toNat) :
    readRows? width height (copyRows filler rows) = some rows.flatten := by
  have hpos : 0 < width.toNat := hwidth
  have hline : 0 < (pitch width).toNat := Nat.lt_of_lt_of_le (by omega) h.le_pitch
  have hsome : pitch width ≠ 0 := by
    intro hzero
    rw [hzero] at hline
    exact Nat.lt_irrefl 0 hline
  rw [readRows?, if_neg hsome, h.toNat_rowBytes, ← hrows]
  exact readLines?_flatMap hline hrow hfiller 0

/-! ### Frames -/

/-- The texels of a frame are read back as they were before they were copied. -/
theorem HasPitch.readPixels?_eq (h : HasPitch width) (hwidth : 0 < width) {texels : Bytes}
    (htexels : texels.length = height.toNat * (4 * width.toNat)) :
    readPixels? width height texels = some texels := by
  have hpos : 0 < width.toNat := hwidth
  obtain ⟨hrows, hflatten, hrow⟩ := Bytes.pieces_of_length (by omega) htexels
  have hgap : (pitch width - rowBytes width).toNat = (pitch width).toNat - 4 * width.toNat := by
    rw [UInt32.toNat_sub_of_le _ _ (UInt32.le_iff_toNat_le.mpr (h.toNat_rowBytes ▸ h.le_pitch)),
      h.toNat_rowBytes]
  unfold readPixels?
  dsimp only
  rw [h.toNat_rowBytes, h.readRows?_eq hwidth hrows hrow, hflatten]
  -- The filler fills a row up to the pitch.
  intro _
  rw [List.length_replicate, hgap]
  exact Nat.add_sub_cancel' h.le_pitch

/-- A frame is read back without what lies between its rows, from starts that are no further apart
than they have to be. -/
theorem readRows?_copyRows (hwidth : 0 < width) (hpitch : HasPitch width)
    (hrows : rows.length = height.toNat) (hrow : ∀ row ∈ rows, row.length = 4 * width.toNat)
    (hfiller : ∀ i, 4 * width.toNat + (filler i).length = (pitch width).toNat) :
    IsLeast {n | 256 ∣ n ∧ 4 * width.toNat ≤ n} (pitch width).toNat ∧
      (copyRows filler rows).length = bufferSize width height ∧
      readRows? width height (copyRows filler rows) = some rows.flatten ∧
      rows.flatten.length = 4 * width.toNat * height.toNat := by
  have htexels : (rows.flatMap id).length = rows.length * (4 * width.toNat) :=
    length_flatMap_of_length hrow
  refine ⟨hpitch.isLeast_pitch, ?_, hpitch.readRows?_eq hwidth hrows hrow hfiller, ?_⟩
  · rw [length_copyRows hrow hfiller, bufferSize, hrows, Nat.mul_comm]
  · rw [← List.flatMap_id, htexels, hrows, Nat.mul_comm]

/-- Two rows of 65 texels each, which are four bytes too long for one unit of 256 bytes. -/
theorem two_rows_copied :
    let rows : List Bytes := [List.replicate 260 1, List.replicate 260 2]
    let filler : Nat → Bytes := fun i => List.replicate 252 (UInt8.ofNat (i + 3))
    HasPitch 65 ∧ (pitch 65).toNat = 512 ∧ rows.length = (2 : UInt32).toNat ∧
      (copyRows filler rows).length = 1024 ∧
      readRows? 65 2 (copyRows filler rows) = some rows.flatten := by
  intro rows filler
  have hpitch : HasPitch 65 := ⟨512, by decide, by decide, by decide⟩
  have hrow : ∀ row ∈ rows, row.length = 4 * (65 : UInt32).toNat :=
    List.forall_mem_cons.mpr ⟨List.length_replicate, List.forall_mem_singleton.mpr
      List.length_replicate⟩
  have hfiller : ∀ i, 4 * (65 : UInt32).toNat + (filler i).length = (pitch 65).toNat := by
    intro i
    show 260 + (List.replicate 252 (UInt8.ofNat (i + 3))).length = 512
    rw [List.length_replicate]
  obtain ⟨-, hsize, hread, -⟩ :=
    @readRows?_copyRows 65 2 rows filler (by decide) hpitch rfl hrow hfiller
  exact ⟨hpitch, rfl, rfl, hsize, hread⟩

end Readback

end SceneBatch
