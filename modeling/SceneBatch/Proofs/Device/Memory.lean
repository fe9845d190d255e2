import SceneBatch.Device.Buffer
import SceneBatch.Proofs.Device.Record
import SceneBatch.Proofs.ListLemmas

/-!
# Device memory

What is written to a buffer stands at its start until something else is written there
(`BufferMemory.prefix_writeAll`). Records of one size that were written one behind the other are
read back one by one (`DeviceRecord.decodeAll_encodeAll`), and a draw command whose numbers fit into
32 bits is read back as it was (`DrawCommand.decode_encode`). So a device that looks for commands
where they were written finds them (`BufferMemory.commandsAt_eq`).
-/

namespace SceneBatch

/-! ### Numbers -/

namespace Bytes

/-- An integer is read back in 32 bits. -/
theorem toInt_ofInt (n : Int) : toInt (ofInt n) = Int.bmod n UInt32.size := by
  have hsize : (0 : Int) < UInt32.size := by decide
  have hnonneg := Int.emod_nonneg n (ne_of_gt hsize)
  have hlt : (n % (UInt32.size : Int)).toNat < UInt32.size := by
    have := Int.emod_lt_of_pos n hsize
    omega
  have hback : toNat (ofInt n) = (n % (UInt32.size : Int)).toNat := toNat_ofNat_four hlt
  unfold toInt
  rw [hback, Int.toNat_of_nonneg hnonneg]
  exact Int.emod_bmod ..

end Bytes

/-! ### Records -/

theorem word_append_zero {b : Bytes} (hb : b.length = 4) (rest : Bytes) :
    word (b ++ rest) 0 = b := by
  rw [word, Nat.mul_zero, List.drop_zero, ← hb, List.take_left]

theorem word_zero {b : Bytes} (hb : b.length = 4) : word b 0 = b := by
  rw [word, Nat.mul_zero, List.drop_zero, ← hb, List.take_length]

theorem word_append_succ {b : Bytes} (hb : b.length = 4) (rest : Bytes) (i : Nat) :
    word (b ++ rest) (i + 1) = word rest i := by
  have hdrop : 4 * (i + 1) = b.length + 4 * i := by
    rw [hb]
    omega
  rw [word, hdrop, List.drop_length_add_append]
  rfl

namespace DrawCommand

/-- The counts and places of a command fit into 32 bits. -/
structure IsNarrow (c : DrawCommand) : Prop where
  indexCount : c.indexCount < UInt32.size
  instanceCount : c.instanceCount < UInt32.size
  firstIndex : c.firstIndex < UInt32.size
  firstInstance : c.firstInstance < UInt32.size

/-- A command as it is stored: its first vertex is a number of 32 bits with a sign. -/
def stored (c : DrawCommand) : DrawCommand :=
  { c with baseVertex := Int.bmod c.baseVertex UInt32.size }

theorem decode_encode {c : DrawCommand} (h : c.IsNarrow) :
    (DeviceRecord.decode (DeviceRecord.encode c) : DrawCommand) = c.stored := by
  simp only [DeviceRecord.encode, DeviceRecord.decode, List.append_assoc, word_append_zero,
    word_append_succ, word_zero, Bytes.length_ofNat, Bytes.length_ofInt]
  rw [Bytes.toNat_ofNat_four h.indexCount, Bytes.toNat_ofNat_four h.instanceCount,
    Bytes.toNat_ofNat_four h.firstIndex, Bytes.toNat_ofNat_four h.firstInstance,
    Bytes.toInt_ofInt, stored]

/-- A first vertex that leaves the sign alone is stored as it is. -/
theorem stored_eq {c : DrawCommand} (hnonneg : 0 ≤ c.baseVertex)
    (hlt : c.baseVertex < 2147483648) : c.stored = c := by
  have hsame : Int.bmod c.baseVertex UInt32.size = c.baseVertex := by
    apply Int.bmod_eq_of_le
    · norm_num [UInt32.size]
      omega
    · norm_num [UInt32.size]
      omega
  rw [stored, hsame]

end DrawCommand

namespace DeviceRecord

variable {ρ : Type} [DeviceRecord ρ] [Sized ρ]

omit [Sized ρ] in
theorem encodeAll_append (rs rs' : List ρ) :
    encodeAll (rs ++ rs') = encodeAll rs ++ encodeAll rs' := List.flatMap_append

/-- Records at the start of a byte string are read back one by one, whatever stands behind. -/
theorem decodeAll_encodeAll_append (hsize : 0 < size ρ) (rs : List ρ) (rest : Bytes) :
    decodeAll (encodeAll rs ++ rest) =
      (rs.map fun r => (decode (encode r) : ρ)) ++ decodeAll rest := by
  rw [decodeAll, encodeAll, Bytes.pieces_flatMap_append Sized.length_encode hsize, List.map_append,
    List.map_map]
  rfl

/-- Records that stand one behind the other are read back one by one. -/
theorem decodeAll_encodeAll (hsize : 0 < size ρ) (rs : List ρ) :
    decodeAll (encodeAll rs) = rs.map fun r => (decode (encode r) : ρ) := by
  rw [decodeAll, encodeAll, Bytes.pieces_flatMap Sized.length_encode hsize, List.map_map]
  rfl

end DeviceRecord

/-! ### Buffers -/

namespace BufferMemory

variable {memory : BufferMemory} {role : BufferRole}

theorem write_of_ne {w : BufferWrite} (h : role ≠ w.role) : memory.write w role = memory role :=
  if_neg h

theorem writeAll_append (memory : BufferMemory) (ws ws' : List BufferWrite) :
    memory.writeAll (ws ++ ws') = (memory.writeAll ws).writeAll ws' := List.foldl_append

theorem prefix_write (memory : BufferMemory) (w : BufferWrite) :
    w.data <+: memory.write w w.role := by
  have hwritten : memory.write w w.role = w.data ++ (memory w.role).drop w.data.length :=
    if_pos rfl
  rw [hwritten]
  exact List.prefix_append ..

/-- Writes that carry what buffers are to hold leave it at the start of each buffer that is written,
and of each that had it before. -/
theorem prefix_writeAll {contents : BufferRole → Bytes} {ws : List BufferWrite}
    (hws : ∀ w ∈ ws, w.data = contents w.role)
    (h : contents role <+: memory role ∨ ∃ w ∈ ws, w.role = role) :
    contents role <+: memory.writeAll ws role := by
  induction ws generalizing memory with
  | nil =>
      rcases h with h | ⟨w, hw, -⟩
      · exact h
      · cases hw
  | cons w ws ih =>
      apply ih fun w' hw' => hws w' (List.mem_cons_of_mem w hw')
      by_cases hrole : role = w.role
      · -- writes that follow carry the same, so it is there however often it is written
        left
        rw [hrole, ← hws w List.mem_cons_self]
        exact memory.prefix_write w
      · rw [write_of_ne hrole]
        rcases h with h | ⟨w', hw', hrole'⟩
        · exact .inl h
        · rcases List.mem_cons.mp hw' with rfl | hw'
          · exact absurd hrole'.symm hrole
          · exact .inr ⟨w', hw', hrole'⟩

/-- A device finds commands where they were written. -/
theorem commandsAt_eq {commands : List DrawCommand} (hnarrow : ∀ c ∈ commands, c.IsNarrow)
    (h : DeviceRecord.encodeAll commands <+: memory .commands) {first count : Nat}
    (hcount : first + count ≤ commands.length) :
    memory.commandsAt (DeviceRecord.size DrawCommand * first) count =
      ((commands.drop first).take count).map DrawCommand.stored := by
  have hlength : ((commands.drop first).take count).length = count := by
    rw [List.length_take, List.length_drop]
    omega
  have hstands : StandsAt (DeviceRecord.encodeAll ((commands.drop first).take count))
      (memory .commands) (DeviceRecord.size DrawCommand * first) := by
    refine ⟨DeviceRecord.encodeAll (commands.take first), ?_, ?_⟩
    · rw [DeviceRecord.length_encodeAll, List.length_take, Nat.min_eq_left (by omega), Nat.mul_comm]
    · refine List.IsPrefix.trans ?_ h
      rw [← DeviceRecord.encodeAll_append, ← List.take_add]
      conv_rhs => rw [← List.take_append_drop (first + count) commands]
      rw [DeviceRecord.encodeAll_append]
      exact List.prefix_append ..
  have hbytes := hstands.take_drop
  -- all that is read was written, so nothing is filled up with zeros
  rw [DeviceRecord.length_encodeAll, hlength, Nat.mul_comm] at hbytes
  unfold commandsAt
  dsimp only
  rw [hbytes, DeviceRecord.length_encodeAll, hlength, Nat.mul_comm count, Nat.sub_self,
    List.replicate_zero, List.append_nil, DeviceRecord.decodeAll_encodeAll (by decide)]
  apply List.map_congr_left
  intro c hc
  exact DrawCommand.decode_encode (hnarrow c (List.mem_of_mem_drop (List.mem_of_mem_take hc)))

end BufferMemory

end SceneBatch
