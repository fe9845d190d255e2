import SceneBatch.Gltf.Container
import SceneBatch.Proofs.Files.Bytes

/-!
# Walks through containers

Chunks whose lengths fit into 32 bits are found again one by one, and the walk ends where the last
one does (`Chunk.walk?_flatMap`). So a container falls into its document and its binary data, each
filled up to a multiple of four bytes (`Container.isPacked_toBytes`).
-/

namespace SceneBatch

namespace Gltf

namespace Chunk

/-- The header of a chunk can tell its kind and its length. -/
structure IsNarrow (c : Chunk) : Prop where
  kind : c.kind.length = 4
  data : c.data.length < UInt32.size

theorem length_toBytes {c : Chunk} (h : c.IsNarrow) : c.toBytes.length = 8 + c.data.length := by
  rw [toBytes, List.length_append, List.length_append, Bytes.length_ofNat, h.kind]

theorem take?_append {c : Chunk} (h : c.IsNarrow) (rest : Bytes) :
    take? (c.toBytes ++ rest) = some (c, rest) := by
  have hfour : (Bytes.ofNat 4 c.data.length).length = 4 := Bytes.length_ofNat 4 _
  have hsplit : c.toBytes ++ rest =
      Bytes.ofNat 4 c.data.length ++ (c.kind ++ (c.data ++ rest)) := by
    rw [toBytes, List.append_assoc, List.append_assoc]
  -- what the header's fields are read as
  have hlength : Bytes.toNat ((c.toBytes ++ rest).take 4) = c.data.length := by
    rw [hsplit, List.take_left' hfour, Bytes.toNat_ofNat_four h.data]
  have hkind : ((c.toBytes ++ rest).drop 4).take 4 = c.kind := by
    rw [hsplit, List.drop_left' hfour, List.take_left' h.kind]
  have hrest : (c.toBytes ++ rest).drop 8 = c.data ++ rest := by
    have height : (Bytes.ofNat 4 c.data.length ++ c.kind).length = 8 := by
      rw [List.length_append, hfour, h.kind]
    rw [hsplit, ← List.append_assoc, List.drop_left' height]
  -- the chunk that the header tells of is there
  have hfits : 8 ≤ (c.toBytes ++ rest).length ∧ c.data.length ≤ (c.data ++ rest).length := by
    rw [List.length_append, List.length_append, length_toBytes h]
    omega
  unfold take?
  dsimp only
  rw [hlength, hkind, hrest, if_pos hfits, List.take_left, List.drop_left]

theorem walk?_succ {b : Bytes} (hb : b ≠ []) (fuel : Nat) :
    walk? (fuel + 1) b = (take? b).bind fun p => (walk? fuel p.2).map (p.1 :: ·) := by
  cases b with
  | nil => exact absurd rfl hb
  | cons x xs =>
      rw [walk?]
      · cases take? (x :: xs) with
        | none => rfl
        | some p =>
            obtain ⟨chunk, rest⟩ := p
            rw [Option.bind_some, Option.map_eq_bind]
            rfl
      · exact hb

/-- Chunks that stand one behind the other are found one by one, and nothing is left. -/
theorem walk?_flatMap {cs : List Chunk} (h : ∀ c ∈ cs, c.IsNarrow) :
    walk? cs.length (cs.flatMap toBytes) = some cs := by
  induction cs with
  | nil => rfl
  | cons c cs ih =>
      have hc : c.IsNarrow := h c List.mem_cons_self
      have hsome : c.toBytes ++ cs.flatMap toBytes ≠ [] := by
        rw [← List.length_pos_iff, List.length_append, length_toBytes hc]
        omega
      rw [List.flatMap_cons, List.length_cons, walk?_succ hsome, take?_append hc, Option.bind_some,
        ih fun c' hc' => h c' (List.mem_cons_of_mem c hc')]
      rfl

end Chunk

namespace Container

/-- What a container with a document and binary data looks like from outside: the header states the
length of the whole, and a walk behind it meets two chunks and the end. -/
structure IsPacked (json binary b : Bytes) : Prop where
  magic : b.take 4 = Container.magic
  version : Bytes.toNat ((b.drop 4).take 4) = 2
  length : statedLength b = b.length
  whole : 4 ∣ b.length
  chunks : ∃ blanks < 4, ∃ zeros < 4, Chunk.walk? 2 (b.drop headerLength) =
    some [⟨Chunk.json, json ++ List.replicate blanks 32⟩,
      ⟨Chunk.binary, binary ++ List.replicate zeros 0⟩]

theorem length_magic : Container.magic.length = 4 := by decide +kernel

/-- The header of a container and what follows it. -/
theorem toBytes_eq (c : Container) :
    c.toBytes = Container.magic ++ (Bytes.ofNat 4 2 ++
      (Bytes.ofNat 4 (headerLength + (c.chunks.flatMap Chunk.toBytes).length) ++
        c.chunks.flatMap Chunk.toBytes)) := by
  rw [toBytes, List.append_assoc, List.append_assoc]

theorem length_toBytes (c : Container) :
    c.toBytes.length = headerLength + (c.chunks.flatMap Chunk.toBytes).length := by
  rw [toBytes_eq, List.length_append, List.length_append, List.length_append, length_magic,
    Bytes.length_ofNat, Bytes.length_ofNat, headerLength]
  omega

theorem drop_toBytes (c : Container) :
    c.toBytes.drop headerLength = c.chunks.flatMap Chunk.toBytes := by
  have hheader : (Container.magic ++ Bytes.ofNat 4 2 ++
      Bytes.ofNat 4 (headerLength + (c.chunks.flatMap Chunk.toBytes).length)).length =
        headerLength := by
    rw [List.length_append, List.length_append, length_magic, Bytes.length_ofNat,
      Bytes.length_ofNat]
    rfl
  rw [toBytes, List.drop_left' hheader]

theorem statedLength_toBytes {c : Container} (h : c.toBytes.length < UInt32.size) :
    statedLength c.toBytes = c.toBytes.length := by
  have height : (Container.magic ++ Bytes.ofNat 4 2).length = 8 := by
    rw [List.length_append, length_magic, Bytes.length_ofNat]
  have hlength := length_toBytes c
  rw [statedLength]
  conv_lhs => rw [toBytes, List.append_assoc (Container.magic ++ Bytes.ofNat 4 2),
    List.drop_left' height, List.take_left' (Bytes.length_ofNat 4 _), ← hlength]
  exact Bytes.toNat_ofNat_four h

/-- Each chunk of a container can be told by its header, where the whole can. -/
theorem isNarrow_of_mem_chunks {c : Container} (h : c.toBytes.length < UInt32.size) :
    ∀ chunk ∈ c.chunks, chunk.IsNarrow := by
  intro chunk hchunk
  have hkind : chunk.kind.length = 4 := by
    rw [chunks, List.mem_cons] at hchunk
    rcases hchunk with rfl | hchunk
    · show Chunk.json.length = 4
      decide +kernel
    · obtain ⟨b, -, rfl⟩ := Option.map_eq_some_iff.mp (Option.mem_toList.mp hchunk)
      show Chunk.binary.length = 4
      decide +kernel
  refine ⟨hkind, ?_⟩
  -- a chunk is no longer than the whole, whose length the header tells
  have hle : chunk.toBytes.length ≤ (c.chunks.flatMap Chunk.toBytes).length :=
    (List.sublist_flatten_of_mem (List.mem_map_of_mem hchunk)).length_le
  have hchunkLength : chunk.toBytes.length = 8 + chunk.data.length := by
    rw [Chunk.toBytes, List.length_append, List.length_append, Bytes.length_ofNat, hkind]
  rw [length_toBytes] at h
  omega

theorem isPacked_toBytes {json binary : Bytes}
    (h : (toBytes ⟨json, some binary⟩).length < UInt32.size) :
    IsPacked json binary (toBytes ⟨json, some binary⟩) := by
  obtain ⟨blanks, hblanks, hjson, hjsonLength⟩ := Bytes.exists_padTo (by decide : 0 < 4) 32 json
  obtain ⟨zeros, hzeros, hbinary, hbinaryLength⟩ :=
    Bytes.exists_padTo (by decide : 0 < 4) 0 binary
  have hnarrow := isNarrow_of_mem_chunks h
  refine ⟨?_, ?_, statedLength_toBytes h, ?_, blanks, hblanks, zeros, hzeros, ?_⟩
  · rw [toBytes_eq, List.take_left' length_magic]
  · rw [toBytes_eq, List.drop_left' length_magic, List.take_left' (Bytes.length_ofNat 4 2)]
    rfl
  · -- the whole is as long as its header and its chunks, of four bytes each time
    have hchunks : ∀ c ∈ chunks ⟨json, some binary⟩, 4 ∣ c.toBytes.length := by
      intro c hc
      rw [Chunk.length_toBytes (hnarrow c hc)]
      simp only [chunks, Option.map_some, Option.toList_some, List.mem_cons, List.not_mem_nil,
        or_false] at hc
      rcases hc with rfl | rfl
      · exact (Nat.dvd_add_right (by decide)).mpr hjsonLength
      · exact (Nat.dvd_add_right (by decide)).mpr hbinaryLength
    rw [length_toBytes, List.length_flatMap]
    refine (Nat.dvd_add_right (by decide)).mpr (List.dvd_sum ?_)
    intro n hn
    obtain ⟨c, hc, rfl⟩ := List.mem_map.mp hn
    exact hchunks c hc
  · rw [drop_toBytes, ← hjson, ← hbinary]
    exact Chunk.walk?_flatMap hnarrow

end Container

end Gltf

end SceneBatch
