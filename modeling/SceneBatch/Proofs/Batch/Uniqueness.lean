import SceneBatch.Proofs.Batch.Places

/-!
# One entry for each node

Whether a node is new to a batch is looked up before the new nodes of a call are committed. So a
node that stands twice among the roots of one model is committed twice when the model is added for
the first time. `oneEntryEach_iff` says exactly when every node has one entry: no call that
succeeds may reach a node twice that no call reached before (`ReachOnce`). A model whose only root
is listed twice is an example of the contrary (`exists_node_with_two_entries`).
-/

namespace SceneBatch

open MeshPart

namespace Batch

/-- Each of the nodes that were reached has one entry, with at least one instance; there are no
other entries and no other geometry. -/
structure OneEntryEach (b : Batch) (reached : List MeshKey) : Prop where
  distinct : b.keys.Nodup
  keys : ∀ key, key ∈ b.keys ↔ key ∈ reached
  lookup : ∀ place e, b.entries[place]? = some e → b.place? e.key = some place
  copies : b.copies = reached.dedup.length
  tile : MeshEntry.Tile 0 0 b.entries b.staging.vertexCount b.staging.indices.length
  used : ∀ e ∈ b.entries, 1 ≤ e.instanceCount

/-- No call reaches a node more than once for the first time, where some nodes were seen before. -/
def ReachOnce : List MeshKey → List Call → Prop
  | _, [] => True
  | seen, c :: cs => (c.keys.filter (· ∉ seen)).Nodup ∧ ReachOnce (seen ++ c.keys) cs

instance decidableReachOnce : (seen : List MeshKey) → (calls : List Call) →
    Decidable (ReachOnce seen calls)
  | _, [] => inferInstanceAs (Decidable True)
  | seen, c :: cs =>
    have := decidableReachOnce (seen ++ c.keys) cs
    inferInstanceAs (Decidable ((c.keys.filter (· ∉ seen)).Nodup ∧ ReachOnce (seen ++ c.keys) cs))

variable {origin : MeshKey → List MeshPart → Prop} {b b' : Batch} {c : Call}

/-! ### Distinct nodes -/

theorem reachOnce_congr {seen seen' : List MeshKey} (h : ∀ key, key ∈ seen ↔ key ∈ seen')
    (calls : List Call) : ReachOnce seen calls ↔ ReachOnce seen' calls := by
  induction calls generalizing seen seen' with
  | nil => rfl
  | cons c cs ih =>
      have hfilter : c.keys.filter (· ∉ seen) = c.keys.filter (· ∉ seen') :=
        List.filter_congr fun key _ => by rw [Bool.eq_iff_iff]; simp [h key]
      have hrest := @ih (seen ++ c.keys) (seen' ++ c.keys) fun key => by simp [h key]
      rw [ReachOnce, ReachOnce, hfilter, hrest]

/-- A call keeps the nodes distinct exactly when it reaches each new node once. -/
theorem nodup_keys_after_iff (h : b.answer c = .ok ()) :
    (b.after c).keys.Nodup ↔ b.keys.Nodup ∧ (c.keys.filter (· ∉ b.keys)).Nodup := by
  have hdisjoint : ∀ key ∈ b.keys, ∀ key' ∈ c.keys.filter (· ∉ b.keys), key ≠ key' := by
    rintro key hkey key' hkey' rfl
    have hnot := (List.mem_filter.mp hkey').2
    simp [hkey] at hnot
  rw [keys_after_of_ok h, List.nodup_append]
  exact ⟨fun ⟨h₁, h₂, _⟩ => ⟨h₁, h₂⟩, fun ⟨h₁, h₂⟩ => ⟨h₁, h₂, hdisjoint⟩⟩

theorem nodup_keys_afterAll_iff (b : Batch) (calls : List Call) :
    (b.afterAll calls).keys.Nodup ↔ b.keys.Nodup ∧ ReachOnce b.keys (b.accepted calls) := by
  induction calls generalizing b with
  | nil => exact ⟨fun h => ⟨h, trivial⟩, fun h => h.1⟩
  | cons c cs ih =>
      cases h : b.answer c with
      | error fault => rw [accepted_cons_of_error h, afterAll_cons_of_error h, ih]
      | ok _ =>
          have hseen : ∀ key, key ∈ (b.after c).keys ↔ key ∈ b.keys ++ c.keys := fun key => by
            rw [mem_keys_after_of_ok h, List.mem_append]
          rw [afterAll_cons, accepted_cons_of_ok h, ReachOnce, ih, nodup_keys_after_iff h,
            reachOnce_congr hseen, and_assoc]

/-- Among distinct nodes, each entry is the place of its node. -/
theorem place?_of_nodup (h : b.keys.Nodup) {place : Nat} {e : MeshEntry}
    (he : b.entries[place]? = some e) : b.place? e.key = some place := by
  have hkey : e.key ∈ b.keys := List.mem_map_of_mem (List.mem_of_getElem? he)
  cases hplace : b.place? e.key with
  | none => exact absurd hkey (place?_eq_none_iff.mp hplace)
  | some place' =>
      obtain ⟨e', he', hkey'⟩ := exists_of_place? hplace
      have hat : b.keys[place]? = some e.key := by rw [keys, List.getElem?_map, he]; rfl
      have hat' : b.keys[place']? = some e.key := by
        rw [keys, List.getElem?_map, he', ← hkey']
        rfl
      obtain ⟨hlt, -⟩ := List.getElem?_eq_some_iff.mp hat'
      rw [(List.getElem?_inj hlt h).mp (hat'.trans hat.symm)]

/-! ### Entries are used -/

/-- How often the entry of a node is drawn. -/
def uses (b : Batch) (key : MeshKey) : Nat :=
  match b.place? key with
  | none => 0
  | some place => (b.entries[place]?.map (·.instanceCount)).getD 0

theorem Keeps.uses {key : MeshKey} (h : Keeps b b' key) : b'.uses key = b.uses key := by
  rw [Batch.uses, Batch.uses, h.place]
  cases hplace : b.place? key with
  | none => rfl
  | some place =>
      show (b'.entries[place]?.map _).getD 0 = _
      rw [h.entry place hplace]

/-- An instance counts for the entry of its own node, and for no other. -/
theorem uses_pushInstance {d : Gltf.Document} {name : String} {t : Transform} {animation : Int32}
    {node place : Nat} (h : b.place? ⟨name, node⟩ = some place) (key : MeshKey) :
    (pushInstance d name t animation b node).uses key =
      if b.place? key = some place then b.uses key + 1 else b.uses key := by
  have hplaces := place?_congr (keys_pushInstance d name t animation b node)
  rw [uses, uses, hplaces, pushInstance_of_place h]
  cases hkey : b.place? key with
  | none => simp
  | some place' =>
      obtain ⟨e, he, -⟩ := exists_of_place? hkey
      by_cases hplace : place = place'
      · simp [hplace, he]
      · simp [hplace, he, Ne.symm hplace]

theorem uses_le_pushInstance (d : Gltf.Document) (name : String) (t : Transform) (animation : Int32)
    (b : Batch) (node : Nat) (key : MeshKey) :
    b.uses key ≤ (pushInstance d name t animation b node).uses key := by
  cases h : b.place? ⟨name, node⟩ with
  | none => rw [pushInstance, h]
  | some place =>
      rw [uses_pushInstance h]
      split
      · exact Nat.le_succ _
      · exact Nat.le_refl _

theorem uses_le_pushAll (b : Batch) (d : Gltf.Document) (c : Call) (nodes : List Nat)
    (key : MeshKey) : b.uses key ≤ (b.pushAll d c nodes).uses key :=
  pushAll_induction (I := fun b' => b.uses key ≤ b'.uses key) (Nat.le_refl _) nodes
    fun b' node h =>
      h.trans (uses_le_pushInstance d c.model c.transform c.animation b' node key)

/-- Every node that has an entry is drawn once instances were pushed onto it. -/
theorem one_le_uses_pushAll {d : Gltf.Document} {nodes : List Nat} {node : Nat}
    (hkey : ⟨c.model, node⟩ ∈ b.keys) (hnode : node ∈ nodes) :
    1 ≤ (b.pushAll d c nodes).uses ⟨c.model, node⟩ := by
  induction nodes generalizing b with
  | nil => cases hnode
  | cons node' nodes ih =>
      show 1 ≤ ((pushInstance d c.model c.transform c.animation b node').pushAll d c nodes).uses _
      rcases List.mem_cons.mp hnode with rfl | hnode
      · refine Nat.le_trans ?_ (uses_le_pushAll _ d c nodes _)
        cases h : b.place? ⟨c.model, node⟩ with
        | none => exact absurd hkey (place?_eq_none_iff.mp h)
        | some place =>
            rw [uses_pushInstance h, if_pos h]
            exact Nat.le_add_left ..
      · exact ih (by rw [keys_pushInstance]; exact hkey) hnode

/-- A call leaves no node with an entry that is not drawn. -/
theorem one_le_uses_after (hslots : b.registry.slots.length = b.entries.length)
    (huses : ∀ key ∈ b.keys, 1 ≤ b.uses key) (c : Call) :
    ∀ key ∈ (b.after c).keys, 1 ≤ (b.after c).uses key := by
  rcases call_spec b c with ⟨_, -, hafter⟩ | ⟨m, pending, -, hpending, -, hok, hafter⟩
  · rw [hafter]
    exact huses
  · intro key hkey
    rw [hafter]
    show 1 ≤ ((b.commitAll c.textures pending).pushAll m.document c _).uses key
    by_cases hold : key ∈ b.keys
    · -- an entry that was there before is drawn already, and pushing only adds to that
      have hkept := (keeps_commitAll_of_new hslots hpending hold).uses
      have hpushed := uses_le_pushAll (b.commitAll c.textures pending) m.document c
        (c.roots.map Prod.fst) key
      have := huses key hold
      omega
    · -- a new entry belongs to a root node, which gets an instance in the same call
      have hroot : key ∈ c.keys := ((mem_keys_after_of_ok hok).mp hkey).resolve_left hold
      obtain ⟨⟨node, mesh⟩, hmem, rfl⟩ := List.mem_map.mp hroot
      refine one_le_uses_pushAll ?_ (List.mem_map_of_mem hmem)
      rw [keys_commitAll, hpending, List.mem_append, List.mem_filter]
      exact .inr ⟨hroot, by simpa using hold⟩

theorem one_le_uses_afterAll (hb : b.Sound fun _ _ => True)
    (huses : ∀ key ∈ b.keys, 1 ≤ b.uses key) (calls : List Call) :
    ∀ key ∈ (b.afterAll calls).keys, 1 ≤ (b.afterAll calls).uses key := by
  induction calls generalizing b with
  | nil => exact huses
  | cons c cs ih =>
      exact ih (hb.after fun _ _ _ => trivial) (one_le_uses_after hb.slots huses c)

/-! ### The condition -/

/-- After any calls, each node that they reached has one entry exactly when no call that succeeded
reached a node more than once for the first time. -/
theorem oneEntryEach_iff (b₀ : Batch) (calls : List Call) :
    (b₀.cleanUp.afterAll calls).OneEntryEach ((b₀.cleanUp.accepted calls).flatMap Call.keys) ↔
      ReachOnce [] (b₀.cleanUp.accepted calls) := by
  have hsound : (b₀.cleanUp.afterAll calls).Sound fun _ _ => True :=
    (sound_cleanUp _ b₀).afterAll fun _ _ _ _ _ => trivial
  have hdistinct : (b₀.cleanUp.afterAll calls).keys.Nodup ↔
      ReachOnce [] (b₀.cleanUp.accepted calls) :=
    (nodup_keys_afterAll_iff b₀.cleanUp calls).trans (and_iff_right List.nodup_nil)
  have hkeys : ∀ key, key ∈ (b₀.cleanUp.afterAll calls).keys ↔
      key ∈ (b₀.cleanUp.accepted calls).flatMap Call.keys := fun key =>
    (mem_keys_afterAll b₀.cleanUp calls).trans (or_iff_right List.not_mem_nil)
  refine ⟨fun h => hdistinct.mp h.distinct, fun h => ?_⟩
  have hnodup := hdistinct.mpr h
  refine ⟨hnodup, hkeys, fun _ _ he => place?_of_nodup hnodup he, ?_, hsound.tile, ?_⟩
  · -- one copy for each node that was reached
    rw [hsound.copies, ← length_keys]
    refine List.Perm.length_eq ?_
    rw [List.perm_ext_iff_of_nodup hnodup (List.nodup_dedup _)]
    intro key
    rw [hkeys, List.mem_dedup]
  · -- and every entry is drawn
    intro e he
    obtain ⟨place, hplace⟩ := List.mem_iff_getElem?.mp he
    have huses := one_le_uses_afterAll (sound_cleanUp _ b₀) (fun _ h => absurd h List.not_mem_nil)
      calls e.key (List.mem_map_of_mem he)
    simp only [uses, place?_of_nodup hnodup hplace, hplace] at huses
    exact huses

/-- A node that stands twice among the roots of a model gets two entries in one call. -/
theorem exists_node_with_two_entries :
    ¬∀ (b₀ : Batch) (calls : List Call),
      (b₀.cleanUp.afterAll calls).OneEntryEach
        ((b₀.cleanUp.accepted calls).flatMap Call.keys) := by
  intro h
  have hdistinct := (h (empty 8 32) [plainCall [0, 0] [3]]).distinct
  revert hdistinct
  decide

end Batch

end SceneBatch
