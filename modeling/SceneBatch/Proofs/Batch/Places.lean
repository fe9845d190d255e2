import SceneBatch.Proofs.Batch.Invariant

/-!
# What calls leave alone

A call that succeeds gives an entry to each node that it is the first to reach
(`keys_after_of_ok`), and the entries that were there keep their places. Of these only the count
of instances changes, and of their slots in the registry only the records (`keeps_commitAll`,
`materialOf_after`).
-/

namespace SceneBatch

namespace Batch

/-- Those of some calls, made one after the other, that succeed. -/
def accepted : Batch → List Call → List Call
  | _, [] => []
  | b, c :: cs =>
    match b.answer c with
    | .ok _ => c :: accepted (b.after c) cs
    | .error _ => accepted (b.after c) cs

variable {origin : MeshKey → List MeshPart → Prop} {b b' : Batch} {c : Call}

theorem accepted_cons_of_ok (h : b.answer c = .ok ()) (cs : List Call) :
    b.accepted (c :: cs) = c :: (b.after c).accepted cs := by
  rw [accepted, h]

theorem after_of_error {fault : Fault} (h : b.answer c = .error fault) : b.after c = b := by
  rcases call_spec b c with ⟨_, -, hafter⟩ | ⟨_, _, -, -, -, hok, -⟩
  · exact hafter
  · rw [h] at hok
    cases hok

/-- A call that fails might as well not have been made. -/
theorem accepted_cons_of_error {fault : Fault} (h : b.answer c = .error fault) (cs : List Call) :
    b.accepted (c :: cs) = b.accepted cs := by
  rw [accepted, h, after_of_error h]

theorem afterAll_cons_of_error {fault : Fault} (h : b.answer c = .error fault) (cs : List Call) :
    b.afterAll (c :: cs) = b.afterAll cs := by
  rw [afterAll_cons, after_of_error h]

theorem accepted_sublist (b : Batch) (calls : List Call) : (b.accepted calls).Sublist calls := by
  induction calls generalizing b with
  | nil => exact List.Sublist.slnil
  | cons c cs ih =>
      cases h : b.answer c with
      | error fault =>
          rw [accepted_cons_of_error h]
          exact (ih b).cons c
      | ok _ =>
          rw [accepted_cons_of_ok h]
          exact (ih (b.after c)).cons_cons c

/-- A call that succeeds finds its model. -/
theorem exists_model_of_mem_accepted {calls : List Call} (hc : c ∈ b.accepted calls) :
    ∃ m, c.models.find? c.model = some m := by
  induction calls generalizing b with
  | nil => cases hc
  | cons c' cs ih =>
      cases h : b.answer c' with
      | error fault =>
          rw [accepted_cons_of_error h] at hc
          exact ih hc
      | ok _ =>
          rw [accepted_cons_of_ok h] at hc
          rcases List.mem_cons.mp hc with rfl | hc
          · rcases call_spec b c with ⟨_, herror, -⟩ | ⟨m, _, hm, -⟩
            · rw [h] at herror
              cases herror
            · exact ⟨m, hm⟩
          · exact ih hc

/-! ### The nodes with entries -/

theorem keys_commitAll (b : Batch) (textures : TextureLibrary) (pending : List PendingEntry) :
    (b.commitAll textures pending).keys = b.keys ++ pending.map (·.key) := by
  induction pending generalizing b textures with
  | nil => exact (List.append_nil _).symm
  | cons p ps ih =>
      show ((commit (b, textures) p).value.1.commitAll _ ps).keys = _
      rw [ih, keys, (commit_spec b textures p).entries, List.map_append, List.append_assoc]
      rfl

@[simp] theorem keys_pushAll (b : Batch) (d : Gltf.Document) (c : Call) (nodes : List Nat) :
    (b.pushAll d c nodes).keys = b.keys :=
  pushAll_induction (I := fun b' => b'.keys = b.keys) rfl nodes fun b' node h =>
    (keys_pushInstance d c.model c.transform c.animation b' node).trans h

/-- A call that succeeds gives entries to the nodes that had none. -/
theorem keys_after_of_ok (h : b.answer c = .ok ()) :
    (b.after c).keys = b.keys ++ c.keys.filter (· ∉ b.keys) := by
  rcases call_spec b c with ⟨_, herror, -⟩ | ⟨m, pending, -, hkeys, -, -, hafter⟩
  · rw [h] at herror
    cases herror
  · have hall := keys_pushAll (b.commitAll c.textures pending) m.document c (c.roots.map Prod.fst)
    rw [keys_commitAll, hkeys] at hall
    rw [hafter]
    exact hall

theorem mem_keys_after_of_ok (h : b.answer c = .ok ()) {key : MeshKey} :
    key ∈ (b.after c).keys ↔ key ∈ b.keys ∨ key ∈ c.keys := by
  rw [keys_after_of_ok h, List.mem_append, List.mem_filter, decide_eq_true_iff]
  by_cases hkey : key ∈ b.keys <;> simp [hkey]

/-- The nodes with entries are those that some call reached. -/
theorem mem_keys_afterAll (b : Batch) (calls : List Call) {key : MeshKey} :
    key ∈ (b.afterAll calls).keys ↔
      key ∈ b.keys ∨ key ∈ (b.accepted calls).flatMap Call.keys := by
  induction calls generalizing b with
  | nil => simp [accepted, afterAll]
  | cons c cs ih =>
      cases h : b.answer c with
      | error fault => rw [accepted_cons_of_error h, afterAll_cons_of_error h, ih]
      | ok _ =>
          rw [afterAll_cons, ih, accepted_cons_of_ok h, List.flatMap_cons, List.mem_append,
            mem_keys_after_of_ok h, or_assoc]

/-! ### Entries that were there -/

/-- The entry of a node stands where it stood, with the slot that it had. -/
structure Keeps (b b' : Batch) (key : MeshKey) : Prop where
  place : b'.place? key = b.place? key
  entry : ∀ place, b.place? key = some place → b'.entries[place]? = b.entries[place]?
  slot : ∀ place, b.place? key = some place → b'.registry.slots[place]? = b.registry.slots[place]?

theorem Keeps.refl (b : Batch) (key : MeshKey) : Keeps b b key :=
  ⟨rfl, fun _ _ => rfl, fun _ _ => rfl⟩

theorem Keeps.trans {b'' : Batch} {key : MeshKey} (h : Keeps b b' key) (h' : Keeps b' b'' key) :
    Keeps b b'' key where
  place := h'.place.trans h.place
  entry place hplace := (h'.entry place (h.place.trans hplace)).trans (h.entry place hplace)
  slot place hplace := (h'.slot place (h.place.trans hplace)).trans (h.slot place hplace)

theorem Committed.length_slots {p : PendingEntry} (h : Committed b p b')
    (hslots : b.registry.slots.length = b.entries.length) :
    b'.registry.slots.length = b'.entries.length := by
  obtain ⟨material, h'⟩ := h.slots hslots
  rw [h', h.entries, List.length_append, List.length_append, hslots]
  rfl

/-- Committing one node keeps the entries of the others. -/
theorem Committed.keeps {p : PendingEntry} (h : Committed b p b')
    (hslots : b.registry.slots.length = b.entries.length) {key : MeshKey} (hkey : p.key ≠ key) :
    Keeps b b' key := by
  have hkeys : b'.keys = b.keys ++ [p.key] := by
    rw [keys, h.entries, List.map_append]
    rfl
  -- A place found lies among the old entries, which a commit leaves where they are.
  have hplace : ∀ place, b.place? key = some place → place < b.entries.length := by
    intro place hplace
    obtain ⟨e, he, -⟩ := exists_of_place? hplace
    exact (List.getElem?_eq_some_iff.mp he).1
  refine ⟨?_, fun place hp => ?_, fun place hp => ?_⟩
  · rw [place?_of_keys_append hkeys, if_neg hkey]
  · rw [h.entries, List.getElem?_append_left (hplace place hp)]
  · obtain ⟨material, h'⟩ := h.slots hslots
    rw [h', List.getElem?_append_left (hslots ▸ hplace place hp)]

/-- Committing new nodes keeps the entries of all nodes that have one. -/
theorem keeps_commitAll {pending : List PendingEntry} {key : MeshKey} (textures : TextureLibrary)
    (hslots : b.registry.slots.length = b.entries.length) (hkey : ∀ p ∈ pending, p.key ≠ key) :
    Keeps b (b.commitAll textures pending) key := by
  have hboth : (b.commitAll textures pending).registry.slots.length =
        (b.commitAll textures pending).entries.length ∧
      Keeps b (b.commitAll textures pending) key := by
    refine commitAll_induction
      (I := fun b' => b'.registry.slots.length = b'.entries.length ∧ Keeps b b' key)
      ⟨hslots, .refl b key⟩ textures ?_
    rintro b' textures p hp ⟨hslots', hkeeps⟩
    have hcommit := commit_spec b' textures p
    exact ⟨hcommit.length_slots hslots', hkeeps.trans (hcommit.keeps hslots' (hkey p hp))⟩
  exact hboth.2

/-- The nodes that a call commits are new, so it keeps the entries that are there. -/
theorem keeps_commitAll_of_new {pending : List PendingEntry}
    (hslots : b.registry.slots.length = b.entries.length)
    (hpending : pending.map (·.key) = c.keys.filter (· ∉ b.keys)) {key : MeshKey}
    (hkey : key ∈ b.keys) : Keeps b (b.commitAll c.textures pending) key := by
  apply keeps_commitAll c.textures hslots
  rintro p hp rfl
  have hmem : p.key ∈ c.keys.filter (· ∉ b.keys) := hpending ▸ List.mem_map_of_mem hp
  simp [hkey] at hmem

/-! ### Materials -/

theorem Keeps.materialOf {key : MeshKey} (h : Keeps b b' key) :
    b'.materialOf key = b.materialOf key := by
  rw [Batch.materialOf, Batch.materialOf, h.place]
  cases hplace : b.place? key with
  | none => rfl
  | some place =>
      show ((b'.registry.slots[place]?.bind _).map _).getD _ = _
      rw [h.slot place hplace]
      rfl

/-- An instance has no influence on the material of an entry. -/
@[simp] theorem material?_push (r : InstanceRegistry) (place : Nat) (record : InstanceRecord)
    (entry : Nat) : (r.push place record).material? entry = r.material? entry := by
  show ((r.slots.modify place _)[entry]?.bind _) = r.slots[entry]?.bind _
  rw [List.getElem?_modify]
  cases r.slots[entry]? with
  | none => rfl
  | some slot => by_cases hplace : place = entry <;> simp [hplace]

theorem materialOf_pushInstance (d : Gltf.Document) (name : String) (t : Transform)
    (animation : Int32) (b : Batch) (node : Nat) (key : MeshKey) :
    (pushInstance d name t animation b node).materialOf key = b.materialOf key := by
  have hplaces := place?_congr (keys_pushInstance d name t animation b node)
  rw [materialOf, materialOf, hplaces]
  cases h : b.place? ⟨name, node⟩ with
  | none => rw [pushInstance, h]
  | some place => rw [pushInstance_of_place h]; simp only [material?_push]

@[simp] theorem materialOf_pushAll (b : Batch) (d : Gltf.Document) (c : Call) (nodes : List Nat)
    (key : MeshKey) : (b.pushAll d c nodes).materialOf key = b.materialOf key :=
  pushAll_induction (I := fun b' => b'.materialOf key = b.materialOf key) rfl nodes
    fun b' node h =>
      (materialOf_pushInstance d c.model c.transform c.animation b' node key).trans h

@[simp] theorem instanceOf_pushInstance (d : Gltf.Document) (c : Call) (b : Batch)
    (node node' : Nat) :
    (pushInstance d c.model c.transform c.animation b node).instanceOf d c.model c.transform
      c.animation node' = b.instanceOf d c.model c.transform c.animation node' := by
  rw [instanceOf, instanceOf, materialOf_pushInstance]

@[simp] theorem instanceOf_pushAll (b : Batch) (d : Gltf.Document) (c : Call) (nodes : List Nat)
    (node : Nat) :
    (b.pushAll d c nodes).instanceOf d c.model c.transform c.animation node =
      b.instanceOf d c.model c.transform c.animation node := by
  rw [instanceOf, instanceOf, materialOf_pushAll]

/-- Once a node has an entry, the entry's material is settled. -/
theorem materialOf_after (hslots : b.registry.slots.length = b.entries.length) (c : Call)
    {key : MeshKey} (hkey : key ∈ b.keys) : (b.after c).materialOf key = b.materialOf key := by
  rcases call_spec b c with ⟨_, -, hafter⟩ | ⟨m, pending, -, hkeys, -, -, hafter⟩
  · rw [hafter]
  · rw [hafter]
    show ((b.commitAll c.textures pending).pushAll _ c _).materialOf key = _
    rw [materialOf_pushAll]
    exact (keeps_commitAll_of_new hslots hkeys hkey).materialOf

theorem materialOf_afterAll (hb : b.Sound fun _ _ => True) (calls : List Call) {key : MeshKey}
    (hkey : key ∈ b.keys) : (b.afterAll calls).materialOf key = b.materialOf key := by
  induction calls generalizing b with
  | nil => rfl
  | cons c cs ih =>
      have hkept : key ∈ (b.after c).keys := (mem_keys_afterAll b [c]).mpr (.inl hkey)
      rw [← materialOf_after hb.slots c hkey]
      exact ih (hb.after fun _ _ _ => trivial) hkept

end Batch

end SceneBatch
