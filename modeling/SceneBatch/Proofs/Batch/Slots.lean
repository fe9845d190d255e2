import SceneBatch.Proofs.Batch.Invariant

/-!
# Instance slots

Every command of a batch's draws has its own run of the instance list. The runs follow each other
without gaps, in the order of the entries, and each holds what the registry has for its entry.
`Batch.Allots` says so, and `allots_ofBatch` that it is true whatever was added to the batch. The
way there: the draws of a sound batch have a closed form (`Sound.ofBatch_eq`), whose commands are
those of `commandsFrom`. No number of a command exceeds the totals (`Sound.bounds_of_mem_commands`),
so numbers of a fixed width are wide enough for commands as long as they are for the totals.
-/

namespace SceneBatch

open Batch

namespace DrawCommand

/-- A command draws an entry: its range of indices is that of the entry, and its run of the
instances consists of the entry's records. -/
structure IsOf (c : DrawCommand) (instances : List InstanceRecord) (e : MeshEntry)
    (records : List InstanceRecord) : Prop where
  indexCount : c.indexCount = e.indexCount
  firstIndex : c.firstIndex = e.firstIndex
  baseVertex : c.baseVertex = e.baseVertex
  instanceCount : c.instanceCount = e.instanceCount
  run : (instances.drop c.firstInstance).take c.instanceCount = records

end DrawCommand

namespace Batch

/-- The commands of `d` allot its instances to the entries of `b` that have any. -/
structure Allots (b : Batch) (d : Draws) : Prop where
  positive : ∀ c ∈ d.commands, 0 < c.instanceCount
  first : ∀ k c, d.commands[k]? = some c →
    c.firstInstance = ((d.commands.take k).map (·.instanceCount)).sum
  increasing : (d.commands.map (·.firstInstance)).Pairwise (· < ·)
  total : (d.commands.map (·.instanceCount)).sum = d.instances.length
  instanceCount : d.instances.length = b.instanceCount
  commands : List.Forall₂
    (fun c (e, place) => c.IsOf d.instances e (b.registry.instances place))
    d.commands (b.entries.zipIdx.filter fun (e, _) => 0 < e.instanceCount)
  counts : ∀ place e, b.entries[place]? = some e →
    (b.registry.instances place).length = e.instanceCount
  instances : d.instances = (b.registry.slots.map (·.records)).flatten

/-- The entries of a batch, each with its records. -/
def listing (b : Batch) : List (MeshEntry × List InstanceRecord) :=
  b.entries.zipIdx.map fun (e, place) => (e, b.registry.instances place)

/-- The entries of a batch that have records. -/
def drawn (b : Batch) : List (MeshEntry × List InstanceRecord) :=
  b.listing.filter fun x => x.2 ≠ []

end Batch

namespace Draws

/-- The commands of entries with their records, where `first` instances come before. -/
def commandsFrom : Nat → List (MeshEntry × List InstanceRecord) → List DrawCommand
  | _, [] => []
  | first, (e, records) :: rest =>
    ⟨e.indexCount, records.length, e.firstIndex, e.baseVertex, first⟩ ::
      commandsFrom (first + records.length) rest

variable {xs : List (MeshEntry × List InstanceRecord)} {c : DrawCommand} {first : Nat}

/-! ### The commands of a listing -/

theorem map_instanceCount_commandsFrom (first : Nat)
    (xs : List (MeshEntry × List InstanceRecord)) :
    (commandsFrom first xs).map (·.instanceCount) = xs.map (·.2.length) := by
  induction xs generalizing first with
  | nil => rfl
  | cons x xs ih => rw [commandsFrom, List.map_cons, List.map_cons, ih]

/-- A command's instances start where those of the commands before it end. -/
theorem firstInstance_commandsFrom {k : Nat} (h : (commandsFrom first xs)[k]? = some c) :
    c.firstInstance =
      first + (((commandsFrom first xs).take k).map (·.instanceCount)).sum := by
  induction xs generalizing first k with
  | nil => cases h
  | cons x xs ih =>
      cases k with
      | zero =>
          rw [commandsFrom, List.getElem?_cons_zero] at h
          cases h
          rfl
      | succ k =>
          rw [commandsFrom, List.getElem?_cons_succ] at h
          rw [ih h, commandsFrom, List.take_succ_cons, List.map_cons, List.sum_cons, Nat.add_assoc]

theorem le_firstInstance_of_mem (h : c ∈ commandsFrom first xs) : first ≤ c.firstInstance := by
  obtain ⟨k, hk⟩ := List.mem_iff_getElem?.mp h
  rw [firstInstance_commandsFrom hk]
  exact Nat.le_add_right ..

/-- No two commands start at the same instance: each has instances of its own. -/
theorem pairwise_firstInstance (h : ∀ x ∈ xs, x.2 ≠ []) :
    ((commandsFrom first xs).map (·.firstInstance)).Pairwise (· < ·) := by
  induction xs generalizing first with
  | nil => exact List.Pairwise.nil
  | cons x xs ih =>
      refine List.Pairwise.cons ?_ (ih fun y hy => h y (List.mem_cons_of_mem x hy))
      intro later hlater
      obtain ⟨c, hc, rfl⟩ := List.mem_map.mp hlater
      have hx : 0 < x.2.length := List.length_pos_of_ne_nil (h x List.mem_cons_self)
      have hle := le_firstInstance_of_mem hc
      show first < c.firstInstance
      omega

/-- Each command finds its entry's records in the instances. -/
theorem isOf_commandsFrom {instances : List InstanceRecord} (before : List InstanceRecord)
    (hcount : ∀ x ∈ xs, x.2.length = x.1.instanceCount)
    (hinstances : instances = before ++ xs.flatMap Prod.snd) :
    List.Forall₂ (fun c x => c.IsOf instances x.1 x.2) (commandsFrom before.length xs) xs := by
  induction xs generalizing before with
  | nil => exact .nil
  | cons x xs ih =>
      refine .cons ⟨rfl, rfl, rfl, hcount x List.mem_cons_self, ?_⟩ ?_
      · rw [hinstances, List.drop_left, List.flatMap_cons, List.take_left]
      · rw [← List.length_append]
        refine ih (before ++ x.2) (fun y hy => hcount y (List.mem_cons_of_mem x hy)) ?_
        rw [hinstances, List.flatMap_cons, List.append_assoc]

/-! ### The draws of a batch -/

/-- An entry that counts its records right never gets identity records. -/
theorem addEntry_of_count {e : MeshEntry} {records : List InstanceRecord} (d : Draws)
    (h : records.length = e.instanceCount) :
    d.addEntry e records =
      if records = [] then d
      else
        { d with
          instances := d.instances ++ records
          commands := d.commands ++
            [⟨e.indexCount, records.length, e.firstIndex, e.baseVertex, d.instances.length⟩] } := by
  by_cases hrecords : records = []
  · -- the identity records would be as many as the entry counts, which is none
    have hnone : e.instanceCount = 0 := by rw [← h, hrecords, List.length_nil]
    rw [addEntry, if_pos hrecords, hnone, List.replicate_zero, if_pos rfl, if_pos hrecords]
  · rw [addEntry, if_neg hrecords]

theorem foldl_addEntry (hcount : ∀ x ∈ xs, x.2.length = x.1.instanceCount) (d : Draws) :
    xs.foldl (fun d (e, records) => d.addEntry e records) d =
      { d with
        instances := d.instances ++ xs.flatMap Prod.snd
        commands := d.commands ++
          commandsFrom d.instances.length (xs.filter fun x => x.2 ≠ []) } := by
  induction xs generalizing d with
  | nil => simp [commandsFrom]
  | cons x xs ih =>
      obtain ⟨e, records⟩ := x
      have hrest := ih fun y hy => hcount y (List.mem_cons_of_mem _ hy)
      rw [List.foldl_cons]
      show xs.foldl _ (d.addEntry e records) = _
      rw [addEntry_of_count d (hcount (e, records) List.mem_cons_self)]
      -- an entry without records has no command, and any other has one
      by_cases hrecords : records = []
      · simp [hrecords, hrest]
      · simp [hrecords, hrest, commandsFrom]

end Draws

namespace Batch

variable {origin : MeshKey → List MeshPart → Prop} {b : Batch}

/-- An entry counts as many instances as the registry has for it. -/
theorem Sound.length_instances (h : b.Sound origin) {place : Nat} {e : MeshEntry}
    (he : b.entries[place]? = some e) : (b.registry.instances place).length = e.instanceCount := by
  have hplace := congrArg (·[place]?) h.counts
  simp only [List.getElem?_map, he, Option.map_some] at hplace
  obtain ⟨slot, hslot, hlength⟩ := Option.map_eq_some_iff.mp hplace
  rw [InstanceRegistry.instances, hslot]
  exact hlength

theorem map_fst_listing (b : Batch) : b.listing.map Prod.fst = b.entries := by
  rw [listing, List.map_map]
  exact List.zipIdx_map_fst 0 b.entries

theorem Sound.length_of_mem_listing (h : b.Sound origin) :
    ∀ x ∈ b.listing, x.2.length = x.1.instanceCount := by
  intro x hx
  obtain ⟨⟨e, place⟩, hmem, rfl⟩ := List.mem_map.mp hx
  exact h.length_instances (List.mk_mem_zipIdx_iff_getElem?.mp hmem)

/-- The records of an entry are those of the slot beside it. -/
theorem Sound.listing_eq (h : b.Sound origin) :
    b.listing = (b.entries.zip b.registry.slots).map fun (e, slot) => (e, slot.records) := by
  have hslots := h.slots
  apply List.ext_getElem?
  intro place
  rw [listing, List.getElem?_map, List.getElem?_map, List.getElem?_zipIdx, List.zip,
    List.getElem?_zipWith]
  by_cases hplace : place < b.entries.length
  · have hslot : place < b.registry.slots.length := by omega
    simp [InstanceRegistry.instances, hplace, hslot]
  · simp [hplace]

theorem Sound.map_snd_listing (h : b.Sound origin) :
    b.listing.map Prod.snd = b.registry.slots.map (·.records) := by
  conv_rhs => rw [← List.map_snd_zip (Nat.le_of_eq h.slots), List.map_map]
  rw [h.listing_eq, List.map_map]
  rfl

theorem mem_entries_of_mem_drawn {x : MeshEntry × List InstanceRecord} (h : x ∈ b.drawn) :
    x.1 ∈ b.entries := by
  obtain ⟨⟨e, place⟩, hmem, rfl⟩ := List.mem_map.mp (List.mem_of_mem_filter h)
  exact List.mem_of_getElem? (List.mk_mem_zipIdx_iff_getElem?.mp hmem)

theorem ne_nil_of_mem_drawn : ∀ x ∈ b.drawn, x.2 ≠ [] := by
  intro x hx
  simpa using (List.mem_filter.mp hx).2

theorem flatMap_drawn {β : Type} {f : MeshEntry × List InstanceRecord → List β}
    (hf : ∀ e, f (e, []) = []) : b.drawn.flatMap f = b.listing.flatMap f := by
  apply flatMap_filter_of_nil
  rintro ⟨e, records⟩ - hrecords
  have hnil : records = [] := by simpa using hrecords
  rw [hnil, hf]

theorem Sound.length_of_mem_drawn (h : b.Sound origin) :
    ∀ x ∈ b.drawn, x.2.length = x.1.instanceCount :=
  fun x hx => h.length_of_mem_listing x (List.mem_of_mem_filter hx)

/-- The entries with records are those that count instances. -/
theorem Sound.drawn_eq (h : b.Sound origin) :
    b.drawn = (b.entries.zipIdx.filter fun (e, _) => 0 < e.instanceCount).map
      fun (e, place) => (e, b.registry.instances place) := by
  rw [drawn, listing, List.filter_map]
  congr 1
  apply List.filter_congr
  rintro ⟨e, place⟩ hmem
  have hlength := h.length_instances (List.mk_mem_zipIdx_iff_getElem?.mp hmem)
  rw [Bool.eq_iff_iff, decide_eq_true_iff, ← hlength, List.length_pos_iff]
  exact decide_eq_true_iff

/-- The draws of a batch in closed form. -/
theorem Sound.ofBatch_eq (h : b.Sound origin) :
    Draws.ofBatch b =
      { commands := Draws.commandsFrom 0 b.drawn
        instances := b.listing.flatMap Prod.snd
        materials := b.registry.bindings } := by
  have hfold := Draws.foldl_addEntry h.length_of_mem_listing { materials := b.registry.bindings }
  rw [listing, List.foldl_map] at hfold
  rw [Draws.ofBatch, hfold]
  rfl

theorem Sound.instances_ofBatch (h : b.Sound origin) :
    (Draws.ofBatch b).instances = (b.registry.slots.map (·.records)).flatten := by
  rw [h.ofBatch_eq, ← h.map_snd_listing]
  exact List.flatMap_def ..

theorem Sound.map_instanceCount_ofBatch (h : b.Sound origin) :
    (Draws.ofBatch b).commands.map (·.instanceCount) = b.drawn.map (·.2.length) := by
  rw [h.ofBatch_eq]
  exact Draws.map_instanceCount_commandsFrom 0 b.drawn

/-- Each command draws one of the entries that have records, in their order. -/
theorem Sound.isOf_drawn (h : b.Sound origin) :
    List.Forall₂ (fun c x => c.IsOf (Draws.ofBatch b).instances x.1 x.2) (Draws.ofBatch b).commands
      b.drawn := by
  have hinstances : b.listing.flatMap Prod.snd = [] ++ b.drawn.flatMap Prod.snd :=
    (flatMap_drawn fun _ => rfl).symm
  rw [h.ofBatch_eq]
  exact Draws.isOf_commandsFrom [] h.length_of_mem_drawn hinstances

theorem Sound.allots (h : b.Sound origin) : b.Allots (Draws.ofBatch b) where
  positive c hc := by
    have hmem : c.instanceCount ∈ b.drawn.map (·.2.length) := by
      rw [← h.map_instanceCount_ofBatch]
      exact List.mem_map_of_mem hc
    obtain ⟨x, hx, hlength⟩ := List.mem_map.mp hmem
    rw [← hlength]
    exact List.length_pos_of_ne_nil (ne_nil_of_mem_drawn x hx)
  first k c hc := by
    rw [h.ofBatch_eq] at hc ⊢
    rw [Draws.firstInstance_commandsFrom hc, Nat.zero_add]
  increasing := by
    rw [h.ofBatch_eq]
    exact Draws.pairwise_firstInstance ne_nil_of_mem_drawn
  total := by
    rw [h.map_instanceCount_ofBatch, h.ofBatch_eq, ← List.length_flatMap,
      flatMap_drawn fun _ => rfl]
  instanceCount := by
    rw [h.instances_ofBatch, List.length_flatten, List.map_map]
    rfl
  commands := by
    have hall := h.isOf_drawn
    rw [h.drawn_eq, List.forall₂_map_right_iff] at hall
    exact hall
  counts _ _ he := h.length_instances he
  instances := h.instances_ofBatch

/-- No number of a command exceeds what there is: where the totals fit into the fields of a
command, all of its numbers do. -/
theorem Sound.bounds_of_mem_commands (h : b.Sound origin) {c : DrawCommand}
    (hc : c ∈ (Draws.ofBatch b).commands) :
    c.firstIndex + c.indexCount ≤ b.staging.indices.length ∧
      (0 ≤ c.baseVertex ∧ c.baseVertex ≤ b.staging.vertexCount) ∧
      c.firstInstance + c.instanceCount ≤ b.instanceCount := by
  obtain ⟨x, hx, hof⟩ := exists_mem_of_forall₂ h.isOf_drawn hc
  obtain ⟨-, htile⟩ := h.tile.bounds
  obtain ⟨hvertex, hindex⟩ := htile x.1 (mem_entries_of_mem_drawn hx)
  have hallots := h.allots
  have hpositive := hallots.positive c hc
  -- The run of records of a command has the command's length, so it ends inside.
  have hrun := congrArg List.length hof.run
  rw [List.length_take, List.length_drop, hallots.instanceCount, h.length_of_mem_drawn x hx,
    ← hof.instanceCount] at hrun
  rw [hof.firstIndex, hof.indexCount, hof.baseVertex]
  omega

/-! ### Reachable batches -/

theorem cleanUp_empty (maxUnits maxJoints : Nat) :
    (empty maxUnits maxJoints).cleanUp = empty maxUnits maxJoints := rfl

theorem sound_run_empty (maxUnits maxJoints : Nat) (steps : List Step) :
    ((empty maxUnits maxJoints).run steps).Sound fun _ _ => True := by
  apply Sound.run
  rw [← cleanUp_empty]
  exact sound_cleanUp _ _

/-- Whatever was added to a batch, and however often it was cleaned, the draws of the batch allot
their instances to its entries. -/
theorem allots_ofBatch (maxUnits maxJoints : Nat) (steps : List Step) :
    ((empty maxUnits maxJoints).run steps).Allots
      (Draws.ofBatch ((empty maxUnits maxJoints).run steps)) :=
  (sound_run_empty maxUnits maxJoints steps).allots

end Batch

end SceneBatch
