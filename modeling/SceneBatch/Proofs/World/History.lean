import SceneBatch.Proofs.World.Maps

/-!
# Histories of a world

A new world goes through any operations. Next to it stands the list of the entities that entered it
and did not leave, as the answers tell. `WorldHistory.KeepsMaps` says what the maps of the world
come to then: they agree with each other, with the store, and with that list
(`WorldHistory.keepsMaps_run`). An operation that fails leaves the whole world as it was.
-/

namespace SceneBatch

/-- The entities with their names, as an answer changes them. -/
def WorldStep.settle (people : List (EntityId × String)) :
    WorldStep → WorldAnswer → List (EntityId × String)
  | .spawn name, .entered id => (id, name) :: people
  | .spawnWithId _ name, .entered id => (id, name) :: people
  | .despawn id, _ => people.filter (·.1 ≠ id)
  | .clear, _ => []
  | _, _ => people

/-- A world, and the entities that entered it and did not leave, with their names. -/
structure WorldHistory (σ : Type) where
  world : WorldOver σ
  people : List (EntityId × String)

namespace WorldHistory

variable {σ : Type} [HandleSupply σ]

/-- One operation. Only one that does not fail changes the entities. -/
def step (x : WorldHistory σ) (s : WorldStep) : WorldHistory σ :=
  match s.perform.outcome x.world with
  | (.ok answer, w) => ⟨w, s.settle x.people answer⟩
  | (.error _, w) => ⟨w, x.people⟩

/-- Operations on a new world. -/
def run (steps : List WorldStep) : WorldHistory σ := steps.foldl step ⟨.empty, []⟩

/-- A consistent world whose names are those of the entities. -/
structure IsKept (x : WorldHistory σ) : Prop where
  world : x.world.IsConsistent
  people : x.people = x.world.names.map Prod.swap

variable {x : WorldHistory σ}

theorem IsKept.effect (h : x.IsKept) {s : WorldStep} {answer : WorldAnswer} {w' : WorldOver σ}
    (e : WorldStep.Effect x.world s answer w') : IsKept ⟨w', s.settle x.people answer⟩ := by
  refine ⟨h.world.effect e, ?_⟩
  cases e with
  | spawned hname =>
      rw [WorldStep.settle, h.people, WorldOver.names_register hname]
      rfl
  | pinned hname _ =>
      rw [WorldStep.settle, h.people, WorldOver.names_register hname]
      rfl
  | despawned _ _ =>
      rw [WorldStep.settle, h.people, List.filter_map]
      rfl
  -- A component names nobody.
  | inserted _ _ => exact h.people
  | removed _ _ _ => exact h.people
  | advanced dt => exact h.people
  | cleared => rfl

theorem IsKept.step (h : x.IsKept) (s : WorldStep) : (x.step s).IsKept := by
  rcases s.perform_cases x.world with ⟨answer, w', houtcome, e⟩ | ⟨fault, houtcome⟩
  · rw [WorldHistory.step, houtcome]
    exact h.effect e
  · rw [WorldHistory.step, houtcome]
    exact h

theorem isKept_run (steps : List WorldStep) : (run steps : WorldHistory σ).IsKept := by
  induction steps using List.reverseRecOn with
  | nil => exact ⟨.empty, rfl⟩
  | append_singleton steps s ih =>
      rw [run, List.foldl_concat]
      exact ih.step s

/-! ### What the maps tell -/

/-- The maps of the world of a history: they lead from one to the other and back, and to the
entities that are there. What leaves cannot be had any more, what enters brings nothing with it, and
an operation that fails changes nothing at all. -/
structure KeepsMaps (x : WorldHistory σ) : Prop where
  named : ∀ name id, x.world.id? name = some id ↔ (id, name) ∈ x.people
  names : ∀ name id, x.world.name? id = some name ↔ x.world.id? name = some id
  alive : ∀ id, x.world.contains id ↔ ∃ name, (id, name) ∈ x.people
  contains : ∀ id, x.world.contains id ↔ (x.world.name? id).isSome
  handles : ∀ id handle, x.world.handle? id = some handle ↔ x.world.owner? handle = some id
  live : ∀ handle, HandleSupply.IsLive x.world.store.supply handle ↔
    ∃ id, x.world.owner? handle = some id
  rows : ∀ handle, HandleSupply.IsLive x.world.store.supply handle ↔
    (x.world.store.row? handle).isSome
  count : x.world.count = x.people.length ∧ x.world.count = x.world.store.rows.length
  apart : (x.people.map Prod.fst).Nodup ∧ (x.people.map Prod.snd).Nodup
  visits : (x.world.residents.map Resident.id).Perm (x.people.map Prod.fst)
  gone : ∀ id, (∀ name, (id, name) ∉ x.people) → x.world.Lacks id
  despawned : ∀ id answer w', (WorldStep.despawn id).perform.outcome x.world = (.ok answer, w') →
    w'.Lacks id ∧ ∀ name, x.world.name? id = some name → w'.id? name = none
  cleared : ∀ id, x.world.clear.Lacks id
  newcomer : ∀ (s : WorldStep) id w', s.perform.outcome x.world = (.ok (.entered id), w') →
    w'.components id = {}
  allowed : ∀ s : WorldStep,
    (∃ answer w', s.perform.outcome x.world = (.ok answer, w')) ↔ s.IsAllowed x.world
  refused : ∀ (s : WorldStep) fault w', s.perform.outcome x.world = (.error fault, w') →
    w' = x.world

variable {x : WorldHistory σ}

theorem IsKept.mem_people_iff (h : x.IsKept) {id : EntityId} {name : String} :
    (id, name) ∈ x.people ↔ (name, id) ∈ x.world.names := by
  rw [h.people, List.mem_map]
  constructor
  · rintro ⟨⟨name, id⟩, hmem, heq⟩
    cases heq
    exact hmem
  · intro hmem
    exact ⟨_, hmem, rfl⟩

theorem IsKept.map_people (h : x.IsKept) :
    x.people.map Prod.fst = x.world.names.map Prod.snd ∧
      x.people.map Prod.snd = x.world.names.map Prod.fst := by
  rw [h.people, List.map_map, List.map_map]
  exact ⟨rfl, rfl⟩

theorem IsKept.contains_iff (h : x.IsKept) (id : EntityId) :
    x.world.contains id ↔ ∃ name, (id, name) ∈ x.people := by
  rw [WorldOver.contains_iff, ← h.world.named.mem_iff, ← h.map_people.1, List.mem_map]
  constructor
  · rintro ⟨⟨id, name⟩, hmem, rfl⟩
    exact ⟨name, hmem⟩
  · rintro ⟨name, hmem⟩
    exact ⟨_, hmem, rfl⟩

theorem IsKept.lacks (h : x.IsKept) {id : EntityId} (hid : ∀ name, (id, name) ∉ x.people) :
    x.world.Lacks id := by
  apply h.world.lacks
  rw [← WorldOver.contains_iff, h.contains_iff]
  rintro ⟨name, hmem⟩
  exact hid name hmem

theorem IsKept.despawned (h : x.IsKept) {id : EntityId} {answer : WorldAnswer} {w' : WorldOver σ}
    (houtcome : (WorldStep.despawn id).perform.outcome x.world = (.ok answer, w')) :
    w'.Lacks id ∧ ∀ name, x.world.name? id = some name → w'.id? name = none := by
  have hkept := h.effect (WorldStep.effect_of_outcome houtcome)
  have hgone : ∀ name, (id, name) ∉ (WorldStep.despawn id).settle x.people answer := by
    intro name hmem
    simp [WorldStep.settle] at hmem
  constructor
  · exact hkept.lacks hgone
  · intro name hname
    rw [h.world.name?_eq_some_iff, ← h.mem_people_iff] at hname
    rw [Option.eq_none_iff_forall_ne_some]
    intro other hother
    rw [hkept.world.id?_eq_some_iff, ← hkept.mem_people_iff] at hother
    -- the name was that of no other entity
    have hmem : (other, name) ∈ x.people := (List.mem_filter.mp hother).1
    have hnodup : (x.people.map Prod.snd).Nodup := by
      rw [h.map_people.2]
      exact h.world.nodup_names
    cases List.inj_on_of_nodup_map hnodup hmem hname rfl
    exact hgone name hother

theorem IsKept.keepsMaps (h : x.IsKept) : x.KeepsMaps := by
  obtain ⟨hfst, hsnd⟩ := h.map_people
  refine
    { named := ?_, names := ?_, alive := h.contains_iff, contains := ?_, handles := ?_,
      live := h.world.isLive_iff, rows := ?_, count := ?_, apart := ?_, visits := ?_,
      gone := fun _ => h.lacks, despawned := fun _ _ _ => h.despawned, cleared := ?_,
      newcomer := ?_, allowed := WorldStep.exists_outcome_iff h.world,
      refused := fun _ _ _ => WorldStep.eq_of_outcome_error }
  · intro name id
    rw [h.world.id?_eq_some_iff, h.mem_people_iff]
  · intro name id
    rw [h.world.name?_eq_some_iff, h.world.id?_eq_some_iff]
  · intro id
    rw [h.contains_iff, Option.isSome_iff_exists]
    simp only [h.world.name?_eq_some_iff, h.mem_people_iff]
  · intro id handle
    rw [h.world.handle?_eq_some_iff, h.world.owner?_eq_some_iff]
  · intro handle
    rw [h.world.store.live_iff, Store.row?_isSome_iff]
  · -- names, identifiers and rows belong to the same entities, so they are as many
    have hnames : x.world.names.length = x.world.idents.length := by
      simpa using h.world.named.length_eq
    have hrows : x.world.idents.length = x.world.store.rows.length := by
      simpa [WorldOver.idents, Store.handles] using h.world.handles.length_eq
    have hpeople : x.people.length = x.world.names.length := by rw [h.people, List.length_map]
    exact ⟨hpeople.symm, hnames.trans hrows⟩
  · -- no identifier and no name belongs to two
    rw [hfst, hsnd]
    exact ⟨h.world.nodup_named, h.world.nodup_names⟩
  · rw [hfst]
    exact h.world.residents_perm.trans h.world.named.symm
  · intro id
    exact (WorldOver.IsConsistent.clear x.world).lacks List.not_mem_nil
  · intro s id w' houtcome
    exact h.world.components_of_entered (WorldStep.effect_of_outcome houtcome)

/-- The maps after any operations on a new world. -/
theorem keepsMaps_run (steps : List WorldStep) : (run steps : WorldHistory σ).KeepsMaps :=
  (isKept_run steps).keepsMaps

/-- An entity gets the place of one that left, but not its handle. -/
theorem keepsMaps_of_recycled_place :
    let x : WorldHistory Slots := run [.spawn "a", .spawn "b", .despawn ⟨1⟩, .spawn "c"]
    x.people = [(⟨3⟩, "c"), (⟨2⟩, "b")] ∧ x.world.handle? ⟨3⟩ = some ⟨0, 2⟩ ∧ x.KeepsMaps := by
  intro x
  have hpeople : x.people = [(⟨3⟩, "c"), (⟨2⟩, "b")] := by decide
  have hhandle : x.world.handle? ⟨3⟩ = some ⟨0, 2⟩ := by decide
  exact ⟨hpeople, hhandle, keepsMaps_run _⟩

end WorldHistory

end SceneBatch
