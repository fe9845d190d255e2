/-!
# Handles

The store of a world knows an entity by a handle, and handles come back into use when their entity
is gone. All that a world relies on is that a handle which is handed out is not in use at that time
(`HandleSupply`). `Slots` recycles places in this way, and counts how often it did.
-/

namespace SceneBatch

/-- A place in a store, and how often it was given out. -/
structure Handle where
  place : Nat
  generation : Nat
  deriving DecidableEq, Repr

/-- A source of handles. A handle is live from when it is handed out until it is released. -/
class HandleSupply (σ : Type) where
  fresh : σ
  allocate : σ → Handle × σ
  release : σ → Handle → σ
  reset : σ → σ
  IsLive : σ → Handle → Prop
  not_isLive_fresh : ∀ h, ¬IsLive fresh h
  not_isLive_allocate : ∀ s, ¬IsLive s (allocate s).1
  isLive_allocate : ∀ s h, IsLive (allocate s).2 h ↔ h = (allocate s).1 ∨ IsLive s h
  isLive_release : ∀ s h, IsLive s h → ∀ h', IsLive (release s h) h' ↔ h' ≠ h ∧ IsLive s h'
  not_isLive_reset : ∀ s h, ¬IsLive (reset s) h

/-- The generation of each place, and the places that are free, last released first. -/
structure Slots where
  generations : List Nat
  free : List Nat
  nodup : free.Nodup
  lt : ∀ place ∈ free, place < generations.length

namespace Slots

/-- No places yet. -/
def empty : Slots := ⟨[], [], List.nodup_nil, by simp⟩

/-- Whether a handle is of the current generation of a place that is not free. -/
def IsLive (s : Slots) (h : Handle) : Prop :=
  s.generations[h.place]? = some h.generation ∧ h.place ∉ s.free

instance (s : Slots) (h : Handle) : Decidable (s.IsLive h) := inferInstanceAs (Decidable (_ ∧ _))

/-- Give out the place that was released last, otherwise a new one. -/
def allocate : Slots → Handle × Slots
  | ⟨generations, [], nodup, _⟩ =>
    (⟨generations.length, 1⟩, ⟨generations ++ [1], [], nodup, by simp⟩)
  | ⟨generations, place :: rest, nodup, lt⟩ =>
    (⟨place, generations.get ⟨place, lt place List.mem_cons_self⟩⟩,
      ⟨generations, rest, (List.nodup_cons.mp nodup).2,
        fun p hp => lt p (List.mem_cons_of_mem place hp)⟩)

/-- Take a live handle back. The place goes on with its next generation. -/
def release (s : Slots) (h : Handle) : Slots :=
  if hlive : s.IsLive h then
    { generations := s.generations.modify h.place (· + 1)
      free := h.place :: s.free
      nodup := List.nodup_cons.mpr ⟨hlive.2, s.nodup⟩
      lt := by
        intro place hplace
        rw [List.length_modify]
        rcases List.mem_cons.mp hplace with rfl | hplace
        · exact (List.getElem?_eq_some_iff.mp hlive.1).1
        · exact s.lt place hplace }
  else s

theorem not_isLive_empty (h : Handle) : ¬empty.IsLive h := by
  rintro ⟨hgeneration, -⟩
  cases hgeneration

theorem not_isLive_allocate (s : Slots) : ¬s.IsLive s.allocate.1 := by
  rintro ⟨hgeneration, hfree⟩
  rcases s with ⟨generations, _ | ⟨place, rest⟩, nodup, lt⟩
  · simp [allocate] at hgeneration
  · simp [allocate] at hfree

theorem isLive_allocate (s : Slots) (h : Handle) :
    s.allocate.2.IsLive h ↔ h = s.allocate.1 ∨ s.IsLive h := by
  obtain ⟨place, generation⟩ := h
  rcases s with ⟨generations, _ | ⟨first, rest⟩, nodup, lt⟩
  · -- the new place stands behind the others
    simp only [allocate, IsLive, Handle.mk.injEq]
    rcases Nat.lt_trichotomy place generations.length with hlt | rfl | hgt
    · simp [List.getElem?_append_left hlt, Nat.ne_of_lt hlt]
    · simp [eq_comm]
    · have hnone : (generations ++ [1])[place]? = none := by
        rw [List.getElem?_eq_none_iff]
        simp
        omega
      simp [hnone, List.getElem?_eq_none (Nat.le_of_lt hgt), Nat.ne_of_gt hgt]
  · have hfirst : first ∉ rest := (List.nodup_cons.mp nodup).1
    have hlt : first < generations.length := lt first List.mem_cons_self
    simp only [allocate, IsLive, Handle.mk.injEq]
    by_cases hplace : place = first
    · subst hplace
      simp [hfirst, hlt, eq_comm]
    · simp [hplace]

theorem isLive_release {s : Slots} {h : Handle} (hlive : s.IsLive h) (h' : Handle) :
    (s.release h).IsLive h' ↔ h' ≠ h ∧ s.IsLive h' := by
  obtain ⟨place, generation⟩ := h
  obtain ⟨place', generation'⟩ := h'
  rw [release, dif_pos hlive]
  unfold IsLive at hlive ⊢
  by_cases hplace : place' = place
  · -- the place is free now, and no other handle was live there
    subst hplace
    have hsame : s.generations[place']? = some generation' → generation' = generation :=
      fun hgeneration => Option.some.inj (hgeneration.symm.trans hlive.1)
    grind
  · simp [hplace, Ne.symm hplace]

instance : HandleSupply Slots where
  fresh := empty
  allocate := allocate
  release := release
  reset _ := empty
  IsLive := IsLive
  not_isLive_fresh := not_isLive_empty
  not_isLive_allocate := not_isLive_allocate
  isLive_allocate := isLive_allocate
  isLive_release _ _ hlive := isLive_release hlive
  not_isLive_reset _ := not_isLive_empty

end Slots

end SceneBatch
