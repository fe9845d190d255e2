import SceneBatch.Proofs.ListLemmas
import SceneBatch.World.Query

/-!
# Worlds of given residents

What a frame is built of are the residents of a world, and any list of residents is that of some
world: `residents_ofResidents`.
-/

namespace SceneBatch

namespace World

/-- A world without names whose entities stand in one group, on the places from 0 on. -/
def ofResidents (residents : List Resident) : World where
  store :=
    { supply := ⟨residents.map fun _ => 1, [], List.nodup_nil, by simp⟩
      groups := [⟨{}, residents.zipIdx.map fun (r, place) => ⟨⟨place, 1⟩, r.components⟩⟩] }
  handles := residents.zipIdx.map fun (r, place) => (r.id, ⟨place, 1⟩)
  names := []
  ids := .fresh

theorem owner?_ofResidents (residents : List Resident) (place : Nat) :
    (ofResidents residents).owner? ⟨place, 1⟩ = (residents[place]?).map Resident.id := by
  -- The search numbers from any start, so that the induction may drop the head.
  have hfind : ∀ start : Nat,
      (((residents.zipIdx start).map fun (r, place) => (r.id, Handle.mk place 1)).find?
        (·.2 == ⟨start + place, 1⟩)).map Prod.fst = (residents[place]?).map Resident.id := by
    induction residents generalizing place with
    | nil => intro start; rfl
    | cons r rest ih =>
        intro start
        cases place with
        | zero => simp
        | succ place =>
            have hnext : start + (place + 1) = start + 1 + place := by omega
            have hne : start ≠ start + 1 + place := by omega
            simpa [hnext, hne] using ih place (start + 1)
  simpa [WorldOver.owner?, ofResidents] using hfind 0

theorem residents_ofResidents (residents : List Resident) :
    (ofResidents residents).residents = residents := by
  have howners : ∀ r place, (r, place) ∈ residents.zipIdx →
      (ofResidents residents).owner? ⟨place, 1⟩ = some r.id := by
    intro r place hr
    rw [owner?_ofResidents, List.mk_mem_zipIdx_iff_getElem?.mp hr]
    rfl
  have hrows : (ofResidents residents).store.rows =
      residents.zipIdx.map fun (r, place) => ⟨⟨place, 1⟩, r.components⟩ := List.append_nil _
  calc (ofResidents residents).residents
    _ = residents.zipIdx.filterMap (some ∘ Prod.fst) := by
        rw [WorldOver.residents, hrows, List.filterMap_map]
        apply List.filterMap_congr
        intro x hx
        simp [howners x.1 x.2 hx]
    _ = residents := by simp

end World

end SceneBatch
