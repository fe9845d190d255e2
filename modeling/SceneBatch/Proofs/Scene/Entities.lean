import SceneBatch.Proofs.Toml.Keys
import SceneBatch.Proofs.Traverse
import SceneBatch.Scene.File

/-!
# Entities of scene files

The entities of a scene file come in the order of their names, each name once, since no table of a
document has a key twice (`SceneFile.IsOrdered`). Pinned identifiers are integers of a document, so
they have 63 bits.
-/

namespace SceneBatch

namespace SceneFile

/-! ### Sorting by name -/

section Sorting

variable {α : Type} {e : String × α} {xs : List (String × α)}

theorem insertByName_perm (e : String × α) (xs : List (String × α)) :
    (insertByName e xs).Perm (e :: xs) := by
  induction xs with
  | nil => exact .refl _
  | cons x xs ih =>
      rw [insertByName]
      split
      · exact .refl _
      · exact (ih.cons x).trans (.swap e x xs)

theorem pairwise_insertByName (h : xs.Pairwise (·.1 < ·.1)) (hnew : e.1 ∉ xs.map Prod.fst) :
    (insertByName e xs).Pairwise (·.1 < ·.1) := by
  induction xs with
  | nil => exact List.pairwise_singleton ..
  | cons x xs ih =>
      obtain ⟨hx, hxs⟩ := List.pairwise_cons.mp h
      rw [List.map_cons, List.mem_cons, not_or] at hnew
      obtain ⟨hne, hnew⟩ := hnew
      rw [insertByName]
      split
      · next hlt =>
        -- the name goes in front of all
        refine List.pairwise_cons.mpr ⟨fun y hy => ?_, h⟩
        rcases List.mem_cons.mp hy with rfl | hy
        · exact hlt
        · exact hlt.trans (hx y hy)
      · next hnot =>
        -- the name comes later, and it is none of those that are there
        refine List.pairwise_cons.mpr ⟨fun y hy => ?_, ih hxs hnew⟩
        rcases List.mem_cons.mp ((insertByName_perm e xs).mem_iff.mp hy) with rfl | hy
        · exact lt_of_le_of_ne (not_lt.mp hnot) (Ne.symm hne)
        · exact hx y hy

theorem sortByName_concat (xs : List (String × α)) (e : String × α) :
    sortByName (xs ++ [e]) = insertByName e (sortByName xs) := List.foldl_concat ..

theorem sortByName_perm (xs : List (String × α)) : (sortByName xs).Perm xs := by
  induction xs using List.reverseRecOn with
  | nil => exact .refl _
  | append_singleton xs e ih =>
      rw [sortByName_concat]
      exact (insertByName_perm e _).trans ((ih.cons e).trans (List.perm_append_singleton e xs).symm)

theorem pairwise_sortByName (h : (xs.map Prod.fst).Nodup) :
    (sortByName xs).Pairwise (·.1 < ·.1) := by
  induction xs using List.reverseRecOn with
  | nil => exact .nil
  | append_singleton xs e ih =>
      rw [List.map_append, List.map_singleton, List.nodup_append] at h
      obtain ⟨hxs, -, hdisjoint⟩ := h
      rw [sortByName_concat]
      apply pairwise_insertByName (ih hxs)
      intro hmem
      exact hdisjoint e.1 (((sortByName_perm xs).map Prod.fst).mem_iff.mp hmem) e.1
        (List.mem_singleton_self _) rfl

end Sorting

/-! ### Reading -/

section Reading

variable {v : TomlValue}

theorem isProper_of_toRecord? (h : v.IsProper) {names : List String} {r : TomlRecord}
    (hr : v.toRecord? names = some r) : ∀ e ∈ r, e.2.IsProper := by
  intro e he
  cases h with
  | table _ hentries =>
      cases hr
      exact hentries e he
  | array helements =>
      cases hr
      exact helements e.2 (List.of_mem_zip he).2
  | dateTime =>
      -- A date reads as a table without entries.
      cases hr
      cases he
  | string | integer | float | boolean => cases hr

theorem isProper_of_lookup {r : TomlRecord} (h : ∀ e ∈ r, e.2.IsProper) {name : String}
    (hv : r.lookup name = some v) : v.IsProper := by
  obtain ⟨before, after, rfl, -⟩ := List.lookup_eq_some_iff.mp hv
  exact h (name, v) (by simp)

/-- The entries of a table have distinct keys, and their values were read from proper ones. -/
theorem of_toEntries? {β : Type} {read : TomlValue → Option β} {xs : List (String × β)}
    (h : v.IsProper) (hxs : v.toEntries? read = some xs) :
    (xs.map Prod.fst).Nodup ∧ ∀ x ∈ xs, ∃ v', v'.IsProper ∧ read v' = some x.2 := by
  cases h with
  | @table entries hkeys hentries =>
      rw [TomlValue.toEntries?, mapM_eq_some_iff] at hxs
      -- the two lists in step: an entry keeps its key, and its value is read
      have hread : List.Forall₂ (fun x e => x.1 = e.1 ∧ read e.2 = some x.2) xs entries := by
        refine hxs.flip.imp ?_
        rintro _ ⟨key, v'⟩ heq
        obtain ⟨y, hy, rfl⟩ := Option.map_eq_some_iff.mp heq
        exact ⟨rfl, hy⟩
      constructor
      · have hsame : xs.map Prod.fst = entries.map Prod.fst := by
          rw [← List.forall₂_eq_eq_eq, List.forall₂_map_left_iff, List.forall₂_map_right_iff]
          exact hread.imp fun _ _ h => h.1
        rwa [hsame]
      · intro x hx
        obtain ⟨e, he, -, hy⟩ := exists_mem_of_forall₂ hread hx
        exact ⟨e.2, hentries e he, hy⟩
  | _ => cases hxs

end Reading

/-- Entities come in the order of their names, and pinned identifiers have 63 bits. -/
structure IsOrdered (s : SceneFile) : Prop where
  names : s.entities.Pairwise (·.1 < ·.1)
  pinned : ∀ e ∈ s.entities, ∀ raw, e.2.pinned = some raw → raw < 2 ^ 63

theorem pinned_lt_of_readEntity {v : TomlValue} (h : v.IsProper) {d : EntityDef}
    (hd : readEntity v = some d) {raw : Nat} (hraw : d.pinned = some raw) : raw < 2 ^ 63 := by
  -- the fields in the order in which they are read; only the first one matters here
  obtain ⟨r, hr, hd⟩ := Option.bind_eq_some_iff.mp hd
  obtain ⟨pinned, hpinned, hd⟩ := Option.bind_eq_some_iff.mp hd
  obtain ⟨transform, -, hd⟩ := Option.bind_eq_some_iff.mp hd
  obtain ⟨mesh, -, hd⟩ := Option.bind_eq_some_iff.mp hd
  obtain ⟨playback, -, hd⟩ := Option.bind_eq_some_iff.mp hd
  obtain ⟨light, -, hd⟩ := Option.bind_eq_some_iff.mp hd
  cases hd
  dsimp only at hraw
  rw [hraw, TomlRecord.optionalField] at hpinned
  split at hpinned
  · next v' hv' =>
    obtain ⟨n, hn, hsome⟩ := Option.map_eq_some_iff.mp hpinned
    cases hsome
    cases isProper_of_lookup (isProper_of_toRecord? h hr) hv' with
    | integer hlower hupper =>
        -- an integer of a text has 64 bits with a sign, and this one is not negative
        rw [TomlValue.toNat?] at hn
        split at hn
        · cases hn
          omega
        · cases hn
    | _ => cases hn
  · cases hpinned

theorem isOrdered_of_ofText? {text : String} {s : SceneFile} (h : ofText? text = some s) :
    s.IsOrdered := by
  obtain ⟨v, hv, h⟩ := Option.bind_eq_some_iff.mp h
  have hproper := Toml.isProper_of_ofText? hv
  -- as above, down to the table of entities
  obtain ⟨r, hr, h⟩ := Option.bind_eq_some_iff.mp h
  obtain ⟨scene, -, h⟩ := Option.bind_eq_some_iff.mp h
  obtain ⟨name, -, h⟩ := Option.bind_eq_some_iff.mp h
  obtain ⟨description, -, h⟩ := Option.bind_eq_some_iff.mp h
  obtain ⟨models, -, h⟩ := Option.bind_eq_some_iff.mp h
  obtain ⟨camera, -, h⟩ := Option.bind_eq_some_iff.mp h
  obtain ⟨entries, hentries, h⟩ := Option.bind_eq_some_iff.mp h
  cases h
  rw [TomlRecord.field] at hentries
  split at hentries
  · next v' hv' =>
    obtain ⟨hkeys, hread⟩ :=
      of_toEntries? (isProper_of_lookup (isProper_of_toRecord? hproper hr) hv') hentries
    refine ⟨pairwise_sortByName hkeys, fun e he raw hraw => ?_⟩
    obtain ⟨v'', hv'', he⟩ := hread e ((sortByName_perm entries).mem_iff.mp he)
    exact pinned_lt_of_readEntity hv'' he hraw
  · -- a scene without such a table has no entities
    cases hentries
    exact ⟨.nil, fun e he => by cases he⟩

end SceneFile

end SceneBatch
