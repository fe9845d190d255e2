import SceneBatch.Proofs.ListLemmas
import SceneBatch.Texture.Library

/-!
# Binding textures

Whether a library binds a texture to a unit depends on the names that it knows and on the number of
its units (`TextureLibrary.Takes`), and binding changes neither (`TextureLibrary.Alike`). Textures
that are bound one after the other to the units from 0 on are what these units have in the end,
whatever they had before (`bound?_bindAll`). To bind what is bound already changes nothing, so that
no layer becomes stale (`bindAll_of_bound`). Sources come from announcements alone: the last one
under a name counts (`find?_register`), and binding leaves them as they are (`find?_bindAll`).
-/

namespace SceneBatch

namespace TextureLibrary

variable {l l' : TextureLibrary} {name : String} {unit : Nat} {names : List String}

/-- There are such a texture and such a unit. -/
def Takes (l : TextureLibrary) (name : String) (unit : Nat) : Prop :=
  l.contains name = true ∧ unit < l.units.length

theorem bind_of_takes (h : l.Takes name unit) :
    (l.bind name unit).value =
      (true, if l.bound? unit = some name then l
        else { l with units := l.units.set unit ⟨some name, true⟩ }) := by
  obtain ⟨hname, hunit⟩ := h
  have hget : l.units[unit]? = some l.units[unit] := List.getElem?_eq_getElem hunit
  have hbound : l.bound? unit = l.units[unit].bound := by
    rw [bound?, hget]
    rfl
  unfold bind
  rw [if_neg (by simp [hname]), hget, hbound]
  dsimp only
  split
  · rfl
  · rfl

theorem bind_of_not_takes (h : ¬l.Takes name unit) :
    (l.bind name unit).value = (false, l) := by
  unfold bind
  by_cases hname : l.contains name = true
  · -- the texture is known, so there is no such unit
    have hunit : l.units[unit]? = none := by
      rw [List.getElem?_eq_none_iff]
      exact Nat.le_of_not_lt fun hunit => h ⟨hname, hunit⟩
    rw [if_neg (by simp [hname]), hunit]
    rfl
  · rw [if_pos hname]
    rfl

/-- To bind the texture that a unit has changes nothing. -/
theorem bind_of_bound (h : l.bound? unit = some name) : (l.bind name unit).value.2 = l := by
  by_cases htakes : l.Takes name unit
  · rw [bind_of_takes htakes, if_pos h]
  · rw [bind_of_not_takes htakes]

theorem bound?_bind (h : l.Takes name unit) (u : Nat) :
    (l.bind name unit).value.2.bound? u = if u = unit then some name else l.bound? u := by
  rw [bind_of_takes h]
  by_cases hbound : l.bound? unit = some name
  · rw [if_pos hbound]
    split
    · next hu => rw [hu, hbound]
    · rfl
  · rw [if_neg hbound]
    show (l.units.set unit ⟨some name, true⟩)[u]?.bind _ = _
    by_cases hu : u = unit
    · subst hu
      rw [if_pos rfl, List.getElem?_set_self h.2]
      rfl
    · rw [if_neg hu, List.getElem?_set_ne (Ne.symm hu)]
      rfl

/-! ### Sources -/

theorem find?_register (l : TextureLibrary) (name : String) (source : TextureSource)
    (other : String) :
    (l.register name source).find? other = if other = name then some source else l.find? other :=
  lookup_replace name other source l.sources

theorem find?_bind (l : TextureLibrary) (name : String) (unit : Nat) :
    (l.bind name unit).value.2.find? = l.find? := by
  by_cases h : l.Takes name unit
  · rw [bind_of_takes h]
    split <;> rfl
  · rw [bind_of_not_takes h]

/-! ### Libraries that take the same -/

/-- Libraries that know the same names and have as many units. -/
structure Alike (l l' : TextureLibrary) : Prop where
  contains : ∀ name, l'.contains name = l.contains name
  units : l'.units.length = l.units.length

theorem Alike.refl (l : TextureLibrary) : l.Alike l := ⟨fun _ => rfl, rfl⟩

theorem Alike.symm (h : l.Alike l') : l'.Alike l :=
  ⟨fun name => (h.contains name).symm, h.units.symm⟩

theorem Alike.trans {l'' : TextureLibrary} (h : l.Alike l') (h' : l'.Alike l'') : l.Alike l'' :=
  ⟨fun name => (h'.contains name).trans (h.contains name), h'.units.trans h.units⟩

theorem Alike.takes_iff (h : l.Alike l') : l'.Takes name unit ↔ l.Takes name unit := by
  rw [Takes, Takes, h.contains, h.units]

theorem alike_bind (l : TextureLibrary) (name : String) (unit : Nat) :
    l.Alike (l.bind name unit).value.2 := by
  by_cases h : l.Takes name unit
  · rw [bind_of_takes h]
    split
    · exact .refl l
    · exact ⟨fun _ => rfl, List.length_set⟩
  · rw [bind_of_not_takes h]
    exact .refl l

/-! ### Binding several textures -/

/-- Bind textures to the units from 0 on. -/
def bindAll (l : TextureLibrary) (names : List String) : TextureLibrary :=
  names.zipIdx.foldl (fun l (name, unit) => (l.bind name unit).value.2) l

theorem bindAll_concat (l : TextureLibrary) (names : List String) (name : String) :
    l.bindAll (names ++ [name]) = ((l.bindAll names).bind name names.length).value.2 := by
  rw [bindAll, List.zipIdx_append, List.foldl_append]
  simp [bindAll]

theorem alike_bindAll (l : TextureLibrary) (names : List String) : l.Alike (l.bindAll names) := by
  induction names using List.reverseRecOn with
  | nil => exact .refl l
  | append_singleton names name ih =>
      rw [bindAll_concat]
      exact ih.trans (alike_bind _ name names.length)

theorem find?_bindAll (l : TextureLibrary) (names : List String) :
    (l.bindAll names).find? = l.find? := by
  induction names using List.reverseRecOn with
  | nil => rfl
  | append_singleton names name ih => rw [bindAll_concat, find?_bind, ih]

/-- The units have the textures that were bound to them; the others have what they had. -/
theorem bound?_bindAll (h : ∀ unit name, names[unit]? = some name → l.Takes name unit) (u : Nat) :
    (l.bindAll names).bound? u = (names[u]?).or (l.bound? u) := by
  induction names using List.reverseRecOn with
  | nil => rfl
  | append_singleton names name ih =>
      have hlast : l.Takes name names.length := h names.length name (by simp)
      have hnames : ∀ unit name, names[unit]? = some name → l.Takes name unit := by
        intro unit name hname
        apply h unit name
        rw [List.getElem?_append_left (List.getElem?_eq_some_iff.mp hname).1]
        exact hname
      rw [bindAll_concat, bound?_bind ((alike_bindAll l names).takes_iff.mpr hlast), ih hnames]
      by_cases hu : u = names.length
      · subst hu
        simp
      · rw [if_neg hu]
        rcases Nat.lt_or_gt_of_ne hu with hlt | hgt
        · rw [List.getElem?_append_left hlt]
        · rw [List.getElem?_eq_none (by omega), List.getElem?_eq_none (by simp; omega)]

/-- To bind textures to units that have them already changes nothing. -/
theorem bindAll_of_bound (h : ∀ unit name, names[unit]? = some name → l.bound? unit = some name) :
    l.bindAll names = l := by
  induction names using List.reverseRecOn with
  | nil => rfl
  | append_singleton names name ih =>
      have hnames : l.bindAll names = l := by
        apply ih
        intro unit name hname
        apply h unit name
        rw [List.getElem?_append_left (List.getElem?_eq_some_iff.mp hname).1]
        exact hname
      rw [bindAll_concat, hnames]
      apply bind_of_bound
      apply h
      simp

end TextureLibrary

end SceneBatch
