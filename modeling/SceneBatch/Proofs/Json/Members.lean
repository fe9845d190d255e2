import SceneBatch.Json.Basic
import SceneBatch.Proofs.ListLemmas

/-!
# Members of objects

Members are put into an object in the order of their keys. What is found under a key is what was put
there last, whatever else the object has (`Json.member?_insertMembers`).
-/

namespace SceneBatch

namespace Json

variable {key k : String} {v : Json} {ms : List (String × Json)}

theorem member?_nil (key : String) : (object []).member? key = none := rfl

/-- A member counts where no later one has its key. -/
theorem member?_cons (key k : String) (v : Json) (ms : List (String × Json)) :
    (object ((k, v) :: ms)).member? key =
      ((object ms).member? key).or (if key = k then some v else none) := by
  have hlast : (object ((k, v) :: ms)).member? key =
      ((ms.reverse.find? fun m => m.1 == key).or
        (if k == key then some (k, v) else none)).map Prod.snd := by
    rw [member?, List.reverse_cons, List.find?_append, List.find?_singleton]
  have hrest : (object ms).member? key =
      (ms.reverse.find? fun m => m.1 == key).map Prod.snd := rfl
  rw [hlast, hrest]
  by_cases hk : key = k
  · subst hk
    cases ms.reverse.find? fun m => m.1 == key with
    | none => simp
    | some _ => simp
  · have hne : ¬(k == key) = true := by simpa using Ne.symm hk
    rw [if_neg hk, if_neg hne, Option.or_none, Option.or_none]

/-- What no member is called is not found. -/
theorem member?_of_notMem (h : ∀ m ∈ ms, m.1 ≠ key) : (object ms).member? key = none := by
  induction ms with
  | nil => rfl
  | cons m ms ih =>
      rw [member?_cons, ih fun m' hm' => h m' (List.mem_cons_of_mem m hm'),
        if_neg (Ne.symm (h m List.mem_cons_self))]
      rfl

theorem mem_of_mem_insertMember {m : String × Json} (h : m ∈ insertMember k v ms) :
    m = (k, v) ∨ m ∈ ms := by
  induction ms with
  | nil => exact .inl (List.mem_singleton.mp h)
  | cons x xs ih =>
      rw [insertMember] at h
      split at h
      · exact List.mem_cons.mp h
      · split at h
        · rcases List.mem_cons.mp h with h | h
          · exact .inl h
          · exact .inr (List.mem_cons_of_mem x h)
        · rcases List.mem_cons.mp h with rfl | h
          · exact .inr List.mem_cons_self
          · exact (ih h).imp id (List.mem_cons_of_mem x)

theorem pairwise_insertMember (h : ms.Pairwise (·.1 < ·.1)) (k : String) (v : Json) :
    (insertMember k v ms).Pairwise (·.1 < ·.1) := by
  induction ms with
  | nil => exact List.pairwise_singleton ..
  | cons x xs ih =>
      obtain ⟨hx, hxs⟩ := List.pairwise_cons.mp h
      rw [insertMember]
      split
      · next hlt =>
        -- the key is the least: it goes in front
        refine List.pairwise_cons.mpr ⟨fun y hy => ?_, h⟩
        rcases List.mem_cons.mp hy with rfl | hy
        · exact hlt
        · exact hlt.trans (hx y hy)
      · next hnot =>
        split
        · next heq =>
          -- the key stands first: its value is replaced
          refine List.pairwise_cons.mpr ⟨fun y hy => ?_, hxs⟩
          rw [heq]
          exact hx y hy
        · next hne =>
          -- the key comes later; what the tail has then is the new member or an old one
          refine List.pairwise_cons.mpr ⟨fun y hy => ?_, ih hxs⟩
          rcases mem_of_mem_insertMember hy with rfl | hy
          · exact lt_of_le_of_ne (not_lt.mp hnot) (Ne.symm hne)
          · exact hx y hy

theorem pairwise_insertMembers (h : ms.Pairwise (·.1 < ·.1)) (new : List (String × Json)) :
    (insertMembers new ms).Pairwise (·.1 < ·.1) := by
  induction new generalizing ms with
  | nil => exact h
  | cons m new ih => exact ih (pairwise_insertMember h m.1 m.2)

/-! ### What is found -/

/-- Where no key occurs twice it does not matter from which end a member is looked for. -/
theorem member?_eq_lookup (h : ms.Pairwise (·.1 < ·.1)) (key : String) :
    (object ms).member? key = ms.lookup key := by
  induction ms with
  | nil => rfl
  | cons m ms ih =>
      obtain ⟨hm, hms⟩ := List.pairwise_cons.mp h
      rw [member?_cons]
      by_cases hkey : key = m.1
      · have hnone : (object ms).member? key = none :=
          member?_of_notMem fun m' hm' => hkey ▸ ne_of_gt (hm m' hm')
        rw [hnone, if_pos hkey, hkey, List.lookup_cons_self]
        rfl
      · rw [if_neg hkey, Option.or_none, ih hms, lookup_cons_of_ne hkey]

/-- A member that is put in replaces the one of its key, and no other. -/
theorem lookup_insertMember (key k : String) (v : Json) (ms : List (String × Json)) :
    (insertMember k v ms).lookup key = if key = k then some v else ms.lookup key := by
  induction ms with
  | nil =>
      rw [insertMember, List.lookup_cons]
      by_cases hkey : key = k
      · rw [if_pos hkey, beq_iff_eq.mpr hkey]
      · rw [if_neg hkey, beq_eq_false_iff_ne.mpr hkey]
  | cons m ms ih =>
      rw [insertMember]
      by_cases hkey : key = k
      · -- the key that was put in
        subst hkey
        rw [if_pos rfl]
        split
        · exact List.lookup_cons_self
        · split
          · exact List.lookup_cons_self
          · next hne => rw [lookup_cons_of_ne hne, ih, if_pos rfl]
      · -- another key: neither a new member nor a replaced one hides it
        rw [if_neg hkey] at ih ⊢
        split
        · exact lookup_cons_of_ne hkey v _
        · split
          · next heq => rw [lookup_cons_of_ne hkey, lookup_cons_of_ne (heq ▸ hkey)]
          · rw [List.lookup_cons, List.lookup_cons, ih]

theorem lookup_insertMembers (key : String) (new ms : List (String × Json)) :
    (insertMembers new ms).lookup key = ((object new).member? key).or (ms.lookup key) := by
  -- on the new members, which go into ever longer objects
  induction new generalizing ms with
  | nil => rfl
  | cons m new ih =>
      rw [insertMembers, List.foldl_cons, ← insertMembers, ih, lookup_insertMember, member?_cons,
        Option.or_assoc]
      congr 1
      split
      · rfl
      · rfl

/-- What is put into an object counts before what it has. -/
theorem member?_insertMembers (h : ms.Pairwise (·.1 < ·.1)) (key : String)
    (new : List (String × Json)) :
    (object (insertMembers new ms)).member? key =
      ((object new).member? key).or ((object ms).member? key) := by
  rw [member?_eq_lookup (pairwise_insertMembers h new), lookup_insertMembers, member?_eq_lookup h]

/-- Sorting members does not change what is found. -/
theorem member?_sortedObject (key : String) (ms : List (String × Json)) :
    (sortedObject ms).member? key = (object ms).member? key := by
  rw [sortedObject, member?_insertMembers .nil, member?_nil, Option.or_none]

end Json

end SceneBatch
