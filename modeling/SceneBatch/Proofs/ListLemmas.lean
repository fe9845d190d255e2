import Mathlib

/-!
# List lemmas

What a batch does to its lists: it appends to them, changes the element at one place
(`List.modify`), and leaves out elements that do not count. What was appended can be found where
it was put (`StandsAt`), also when more is appended since.
-/

namespace SceneBatch

variable {α β : Type}

/-- What stands in a list stands at the same place in any longer one. -/
theorem getElem?_of_isPrefix {xs ys : List α} (h : xs <+: ys) {i : Nat} {x : α}
    (hx : xs[i]? = some x) : ys[i]? = some x := by
  obtain ⟨zs, rfl⟩ := h
  obtain ⟨hi, -⟩ := List.getElem?_eq_some_iff.mp hx
  rw [List.getElem?_append_left hi]
  exact hx

theorem getElem?_concat_eq_some_iff {xs : List α} {x y : α} {i : Nat} :
    (xs ++ [x])[i]? = some y ↔ xs[i]? = some y ∨ i = xs.length ∧ x = y := by
  rcases Nat.lt_trichotomy i xs.length with hlt | rfl | hgt
  · have hne : i ≠ xs.length := Nat.ne_of_lt hlt
    rw [List.getElem?_append_left hlt]
    simp [hne]
  · simp
  · have hne : i ≠ xs.length := Nat.ne_of_gt hgt
    have hle : xs.length ≤ i := Nat.le_of_lt hgt
    simp [hne, hle, hgt]

/-! ### Runs of a list -/

/-- The elements of `ys` stand in `xs`, from the place `base` on. -/
def StandsAt (ys xs : List α) (base : Nat) : Prop :=
  ∃ before, before.length = base ∧ before ++ ys <+: xs

theorem StandsAt.of_isPrefix {xs ys zs : List α} {base : Nat} (h : StandsAt ys xs base)
    (hxs : xs <+: zs) : StandsAt ys zs base := by
  obtain ⟨before, hbefore, hys⟩ := h
  exact ⟨before, hbefore, hys.trans hxs⟩

theorem StandsAt.take_drop {xs ys : List α} {base : Nat} (h : StandsAt ys xs base) :
    (xs.drop base).take ys.length = ys := by
  obtain ⟨before, rfl, behind, rfl⟩ := h
  rw [List.append_assoc, List.drop_left, List.take_left]

/-- The elements of a list one by one. -/
theorem flatMap_range_take_drop (xs : List α) :
    (List.range xs.length).flatMap (fun i => (xs.drop i).take 1) = xs := by
  induction xs with
  | nil => rfl
  | cons x xs ih =>
      rw [List.length_cons, List.range_succ_eq_map, List.flatMap_cons, List.flatMap_map]
      exact congrArg (x :: ·) ih

/-- The first elements of a list, place by place. -/
theorem filterMap_range_eq_take {f : Nat → Option α} {xs : List α} {n : Nat} (hn : n ≤ xs.length)
    (hf : ∀ i < n, f i = xs[i]?) : (List.range n).filterMap f = xs.take n := by
  induction n with
  | zero => rfl
  | succ n ih =>
      have hlt : n < xs.length := hn
      rw [List.range_succ, List.filterMap_append, ih (Nat.le_of_succ_le hn)
        fun i hi => hf i (Nat.lt_succ_of_lt hi), ← List.take_concat_get' xs n hlt]
      simp [hf n (Nat.lt_succ_self n), List.getElem?_eq_getElem hlt]

/-! ### Changing one element -/

theorem modify_concat (xs : List α) (x : α) (f : α → α) :
    (xs ++ [x]).modify xs.length f = xs ++ [f x] := by
  simp [List.modify_eq_take_drop]

theorem map_modify {f : α → α} {g : α → β} {h : β → β} (hfg : ∀ x, g (f x) = h (g x))
    (xs : List α) (place : Nat) : (xs.modify place f).map g = (xs.map g).modify place h := by
  apply List.ext_getElem?
  intro i
  rw [List.getElem?_map, List.getElem?_modify, List.getElem?_modify, List.getElem?_map]
  cases xs[i]? with
  | none => rfl
  | some x => by_cases hi : place = i <;> simp [hi, hfg]

theorem exists_of_mem_modify {f : α → α} {xs : List α} {place : Nat} {x : α}
    (hx : x ∈ xs.modify place f) : ∃ y ∈ xs, x = y ∨ x = f y := by
  obtain ⟨i, hi⟩ := List.mem_iff_getElem?.mp hx
  rw [List.getElem?_modify] at hi
  obtain ⟨y, hy, rfl⟩ := Option.map_eq_some_iff.mp hi
  refine ⟨y, List.mem_of_getElem? hy, ?_⟩
  by_cases h : place = i
  · right; rw [if_pos h]
  · left; rw [if_neg h]

theorem zip_modify (f : α → α) (g : β → β) (xs : List α) (ys : List β) (place : Nat) :
    (xs.modify place f).zip (ys.modify place g) =
      (xs.zip ys).modify place fun (x, y) => (f x, g y) := by
  induction xs generalizing ys place with
  | nil => cases place <;> rfl
  | cons x xs ih =>
      cases ys with
      | nil => cases place <;> rfl
      | cons y ys =>
          cases place with
          | zero => rfl
          | succ place => exact congrArg ((x, y) :: ·) (ih ys place)

/-- An element that contributes more adds just that. -/
theorem flatMap_modify_perm {f : α → α} {g : α → List β} {xs : List α} {place : Nat}
    {x : α} {zs : List β} (hx : xs[place]? = some x) (hf : g (f x) = g x ++ zs) :
    ((xs.modify place f).flatMap g).Perm (xs.flatMap g ++ zs) := by
  induction xs generalizing place with
  | nil => cases hx
  | cons y ys ih =>
      cases place with
      | zero =>
          cases hx
          show (g (f x) ++ ys.flatMap g).Perm ((g x ++ ys.flatMap g) ++ zs)
          rw [hf, List.append_assoc, List.append_assoc]
          -- The gain `zs` moves behind what follows it.
          exact List.perm_append_comm.append_left (g x)
      | succ place =>
          show (g y ++ (ys.modify place f).flatMap g).Perm ((g y ++ ys.flatMap g) ++ zs)
          rw [List.append_assoc]
          exact (ih hx).append_left (g y)

/-! ### Replacing what a key has -/

section Replace

variable {κ : Type} [DecidableEq κ]

theorem lookup_cons_of_ne {k key : κ} (h : key ≠ k) (x : β) (xs : List (κ × β)) :
    ((k, x) :: xs).lookup key = xs.lookup key := by
  rw [List.lookup_cons, beq_eq_false_iff_ne.mpr h]

/-- What is left when a key is taken out of a list. -/
theorem lookup_filter_ne (k key : κ) (xs : List (κ × β)) :
    (xs.filter (·.1 ≠ k)).lookup key = if key = k then none else xs.lookup key := by
  induction xs with
  | nil => simp
  | cons x xs ih =>
      -- The head goes or stays; where it stays, the key looked up may still be `k`.
      by_cases hx : x.1 = k
      · rw [List.filter_cons_of_neg (by simp [hx]), ih]
        split
        · rfl
        · next hkey => rw [lookup_cons_of_ne (by rwa [hx])]
      · rw [List.filter_cons_of_pos (by simp [hx])]
        by_cases hkey : key = k
        · rw [lookup_cons_of_ne (by rw [hkey]; exact Ne.symm hx), ih, if_pos hkey, if_pos hkey]
        · rw [List.lookup_cons, List.lookup_cons, ih, if_neg hkey, if_neg hkey]

/-- What is put in front of a list under a key replaces what was there under that key, and nothing
else. -/
theorem lookup_replace (k key : κ) (x : β) (xs : List (κ × β)) :
    ((k, x) :: xs.filter (·.1 ≠ k)).lookup key = if key = k then some x else xs.lookup key := by
  by_cases hkey : key = k
  · simp [hkey]
  · rw [lookup_cons_of_ne hkey, lookup_filter_ne, if_neg hkey, if_neg hkey]

end Replace

/-! ### Looking up keys -/

section Keys

variable {κ : Type} [BEq κ] [LawfulBEq κ] {key : α → κ} {xs : List α} {k : κ} {x : α}

/-- Where all keys differ, what is found under a key is what has the key. -/
theorem find?_key_eq_some_iff (hnodup : (xs.map key).Nodup) :
    xs.find? (key · == k) = some x ↔ x ∈ xs ∧ key x = k := by
  constructor
  · intro h
    exact ⟨List.mem_of_find?_eq_some h, by simpa using List.find?_some h⟩
  · rintro ⟨hx, rfl⟩
    obtain ⟨y, hy⟩ : ∃ y, xs.find? (key · == key x) = some y := by
      rw [← Option.isSome_iff_exists, List.find?_isSome]
      exact ⟨x, hx, by simp⟩
    have hkey : key y = key x := by simpa using List.find?_some hy
    rw [hy, List.inj_on_of_nodup_map hnodup (List.mem_of_find?_eq_some hy) hx hkey]

/-- In a list without repetition each element is at one place. -/
theorem idxOf?_eq_some_iff_getElem? {ks : List κ} (hnodup : ks.Nodup) {i : Nat} :
    ks.idxOf? k = some i ↔ ks[i]? = some k := by
  rw [List.idxOf?_eq_some_iff, List.getElem?_eq_some_iff]
  constructor
  · rintro ⟨hi, hk, -⟩
    exact ⟨hi, hk⟩
  · rintro ⟨hi, hk⟩
    refine ⟨hi, hk, fun j hj hjk => ?_⟩
    have hsame : j = i := hnodup.getElem_inj_iff.mp (hjk.trans hk.symm)
    exact hj.ne hsame

theorem find?_key_isSome_iff : (xs.find? (key · == k)).isSome ↔ k ∈ xs.map key := by
  simp [List.find?_isSome]

/-- Where all keys differ, one element at most has a key. -/
theorem filter_key_eq_find? (hnodup : (xs.map key).Nodup) :
    xs.filter (key · == k) = (xs.find? (key · == k)).toList := by
  induction xs with
  | nil => rfl
  | cons x xs ih =>
      obtain ⟨hx, hxs⟩ := List.nodup_cons.mp hnodup
      rw [List.filter_cons, List.find?_cons]
      cases hk : key x == k with
      | true =>
          -- Keys differ, so behind the first hit there is no other.
          have hothers : xs.filter (key · == k) = [] := by
            rw [List.filter_eq_nil_iff]
            intro y hy hyk
            rw [eq_of_beq hk, ← eq_of_beq hyk] at hx
            exact hx (List.mem_map_of_mem hy)
          rw [if_pos rfl, hothers]
          rfl
      | false =>
          rw [if_neg Bool.false_ne_true]
          exact ih hxs

theorem lookup_isSome_iff_mem {xs : List (κ × β)} :
    (xs.lookup k).isSome ↔ k ∈ xs.map Prod.fst := by
  rw [List.lookup_isSome_iff, List.mem_map]
  constructor
  · rintro ⟨x, hx, hk⟩
    exact ⟨x, hx, (eq_of_beq hk).symm⟩
  · rintro ⟨x, hx, rfl⟩
    exact ⟨x, hx, beq_self_eq_true x.1⟩

theorem lookup_eq_some_iff_mem {xs : List (κ × β)} {y : β} (hnodup : (xs.map Prod.fst).Nodup) :
    xs.lookup k = some y ↔ (k, y) ∈ xs := by
  have hmem_of : ∀ z, xs.lookup k = some z → (k, z) ∈ xs := by
    intro z hz
    obtain ⟨before, after, rfl, -⟩ := List.lookup_eq_some_iff.mp hz
    simp
  constructor
  · exact hmem_of y
  · intro hy
    have hsome : (xs.lookup k).isSome := List.lookup_isSome_iff.mpr ⟨(k, y), hy, by simp⟩
    obtain ⟨z, hz⟩ := Option.isSome_iff_exists.mp hsome
    cases List.inj_on_of_nodup_map hnodup (hmem_of z hz) hy rfl
    exact hz

/-- What a look-up from the end finds stands behind all else under its key. -/
theorem exists_last_of_lookup_reverse {xs : List (κ × β)} {y : β}
    (h : xs.reverse.lookup k = some y) :
    ∃ place : Nat, xs[place]? = some (k, y) ∧
      ∀ (later : Nat) x, place < later → xs[later]? = some x → x.1 ≠ k := by
  obtain ⟨before, after, hsplit, hbefore⟩ := List.lookup_eq_some_iff.mp h
  -- In the list the right way round, what the search passed over stands behind the hit.
  have hxs : xs = after.reverse ++ (k, y) :: before.reverse := by
    rw [← List.reverse_reverse xs, hsplit]
    simp
  refine ⟨after.length, by simp [hxs], ?_⟩
  rintro later x hlt hx rfl
  have hmem : x ∈ before := by
    rw [hxs, List.getElem?_append_right (by simp; omega), List.getElem?_cons,
      if_neg (by simp; omega)] at hx
    exact List.mem_reverse.mp (List.mem_of_getElem? hx)
  simpa using hbefore x hmem

theorem map_fst_find?_eq_some_iff {xs : List (β × κ)} {y : β} (hnodup : (xs.map Prod.snd).Nodup) :
    (xs.find? (·.2 == k)).map Prod.fst = some y ↔ (y, k) ∈ xs := by
  rw [Option.map_eq_some_iff]
  constructor
  · rintro ⟨x, hx, rfl⟩
    obtain ⟨hmem, rfl⟩ := (find?_key_eq_some_iff hnodup).mp hx
    exact hmem
  · intro hmem
    exact ⟨(y, k), (find?_key_eq_some_iff hnodup).mpr ⟨hmem, rfl⟩, rfl⟩

end Keys

/-! ### Leaving elements out -/

/-- Elements that contribute nothing may be left out. -/
theorem flatMap_filter_of_nil {p : α → Bool} {f : α → List β} {xs : List α}
    (h : ∀ x ∈ xs, p x = false → f x = []) : (xs.filter p).flatMap f = xs.flatMap f := by
  induction xs with
  | nil => rfl
  | cons x xs ih =>
      have hrest := ih fun x' hx' => h x' (List.mem_cons_of_mem x hx')
      cases hp : p x with
      | true => simp [hp, hrest]
      | false => simp [hp, hrest, h x List.mem_cons_self hp]

theorem sum_map_filter {p : α → Bool} {f : α → Nat} {xs : List α}
    (h : ∀ x ∈ xs, p x = false → f x = 0) : ((xs.filter p).map f).sum = (xs.map f).sum := by
  induction xs with
  | nil => rfl
  | cons x xs ih =>
      have hrest := ih fun x' hx' => h x' (List.mem_cons_of_mem x hx')
      cases hp : p x with
      | true => simp [hp, hrest]
      | false => simp [hp, hrest, h x List.mem_cons_self hp]

end SceneBatch
