import Mathlib

/-!
# Lists of partial results

A list is decoded, or looked up, element by element with `List.mapM`; the whole succeeds exactly
when each element does. Both `mapM_eq_some_iff` and `mapM_eq_ok_iff` say so with
`List.Forall₂`, which is the form that inductions over such lists work with. Otherwise the first
element that fails decides (`mapM_eq_error_iff`). A run that goes through a list with `List.foldlM`
keeps what each step keeps (`foldlM_induction`).
-/

namespace SceneBatch

variable {ε α β : Type}

/-- A computation that succeeds after a first step: that step succeeded, and so did the rest. -/
theorem exists_of_bind_eq_ok {x : Except ε α} {f : α → Except ε β} {b : β}
    (h : x >>= f = .ok b) : ∃ a, x = .ok a ∧ f a = .ok b := by
  cases x with
  | error e => cases h
  | ok a => exact ⟨a, rfl, h⟩

/-- What is known of the result of a computation that succeeds. -/
theorem exists_of_toOption_map_eq_some {x : Except ε α} {f : α → β} {b : β}
    (h : x.toOption.map f = some b) : ∃ a, x = .ok a ∧ f a = b := by
  cases x with
  | error e => cases h
  | ok a =>
      cases h
      exact ⟨a, rfl, rfl⟩

/-- A computation fails in its first step, or behind it. -/
theorem bind_eq_error_iff {x : Except ε α} {f : α → Except ε β} {fault : ε} :
    x >>= f = .error fault ↔ x = .error fault ∨ ∃ a, x = .ok a ∧ f a = .error fault := by
  cases x with
  | error cause =>
      constructor
      · intro h
        cases h
        exact .inl rfl
      · rintro (h | ⟨a, ha, -⟩)
        · cases h
          rfl
        · cases ha
  | ok a =>
      constructor
      · intro h
        exact .inr ⟨a, rfl, h⟩
      · rintro (h | ⟨a', ha, h⟩)
        · cases h
        · cases ha
          exact h

theorem mapM_eq_ok_iff {f : α → Except ε β} {xs : List α} {ys : List β} :
    xs.mapM f = .ok ys ↔ List.Forall₂ (fun x y => f x = .ok y) xs ys := by
  induction xs generalizing ys with
  | nil =>
      rw [List.mapM_nil, List.forall₂_nil_left_iff]
      exact ⟨fun h => by cases h; rfl, fun h => by rw [h]; rfl⟩
  | cons x xs ih =>
      rw [List.mapM_cons, List.forall₂_cons_left_iff]
      constructor
      · intro h
        obtain ⟨y, hy, h⟩ := exists_of_bind_eq_ok h
        obtain ⟨ys', hys, h⟩ := exists_of_bind_eq_ok h
        cases h
        exact ⟨y, ys', hy, ih.mp hys, rfl⟩
      · rintro ⟨y, ys', hy, hys, rfl⟩
        rw [hy, ih.mpr hys]
        rfl

/-- Decoding a list fails with the fault of the first element that cannot be decoded. -/
theorem mapM_eq_error_iff {f : α → Except ε β} {xs : List α} {fault : ε} :
    xs.mapM f = .error fault ↔
      ∃ before x after, xs = before ++ x :: after ∧ (∀ y ∈ before, ∃ z, f y = .ok z) ∧
        f x = .error fault := by
  -- on the list: its head fails, or it succeeds and the tail fails
  induction xs with
  | nil =>
      rw [List.mapM_nil]
      constructor
      · intro h
        cases h
      · rintro ⟨before, x, after, hxs, -⟩
        simp at hxs
  | cons x xs ih =>
      rw [List.mapM_cons, bind_eq_error_iff]
      constructor
      · rintro (hx | ⟨z, hx, hrest⟩)
        · -- the head fails, and nothing stands before it
          exact ⟨[], x, xs, rfl, by simp, hx⟩
        · -- the head is decoded, so it joins those before the fault
          rcases bind_eq_error_iff.mp hrest with hrest | ⟨zs, -, hnone⟩
          · obtain ⟨before, y, after, rfl, hbefore, hy⟩ := ih.mp hrest
            refine ⟨x :: before, y, after, rfl, ?_, hy⟩
            intro w hw
            rcases List.mem_cons.mp hw with rfl | hw
            · exact ⟨z, hx⟩
            · exact hbefore w hw
          · cases hnone
      · rintro ⟨before, y, after, hxs, hbefore, hy⟩
        -- what stands before the fault says whether it is the head's
        cases before with
        | nil =>
            cases hxs
            exact .inl hy
        | cons _ before =>
            cases hxs
            obtain ⟨z, hz⟩ := hbefore x List.mem_cons_self
            have hrest := ih.mpr ⟨before, y, after, rfl,
              fun w hw => hbefore w (List.mem_cons_of_mem x hw), hy⟩
            exact .inr ⟨z, hz, bind_eq_error_iff.mpr (.inl hrest)⟩

theorem mapM_eq_some_iff {f : α → Option β} {xs : List α} {ys : List β} :
    xs.mapM f = some ys ↔ List.Forall₂ (fun x y => f x = some y) xs ys := by
  induction xs generalizing ys with
  | nil =>
      rw [List.mapM_nil, List.forall₂_nil_left_iff]
      exact ⟨fun h => by cases h; rfl, fun h => by rw [h]; rfl⟩
  | cons x xs ih =>
      rw [List.mapM_cons, List.forall₂_cons_left_iff]
      constructor
      · intro h
        obtain ⟨y, hy, h⟩ := Option.bind_eq_some_iff.mp h
        obtain ⟨ys', hys, h⟩ := Option.bind_eq_some_iff.mp h
        cases h
        exact ⟨y, ys', hy, ih.mp hys, rfl⟩
      · rintro ⟨y, ys', hy, hys, rfl⟩
        rw [hy, ih.mpr hys]
        rfl

theorem mapM_isSome {f : α → Option β} {xs : List α} (h : ∀ x ∈ xs, (f x).isSome) :
    (xs.mapM f).isSome := by
  induction xs with
  | nil => rfl
  | cons x xs ih =>
      obtain ⟨y, hy⟩ := Option.isSome_iff_exists.mp (h x List.mem_cons_self)
      obtain ⟨ys, hys⟩ := Option.isSome_iff_exists.mp
        (ih fun x' hx' => h x' (List.mem_cons_of_mem x hx'))
      rw [List.mapM_cons, hy, hys]
      rfl

/-- To go through a list is to go through its places. -/
theorem mapM_range {f : Nat → Option β} {g : α → Option β} {xs : List α}
    (h : ∀ k x, xs[k]? = some x → f k = g x) : (List.range xs.length).mapM f = xs.mapM g := by
  induction xs generalizing f with
  | nil => rfl
  | cons x xs ih =>
      have hrest : (List.range xs.length).mapM (f ∘ Nat.succ) = xs.mapM g :=
        ih fun k x' hx' => h (k + 1) x' hx'
      rw [List.length_cons, List.range_succ_eq_map, List.mapM_cons, List.mapM_cons, List.mapM_map,
        h 0 x rfl]
      show (g x).bind (fun y => ((List.range xs.length).mapM (f ∘ Nat.succ)).bind _) = _
      rw [hrest]
      rfl

/-- An element of a list has a match in a matching one. -/
theorem exists_mem_of_forall₂ {R : α → β → Prop} {xs : List α} {ys : List β}
    (h : List.Forall₂ R xs ys) {x : α} (hx : x ∈ xs) : ∃ y ∈ ys, R x y := by
  induction h with
  | nil => cases hx
  | cons hxy _ ih =>
      rcases List.mem_cons.mp hx with rfl | hx
      · exact ⟨_, List.mem_cons_self, hxy⟩
      · obtain ⟨y, hy, hxy⟩ := ih hx
        exact ⟨y, List.mem_cons_of_mem _ hy, hxy⟩

/-- Where each element of a list has a match, the list has a matching one. -/
theorem exists_forall₂ {R : α → β → Prop} {xs : List α} (h : ∀ x ∈ xs, ∃ y, R x y) :
    ∃ ys, List.Forall₂ R xs ys := by
  induction xs with
  | nil => exact ⟨[], .nil⟩
  | cons x xs ih =>
      obtain ⟨y, hy⟩ := h x List.mem_cons_self
      obtain ⟨ys, hys⟩ := ih fun x' hx' => h x' (List.mem_cons_of_mem x hx')
      exact ⟨y :: ys, .cons hy hys⟩

/-- What each step of a run keeps is kept by the run. -/
theorem foldlM_induction {f : β → α → Option β} {P : β → Prop} {xs : List α}
    (hstep : ∀ b, ∀ x ∈ xs, ∀ b', P b → f b x = some b' → P b') {b b' : β} (hb : P b)
    (h : xs.foldlM f b = some b') : P b' := by
  induction xs generalizing b with
  | nil =>
      cases h
      exact hb
  | cons x xs ih =>
      rw [List.foldlM_cons] at h
      obtain ⟨c, hc, hrest⟩ := Option.bind_eq_some_iff.mp h
      exact ih (fun b y hy => hstep b y (List.mem_cons_of_mem x hy))
        (hstep b x List.mem_cons_self c hb hc) hrest

end SceneBatch
