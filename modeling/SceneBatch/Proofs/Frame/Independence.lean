import SceneBatch.Proofs.Frame.Units

/-!
# Frames do not depend on earlier frames

What is drafted depends on the assets only for the models and skeletons that are found, the textures
that are known and the number of units (`Assets.Agree`). What the units have from earlier frames
decides neither the batch nor what the units have in the end: `build_independent` compares two
frames with different pasts. To build the same frame again leaves the library as it is, so that no
layer becomes stale.
-/

namespace SceneBatch

open Batch FrameDraft

/-! ### Calls that find the same -/

theorem InstanceRegistry.bindMaterial_congr (r : InstanceRegistry) (place : Nat) (name : String)
    {textures textures' : TextureLibrary} (h : textures.Alike textures') :
    (r.bindMaterial place name textures').value.2.1 =
        (r.bindMaterial place name textures).value.2.1 ∧
      (r.bindMaterial place name textures).value.2.2.Alike
        (r.bindMaterial place name textures').value.2.2 := by
  -- an entry that has its material keeps it
  cases hmaterial : r.material? place with
  | some unit =>
      rw [bindMaterial, bindMaterial, hmaterial]
      exact ⟨rfl, h⟩
  | none =>
      -- whether a unit is given depends on what the library takes, and that is the same
      by_cases hunit : r.HasUnit textures name
      · have hunit' : r.HasUnit textures' name := ⟨hunit.1, h.takes_iff.mpr hunit.2⟩
        rw [bindMaterial_of_hasUnit hmaterial hunit, bindMaterial_of_hasUnit hmaterial hunit']
        refine ⟨rfl, ?_⟩
        exact (textures.alike_bind _ _).symm.trans (h.trans (textures'.alike_bind _ _))
      · have hunit' : ¬r.HasUnit textures' name := fun hhas =>
          hunit ⟨hhas.1, h.takes_iff.mp hhas.2⟩
        rw [bindMaterial_of_not_hasUnit hmaterial hunit,
          bindMaterial_of_not_hasUnit hmaterial hunit']
        exact ⟨rfl, h⟩

namespace Batch

variable {b : Batch} {c c' : Call}

theorem commit_congr (b : Batch) (p : PendingEntry) {textures textures' : TextureLibrary}
    (h : textures.Alike textures') :
    (commit (b, textures') p).value.1 = (commit (b, textures) p).value.1 ∧
      (commit (b, textures) p).value.2.Alike (commit (b, textures') p).value.2 := by
  unfold commit
  cases p.texture with
  | none => exact ⟨rfl, h⟩
  | some name =>
      obtain ⟨hregistry, htextures⟩ :=
        b.registry.addEntry.bindMaterial_congr b.entries.length name h
      simp only [Logged.bind_value, Logged.pure_value, hregistry]
      exact ⟨trivial, htextures⟩

theorem commits_congr (b : Batch) (pending : List PendingEntry)
    {textures textures' : TextureLibrary} (h : textures.Alike textures') :
    (pending.foldl (fun state p => (commit state p).value) (b, textures')).1 =
        (pending.foldl (fun state p => (commit state p).value) (b, textures)).1 ∧
      (pending.foldl (fun state p => (commit state p).value) (b, textures)).2.Alike
        (pending.foldl (fun state p => (commit state p).value) (b, textures')).2 := by
  induction pending generalizing b textures textures' with
  | nil => exact ⟨rfl, h⟩
  | cons p ps ih =>
      obtain ⟨hbatch, htextures⟩ := commit_congr b p h
      rw [List.foldl_cons, List.foldl_cons, ← Prod.mk.eta (p := (commit (b, textures') p).value),
        hbatch]
      exact ih _ htextures

/-- Two calls ask for the same, and find the same models and libraries that take the same. -/
structure Call.FindsSame (c c' : Call) : Prop where
  model : c'.model = c.model
  transform : c'.transform = c.transform
  animation : c'.animation = c.animation
  models : ∀ name, c'.models.find? name = c.models.find? name
  textures : c.textures.Alike c'.textures

theorem plan_congr {models models' : ModelLibrary}
    (h : ∀ name, models'.find? name = models.find? name) (b : Batch) (name : String) :
    b.plan models' name = b.plan models name := by
  rw [plan, plan, ModelLibrary.get, ModelLibrary.get, h]

theorem call_congr (h : c.FindsSame c') (b : Batch) :
    b.answer c' = b.answer c ∧ b.after c' = b.after c ∧
      (b.texturesAfter c).Alike (b.texturesAfter c') := by
  have hplans : b.plan c'.models c'.model = b.plan c.models c.model := by
    rw [h.model, plan_congr h.models]
  -- A plan reads the models only; the textures matter from the commits on.
  cases hplan : b.plan c.models c.model with
  | error fault =>
      have hcall := addModel_of_plan_eq_error hplan c.transform c.animation c.textures
      have hcall' := addModel_of_plan_eq_error (hplans.trans hplan) c'.transform c'.animation
        c'.textures
      rw [answer, answer, after, after, texturesAfter, texturesAfter, hcall, hcall']
      exact ⟨rfl, rfl, h.textures⟩
  | ok planned =>
      have hcall := addModel_of_plan_eq_ok hplan
      have hcall' := addModel_of_plan_eq_ok (hplans.trans hplan)
      obtain ⟨hbatch, htextures⟩ := commits_congr b planned.2.2 h.textures
      rw [answer, answer, after, after, texturesAfter, texturesAfter, hcall, hcall']
      refine ⟨rfl, ?_, htextures⟩
      simp only [commitAll, pushAll, hbatch, h.model, h.transform, h.animation]

end Batch

/-! ### Drafts that differ in their libraries only -/

namespace FrameDraft

/-- Drafts that are the same but for their texture libraries, which take the same. -/
structure Agree (d d' : FrameDraft) : Prop where
  batch : d'.batch = d.batch
  palette : d'.palette = d.palette
  textures : d.textures.Alike d'.textures
  stats : d'.stats = d.stats

variable {models models' : ModelLibrary} {d d' : FrameDraft}

theorem Agree.skipped (h : d.Agree d') : d.skipped.Agree d'.skipped :=
  ⟨h.batch, h.palette, h.textures, by rw [FrameDraft.skipped, FrameDraft.skipped, h.stats]⟩

theorem Agree.findsSame (h : d.Agree d') (hmodels : ∀ name, models'.find? name = models.find? name)
    (p : Placement) : (d.request models p).FindsSame (d'.request models' p) :=
  ⟨rfl, rfl, rfl, hmodels, h.textures⟩

theorem Agree.visitBy (h : d.Agree d') (hmodels : ∀ name, models'.find? name = models.find? name)
    (p : Option Placement) : (d.visitBy models p).Agree (d'.visitBy models' p) := by
  cases p with
  | none => exact h.skipped
  | some p =>
      -- both calls find the same, so they are answered alike
      obtain ⟨hanswer, hafter, htextures⟩ := call_congr (h.findsSame hmodels p) d.batch
      rw [FrameDraft.visitBy, FrameDraft.visitBy, Option.bind_some, Option.bind_some]
      cases hcall : d.batch.answer (d.request models p) with
      | error fault =>
          have hcall' : d'.batch.answer (d'.request models' p) = .error fault := by
            rw [h.batch, hanswer, hcall]
          rw [place_of_error hcall, place_of_error hcall']
          exact h.skipped
      | ok _ =>
          have hcall' : d'.batch.answer (d'.request models' p) = .ok () := by
            rw [h.batch, hanswer, hcall]
          rw [place_of_ok hcall, place_of_ok hcall']
          refine ⟨?_, ?_, ?_, ?_⟩
          · rw [Option.getD_some, Option.getD_some, h.batch, hafter]
          · rw [Option.getD_some, Option.getD_some, h.palette]
          · rw [Option.getD_some, Option.getD_some, h.batch]
            exact htextures
          · rw [Option.getD_some, Option.getD_some, h.stats]

theorem Agree.walk {ε : Type} {step step' : FrameDraft → ε → Logged FrameDraft}
    {wish : List (Mat4 Float32) → ε → Option Placement} (hstep : Follows models step wish)
    (hstep' : Follows models' step' wish) (hmodels : ∀ name, models'.find? name = models.find? name)
    (h : d.Agree d') (es : List ε) : (walk step d es).Agree (walk step' d' es) := by
  -- on the entities: after each visit the drafts still agree
  induction es generalizing d d' with
  | nil => exact h
  | cons e es ih =>
      rw [walk_cons, walk_cons]
      apply ih
      show (step d e).value.Agree (step' d' e).value
      -- what the entity asks for depends on the palette only, which is the same
      rw [hstep d e, hstep' d' e, h.palette]
      exact h.visitBy hmodels _

end FrameDraft

/-! ### Frames with different pasts -/

/-- Assets that have the same models and skeletons, and libraries that take the same textures. What
the units of the libraries have may be different. -/
structure Assets.Agree (a a' : Assets) : Prop where
  models : ∀ name, a'.models.find? name = a.models.find? name
  skeletons : ∀ name, a'.skeletons.find? name = a.skeletons.find? name
  textures : a.textures.Alike a'.textures

namespace Frame

variable {f f' : Frame} {w : World} {a a' : Assets} {c : RenderConfig}

theorem agree_drafted_of_agree (hf : f.KeepsOnly c) (hf' : f'.KeepsOnly c) (ha : a.Agree a')
    (w : World) : (f.drafted w a).Agree (f'.drafted w a') := by
  have hstart : (f.start a).Agree (f'.start a') :=
    ⟨hf'.batch.trans hf.batch.symm, rfl, ha.textures, rfl⟩
  have hhalfway : (f.halfway w a).Agree (f'.halfway w a') :=
    hstart.walk (follows_addStatic a.models) (follows_addStatic a'.models) ha.models w.staticMeshes
  -- an animated model asks for the same in both runs
  have hwish : animatedPlacement? a'.skeletons f'.maxJoints f'.paletteSlots =
      animatedPlacement? a.skeletons f.maxJoints f.paletteSlots := by
    funext palette e
    rw [animatedPlacement?, animatedPlacement?, ha.skeletons, hf.maxJoints, hf'.maxJoints,
      hf.paletteSlots, hf'.paletteSlots]
  have hanimated := follows_addAnimated a'.models a'.skeletons f'.maxJoints f'.paletteSlots
  rw [hwish] at hanimated
  exact hhalfway.walk (follows_addAnimated a.models a.skeletons f.maxJoints f.paletteSlots)
    hanimated ha.models w.animatedMeshes

theorem finish_congr (hf : f.KeepsOnly c) (hf' : f'.KeepsOnly c) {d d' : FrameDraft}
    (hd : d.Agree d') (lights : List LightRecord) : f'.finish lights d' = f.finish lights d := by
  simp only [finish, hd.batch, hd.palette, hd.stats, hf.maxJoints, hf'.maxJoints, hf.paletteSlots,
    hf'.paletteSlots, hf.maxLights, hf'.maxLights]

theorem build_eq_of_agree (hf : f.KeepsOnly c) (hf' : f'.KeepsOnly c) (ha : a.Agree a')
    (w : World) : (f'.build w a').value.1 = (f.build w a).value.1 := by
  rw [build_value, build_value, hf.maxLights, hf'.maxLights]
  exact finish_congr hf hf' (agree_drafted_of_agree hf hf' ha w) _

/-- The units of a frame have the textures of its batch, whatever they had. -/
theorem bound?_build (f : Frame) (w : World) (a : Assets) {unit : Nat} {name : String}
    (h : ((f.drafted w a).batch.boundNames a.models)[unit]? = some name) :
    (f.build w a).value.2.textures.bound? unit = some name := by
  have hbinds := f.binds_drafted w a
  rw [build_value]
  show (f.drafted w a).textures.bound? unit = _
  rw [hbinds.textures, TextureLibrary.bound?_bindAll hbinds.takes, h]
  rfl

/-- A frame whose textures are bound already leaves the library as it is. -/
theorem textures_build_of_bound
    (h : ∀ unit name, ((f.drafted w a).batch.boundNames a.models)[unit]? = some name →
      a.textures.bound? unit = some name) :
    (f.build w a).value.2 = a := by
  have hbinds := f.binds_drafted w a
  rw [build_value, hbinds.textures, TextureLibrary.bindAll_of_bound h]

theorem boundNames_congr {models models' : ModelLibrary}
    (h : ∀ name, models'.find? name = models.find? name) (b : Batch) :
    b.boundNames models' = b.boundNames models := by
  simp only [boundNames, baseColor?, h]

/-- Any frame of the configuration that is built of the same world once more is the same, and
changes nothing. -/
theorem build_again (hf : f.KeepsOnly c) (hf' : f'.KeepsOnly c) (w : World) (a : Assets) :
    (f'.build w (f.build w a).value.2).value = (f.build w a).value := by
  have hagree : a.Agree (f.build w a).value.2 :=
    ⟨fun _ => rfl, fun _ => rfl, (f.binds_drafted w a).alike⟩
  have hbatch := (agree_drafted_of_agree hf hf' hagree w).batch
  apply Prod.ext (build_eq_of_agree hf hf' hagree w)
  -- the first build bound every name to its unit
  apply textures_build_of_bound
  intro unit name hname
  rw [hbatch] at hname
  exact bound?_build f w a hname

/-- Two frames of one configuration with different pasts, built of one world from assets that
agree, are the same, and their units have the same textures. To build a frame again changes
nothing. -/
theorem build_independent (hf : f.MadeFor c) (hf' : f'.MadeFor c) (ha : a.Agree a') (w : World) :
    (f'.build w a').value.1 = (f.build w a).value.1 ∧
      (∀ unit < (f.build w a).value.1.batch.registry.bindings.length, ∃ name,
        (f.build w a).value.2.textures.bound? unit = some name ∧
          (f'.build w a').value.2.textures.bound? unit = some name) ∧
      ((f.build w a).value.1.build w (f.build w a).value.2).value = (f.build w a).value := by
  have hkeeps := hf.keepsOnly
  have hkeeps' := hf'.keepsOnly
  have hbatch := (agree_drafted_of_agree hkeeps hkeeps' ha w).batch
  refine ⟨build_eq_of_agree hkeeps hkeeps' ha w, ?_, ?_⟩
  · -- a unit that the batch uses was bound to a name of its own, in both libraries
    intro unit hunit
    have hbinds := f.binds_drafted w a
    have hlt : unit < ((f.drafted w a).batch.boundNames a.models).length := by
      rw [← hbinds.length_bindings]
      exact hunit
    have hname := List.getElem?_eq_getElem hlt
    refine ⟨_, bound?_build f w a hname, bound?_build f' w a' ?_⟩
    rw [hbatch, boundNames_congr ha.models, hname]
  · exact build_again hkeeps (hf.built w a).keepsOnly w a

/-- Frames of the defaults with a painted model: the first one, from assets whose first unit is
free, and the one after it, from assets whose first unit has another texture. -/
theorem second_build_independent :
    let c : RenderConfig := {}
    let f := Frame.empty c
    let f' := (f.build .plain (.painted c)).value.1
    let l := (Assets.painted c).textures.register "other" ⟨⟨"other"⟩, none⟩
    let a : Assets := { Assets.painted c with textures := l }
    let a' : Assets := { a with textures := (l.bind "other" 0).value.2 }
    let g := (f.build .plain a).value
    let g' := (f'.build .plain a').value
    (f.MadeFor c ∧ f'.MadeFor c ∧ a.Agree a') ∧
      (a.textures.bound? 0 = none ∧ a'.textures.bound? 0 = some "other") ∧
      g.1.batch.registry.bindings.length = 1 ∧ g'.1 = g.1 ∧
      (∀ unit < g.1.batch.registry.bindings.length, ∃ name,
        g.2.textures.bound? unit = some name ∧ g'.2.textures.bound? unit = some name) ∧
      (g.1.build .plain g.2).value = g := by
  intro c f f' l a a' g g'
  have hf : f.MadeFor c := .new
  have hf' : f'.MadeFor c := .built .new .plain (.painted c)
  have ha : a.Agree a' := ⟨fun _ => rfl, fun _ => rfl, l.alike_bind "other" 0⟩
  have hbound : a.textures.bound? 0 = none ∧ a'.textures.bound? 0 = some "other" := by decide
  have hone : g.1.batch.registry.bindings.length = 1 := by decide
  exact ⟨⟨hf, hf', ha⟩, hbound, hone, build_independent hf hf' ha .plain⟩

end Frame

end SceneBatch
