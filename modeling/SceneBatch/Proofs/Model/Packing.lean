import SceneBatch.Proofs.Gltf.Container
import SceneBatch.Proofs.ListLemmas
import SceneBatch.Proofs.Model.Layout

/-!
# Samples can be read back

A sample is built in steps, which add runs of values or set members of the document. Each run stands
in a view of its own, behind those before, and no later step changes what is read from it
(`SampleLayout.runs?_concat`). So the document of a sample leads back to all runs that it was given,
and its container falls into the document and the buffer (`Sample.isReadable_ofSteps`).
-/

namespace SceneBatch

/-! ### Runs of values -/

/-- The values that fill a byte string, `size` bytes for each. -/
def Bytes.values? {α : Type} (size : Nat) (decode : Bytes → α) (b : Bytes) : Option (List α) :=
  if size ∣ b.length then some ((b.pieces size).map decode) else none

theorem Bytes.values?_flatMap {α : Type} {size : Nat} {encode : α → Bytes} {decode : Bytes → α}
    (hsize : 0 < size) (hlength : ∀ x, (encode x).length = size)
    (hback : ∀ x, decode (encode x) = x) (xs : List α) :
    values? size decode (xs.flatMap encode) = some xs := by
  have hwhole : size ∣ (xs.flatMap encode).length := by
    rw [length_flatMap_of_length fun x _ => hlength x]
    exact Nat.dvd_mul_left ..
  rw [values?, if_pos hwhole, pieces_flatMap hlength hsize, List.map_map]
  exact congrArg some (List.map_id'' hback xs)

/-- Values of one accessor: single-precision numbers by their bit patterns, or integers of two
bytes. -/
inductive SampleRun where
  | singles (patterns : List UInt32)
  | shorts (values : List UInt16)
  deriving DecidableEq

namespace SampleRun

/-- How one value is stored. -/
def component : SampleRun → Gltf.ComponentType
  | singles _ => .float32
  | shorts _ => .uint16

/-- The bytes of the values. -/
def toBytes : SampleRun → Bytes
  | singles patterns => patterns.flatMap fun p => Bytes.ofNat 4 p.toNat
  | shorts values => values.flatMap fun x => Bytes.ofNat 2 x.toNat

/-- The values of a type that fill a byte string, lowest bytes first. -/
def ofBytes? (component : Gltf.ComponentType) (b : Bytes) : Option SampleRun :=
  match component with
  | .float32 => (b.values? component.size fun piece => UInt32.ofNat piece.toNat).map singles
  | .uint16 => (b.values? component.size fun piece => UInt16.ofNat piece.toNat).map shorts
  | _ => none

theorem ofBytes?_toBytes (r : SampleRun) : ofBytes? r.component r.toBytes = some r := by
  cases r with
  | singles patterns =>
      have hback : ∀ p : UInt32, UInt32.ofNat (Bytes.toNat (Bytes.ofNat 4 p.toNat)) = p := by
        intro p
        rw [Bytes.toNat_ofNat_four p.toNat_lt, UInt32.ofNat_toNat]
      have hpatterns : (singles patterns).toBytes.values? 4
          (fun piece => UInt32.ofNat (Bytes.toNat piece)) = some patterns :=
        Bytes.values?_flatMap (by decide) (fun p => Bytes.length_ofNat 4 p.toNat) hback patterns
      exact congrArg (Option.map singles) hpatterns
  | shorts values =>
      have hback : ∀ x : UInt16, UInt16.ofNat (Bytes.toNat (Bytes.ofNat 2 x.toNat)) = x := by
        intro x
        rw [Bytes.toNat_ofNat_of_lt x.toNat_lt, UInt16.ofNat_toNat]
      have hvalues : (shorts values).toBytes.values? 2
          (fun piece => UInt16.ofNat (Bytes.toNat piece)) = some values :=
        Bytes.values?_flatMap (by decide) (fun x => Bytes.length_ofNat 2 x.toNat) hback values
      exact congrArg (Option.map shorts) hvalues

end SampleRun

/-! ### Layouts -/

/-- Views start at multiples of four, each behind those before, and lie within the buffer. -/
structure SampleLayout.IsSound (l : SampleLayout) : Prop where
  aligned : ∀ v ∈ l.views, 4 ∣ v.offset
  within : ∀ v ∈ l.views, v.offset + v.length ≤ l.length
  disjoint : l.views.Pairwise fun v w => v.offset + v.length ≤ w.offset

/-- The values of an accessor, read from its view of a buffer. -/
def AccessorLayout.run? (views : List SampleView) (data : Bytes) (a : AccessorLayout) :
    Option SampleRun := do
  let view ← views[a.view]?
  SampleRun.ofBytes? a.component (← data.slice? view.offset view.length)

/-- The values of all accessors, read from a buffer. -/
def SampleLayout.runs? (l : SampleLayout) (data : Bytes) : Option (List SampleRun) :=
  l.accessors.mapM (AccessorLayout.run? l.views data)

/-- What an accessor reads stays the same when views and bytes are added behind those there. -/
theorem AccessorLayout.run?_of_isPrefix {views views' : List SampleView} {data data' : Bytes}
    (hviews : views <+: views') (hdata : data <+: data') {a : AccessorLayout} {r : SampleRun}
    (h : a.run? views data = some r) : a.run? views' data' = some r := by
  obtain ⟨view, hview, h⟩ := Option.bind_eq_some_iff.mp h
  obtain ⟨part, hpart, h⟩ := Option.bind_eq_some_iff.mp h
  exact Option.bind_eq_some_iff.mpr ⟨view, getElem?_of_isPrefix hviews hview,
    Option.bind_eq_some_iff.mpr ⟨part, Bytes.slice?_of_isPrefix hdata hpart, h⟩⟩

namespace SampleLayout

variable {l : SampleLayout}

/-- A view behind the buffer leaves the layout sound. -/
theorem IsSound.concat (h : l.IsSound) {offset : Nat} (haligned : 4 ∣ offset)
    (hoffset : l.length ≤ offset) (length : Nat) (accessors : List AccessorLayout) :
    IsSound ⟨offset + length, l.views ++ [⟨offset, length⟩], accessors⟩ where
  aligned := by
    intro v hv
    rcases List.mem_append.mp hv with hv | hv
    · exact h.aligned v hv
    · rw [List.mem_singleton.mp hv]
      exact haligned
  within := by
    intro v hv
    rcases List.mem_append.mp hv with hv | hv
    · exact (h.within v hv).trans (hoffset.trans (Nat.le_add_right offset length))
    · rw [List.mem_singleton.mp hv]
  -- The new view starts at or behind the end of all that came before.
  disjoint := by
    refine List.pairwise_append.mpr ⟨h.disjoint, List.pairwise_singleton .., ?_⟩
    intro v hv w hw
    rw [List.mem_singleton.mp hw]
    exact (h.within v hv).trans hoffset

/-- A run behind the buffer is read after those before, which are read as before. -/
theorem runs?_concat {data front : Bytes} {runs : List SampleRun} (h : l.runs? data = some runs)
    (hdata : data <+: front) (r : SampleRun) (length : Nat) :
    runs? ⟨length, l.views ++ [⟨front.length, r.toBytes.length⟩],
        l.accessors ++ [⟨r.component, l.views.length⟩]⟩ (front ++ r.toBytes) =
      some (runs ++ [r]) := by
  -- accessors lead to views by place, so that views and bytes behind them make no difference
  have hold : List.Forall₂ (fun a r' => AccessorLayout.run?
      (l.views ++ [⟨front.length, r.toBytes.length⟩]) (front ++ r.toBytes) a = some r')
      l.accessors runs := by
    refine (mapM_eq_some_iff.mp h).imp fun a r' ha => ?_
    exact AccessorLayout.run?_of_isPrefix (List.prefix_append ..)
      (hdata.trans (List.prefix_append ..)) ha
  have hslice : (front ++ r.toBytes).slice? front.length r.toBytes.length = some r.toBytes := by
    have hpart := Bytes.slice?_append front r.toBytes []
    rwa [List.append_nil] at hpart
  have hnew : AccessorLayout.run? (l.views ++ [⟨front.length, r.toBytes.length⟩])
      (front ++ r.toBytes) ⟨r.component, l.views.length⟩ = some r := by
    rw [AccessorLayout.run?, List.getElem?_concat_length, Option.bind_eq_bind, Option.bind_some,
      hslice, Option.bind_eq_bind, Option.bind_some, SampleRun.ofBytes?_toBytes]
  exact mapM_eq_some_iff.mpr (List.rel_append hold (.cons hnew .nil))

end SampleLayout

/-! ### Steps -/

/-- A step in which a sample is built. -/
inductive SampleStep where
  | run (values : SampleRun) (shape : String) (width : Nat)
  | member (key : String) (value : Json)

namespace SampleStep

/-- What a step does. -/
def perform : SampleStep → StateM Sample Unit
  | run (.singles patterns) shape width => discard (Sample.addPatterns patterns shape width)
  | run (.shorts values) shape width => discard (Sample.addShorts values shape width)
  | member key value => Sample.setMember key value

/-- The values that a step adds. -/
def run? : SampleStep → Option SampleRun
  | run values _ _ => some values
  | member _ _ => none

/-- Elements have at least one value, and members that tell how the buffer is laid out are not set
by hand. -/
def IsAllowed : SampleStep → Prop
  | run _ _ width => 0 < width
  | member key _ => key ∉ Sample.layoutKeys

end SampleStep

namespace Sample

/-- The sample that a list of steps builds. -/
def ofSteps (steps : List SampleStep) : Sample := build (steps.forM SampleStep.perform)

/-- A sample holds the given runs: they are read back through its layout. -/
structure Packs (s : Sample) (runs : List SampleRun) : Prop where
  sound : s.layout.IsSound
  runs : s.layout.runs? s.data = some runs
  members : ∀ m ∈ s.members, m.1 ∉ layoutKeys

variable {s : Sample} {runs : List SampleRun}

theorem Packs.empty : Packs {} [] where
  sound := ⟨List.forall_mem_nil _, List.forall_mem_nil _, List.Pairwise.nil⟩
  runs := rfl
  members := List.forall_mem_nil _

theorem layout_addAccessor (s : Sample) (b : Bytes) (values : SampleValues) (count : Nat)
    (shape : String) : (s.addAccessor b values count shape).layout =
      ⟨(s.data.padTo 4 0).length + b.length,
        s.layout.views ++ [⟨(s.data.padTo 4 0).length, b.length⟩],
        s.layout.accessors ++ [⟨values.component, s.layout.views.length⟩]⟩ := by
  rw [layout, SampleLayout.mk.injEq]
  exact ⟨List.length_append, rfl, List.map_append⟩

/-- A run that is added stands behind those before. -/
theorem Packs.add (h : s.Packs runs) {r : SampleRun} {values : SampleValues}
    (hcomponent : values.component = r.component) (count : Nat) (shape : String) :
    (s.addAccessor r.toBytes values count shape).Packs (runs ++ [r]) := by
  -- zeros may stand between the bytes before and the new ones, which no view covers
  obtain ⟨zeros, -, hpadded, haligned⟩ := Bytes.exists_padTo (by decide : 0 < 4) 0 s.data
  have hdata : s.data <+: s.data.padTo 4 0 := by
    rw [hpadded]
    exact List.prefix_append ..
  refine ⟨?_, ?_, h.members⟩
  · rw [layout_addAccessor]
    exact h.sound.concat haligned hdata.length_le ..
  · rw [layout_addAccessor, hcomponent]
    exact SampleLayout.runs?_concat h.runs hdata r _

theorem Packs.setMember (h : s.Packs runs) {key : String} (hkey : key ∉ layoutKeys)
    (value : Json) : ((setMember key value).run s).2.Packs runs := by
  refine ⟨h.sound, h.runs, fun m hm => ?_⟩
  rcases Json.mem_of_mem_insertMember hm with rfl | hm
  · exact hkey
  · exact h.members m hm

theorem Packs.perform (h : s.Packs runs) {step : SampleStep} (hstep : step.IsAllowed) :
    (step.perform.run s).2.Packs (runs ++ step.run?.toList) := by
  cases step with
  | run values shape width =>
      cases values with
      | singles patterns =>
          have hcomponent (low high : List Float32) : (SampleValues.singles low high).component =
              (SampleRun.singles patterns).component := rfl
          exact h.add (hcomponent ..) _ shape
      | shorts values =>
          have hcomponent : SampleValues.shorts.component = (SampleRun.shorts values).component :=
            rfl
          exact h.add hcomponent _ shape
  | member key value =>
      rw [SampleStep.run?, Option.toList_none, List.append_nil]
      exact h.setMember hstep value

theorem Packs.forM (h : s.Packs runs) {steps : List SampleStep}
    (hsteps : ∀ step ∈ steps, step.IsAllowed) :
    ((steps.forM SampleStep.perform).run s).2.Packs (runs ++ steps.filterMap SampleStep.run?) := by
  -- on the steps, from any sample: the first one leaves a sample that packs its run as well
  induction steps generalizing s runs with
  | nil => exact (List.append_nil runs).symm ▸ h
  | cons step steps ih =>
      have hrest := ih (h.perform (hsteps step List.mem_cons_self))
        fun later hlater => hsteps later (List.mem_cons_of_mem step hlater)
      have hsplit : (step :: steps).filterMap SampleStep.run? =
          step.run?.toList ++ steps.filterMap SampleStep.run? := by
        rw [List.filterMap_cons]
        cases step.run? with
        | none => rfl
        | some r => rfl
      rw [List.append_assoc, ← hsplit] at hrest
      exact hrest

/-! ### Reading back -/

/-- A sample can be read back: each document of it leads to the runs that its buffer holds, and its
container falls into its document and its buffer. -/
structure IsReadable (s : Sample) (runs : List SampleRun) : Prop where
  document : ∀ uri, ∃ l, SampleLayout.ofJson? (s.document uri) = some l ∧
    l.length = s.data.length ∧ l.IsSound ∧ l.runs? s.data = some runs
  container : Gltf.Container.IsPacked (Bytes.ofText (s.document none).compact) s.data s.toBytes

theorem isReadable_ofSteps {steps : List SampleStep} (hsteps : ∀ step ∈ steps, step.IsAllowed)
    (hsize : (ofSteps steps).toBytes.length < UInt32.size) :
    (ofSteps steps).IsReadable (steps.filterMap SampleStep.run?) := by
  have hpacks : (ofSteps steps).Packs (steps.filterMap SampleStep.run?) := Packs.empty.forM hsteps
  exact {
    document := fun uri =>
      ⟨(ofSteps steps).layout, layout_document hpacks.members uri, rfl, hpacks.sound, hpacks.runs⟩
    container := Gltf.Container.isPacked_toBytes hsize }

/-- Three integers take six bytes, so that zeros stand before the numbers behind them. Neither of
the two numbers has bounds that a document can state. -/
def threeSteps : List SampleStep :=
  [.run (.shorts [1, 2, 3]) "SCALAR" 1, .member "scene" (.nat 0),
    .run (.singles [0x7fc00001, 0xff800000]) "SCALAR" 1]

theorem threeSteps_isReadable : (∀ step ∈ threeSteps, step.IsAllowed) ∧
    (ofSteps threeSteps).toBytes.length < UInt32.size ∧
    (ofSteps threeSteps).IsReadable [.shorts [1, 2, 3], .singles [0x7fc00001, 0xff800000]] := by
  have hsteps : ∀ step ∈ threeSteps, step.IsAllowed := by
    simp [threeSteps, SampleStep.IsAllowed, layoutKeys]
  have hsize : (ofSteps threeSteps).toBytes.length < UInt32.size := by decide +kernel
  exact ⟨hsteps, hsize, isReadable_ofSteps hsteps hsize⟩

end Sample

end SceneBatch
