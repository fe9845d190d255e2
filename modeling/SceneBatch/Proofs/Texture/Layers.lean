import SceneBatch.Device.TextureArray
import SceneBatch.Proofs.Texture.Binding

/-!
# Layers of a texture array

A library and the array that shows it go through announcements, bindings and flushes in any order.
`TextureHistory` says what they come to without stale units: the source last announced for each
name, and the texture last bound to each unit. A layer that does not show what its unit came to is
stale, and a flush leaves no such layer (`isCoherent_run`).
-/

namespace SceneBatch

/-! ### The library -/

namespace TextureLibrary

variable {l : TextureLibrary} {name : String} {unit : Nat}

theorem layerSize_bind (l : TextureLibrary) (name : String) (unit : Nat) :
    (l.bind name unit).value.2.layerSize = l.layerSize := by
  by_cases h : l.Takes name unit
  · rw [bind_of_takes h]
    split <;> rfl
  · rw [bind_of_not_takes h]

theorem bound?_register (l : TextureLibrary) (name : String) (source : TextureSource) (u : Nat) :
    (l.register name source).bound? u = l.bound? u := by
  simp only [bound?, register, List.getElem?_map]
  cases l.units[u]? with
  | none => rfl
  | some x =>
      simp only [Option.map_some, Option.bind_eq_bind, Option.bind_some]
      split <;> rfl

theorem bound?_settle (l : TextureLibrary) (u : Nat) : l.settle.bound? u = l.bound? u := by
  simp only [bound?, settle, List.getElem?_map]
  cases l.units[u]? <;> rfl

/-! ### Stale units -/

theorem mem_staleUnits : unit ∈ l.staleUnits ↔ ∃ u, l.units[unit]? = some u ∧ u.isStale = true := by
  simp only [staleUnits, List.mem_map, List.mem_filter, Prod.exists,
    List.mk_mem_zipIdx_iff_getElem?]
  constructor
  · rintro ⟨u, place, ⟨hu, hstale⟩, rfl⟩
    exact ⟨u, hu, hstale⟩
  · rintro ⟨u, hu, hstale⟩
    exact ⟨u, unit, ⟨hu, hstale⟩, rfl⟩

theorem lt_of_mem_staleUnits (h : unit ∈ l.staleUnits) : unit < l.units.length := by
  obtain ⟨u, hu, -⟩ := mem_staleUnits.mp h
  exact (List.getElem?_eq_some_iff.mp hu).1

/-- To announce a texture makes the units stale that it is bound to, and no others. -/
theorem mem_staleUnits_register (source : TextureSource) :
    unit ∈ (l.register name source).staleUnits ↔
      unit ∈ l.staleUnits ∨ l.bound? unit = some name := by
  simp only [mem_staleUnits, register, bound?, List.getElem?_map]
  cases l.units[unit]? with
  | none => simp
  | some u => by_cases hu : u.bound = some name <;> simp [hu]

/-- To bind a texture makes its unit stale unless it had the texture before. -/
theorem mem_staleUnits_bind (h : l.Takes name unit) (other : Nat) :
    other ∈ (l.bind name unit).value.2.staleUnits ↔
      other ∈ l.staleUnits ∨ (other = unit ∧ l.bound? unit ≠ some name) := by
  rw [bind_of_takes h]
  by_cases hbound : l.bound? unit = some name
  · simp [hbound]
  · simp only [hbound, if_false, mem_staleUnits]
    by_cases hother : other = unit
    · subst hother
      simp [List.getElem?_set_self h.2, hbound]
    · simp [List.getElem?_set_ne (Ne.symm hother), hother]

/-! ### Pixels -/

/-- The image of a texture: that in the device's format if it can be read, otherwise that of the
file or the bytes which the model refers to. -/
def sourceImage? (reader : PictureReader) (source : TextureSource) : Option reader.Image :=
  match reader.openFile source.native, source.fallback with
  | .ok image, _ => some image
  | .error _, none => none
  | .error _, some (.file p) => (reader.openFile p).toOption
  | .error _, some (.bytes b) => (reader.ofBytes b).toOption

theorem readTexture_value (reader : PictureReader) (name : String) (source : TextureSource) :
    (readTexture reader name source).value = sourceImage? reader source := by
  unfold readTexture sourceImage?
  cases reader.openFile source.native with
  | ok image => rfl
  | error reason =>
      rw [Logged.bind_value]
      cases source.fallback with
      | none => rfl
      | some image =>
          cases image with
          | file p =>
              dsimp only [Option.map_some, PictureReader.read]
              cases reader.openFile p <;> rfl
          | bytes b =>
              dsimp only [Option.map_some, PictureReader.read]
              cases reader.ofBytes b <;> rfl

/-- The pixels that a source gives in the size of a layer; white where it gives none. -/
def sourceLayer (reader : PictureReader) (size : Nat) (source : TextureSource) : Picture :=
  match sourceImage? reader source with
  | none => .white size
  | some image => reader.resize image size

/-- The layer of a texture depends on its source, and on nothing else of the library. -/
theorem layer_value (l : TextureLibrary) (reader : PictureReader) (name : String) :
    (l.layer reader name).value =
      ((l.find? name).map (sourceLayer reader l.layerSize)).getD (.white l.layerSize) := by
  unfold layer
  cases l.find? name with
  | none => rfl
  | some source =>
      simp only [Logged.bind_value, Option.map_some, Option.getD_some, sourceLayer,
        readTexture_value]
      cases sourceImage? reader source <;> rfl

/-- The layer that a unit is to have: that of its texture, and white if it has none. -/
def unitLayer (l : TextureLibrary) (reader : PictureReader) (unit : Nat) : Picture :=
  ((l.bound? unit).map fun name => (l.layer reader name).value).getD (.white l.layerSize)

theorem unitLayer_congr {l' : TextureLibrary} (hbound : l'.bound? unit = l.bound? unit)
    (hsize : l'.layerSize = l.layerSize)
    (hfind : ∀ name, l.bound? unit = some name → l'.find? name = l.find? name)
    (reader : PictureReader) : l'.unitLayer reader unit = l.unitLayer reader unit := by
  unfold unitLayer
  rw [hbound, hsize]
  cases h : l.bound? unit with
  | none => rfl
  | some name => simp [layer_value, hsize, hfind name h]

end TextureLibrary

/-! ### The array -/

namespace TextureArray

variable {a : TextureArray} {l : TextureLibrary}

theorem layerFor_value (reader : PictureReader) (h : l.layerSize = a.size) (unit : Nat) :
    (a.layerFor reader l unit).value = l.unitLayer reader unit := by
  unfold layerFor TextureLibrary.unitLayer
  cases l.bound? unit with
  | none => simp [h]
  | some name => simp [h]

/-- To fill some units changes their layers, and no others. -/
theorem fillAll_value (reader : PictureReader) (h : l.layerSize = a.size) (units : List Nat)
    (hunits : ∀ u ∈ units, u < a.layers.length) (written : List (Nat × Picture)) :
    let filled := (units.foldlM (fill reader l) (written, a)).value.2
    filled.size = a.size ∧ filled.layers.length = a.layers.length ∧
      ∀ u, filled.layers[u]? =
        if u ∈ units then some (l.unitLayer reader u) else a.layers[u]? := by
  -- on the units: the first one's layer is set, and set once more at most
  induction units generalizing a written with
  | nil => simp
  | cons unit units ih =>
      have hunit : unit < a.layers.length := hunits unit List.mem_cons_self
      -- the unit has a layer, so filling it sets this layer to what the unit shows
      have hfill : (fill reader l (written, a) unit).value =
          (written ++ [(unit, l.unitLayer reader unit)],
            { a with layers := a.layers.set unit (l.unitLayer reader unit) }) := by
        simp only [fill, if_neg (Nat.not_le.mpr hunit), Logged.bind_value, Logged.pure_value,
          layerFor_value reader h]
      simp only [List.foldlM_cons, Logged.bind_value, hfill]
      obtain ⟨hsize, hlength, hlayers⟩ :=
        ih (a := { a with layers := a.layers.set unit (l.unitLayer reader unit) }) h
          (fun u hu => by simpa using hunits u (List.mem_cons_of_mem unit hu))
          (written ++ [(unit, l.unitLayer reader unit)])
      refine ⟨hsize, by simpa using hlength, ?_⟩
      intro u
      rw [hlayers u]
      -- a later unit may be this one again; its layer is the same then
      by_cases hu : u ∈ units
      · simp [hu]
      · by_cases hsame : u = unit
        · subst hsame
          simp [hu, List.getElem?_set_self hunit]
        · simp [hu, hsame, List.getElem?_set_ne (Ne.symm hsame)]

end TextureArray

/-! ### Histories -/

/-- What can happen to a library and to the array that shows it. -/
inductive TextureStep where
  | register (name : String) (source : TextureSource)
  | bind (name : String) (unit : Nat)
  | flush

/-- A library, and the array that shows it. -/
structure TextureDisplay where
  library : TextureLibrary
  array : TextureArray

namespace TextureDisplay

/-- A new library and a new array for layers of one size. -/
def new (unitCount layerCount size : Nat) : TextureDisplay :=
  ⟨.empty unitCount size, .white layerCount size⟩

/-- One step, with what reads pictures. -/
def step (reader : PictureReader) (d : TextureDisplay) : TextureStep → TextureDisplay
  | .register name source => { d with library := d.library.register name source }
  | .bind name unit => { d with library := (d.library.bind name unit).value.2 }
  | .flush =>
    let (_, array, library) := (d.array.flush reader d.library).value
    ⟨library, array⟩

/-- All steps, one after the other. -/
def run (reader : PictureReader) (d : TextureDisplay) (steps : List TextureStep) : TextureDisplay :=
  steps.foldl (step reader) d

end TextureDisplay

/-- What steps come to: the sources last announced, and the textures last bound. -/
structure TextureHistory where
  source : String → Option TextureSource := fun _ => none
  bound : Nat → Option String := fun _ => none

namespace TextureHistory

/-- A texture is bound if it was announced before and there is such a unit. A flush leaves no trace
in the history. -/
def step (unitCount : Nat) (h : TextureHistory) : TextureStep → TextureHistory
  | .register name source => { h with source := Function.update h.source name (some source) }
  | .bind name unit =>
    if (h.source name).isSome ∧ unit < unitCount then
      { h with bound := Function.update h.bound unit (some name) }
    else h
  | .flush => h

/-- What steps come to, one after the other. -/
def ofSteps (unitCount : Nat) (steps : List TextureStep) : TextureHistory :=
  steps.foldl (step unitCount) {}

/-- The layer that a unit is to have: the pixels of the texture last bound to it, from the source
last announced for that texture. A unit that was never bound is white. -/
def layer (h : TextureHistory) (reader : PictureReader) (size unit : Nat) : Picture :=
  match h.bound unit with
  | none => .white size
  | some name =>
    ((h.source name).map (TextureLibrary.sourceLayer reader size)).getD (.white size)

end TextureHistory

namespace TextureDisplay

variable {reader : PictureReader} {unitCount layerCount size : Nat} {d : TextureDisplay}
  {h : TextureHistory}

/-- The library remembers a history, and each layer that does not show it is stale. -/
structure Follows (reader : PictureReader) (unitCount size : Nat) (h : TextureHistory)
    (d : TextureDisplay) : Prop where
  units : d.library.units.length = unitCount
  room : unitCount ≤ d.array.layers.length
  layerSize : d.library.layerSize = max size 1
  size : d.array.size = max size 1
  source : d.library.find? = h.source
  bound : d.library.bound? = h.bound
  fresh : ∀ u < unitCount, u ∉ d.library.staleUnits →
    d.array.layers[u]? = some (d.library.unitLayer reader u)

theorem follows_new (reader : PictureReader) (hroom : unitCount ≤ layerCount) (size : Nat) :
    (new unitCount layerCount size).Follows reader unitCount size {} where
  units := List.length_replicate
  room := by simp [new, TextureArray.white]; omega
  layerSize := rfl
  size := rfl
  source := rfl
  bound := by
    funext u
    simp only [new, TextureLibrary.bound?, TextureLibrary.empty, List.getElem?_replicate]
    split <;> rfl
  fresh u hu _ := by
    have hbound : (new unitCount layerCount size).library.bound? u = none := by
      simp [new, TextureLibrary.bound?, TextureLibrary.empty, hu]
    have hlayer : u < max layerCount 1 := by omega
    rw [TextureLibrary.unitLayer, hbound]
    simp [new, TextureArray.white, TextureLibrary.empty, hlayer]

theorem Follows.unitLayer_eq (hd : d.Follows reader unitCount size h) (u : Nat) :
    d.library.unitLayer reader u = h.layer reader (max size 1) u := by
  simp only [TextureLibrary.unitLayer, TextureHistory.layer, hd.bound, hd.layerSize,
    TextureLibrary.layer_value, hd.source]
  cases h.bound u <;> rfl

theorem Follows.takes_iff (hd : d.Follows reader unitCount size h) (name : String) (unit : Nat) :
    d.library.Takes name unit ↔ (h.source name).isSome ∧ unit < unitCount := by
  rw [TextureLibrary.Takes, TextureLibrary.contains, hd.source, hd.units]

/-- Units that are not stale after an announcement show what they showed, and it is not the
announced texture. -/
theorem Follows.register (hd : d.Follows reader unitCount size h) (name : String)
    (source : TextureSource) :
    (d.step reader (.register name source)).Follows reader unitCount size
      (h.step unitCount (.register name source)) where
  units := (List.length_map ..).trans hd.units
  room := hd.room
  layerSize := hd.layerSize
  size := hd.size
  source := by
    funext other
    rw [TextureDisplay.step, TextureLibrary.find?_register, hd.source]
    simp [TextureHistory.step, Function.update_apply]
  bound := by
    funext u
    exact (d.library.bound?_register name source u).trans (congrFun hd.bound u)
  fresh u hu hstale := by
    -- not stale now means not stale before, and another texture than the announced one
    have hnot := mt (TextureLibrary.mem_staleUnits_register source).mpr hstale
    rw [not_or] at hnot
    have hsame : (d.library.register name source).unitLayer reader u =
        d.library.unitLayer reader u := by
      refine TextureLibrary.unitLayer_congr (d.library.bound?_register name source u) rfl ?_ reader
      intro other hother
      rw [TextureLibrary.find?_register, if_neg]
      rintro rfl
      exact hnot.2 hother
    exact (hd.fresh u hu hnot.1).trans (congrArg some hsame.symm)

theorem Follows.bind (hd : d.Follows reader unitCount size h) (name : String) (unit : Nat) :
    (d.step reader (.bind name unit)).Follows reader unitCount size
      (h.step unitCount (.bind name unit)) := by
  -- a binding that is refused is a step of neither
  by_cases htakes : d.library.Takes name unit
  · have hstep := (hd.takes_iff name unit).mp htakes
    simp only [TextureHistory.step, hstep, and_self, if_true]
    refine ⟨?_, hd.room, ?_, hd.size, ?_, ?_, ?_⟩
    · exact (d.library.alike_bind name unit).units.trans hd.units
    · exact (d.library.layerSize_bind name unit).trans hd.layerSize
    · exact (d.library.find?_bind name unit).trans hd.source
    · funext u
      rw [TextureDisplay.step, TextureLibrary.bound?_bind htakes, hd.bound]
      simp [Function.update_apply]
    · intro u hu hstale
      have hnot := mt (TextureLibrary.mem_staleUnits_bind htakes u).mpr hstale
      rw [not_or] at hnot
      have hbound : (d.library.bind name unit).value.2.bound? u = d.library.bound? u := by
        rw [TextureLibrary.bound?_bind htakes]
        split
        · next heq =>
            -- the unit is not stale, so it had the texture before
            subst heq
            by_contra hne
            exact hnot.2 ⟨rfl, fun hsame => hne hsame.symm⟩
        · rfl
      have hsame : (d.library.bind name unit).value.2.unitLayer reader u =
          d.library.unitLayer reader u :=
        TextureLibrary.unitLayer_congr hbound (d.library.layerSize_bind name unit)
          (fun other _ => by rw [TextureLibrary.find?_bind]) reader
      exact (hd.fresh u hu hnot.1).trans (congrArg some hsame.symm)
  · have hstep := mt (hd.takes_iff name unit).mpr htakes
    have hsame : d.step reader (.bind name unit) = d := by
      rw [TextureDisplay.step, TextureLibrary.bind_of_not_takes htakes]
    rw [hsame, TextureHistory.step, if_neg hstep]
    exact hd

/-- A flush leaves no unit stale and fills each layer that has to be filled. -/
theorem Follows.flush (hd : d.Follows reader unitCount size h) :
    (d.step reader .flush).Follows reader unitCount size h ∧
      ∀ u < unitCount, (d.step reader .flush).array.layers[u]? =
        some ((d.step reader .flush).library.unitLayer reader u) := by
  -- stale units are units, and each of these has a layer
  have hunits : ∀ u ∈ d.library.staleUnits, u < d.array.layers.length := by
    intro u hu
    have := TextureLibrary.lt_of_mem_staleUnits hu
    have := hd.units
    have := hd.room
    omega
  obtain ⟨hsize, hlength, hlayers⟩ := TextureArray.fillAll_value reader
    (hd.layerSize.trans hd.size.symm) d.library.staleUnits hunits []
  have hlayer : ∀ u < unitCount, (d.step reader .flush).array.layers[u]? =
      some ((d.step reader .flush).library.unitLayer reader u) := by
    intro u hu
    -- settled units have what they had
    have hsame : d.library.settle.unitLayer reader u = d.library.unitLayer reader u :=
      TextureLibrary.unitLayer_congr (d.library.bound?_settle u) rfl (fun _ _ => rfl) reader
    refine (hlayers u).trans ?_
    show _ = some (d.library.settle.unitLayer reader u)
    rw [hsame]
    -- a stale layer was filled just now, and any other was up to date
    split
    · rfl
    · next hstale => exact hd.fresh u hu hstale
  refine ⟨⟨?_, ?_, hd.layerSize, ?_, hd.source, ?_, fun u hu _ => hlayer u hu⟩, hlayer⟩
  · exact (List.length_map ..).trans hd.units
  · exact hd.room.trans hlength.ge
  · exact hsize.trans hd.size
  · funext u
    exact (d.library.bound?_settle u).trans (congrFun hd.bound u)

/-- One step of a display is one step of its history. -/
theorem Follows.step (hd : d.Follows reader unitCount size h) (s : TextureStep) :
    (d.step reader s).Follows reader unitCount size (h.step unitCount s) := by
  cases s with
  | register name source => exact hd.register name source
  | bind name unit => exact hd.bind name unit
  | flush => exact hd.flush.1

theorem Follows.run (hd : d.Follows reader unitCount size h) (steps : List TextureStep) :
    (d.run reader steps).Follows reader unitCount size
      (steps.foldl (TextureHistory.step unitCount) h) := by
  induction steps generalizing d h with
  | nil => exact hd
  | cons s steps ih => exact ih (hd.step s)

/-- Layers that are out of date are stale, a flush brings all of them up to date, and a binding that
is refused changes nothing. -/
structure IsCoherent (reader : PictureReader) (unitCount size : Nat) (h : TextureHistory)
    (d : TextureDisplay) : Prop where
  source : d.library.find? = h.source
  bound : d.library.bound? = h.bound
  stale : ∀ u < unitCount, d.array.layers[u]? ≠ some (h.layer reader (max size 1) u) →
    u ∈ d.library.staleUnits
  flushed : ∀ u < unitCount,
    (d.step reader .flush).array.layers[u]? = some (h.layer reader (max size 1) u)
  refused : ∀ name unit, (d.library.bind name unit).value.1 = false →
    (d.library.bind name unit).value.2 = d.library

/-- A new library and a new array with a layer for each unit stay coherent whatever they go
through. -/
theorem isCoherent_run (reader : PictureReader) (hroom : unitCount ≤ layerCount) (size : Nat)
    (steps : List TextureStep) :
    ((new unitCount layerCount size).run reader steps).IsCoherent reader unitCount size
      (.ofSteps unitCount steps) := by
  have hd := (follows_new reader hroom size).run steps
  refine ⟨hd.source, hd.bound, ?_, ?_, ?_⟩
  · intro u hu hlayer
    by_contra hstale
    exact hlayer ((hd.fresh u hu hstale).trans (congrArg some (hd.unitLayer_eq u)))
  · intro u hu
    obtain ⟨hflushed, hlayers⟩ := hd.flush
    exact (hlayers u hu).trans (congrArg some (hflushed.unitLayer_eq u))
  · intro name unit hrefused
    by_cases htakes : ((new unitCount layerCount size).run reader steps).library.Takes name unit
    · rw [TextureLibrary.bind_of_takes htakes] at hrefused
      cases hrefused
    · rw [TextureLibrary.bind_of_not_takes htakes]

end TextureDisplay

/-- The bytes of a PNG picture that has one texel, which is red. -/
def redPicture : Bytes :=
  [0x89, 0x50, 0x4E, 0x47, 0x0D, 0x0A, 0x1A, 0x0A, 0, 0, 0, 13, 0x49, 0x48, 0x44, 0x52, 0, 0, 0, 1,
    0, 0, 0, 1, 8, 6, 0, 0, 0, 0x1F, 0x15, 0xC4, 0x89, 0, 0, 0, 16, 0x49, 0x44, 0x41, 0x54, 0x78,
    0x01, 0x01, 5, 0, 0xFA, 0xFF, 0, 0xFF, 0, 0, 0xFF, 5, 0, 1, 0xFF, 0xFA, 0x5C, 0x88, 0xD1, 0, 0,
    0, 0, 0x49, 0x45, 0x4E, 0x44, 0xAE, 0x42, 0x60, 0x82]

/-- A reader that finds no files, and of all bytes reads those of one picture of a single texel. In
every size that picture has the texel's color all over. -/
def PictureReader.single (contents : Bytes) (texel : Texel) : PictureReader where
  Image := Texel
  openFile _ := .error "no such file"
  ofBytes b := if b = contents then .ok texel else .error "unknown picture format"
  resize t size := ⟨size, size, fun _ _ => t⟩

namespace TextureDisplay

/-- A texture that was shown and is announced anew makes its unit stale, and the next flush shows
what it is then. -/
theorem second_announcement_isCoherent :
    let red : Texel := ⟨255, 0, 0, 255⟩
    let reader : PictureReader := .single redPicture red
    let shown : List TextureStep := [.register "a" ⟨⟨"a.ktx2"⟩, some (.bytes redPicture)⟩,
      .bind "a" 1, .bind "b" 0, .flush]
    let steps : List TextureStep := shown ++ [.register "a" ⟨⟨"b.ktx2"⟩, none⟩]
    let d := (new 2 3 1).run reader steps
    2 ≤ 3 ∧ ((new 2 3 1).run reader shown).array.layers[1]? = some ⟨1, 1, fun _ _ => red⟩ ∧
      d.library.staleUnits = [1] ∧ d.IsCoherent reader 2 1 (.ofSteps 2 steps) := by
  intro red reader shown steps d
  have hroom : 2 ≤ 3 := by decide
  have hstale : d.library.staleUnits = [1] := by decide
  exact ⟨hroom, rfl, hstale, isCoherent_run reader hroom 1 steps⟩

end TextureDisplay

end SceneBatch
