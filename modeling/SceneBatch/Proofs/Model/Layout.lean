import SceneBatch.Gltf.Reader.Data
import SceneBatch.Model.Sample
import SceneBatch.Proofs.Json.Members
import SceneBatch.Proofs.Traverse

/-!
# What documents of samples say of their buffers

Who reads a document knows of its buffer no more than what the document says: its length, where
views are, and which view each accessor takes its values from (`SampleLayout`). The document of a
sample says how the sample is laid out, whatever other members it has (`Sample.layout_document`).
-/

namespace SceneBatch

/-! ### Reading -/

namespace Json

/-- A natural number of a document. -/
def nat? : Json → Option Nat
  | .number (.integer (.ofNat n)) => some n
  | _ => none

/-- The elements of an array of a document. -/
def elements? : Json → Option (List Json)
  | .array elements => some elements
  | _ => none

/-- A member that is a natural number. -/
def natMember? (key : String) (j : Json) : Option Nat := (j.member? key).bind nat?

/-- The elements of a member that is an array. -/
def elementsOf? (key : String) (j : Json) : Option (List Json) := (j.member? key).bind elements?

end Json

open Json

/-- A view of the first buffer. -/
def SampleView.ofJson? (j : Json) : Option SampleView :=
  match natMember? "buffer" j, natMember? "byteOffset" j, natMember? "byteLength" j with
  | some 0, some offset, some length => some ⟨offset, length⟩
  | _, _, _ => none

/-- What an accessor says of its values. -/
structure AccessorLayout where
  component : Gltf.ComponentType
  view : Nat
  deriving DecidableEq

/-- What an accessor of a document says. -/
def AccessorLayout.ofJson? (j : Json) : Option AccessorLayout := do
  let component ← Gltf.componentCodes.lookup (← natMember? "componentType" j)
  return ⟨component, ← natMember? "bufferView" j⟩

/-- What a document says of its first buffer. -/
structure SampleLayout where
  length : Nat
  views : List SampleView
  accessors : List AccessorLayout
  deriving DecidableEq

/-- What a document says of its buffer, if it has one. -/
def SampleLayout.ofJson? (j : Json) : Option SampleLayout := do
  let buffer ← (← elementsOf? "buffers" j)[0]?
  let length ← natMember? "byteLength" buffer
  let views ← (← elementsOf? "bufferViews" j).mapM SampleView.ofJson?
  let accessors ← (← elementsOf? "accessors" j).mapM AccessorLayout.ofJson?
  return ⟨length, views, accessors⟩

/-! ### Parts of documents -/

/-- What is written of each element of a list is read back. -/
theorem mapM_map_eq_some {α β γ : Type} {encode : α → β} {decode : β → Option γ} {f : α → γ}
    (h : ∀ x, decode (encode x) = some (f x)) (xs : List α) :
    (xs.map encode).mapM decode = some (xs.map f) := by
  rw [mapM_eq_some_iff, List.forall₂_map_left_iff, List.forall₂_map_right_iff]
  exact List.forall₂_same.mpr fun x _ => h x

theorem natMember?_of_member? {key : String} {j : Json} {n : Nat}
    (h : j.member? key = some (.nat n)) : natMember? key j = some n := by
  rw [natMember?, h]
  rfl

theorem elementsOf?_of_member? {key : String} {j : Json} {elements : List Json}
    (h : j.member? key = some (.array elements)) : elementsOf? key j = some elements := by
  rw [elementsOf?, h]
  rfl

theorem SampleView.ofJson?_viewJson (v : SampleView) :
    SampleView.ofJson? (Sample.viewJson v) = some v := by
  have hbuffer : natMember? "buffer" (Sample.viewJson v) = some 0 :=
    natMember?_of_member? (member?_sortedObject ..)
  have hoffset : natMember? "byteOffset" (Sample.viewJson v) = some v.offset :=
    natMember?_of_member? (member?_sortedObject ..)
  have hlength : natMember? "byteLength" (Sample.viewJson v) = some v.length :=
    natMember?_of_member? (member?_sortedObject ..)
  rw [ofJson?, hbuffer, hoffset, hlength]
  rfl

/-- How one value is stored. -/
def SampleValues.component : SampleValues → Gltf.ComponentType
  | .singles _ _ => .float32
  | .shorts => .uint16

/-- How the values of an accessor are laid out. -/
def SampleAccessor.layout (a : SampleAccessor) : AccessorLayout := ⟨a.values.component, a.view⟩

theorem AccessorLayout.ofJson?_of_member? {j : Json} {code view : Nat}
    {component : Gltf.ComponentType} (hcode : j.member? "componentType" = some (.nat code))
    (hview : j.member? "bufferView" = some (.nat view))
    (hcomponent : Gltf.componentCodes.lookup code = some component) :
    ofJson? j = some ⟨component, view⟩ := by
  rw [ofJson?, natMember?_of_member? hcode, natMember?_of_member? hview, Option.bind_eq_bind,
    Option.bind_some, hcomponent]
  rfl

theorem AccessorLayout.ofJson?_accessorJson (a : SampleAccessor) :
    ofJson? (Sample.accessorJson a) = some a.layout := by
  obtain ⟨view, values, count, shape⟩ := a
  cases values with
  | singles min max =>
      exact ofJson?_of_member? (member?_sortedObject ..) (member?_sortedObject ..) rfl
  | shorts =>
      exact ofJson?_of_member? (member?_sortedObject ..) (member?_sortedObject ..) rfl

/-! ### Documents -/

namespace Sample

/-- The members that tell how a buffer is laid out. -/
def layoutKeys : List String := ["buffers", "bufferViews", "accessors"]

/-- How a sample is laid out. -/
def layout (s : Sample) : SampleLayout :=
  ⟨s.data.length, s.views, s.accessors.map SampleAccessor.layout⟩

variable {s : Sample}

/-- Members that a sample was given leave those that tell its layout alone. -/
theorem member?_document (hs : ∀ m ∈ s.members, m.1 ∉ layoutKeys) (uri : Option String)
    {key : String} (hkey : key ∈ layoutKeys) :
    (s.document uri).member? key =
      (Json.object [("buffers", .array [s.bufferJson uri]),
        ("bufferViews", .list viewJson s.views),
        ("accessors", .list accessorJson s.accessors)]).member? key := by
  have hnone : (Json.object s.members).member? key = none :=
    member?_of_notMem fun m hm heq => hs m hm (heq ▸ hkey)
  -- the one other member that every sample has
  have hasset : key ≠ "asset" := by
    rintro rfl
    revert hkey
    decide
  rw [document, member?_insertMembers (pairwise_insertMembers .nil _), hnone, Option.none_or,
    member?_insertMembers .nil, member?_nil, Option.or_none, member?_cons key "asset",
    if_neg hasset, Option.or_none]

theorem natMember?_bufferJson (s : Sample) (uri : Option String) :
    natMember? "byteLength" (s.bufferJson uri) = some s.data.length := by
  refine natMember?_of_member? ?_
  cases uri with
  | none => exact member?_sortedObject ..
  | some uri => exact member?_sortedObject ..

/-- The document of a sample says how it is laid out. -/
theorem layout_document (hs : ∀ m ∈ s.members, m.1 ∉ layoutKeys) (uri : Option String) :
    SampleLayout.ofJson? (s.document uri) = some s.layout := by
  have hbuffers : elementsOf? "buffers" (s.document uri) = some [s.bufferJson uri] :=
    elementsOf?_of_member? (member?_document hs uri (by decide))
  have hviews : elementsOf? "bufferViews" (s.document uri) = some (s.views.map viewJson) :=
    elementsOf?_of_member? (member?_document hs uri (by decide))
  have haccessors :
      elementsOf? "accessors" (s.document uri) = some (s.accessors.map accessorJson) :=
    elementsOf?_of_member? (member?_document hs uri (by decide))
  -- What was written for each view is read back as that view.
  have hall : (s.views.map viewJson).mapM SampleView.ofJson? = some s.views := by
    rw [mapM_map_eq_some SampleView.ofJson?_viewJson, List.map_id']
  rw [SampleLayout.ofJson?, hbuffers, hviews, haccessors]
  simp only [Option.bind_eq_bind, Option.bind_some, List.getElem?_cons_zero,
    natMember?_bufferJson, hall, mapM_map_eq_some AccessorLayout.ofJson?_accessorJson]
  rfl

end Sample

end SceneBatch
