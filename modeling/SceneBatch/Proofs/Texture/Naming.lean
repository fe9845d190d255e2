import Mathlib
import SceneBatch.Model.ImageName

/-!
# The naming of images

What the three searches of a name come to, which all start at its end: the last slash parts the
directory from the segment, the last dot of the segment parts off the extension, and the word behind
the last underscore of what is left tells base colors. `IsStripped` and `IsColorName` say the same
without a search, by the form of the name. Main statement: `follows_naming`.
-/

namespace SceneBatch

namespace ImageName

/-! ### Searches from the end -/

section Searches

variable {c : Char} {cs front behind : List Char}

theorem forall_mem_reverse_ne (h : c ∉ cs) : ∀ x ∈ cs.reverse, decide (x ≠ c) = true := by
  intro x hx
  apply decide_eq_true
  rintro rfl
  exact h (List.mem_reverse.mp hx)

theorem span_reverse_of_notMem (h : c ∉ cs) : cs.reverse.span (· ≠ c) = (cs.reverse, []) := by
  have hall := forall_mem_reverse_ne h
  rw [List.span_eq_takeWhile_dropWhile, List.takeWhile_eq_self_iff.mpr hall,
    List.dropWhile_eq_nil_iff.mpr hall]

/-- A search from the end stops at the last of several. -/
theorem span_reverse_append_cons (h : c ∉ behind) :
    (front ++ c :: behind).reverse.span (· ≠ c) = (behind.reverse, c :: front.reverse) := by
  have hall := forall_mem_reverse_ne h
  have hreverse : (front ++ c :: behind).reverse = behind.reverse ++ c :: front.reverse := by simp
  rw [hreverse, List.span_eq_takeWhile_dropWhile, List.takeWhile_append_of_pos hall,
    List.dropWhile_append_of_pos hall]
  simp

/-- What occurs in a list occurs there for a last time. -/
theorem notMem_or_exists_last (c : Char) (cs : List Char) :
    c ∉ cs ∨ ∃ front behind, cs = front ++ c :: behind ∧ c ∉ behind := by
  by_cases h : c ∈ cs
  · obtain ⟨behind, front, hsplit, hbehind⟩ :=
      List.eq_append_cons_of_mem (List.mem_reverse.mpr h)
    refine .inr ⟨front.reverse, behind.reverse, ?_, fun hmem => hbehind (List.mem_reverse.mp hmem)⟩
    rw [← List.reverse_reverse cs, hsplit]
    simp
  · exact .inl h

end Searches

/-! ### Names by their form -/

/-- Where the last segment of a name starts: at the very front, or behind a slash. -/
inductive IsDirectory : String → Prop
  | top : IsDirectory ""
  | inside (path : String) : IsDirectory (path ++ "/")

/-- A text without slashes. -/
def IsSegment (s : String) : Prop := '/' ∉ s.toList

/-- A text with neither slashes nor dots. -/
def IsBare (s : String) : Prop := IsSegment s ∧ '.' ∉ s.toList

/-- A name and what is left of it without the extension of its last segment. -/
inductive IsStripped : String → String → Prop
  | plain {directory segment : String} (hdirectory : IsDirectory directory)
      (hsegment : IsBare segment) : IsStripped (directory ++ segment) (directory ++ segment)
  | extension {directory stem extension : String} (hdirectory : IsDirectory directory)
      (hstem : IsSegment stem) (hextension : IsBare extension) :
      IsStripped (directory ++ (stem ++ "." ++ extension)) (directory ++ stem)

/-- A name of a base color, without an extension or with one. -/
inductive IsColorName : String → Prop
  | plain {directory subject : String} (hdirectory : IsDirectory directory)
      (hsubject : IsBare subject) : IsColorName (directory ++ (subject ++ "_baseColor"))
  | extension {directory subject extension : String} (hdirectory : IsDirectory directory)
      (hsubject : IsSegment subject) (hextension : IsBare extension) :
      IsColorName (directory ++ (subject ++ "_baseColor." ++ extension))

theorem isSegment_append {s t : String} : IsSegment (s ++ t) ↔ IsSegment s ∧ IsSegment t := by
  simp [IsSegment, not_or]

theorem isBare_append {s t : String} : IsBare (s ++ t) ↔ IsBare s ∧ IsBare t := by
  simp only [IsBare, isSegment_append, String.toList_append, List.mem_append, not_or]
  tauto

theorem isBare_baseColor : IsBare "_baseColor" := by
  simp [IsBare, IsSegment]

theorem isSegment_extended {front extension : String} (hfront : IsSegment front)
    (hextension : IsBare extension) : IsSegment (front ++ "." ++ extension) := by
  rw [isSegment_append, isSegment_append]
  exact ⟨⟨hfront, by simp [IsSegment]⟩, hextension.1⟩

/-- Every name has a directory and a last segment. -/
theorem exists_directory_segment (name : String) :
    ∃ directory segment, name = directory ++ segment ∧ IsDirectory directory ∧
      IsSegment segment := by
  rcases notMem_or_exists_last '/' name.toList with hnone | ⟨path, segment, hname, hsegment⟩
  · exact ⟨"", name, by simp, .top, hnone⟩
  · refine ⟨String.ofList path ++ "/", String.ofList segment, ?_, .inside _, ?_⟩
    · rw [← String.toList_inj, hname]
      simp
    · simpa [IsSegment] using hsegment

/-- A segment without dots, or one with an extension. -/
theorem isBare_or_exists_extension {segment : String} (h : IsSegment segment) :
    IsBare segment ∨
      ∃ stem extension, segment = stem ++ "." ++ extension ∧ IsSegment stem ∧ IsBare extension := by
  rcases notMem_or_exists_last '.' segment.toList with hnone | ⟨stem, extension, hsplit, hdot⟩
  · exact .inl ⟨h, hnone⟩
  · have hsegment : segment = String.ofList stem ++ "." ++ String.ofList extension := by
      rw [← String.toList_inj, hsplit]
      simp
    rw [hsegment, isSegment_append, isSegment_append] at h
    exact .inr ⟨_, _, hsegment, h.1.1, h.2, by simpa using hdot⟩

/-! ### What the searches find -/

variable {directory segment extension : String}

theorem splitSegment_append (hdirectory : IsDirectory directory) (hsegment : IsSegment segment) :
    splitSegment (directory ++ segment).toList = (directory.toList, segment.toList) := by
  rw [splitSegment]
  cases hdirectory with
  | top =>
      rw [String.empty_append, span_reverse_of_notMem hsegment]
      simp
  | inside path =>
      have hname : (path ++ "/" ++ segment).toList = path.toList ++ '/' :: segment.toList := by simp
      rw [hname, span_reverse_append_cons hsegment]
      simp

theorem stem_of_isBare (h : IsBare segment) : stem segment.toList = segment.toList := by
  rw [stem, span_reverse_of_notMem h.2]

theorem stem_append (front : String) (h : IsBare extension) :
    stem (front ++ "." ++ extension).toList = front.toList := by
  have hsegment : (front ++ "." ++ extension).toList = front.toList ++ '.' :: extension.toList := by
    simp
  rw [stem, hsegment, span_reverse_append_cons h.2]
  exact List.reverse_reverse _

theorem stem_isPrefix (segment : List Char) : stem segment <+: segment := by
  rcases notMem_or_exists_last '.' segment with hnone | ⟨front, behind, rfl, hbehind⟩
  · rw [stem, span_reverse_of_notMem hnone]
  · rw [stem, span_reverse_append_cons hbehind]
    dsimp only
    rw [List.reverse_reverse]
    exact List.prefix_append ..

/-- Only the last segment is looked at. -/
theorem stripExtension_append (hdirectory : IsDirectory directory) (hsegment : IsSegment segment) :
    stripExtension (directory ++ segment) = directory ++ String.ofList (stem segment.toList) := by
  rw [stripExtension, stripExtensionChars, splitSegment_append hdirectory hsegment]
  simp

theorem stripExtension_of_isStripped {name stripped : String} (h : IsStripped name stripped) :
    stripExtension name = stripped := by
  cases h with
  | plain hdirectory hsegment =>
      rw [stripExtension_append hdirectory hsegment.1, stem_of_isBare hsegment,
        String.ofList_toList]
  | extension hdirectory hfront hextension =>
      rw [stripExtension_append hdirectory (isSegment_extended hfront hextension),
        stem_append _ hextension, String.ofList_toList]

/-- Every name has an extension or none. -/
theorem exists_isStripped (name : String) : ∃ stripped, IsStripped name stripped := by
  obtain ⟨directory, segment, rfl, hdirectory, hsegment⟩ := exists_directory_segment name
  rcases isBare_or_exists_extension hsegment with hbare | ⟨front, extension, rfl, hfront, hbare⟩
  · exact ⟨_, .plain hdirectory hbare⟩
  · exact ⟨_, .extension hdirectory hfront hbare⟩

theorem stripExtension_eq_iff {name stripped : String} :
    stripExtension name = stripped ↔ IsStripped name stripped := by
  constructor
  · rintro rfl
    obtain ⟨stripped, h⟩ := exists_isStripped name
    rwa [stripExtension_of_isStripped h]
  · exact stripExtension_of_isStripped

/-! ### Base colors -/

theorem endsInBaseColor_iff {segment : List Char} :
    endsInBaseColor segment = true ↔ ∃ front, segment = front ++ "_baseColor".toList := by
  have hword : '_' ∉ "baseColor".toList := by simp
  rw [endsInBaseColor]
  constructor
  · intro h
    -- the last word decides, and there is none without an underscore
    rcases notMem_or_exists_last '_' segment with hnone | ⟨front, word, rfl, hlast⟩
    · rw [span_reverse_of_notMem hnone] at h
      cases h
    · rw [span_reverse_append_cons hlast] at h
      have hwords : word = "baseColor".toList := by simpa using h
      exact ⟨front, by rw [hwords]; rfl⟩
  · rintro ⟨front, rfl⟩
    have hsplit : front ++ "_baseColor".toList = front ++ '_' :: "baseColor".toList := rfl
    rw [hsplit, span_reverse_append_cons hword]
    simp

/-- Of a name with and without its extension the last segment decides. -/
theorem isBaseColor_of_isStripped {name front : String} (hdirectory : IsDirectory directory)
    (hfront : IsSegment front) (h : IsStripped name (directory ++ front)) :
    isBaseColor name = true ↔ ∃ subject, front = subject ++ "_baseColor" := by
  have hstripped : stripExtensionChars name.toList = (directory ++ front).toList := by
    rw [← stripExtension_of_isStripped h, stripExtension, String.toList_ofList]
  rw [isBaseColor, isBaseColorChars, hstripped, splitSegment_append hdirectory hfront,
    endsInBaseColor_iff]
  dsimp only
  constructor
  · rintro ⟨subject, hsubject⟩
    refine ⟨String.ofList subject, ?_⟩
    rw [← String.toList_inj, hsubject]
    simp
  · rintro ⟨subject, rfl⟩
    exact ⟨subject.toList, by simp⟩

theorem append_baseColor_dot (subject extension : String) :
    subject ++ "_baseColor" ++ "." ++ extension = subject ++ "_baseColor." ++ extension := by
  rw [← String.toList_inj]
  simp

theorem isBaseColor_iff {name : String} : isBaseColor name = true ↔ IsColorName name := by
  constructor
  · intro h
    obtain ⟨directory, segment, rfl, hdirectory, hsegment⟩ := exists_directory_segment name
    -- the last segment has no extension, or it has one to be taken off
    rcases isBare_or_exists_extension hsegment with hbare | ⟨front, extension, rfl, hfront, hbare⟩
    · obtain ⟨subject, rfl⟩ :=
        (isBaseColor_of_isStripped hdirectory hsegment (.plain hdirectory hbare)).mp h
      exact .plain hdirectory (isBare_append.mp hbare).1
    · obtain ⟨subject, rfl⟩ :=
        (isBaseColor_of_isStripped hdirectory hfront (.extension hdirectory hfront hbare)).mp h
      rw [append_baseColor_dot]
      exact .extension hdirectory (isSegment_append.mp hfront).1 hbare
  · intro h
    cases h with
    | @plain directory subject hdirectory hsubject =>
        have hbare : IsBare (subject ++ "_baseColor") :=
          isBare_append.mpr ⟨hsubject, isBare_baseColor⟩
        exact (isBaseColor_of_isStripped hdirectory hbare.1 (.plain hdirectory hbare)).mpr
          ⟨subject, rfl⟩
    | @extension directory subject extension hdirectory hsubject hextension =>
        have hfront : IsSegment (subject ++ "_baseColor") :=
          isSegment_append.mpr ⟨hsubject, isBare_baseColor.1⟩
        rw [← append_baseColor_dot]
        exact (isBaseColor_of_isStripped hdirectory hfront
          (.extension hdirectory hfront hextension)).mpr ⟨subject, rfl⟩

/-! ### All names -/

/-- Without its extension a name is what its form says, in the same directory, and it is that of a
base color just if its form is. -/
theorem follows_naming (name : String) :
    (∀ stripped, stripExtension name = stripped ↔ IsStripped name stripped) ∧
      (∃ directory segment rest, IsDirectory directory ∧ IsSegment segment ∧
        rest.toList <+: segment.toList ∧ name = directory ++ segment ∧
        stripExtension name = directory ++ rest) ∧
      (isBaseColor name = true ↔ IsColorName name) := by
  refine ⟨fun _ => stripExtension_eq_iff, ?_, isBaseColor_iff⟩
  obtain ⟨directory, segment, rfl, hdirectory, hsegment⟩ := exists_directory_segment name
  refine ⟨directory, segment, String.ofList (stem segment.toList), hdirectory, hsegment, ?_, rfl,
    stripExtension_append hdirectory hsegment⟩
  rw [String.toList_ofList]
  exact stem_isPrefix segment.toList

end ImageName

end SceneBatch
