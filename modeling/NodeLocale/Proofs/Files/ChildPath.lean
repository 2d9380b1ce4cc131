import NodeLocale.Path

/-!
# Paths of children

Appending a plain name to a path appends one segment, one part and one step, whatever the path
looks like: it may be relative, end in separators or pass through dots. Going back to the parent
gives exactly the path that the name was appended to, provided that this path ends in a plain
name itself. All places of artifacts are of this form.
-/

namespace NodeLocale

namespace Path

/-- Whether a text names a child of a directory: it is one segment and none of the dots. -/
structure IsPlainName (name : String) : Prop where
  nonempty : name ≠ ""
  single : '/' ∉ name.toList
  notHere : name ≠ "."
  notUp : name ≠ ".."

namespace IsPlainName

variable {name : String}

theorem toList_ne_nil (plain : IsPlainName name) : name.toList ≠ [] :=
  fun empty => plain.nonempty (String.toList_eq_nil_iff.1 empty)

/-- A plain name does not start at the root. -/
theorem head?_ne (plain : IsPlainName name) : name.toList.head? ≠ some '/' :=
  fun first => plain.single (List.mem_of_mem_head? first)

end IsPlainName

/-- What stands between a path and a name that is appended to it. -/
def gap (path : Path) : List Char :=
  if path.text.isEmpty || path.endsWithSeparator then [] else ['/']

theorem toList_child_of_relative (path : Path) {name : String}
    (relative : name.toList.head? ≠ some '/') :
    (path.child name).text.toList = path.text.toList ++ (path.gap ++ name.toList) := by
  have notAbsolute : (Path.mk name).isAbsolute = false := by
    simpa [isAbsolute] using relative
  by_cases joined : path.text.isEmpty || path.endsWithSeparator
  · simp [child, join, notAbsolute, gap, joined]
  · simp [child, join, notAbsolute, gap, joined]

theorem toList_child (path : Path) {name : String} (plain : IsPlainName name) :
    (path.child name).text.toList = path.text.toList ++ (path.gap ++ name.toList) :=
  toList_child_of_relative path plain.head?_ne

/-- The segments of a text. -/
def segmentsOf (text : List Char) : List String :=
  ((Text.splitChars (· == '/') text).filter fun run => !run.isEmpty).map String.ofList

theorem segmentsOf_append (front back : List Char) :
    segmentsOf (front ++ '/' :: back) = segmentsOf front ++ segmentsOf back := by
  rw [segmentsOf, Text.splitChars_append_separator front (by simp) back]
  simp [segmentsOf]

/-- A text without separators is its only segment. -/
theorem segmentsOf_single {name : String} (nonempty : name ≠ "") (single : '/' ∉ name.toList) :
    segmentsOf name.toList = [name] := by
  have unsplit : Text.splitChars (· == '/') name.toList = [name.toList] := by
    refine Text.splitChars_of_forall fun c present => ?_
    have different : c ≠ '/' := fun same => single (same ▸ present)
    simpa using different
  simp [segmentsOf, unsplit, nonempty]

/-- A relative path has a segment at its front. -/
theorem segments_ne_nil {path : Path} (nonempty : path.text ≠ "")
    (relative : path.isAbsolute = false) : path.segments ≠ [] := by
  cases letters : path.text.toList with
  | nil => exact absurd (String.toList_eq_nil_iff.1 letters) nonempty
  | cons c rest =>
    have first : c ≠ '/' := by simpa [isAbsolute, letters] using relative
    rw [segments, letters, Text.splitChars, if_neg (by simpa using first)]
    split <;> simp

theorem segmentsOf_plain {name : String} (plain : IsPlainName name) :
    segmentsOf name.toList = [name] :=
  segmentsOf_single plain.nonempty plain.single

theorem segments_child_of_single (path : Path) {name : String} (nonempty : name ≠ "")
    (single : '/' ∉ name.toList) : (path.child name).segments = path.segments ++ [name] := by
  have relative : name.toList.head? ≠ some '/' :=
    fun first => single (List.mem_of_mem_head? first)
  change segmentsOf (path.child name).text.toList = segmentsOf path.text.toList ++ [name]
  rw [toList_child_of_relative path relative, gap]
  by_cases empty : path.text = ""
  · have noSegments : segmentsOf [] = [] := by simp [segmentsOf, Text.splitChars]
    simp [empty, segmentsOf_single nonempty single, noSegments]
  by_cases separated : path.endsWithSeparator = true
  · have last : path.text.toList.getLast? = some '/' := by
      simpa [endsWithSeparator] using separated
    obtain ⟨front, split⟩ := List.getLast?_eq_some_iff.1 last
    have regrouped : path.text.toList ++ name.toList = front ++ '/' :: name.toList := by
      simp [split]
    have noSegments : segmentsOf [] = [] := by simp [segmentsOf, Text.splitChars]
    rw [if_pos (by simp [separated]), List.nil_append, regrouped, split, segmentsOf_append,
      segmentsOf_append, segmentsOf_single nonempty single, noSegments, List.append_nil]
  · rw [if_neg (by simp [empty, separated]), List.singleton_append, segmentsOf_append,
      segmentsOf_single nonempty single]

theorem segments_child (path : Path) {name : String} (plain : IsPlainName name) :
    (path.child name).segments = path.segments ++ [name] :=
  segments_child_of_single path plain.nonempty plain.single

theorem isAbsolute_child_of_relative (path : Path) {name : String}
    (relative : name.toList.head? ≠ some '/') : (path.child name).isAbsolute = path.isAbsolute := by
  rw [isAbsolute, isAbsolute, toList_child_of_relative path relative]
  cases letters : path.text.toList with
  | nil =>
    have empty : path.text = "" := String.toList_eq_nil_iff.1 letters
    simpa [gap, empty] using relative
  | cons c rest => simp

theorem isAbsolute_child (path : Path) {name : String} (plain : IsPlainName name) :
    (path.child name).isAbsolute = path.isAbsolute :=
  isAbsolute_child_of_relative path plain.head?_ne

theorem parts_child (path : Path) {name : String} (plain : IsPlainName name) :
    (path.child name).parts = path.parts ++ [.name name] := by
  have part : Part.ofSegment? name = some (.name name) := by
    simp [Part.ofSegment?, plain.notHere, plain.notUp]
  rw [parts, parts, segments_child path plain, isAbsolute_child path plain,
    List.filterMap_append]
  cases segments : path.segments with
  | nil => by_cases absolute : path.isAbsolute <;> simp [absolute, part, plain.notHere]
  | cons first rest =>
    by_cases absolute : path.isAbsolute
    · simp [absolute, part]
    · by_cases here : first = "." <;> simp [absolute, here, part]

theorem endsWithSeparator_child (path : Path) {name : String} (plain : IsPlainName name) :
    (path.child name).endsWithSeparator = false := by
  cases ending : name.toList.getLast? with
  | none => exact absurd (List.getLast?_eq_none_iff.1 ending) plain.toList_ne_nil
  | some c =>
    have different : c ≠ '/' :=
      fun same => plain.single (same ▸ List.mem_of_getLast? ending)
    simp [endsWithSeparator, toList_child path plain, List.getLast?_append, ending, different]

/-! ### Going back to the parent -/

/-- Nothing is dropped behind a plain name. -/
theorem dropTail_plain {name : String} (plain : IsPlainName name) (rest : List Char) :
    dropTail (name.toList.reverse ++ rest) = name.toList.reverse ++ rest := by
  have letters : ∀ c ∈ name.toList.reverse, c ≠ '/' := by
    intro c present same
    exact plain.single (same ▸ List.mem_reverse.1 present)
  cases backwards : name.toList.reverse with
  | nil => exact absurd (List.reverse_eq_nil_iff.1 backwards) plain.toList_ne_nil
  | cons c others =>
    have first : c ≠ '/' := letters c (by simp [backwards])
    cases others with
    | nil =>
      have notDot : c ≠ '.' := by
        rintro rfl
        have dot : name.toList = ['.'] := by simpa using congrArg List.reverse backwards
        exact plain.notHere (String.ext dot)
      rw [List.singleton_append, dropTail] <;> simp [first, notDot]
    | cons second others =>
      have next : second ≠ '/' := letters second (by simp [backwards])
      rw [List.cons_append, List.cons_append, dropTail] <;> simp [first, next]

theorem text_child_ne_empty (path : Path) {name : String} (plain : IsPlainName name) :
    (path.child name).text ≠ "" := by
  intro empty
  have text := toList_child path plain
  rw [empty] at text
  have parts := List.append_eq_nil_iff.1 text.symm
  exact plain.toList_ne_nil (List.append_eq_nil_iff.1 parts.2).2

/-- A separator behind a path that ends in a plain name is all that is dropped. -/
theorem dropTail_separator_child (path : Path) {name : String} (plain : IsPlainName name) :
    dropTail ('/' :: (path.child name).text.toList.reverse) =
      (path.child name).text.toList.reverse := by
  have nonempty := text_child_ne_empty path plain
  have backwards : (path.child name).text.toList.reverse =
      name.toList.reverse ++ (path.text.toList ++ path.gap).reverse := by
    rw [toList_child path plain]
    simp
  have step : dropTail ('/' :: (path.child name).text.toList.reverse) =
      dropTail (path.child name).text.toList.reverse := by
    cases letters : (path.child name).text.toList.reverse with
    | nil =>
      exact absurd (String.toList_eq_nil_iff.1 (List.reverse_eq_nil_iff.1 letters)) nonempty
    | cons c rest =>
      rw [dropTail]
      simp
  rw [step, backwards, dropTail_plain plain]

/-- A child of a path that ends in a plain name itself has that path as its parent. -/
theorem parent?_child_child (path : Path) {directory name : String}
    (plainDirectory : IsPlainName directory) (plain : IsPlainName name) :
    ((path.child directory).child name).parent? = some (path.child directory) := by
  have nonempty := text_child_ne_empty path plainDirectory
  have unseparated := endsWithSeparator_child path plainDirectory
  have backwards : ((path.child directory).child name).text.toList.reverse =
      name.toList.reverse ++ '/' :: (path.child directory).text.toList.reverse := by
    rw [toList_child _ plain, gap, if_neg (by simp [nonempty, unseparated])]
    simp
  have toSeparator : (name.toList.reverse ++
      '/' :: (path.child directory).text.toList.reverse).dropWhile (fun c => c != '/') =
        '/' :: (path.child directory).text.toList.reverse := by
    have letters : ∀ c ∈ name.toList.reverse, (c != '/') = true := by
      intro c present
      have different : c ≠ '/' := by
        rintro rfl
        exact plain.single (List.mem_reverse.1 present)
      simpa using different
    rw [List.dropWhile_append_of_pos letters]
    simp
  have lastName : ((path.child directory).child name).lastPart? = some (.name name) := by
    simp [lastPart?, parts_child _ plain]
  rw [parent?, lastName]
  simp only [backwards, dropTail_plain plain, toSeparator,
    dropTail_separator_child path plainDirectory, List.reverse_reverse, String.ofList_toList]

end Path

end NodeLocale
