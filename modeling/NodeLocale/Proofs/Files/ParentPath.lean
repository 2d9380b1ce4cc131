import NodeLocale.Proofs.Files.KeptPlaces

/-!
# Parents of paths

Separators and single dots at the end of a path change neither its parts nor its parent nor the
place to which it leads. The parent of a child is the path without them, so the directories on the
way to a child are this path and those on the way to it.
-/

namespace NodeLocale.Path

variable {path directory : Path} {name : String}

/-- A path without separators and single dots at its end. -/
def trimmed (path : Path) : Path := ⟨String.ofList (dropTail path.text.toList.reverse).reverse⟩

theorem reverse_trimmed (path : Path) :
    path.trimmed.text.toList.reverse = dropTail path.text.toList.reverse := by
  simp [trimmed]

theorem dropTail_dropTail (text : List Char) : dropTail (dropTail text) = dropTail text := by
  fun_induction dropTail text with
  | case1 => rfl
  | case2 rest _ ih => exact ih
  | case3 => rfl
  | case4 rest _ ih => exact ih
  | case5 text noRoot noSeparator noDotRoot noDot =>
    rw [dropTail]
    · exact noRoot
    · exact noSeparator
    · exact noDotRoot
    · exact noDot

theorem getLast?_dropTail (text : List Char) : (dropTail text).getLast? = text.getLast? := by
  fun_induction dropTail text with
  | case1 => rfl
  | case2 rest more ih =>
    rw [ih, List.getLast?_cons_of_ne_nil]
    rintro rfl
    exact more rfl
  | case3 => rfl
  | case4 rest more ih =>
    have nonempty : rest ≠ [] := by
      rintro rfl
      exact more rfl
    rw [ih, List.getLast?_cons_of_ne_nil (by simp), List.getLast?_cons_of_ne_nil nonempty]
  | case5 => rfl

/-- Only segments that are single dots are dropped. -/
theorem segmentsOf_dropTail (text : List Char) : ∃ dots : List String, (∀ dot ∈ dots, dot = ".") ∧
    segmentsOf text.reverse = segmentsOf (dropTail text).reverse ++ dots := by
  have noSegments : segmentsOf [] = [] := by simp [segmentsOf, Text.splitChars]
  fun_induction dropTail text with
  | case1 => exact ⟨[], by simp⟩
  | case2 rest more ih =>
    rcases ih with ⟨dots, onlyDots, same⟩
    refine ⟨dots, onlyDots, ?_⟩
    rw [List.reverse_cons, segmentsOf_append, noSegments, List.append_nil, same]
  | case3 => exact ⟨["."], by simp, by decide⟩
  | case4 rest more ih =>
    rcases ih with ⟨dots, onlyDots, same⟩
    refine ⟨dots ++ ["."], ?_, ?_⟩
    · simpa [or_imp, forall_and] using onlyDots
    · have regrouped : ('.' :: '/' :: rest).reverse = rest.reverse ++ '/' :: ['.'] := by simp
      have dot : segmentsOf ['.'] = ["."] := by decide
      rw [regrouped, segmentsOf_append, dot, same, List.append_assoc]
  | case5 => exact ⟨[], by simp⟩

theorem segments_trimmed (path : Path) : ∃ dots : List String, (∀ dot ∈ dots, dot = ".") ∧
    path.segments = path.trimmed.segments ++ dots := by
  have dropped := segmentsOf_dropTail path.text.toList.reverse
  rw [List.reverse_reverse] at dropped
  rcases dropped with ⟨dots, onlyDots, same⟩
  refine ⟨dots, onlyDots, ?_⟩
  change segmentsOf path.text.toList = segmentsOf path.trimmed.text.toList ++ dots
  rw [same, ← reverse_trimmed, List.reverse_reverse]

theorem isAbsolute_trimmed (path : Path) : path.trimmed.isAbsolute = path.isAbsolute := by
  have last := getLast?_dropTail path.text.toList.reverse
  rw [← reverse_trimmed, List.getLast?_reverse, List.getLast?_reverse] at last
  rw [isAbsolute, isAbsolute, last]

theorem target_trimmed (path : Path) (start : Place) :
    path.trimmed.target start = path.target start := by
  have stay : ∀ (dots : List String) (place : Place), (∀ dot ∈ dots, dot = ".") →
      dots.foldl FileTree.step place = place := by
    intro dots place onlyDots
    induction dots with
    | nil => rfl
    | cons dot rest ih =>
      rw [List.forall_mem_cons] at onlyDots
      rw [List.foldl_cons, onlyDots.1, FileTree.step, if_pos rfl, ih onlyDots.2]
  rcases segments_trimmed path with ⟨dots, onlyDots, same⟩
  rw [target, target, isAbsolute_trimmed, same, List.foldl_append, stay dots _ onlyDots]

theorem parts_trimmed (path : Path) : path.trimmed.parts = path.parts := by
  rcases segments_trimmed path with ⟨dots, onlyDots, same⟩
  have noParts : dots.filterMap Part.ofSegment? = [] := by
    rw [List.filterMap_eq_nil_iff]
    intro dot member
    rw [onlyDots dot member]
    rfl
  have inner : path.segments.filterMap Part.ofSegment? =
      path.trimmed.segments.filterMap Part.ofSegment? := by
    rw [same, List.filterMap_append, noParts, List.append_nil]
  have firstSegment (relative : path.isAbsolute = false) :
      path.segments.head? = path.trimmed.segments.head? := by
    by_cases nothing : path.trimmed.text = ""
    · have last := getLast?_dropTail path.text.toList.reverse
      rw [← reverse_trimmed, nothing, List.getLast?_reverse, List.getLast?_reverse] at last
      have empty : path.text = "" := by
        rw [← String.toList_eq_nil_iff]
        exact List.head?_eq_none_iff.1 last.symm
      rw [segments, segments, empty, nothing]
    · have first := segments_ne_nil nothing (isAbsolute_trimmed path ▸ relative)
      rw [same, List.head?_append, List.head?_eq_some_head first, Option.some_or]
  rw [parts, parts, isAbsolute_trimmed, inner]
  by_cases absolute : path.isAbsolute = true
  · rw [if_pos absolute, if_pos absolute]
  · rw [if_neg absolute, if_neg absolute, firstSegment (by simpa using absolute)]

theorem parent?_trimmed (path : Path) : path.trimmed.parent? = path.parent? := by
  rw [parent?, parent?, lastPart?, lastPart?, parts_trimmed, reverse_trimmed, dropTail_dropTail]

theorem trimmed_child (path : Path) (plain : IsPlainName name) :
    (path.child name).trimmed = path.child name := by
  have kept := dropTail_plain plain (path.text.toList ++ path.gap).reverse
  have backwards : (path.child name).text.toList.reverse =
      name.toList.reverse ++ (path.text.toList ++ path.gap).reverse := by
    rw [toList_child path plain]
    simp
  rw [trimmed, backwards, kept, ← backwards]
  simp

/-- The parent of a child is the path to which its name was appended. -/
theorem parent?_child (path : Path) (plain : IsPlainName name) :
    (path.child name).parent? = some path.trimmed := by
  have backwards : (path.child name).text.toList.reverse =
      name.toList.reverse ++ (path.gap.reverse ++ path.text.toList.reverse) := by
    rw [toList_child path plain]
    simp
  have letters : ∀ c ∈ name.toList.reverse, (c != '/') = true := by
    intro c present
    have different : c ≠ '/' := by
      rintro rfl
      exact plain.single (List.mem_reverse.1 present)
    simpa using different
  have lastName : (path.child name).lastPart? = some (.name name) := by
    simp [lastPart?, parts_child _ plain]
  -- What is left behind the name is the path itself, with a separator behind it if it had none.
  have rest : dropTail ((path.gap.reverse ++ path.text.toList.reverse).dropWhile
      fun c => c != '/') = dropTail path.text.toList.reverse := by
    rw [gap]
    by_cases empty : path.text = ""
    · simp [empty]
    by_cases separated : path.endsWithSeparator = true
    · have ends : path.text.toList.getLast? = some '/' := by
        simpa [endsWithSeparator] using separated
      rcases List.getLast?_eq_some_iff.1 ends with ⟨front, split⟩
      simp [separated, split]
    · have nonempty : path.text.toList.reverse ≠ [] := by simpa using empty
      rw [if_neg (by simp [empty, separated])]
      simp only [List.reverse_cons, List.reverse_nil, List.nil_append, List.singleton_append]
      rw [List.dropWhile_cons_of_neg (by simp), dropTail]
      intro single
      exact nonempty single
  rw [parent?, lastName]
  simp only [backwards, dropTail_plain plain]
  rw [List.dropWhile_append_of_pos letters, rest, trimmed]

/-- The directories on the way to a child. -/
theorem onWay_child (plain : IsPlainName name) (way : (path.child name).OnWay directory) :
    directory = path.trimmed ∨ path.OnWay directory := by
  induction way with
  | parent named =>
    rw [parent?_child path plain, Option.some.injEq] at named
    exact .inl named.symm
  | higher below named ih =>
    rcases ih with rfl | higher
    · rw [parent?_trimmed] at named
      exact .inr (.parent named)
    · exact .inr (.higher higher named)

end NodeLocale.Path
