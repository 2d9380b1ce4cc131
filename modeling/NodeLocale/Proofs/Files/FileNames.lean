import Mathlib.Data.List.Induction
import NodeLocale.Proofs.Files.Resolution

/-!
# File names

The place to which a path with a file name leads has this name, whatever single dots stand behind
it. A name that is split at its last dot is its stem, the dot and the extension.
-/

namespace NodeLocale.Path

variable {path : Path} {name : String}

theorem getLast?_foldl_step {segments : List String} (start : Place)
    (isLast : (segments.filterMap Part.ofSegment?).getLast? = some (.name name)) :
    (segments.foldl FileTree.step start).getLast? = some name := by
  induction segments using List.reverseRecOn with
  | nil => simp at isLast
  | append_singleton front segment ih =>
    rw [List.filterMap_append] at isLast
    rw [List.foldl_append, List.foldl_cons, List.foldl_nil]
    by_cases here : segment = "."
    · simp only [here, Part.ofSegment?, List.filterMap_cons, if_true, List.filterMap_nil,
        List.append_nil] at isLast
      rw [FileTree.step, if_pos here]
      exact ih isLast
    · by_cases up : segment = ".."
      · simp [up, Part.ofSegment?] at isLast
      · have same : segment = name := by
          simpa [here, up, Part.ofSegment?] using isLast
        rw [FileTree.step, if_neg here, if_neg up, same, List.getLast?_concat]

theorem lastPart?_of_fileName? (named : path.fileName? = some name) :
    path.lastPart? = some (.name name) := by
  rw [fileName?] at named
  split at named
  · rename_i text isLast
    rw [isLast, Option.some.inj named]
  · simp at named

/-- A path with a file name leads to a place of this name. -/
theorem getLast?_target (named : path.fileName? = some name) (start : Place) :
    (path.target start).getLast? = some name := by
  have isLast := lastPart?_of_fileName? named
  rw [lastPart?, parts] at isLast
  apply getLast?_foldl_step
  split at isLast
  · rw [List.getLast?_cons] at isLast
    cases ending : (path.segments.filterMap Part.ofSegment?).getLast? with
    | none => simp [ending] at isLast
    | some part => simpa [ending] using isLast
  split at isLast
  · rw [List.getLast?_cons] at isLast
    cases ending : (path.segments.filterMap Part.ofSegment?).getLast? with
    | none => simp [ending] at isLast
    | some part => simpa [ending] using isLast
  · exact isLast

/-- A name is split into its stem and its extension, or has no extension. -/
theorem splitName_cases (name : String) : splitName name = (name, none) ∨
    ∃ stem ending, splitName name = (stem, some ending) ∧
      name.toList = stem.toList ++ '.' :: ending.toList := by
  have whole := List.takeWhile_append_dropWhile (p := fun c => c != '.') (l := name.toList.reverse)
  rw [splitName]
  split
  · exact .inl rfl
  · exact .inl rfl
  · rename_i first stem _ dropped
    have stops := List.head?_dropWhile_not (fun c => c != '.') name.toList.reverse
    rw [dropped] at stops whole
    have dot : first = '.' := by simpa using stops
    have forwards := congrArg List.reverse whole
    rw [List.reverse_append, List.reverse_cons, List.reverse_reverse] at forwards
    refine .inr ⟨_, _, rfl, forwards.symm.trans ?_⟩
    simp [dot]

/-- A name begins with its stem, and a dot follows if anything does. -/
theorem toList_splitName (name : String) : ∃ ending : List Char,
    name.toList = (splitName name).1.toList ++ ending ∧ ∀ c ∈ ending.head?, c = '.' := by
  rcases splitName_cases name with split | ⟨stem, ending, split, letters⟩
  · exact ⟨[], by simp [split]⟩
  · exact ⟨'.' :: ending.toList, by simp [split, letters]⟩

/-- A name ends like its extension. -/
theorem getLast?_of_splitName {ending : String} {c : Char}
    (split : (splitName name).2 = some ending) (isLast : ending.toList.getLast? = some c) :
    name.toList.getLast? = some c := by
  rcases splitName_cases name with whole | ⟨stem, other, whole, letters⟩
  · simp [whole] at split
  · rw [whole, Option.some.injEq] at split
    rw [letters, split, List.getLast?_append, List.getLast?_cons, isLast]
    rfl

end NodeLocale.Path
