import NodeLocale.Proofs.Files.Listing
import NodeLocale.Proofs.Files.ParentPath

/-!
# Absolute paths of places

The path that leads to a place from the root goes through the paths of all places above, each being
the parent of the next. Where the absolute path of a directory is not too long to name something in
it, those of the directories above are not either.
-/

namespace NodeLocale

namespace FileTree

variable {tree : FileTree} {place directory start : Place} {path : Path} {name : String}

theorem pathExists_iff (reached : tree.resolve path = .ok place)
    (unseparated : path.endsWithSeparator = false) :
    tree.pathExists path = true ↔ tree.node? place ≠ none := by
  cases standing : tree.node? place with
  | none => simp [pathExists, look, reached, standing, bind, Except.bind, throw, throwThe,
      MonadExceptOf.throw]
  | some node =>
    cases node <;>
      simp [pathExists, look, reached, standing, unseparated, bind, Except.bind, pure, Except.pure]

theorem toList_intercalate_concat {front : List String} (inner : front ≠ []) (name : String) :
    (String.intercalate "/" (front ++ [name])).toList =
      (String.intercalate "/" front).toList ++ '/' :: name.toList := by
  induction front with
  | nil => exact absurd rfl inner
  | cons first rest ih =>
    rcases rest with _ | ⟨next, others⟩
    · simp [String.intercalate_cons_cons]
    · rw [List.cons_append, List.cons_append, String.intercalate_cons_cons,
        String.intercalate_cons_cons, String.toList_append, ← List.cons_append, ih (by simp)]
      simp

theorem child_pathOf (plain : place.IsPlain) (named : Path.IsPlainName name) :
    (pathOf place).child name = pathOf (place ++ [name]) := by
  have text : ((pathOf place).child name).text = (pathOf (place ++ [name])).text := by
    apply String.ext
    rw [Path.toList_child _ named, Path.gap]
    by_cases root : place = []
    · subst root
      have separated : (pathOf []).endsWithSeparator = true := by decide
      rw [separated, Bool.or_true, if_pos rfl]
      simp [pathOf]
    · have nonempty : (pathOf place).text.isEmpty = false := by simp [pathOf]
      rw [nonempty, unseparated_pathOf plain root, Bool.or_false, if_neg (by simp)]
      simp [pathOf, toList_intercalate_concat root]
  exact congrArg Path.mk text

theorem trimmed_pathOf (plain : place.IsPlain) : (pathOf place).trimmed = pathOf place := by
  rcases List.eq_nil_or_concat place with rfl | ⟨front, name, rfl⟩
  · decide
  · rw [List.concat_eq_append] at plain ⊢
    have frontPlain : Place.IsPlain front := fun other member => plain other (by simp [member])
    have named := plain name (by simp)
    rw [← child_pathOf frontPlain named, Path.trimmed_child _ named]

theorem parent?_pathOf (plain : Place.IsPlain (place ++ [name])) :
    (pathOf (place ++ [name])).parent? = some (pathOf place) := by
  have placePlain : place.IsPlain := fun other member => plain other (by simp [member])
  have named := plain name (by simp)
  rw [← child_pathOf placePlain named, Path.parent?_child _ named, trimmed_pathOf placePlain]

theorem isPlain_foldl_step {segments : List String} (plain : place.IsPlain)
    (single : ∀ name ∈ segments, name ≠ "" ∧ '/' ∉ name.toList) :
    Place.IsPlain (segments.foldl step place) := by
  induction segments generalizing place with
  | nil => exact plain
  | cons segment rest ih =>
    rw [List.forall_mem_cons] at single
    apply ih _ single.2
    rw [step]
    split
    · exact plain
    split
    · exact fun name member => plain name (List.dropLast_subset place member)
    · rename_i notHere notUp
      intro name member
      rcases List.mem_append.1 member with inside | isLast
      · exact plain name inside
      · rw [List.mem_singleton.1 isLast]
        exact ⟨single.1.1, single.1.2, notHere, notUp⟩

/-- An absolute path leads to a place with plain names, whatever dots it goes through. -/
theorem isPlain_target (absolute : path.isAbsolute = true) (start : Place) :
    Place.IsPlain (path.target start) := by
  rw [Path.target, if_pos absolute]
  apply isPlain_foldl_step
  · exact fun name member => absurd member List.not_mem_nil
  · intro name member
    exact Path.single_of_mem_segments member

theorem utf8ByteSize_child (path : Path) (named : Path.IsPlainName name) :
    (path.child name).text.utf8ByteSize =
      path.text.utf8ByteSize + (String.ofList path.gap).utf8ByteSize + name.utf8ByteSize := by
  have whole : (path.child name).text = path.text ++ String.ofList path.gap ++ name := by
    apply String.ext
    simp [Path.toList_child path named]
  rw [whole, String.utf8ByteSize_append, String.utf8ByteSize_append]

/-- A child of a directory is reached through it unless its text stands in the way. -/
theorem resolve_child_of_short (named : Path.IsPlainName name)
    (reached : tree.resolve path = .ok directory)
    (standing : tree.node? directory = some .directory) (noNull : '\x00' ∉ name.toList)
    (fits : name.utf8ByteSize ≤ 255) (short : (path.child name).text.utf8ByteSize ≤ 4095) :
    tree.resolve (path.child name) = .ok (directory ++ [name]) := by
  rcases resolve_eq_ok_iff.1 reached with ⟨nonempty, noNullBefore, -, followed⟩
  refine resolve_eq_ok_iff.2 ⟨Path.text_child_ne_empty path named, ?_, short, ?_⟩
  · have gapNoNull : '\x00' ∉ path.gap := by
      rw [Path.gap]
      split <;> simp
    rw [Path.toList_child path named]
    simp_all
  · rw [Path.segments_child path named, Path.isAbsolute_child path named, follow_append, followed]
    simp [Except.bind, follow, standing, Nat.not_lt.2 fits, step, named.notHere, named.notUp]

/-- Along with a directory those above it are reached, and the names in them are shorter. -/
theorem resolve_above (plain : place.IsPlain) (reached : tree.resolve (pathOf place) = .ok place)
    (standing : tree.node? place = some .directory) (named : Path.IsPlainName name)
    (above : directory <+: place) :
    tree.resolve (pathOf directory) = .ok directory ∧
      tree.node? directory = some .directory ∧
        ((pathOf directory).child name).text.utf8ByteSize ≤
          ((pathOf place).child name).text.utf8ByteSize := by
  induction place using List.reverseRecOn with
  | nil =>
    rw [List.prefix_nil.1 above]
    exact ⟨reached, standing, le_refl _⟩
  | append_singleton front last ih =>
    rcases List.prefix_concat_iff.1 above with rfl | higher
    · exact ⟨reached, standing, le_refl _⟩
    · have frontPlain : Place.IsPlain front := fun other member => plain other (by simp [member])
      have lastNamed := plain last (by simp)
      have sizes := utf8ByteSize_child (pathOf front) lastNamed
      rw [← child_pathOf frontPlain lastNamed] at reached ⊢
      rcases resolve_child_eq_ok lastNamed (by simp [pathOf]) reached with
        ⟨parent, parentReached, parentStanding, same⟩
      rw [List.append_left_inj] at same
      rw [← same] at parentReached parentStanding
      rcases ih frontPlain parentReached parentStanding higher with ⟨found, stands, shorter⟩
      refine ⟨found, stands, shorter.trans ?_⟩
      rw [utf8ByteSize_child _ named, utf8ByteSize_child _ named, sizes]
      omega

end FileTree

end NodeLocale
