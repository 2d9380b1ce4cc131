import Mathlib.Data.List.Lex
import Mathlib.Data.String.Basic
import NodeLocale.Proofs.Files.OutputPlaces

/-!
# Listing places

The places below a place are listed in alphabetical order, which is a linear order, so what is kept
of a listing depends on its members alone. Where all names of a tree are plain, a place is read back
from the path that leads to it from the root.
-/

namespace NodeLocale

/-! ### The order of places -/

namespace FileTree

variable {tree : FileTree} {place other : Place}

theorem nameBefore_iff {left right : String} : nameBefore left right = true ↔ left < right := by
  rw [nameBefore, List.lex_eq_true_iff_lex, String.lt_iff_toList_lt]
  generalize left.toList = front
  generalize right.toList = back
  induction front generalizing back with
  | nil =>
    cases back with
    | nil => simp
    | cons d rest => simp
  | cons c front ih =>
    cases back with
    | nil => simp
    | cons d rest =>
      rw [List.map_cons, List.map_cons, List.cons_lex_cons_iff, ih, List.cons_lt_cons_iff]
      have letters : c.toNat = d.toNat ↔ c = d := ⟨Char.toNat_inj.1, congrArg Char.toNat⟩
      rw [letters, Nat.blt_eq]
      rfl

/-- Whether a place stands before another one in a listing, or is the same. -/
def NotAfter (left right : Place) : Prop := left ≤ right

theorem notAfter_iff {left right : Place} :
    (!right.lex left nameBefore) = true ↔ NotAfter left right := by
  rw [Bool.not_eq_true', List.lex_eq_false_iff_not_lex, NotAfter, ← not_lt]
  simp only [nameBefore_iff]
  rfl

theorem pairwise_placesBelow (tree : FileTree) (place : Place) :
    (tree.placesBelow place).Pairwise NotAfter := by
  have sorted : (tree.placesBelow place).Pairwise fun left right =>
      (!right.lex left nameBefore) = true := by
    apply List.pairwise_mergeSort
    · intro first second third before after
      exact notAfter_iff.2 (le_trans (notAfter_iff.1 before) (notAfter_iff.1 after))
    · intro left right
      rw [Bool.or_eq_true, notAfter_iff, notAfter_iff]
      exact le_total left right
  apply sorted.imp
  intro left right before
  exact notAfter_iff.1 before

theorem nodup_placesBelow (tree : FileTree) (place : Place) : (tree.placesBelow place).Nodup := by
  apply (List.mergeSort_perm _ _).nodup_iff.2
  exact tree.nodes.distinct.filter _

theorem mem_placesBelow_iff : other ∈ tree.placesBelow place ↔
    other ∈ tree.nodes.keys ∧ place <+: other ∧ other ≠ place := by
  simp [placesBelow]

/-- What is kept of two listings is the same as soon as it has the same members. -/
theorem filter_placesBelow_eq {left right : FileTree} {keep keepRight : Place → Bool}
    (same : ∀ other, other ∈ left.placesBelow place ∧ keep other = true ↔
      other ∈ right.placesBelow place ∧ keepRight other = true) :
    (left.placesBelow place).filter keep = (right.placesBelow place).filter keepRight := by
  refine List.Perm.eq_of_pairwise ?_ ((pairwise_placesBelow left place).filter _)
    ((pairwise_placesBelow right place).filter _) ?_
  · intro first second _ _ before after
    exact le_antisymm before after
  · apply (List.perm_ext_iff_of_nodup ((nodup_placesBelow left place).filter _)
      ((nodup_placesBelow right place).filter _)).2
    intro other
    rw [List.mem_filter, List.mem_filter]
    exact same other

end FileTree

/-! ### Plain names -/

instance (name : String) : Decidable (Path.IsPlainName name) :=
  decidable_of_iff (name ≠ "" ∧ '/' ∉ name.toList ∧ name ≠ "." ∧ name ≠ "..") <| by
    constructor
    · rintro ⟨nonempty, single, notHere, notUp⟩
      exact ⟨nonempty, single, notHere, notUp⟩
    · rintro ⟨nonempty, single, notHere, notUp⟩
      exact ⟨nonempty, single, notHere, notUp⟩

/-- Whether a place is reached by plain names only. -/
def Place.IsPlain (place : Place) : Prop := ∀ name ∈ place, Path.IsPlainName name

instance (place : Place) : Decidable place.IsPlain :=
  inferInstanceAs (Decidable (∀ name ∈ place, Path.IsPlainName name))

namespace FileTree

variable {tree before after : FileTree} {place last : Place} {names : List String} {path : Path}

theorem foldl_step_plain {names : Place} (plain : names.IsPlain) (start : Place) :
    names.foldl step start = start ++ names := by
  induction names generalizing start with
  | nil => simp
  | cons name rest ih =>
    have first := plain name (by simp)
    have others : Place.IsPlain rest := fun other member => plain other (by simp [member])
    rw [List.foldl_cons, ih others, step, if_neg first.notHere, if_neg first.notUp,
      List.append_assoc, List.singleton_append]

theorem segmentsOf_intercalate {names : Place} (plain : names.IsPlain) :
    Path.segmentsOf (String.intercalate "/" names).toList = names := by
  induction names with
  | nil => rfl
  | cons name rest ih =>
    have first := plain name (by simp)
    cases rest with
    | nil => exact Path.segmentsOf_plain first
    | cons next others =>
      have split : (String.intercalate "/" (name :: next :: others)).toList =
          name.toList ++ '/' :: (String.intercalate "/" (next :: others)).toList := by
        rw [String.intercalate_cons_cons]
        simp
      rw [split, Path.segmentsOf_append, Path.segmentsOf_plain first,
        ih fun other member => plain other (List.mem_cons_of_mem _ member), List.singleton_append]

theorem segments_pathOf (plain : place.IsPlain) : (pathOf place).segments = place := by
  change Path.segmentsOf ("/" ++ String.intercalate "/" place).toList = place
  have split : ("/" ++ String.intercalate "/" place).toList =
      [] ++ '/' :: (String.intercalate "/" place).toList := by
    simp
  rw [split, Path.segmentsOf_append, segmentsOf_intercalate plain]
  rfl

theorem isAbsolute_pathOf (place : Place) : (pathOf place).isAbsolute = true := by
  simp [pathOf, Path.isAbsolute]

theorem target_pathOf (plain : place.IsPlain) (start : Place) :
    (pathOf place).target start = place := by
  rw [Path.target, isAbsolute_pathOf, if_pos rfl, segments_pathOf plain, foldl_step_plain plain,
    List.nil_append]

theorem lastPart?_pathOf (plain : place.IsPlain) {name : String}
    (isLast : place.getLast? = some name) : (pathOf place).lastPart? = some (.name name) := by
  have named := plain name (List.mem_of_getLast? isLast)
  rcases List.getLast?_eq_some_iff.1 isLast with ⟨front, rfl⟩
  have part : Path.Part.ofSegment? name = some (.name name) := by
    simp [Path.Part.ofSegment?, named.notHere, named.notUp]
  rw [Path.lastPart?, Path.parts, isAbsolute_pathOf, if_pos rfl, segments_pathOf plain,
    List.filterMap_append, List.filterMap_cons_some part, List.filterMap_nil, ← List.cons_append,
    List.getLast?_concat]

theorem exists_toList_intercalate (front : List String) (name : String) :
    ∃ letters, (String.intercalate "/" (front ++ [name])).toList = letters ++ name.toList := by
  induction front with
  | nil => exact ⟨[], rfl⟩
  | cons first rest ih =>
    rcases ih with ⟨letters, ends⟩
    refine ⟨first.toList ++ '/' :: letters, ?_⟩
    rcases consists : rest ++ [name] with _ | ⟨next, others⟩
    · simp at consists
    · rw [consists] at ends
      rw [List.cons_append, consists, String.intercalate_cons_cons]
      simp [ends]

theorem unseparated_pathOf (plain : place.IsPlain) (inner : place ≠ []) :
    (pathOf place).endsWithSeparator = false := by
  rcases List.eq_nil_or_concat place with rfl | ⟨front, name, rfl⟩
  · exact absurd rfl inner
  · have named := plain name (by simp)
    rw [List.concat_eq_append] at plain ⊢
    rcases exists_toList_intercalate front name with ⟨letters, ends⟩
    rw [Path.endsWithSeparator, beq_eq_false_iff_ne, pathOf, String.toList_append, ends,
      ← List.append_assoc, List.getLast?_append_of_ne_nil _ named.toList_ne_nil]
    intro separator
    exact named.single (List.mem_of_getLast? separator)

/-- A place in a directory is reached wherever it is occupied, if the steps to it can be taken in
some tree. -/
theorem follow_of_node? {start : Place} {node : FileNode} (plain : Place.IsPlain names)
    (reached : before.follow start names = .ok last)
    (standing : after.node? (start ++ names) = some node) :
    after.follow start names = .ok (start ++ names) := by
  induction names generalizing start with
  | nil => simp [follow]
  | cons name rest ih =>
    have first := plain name (by simp)
    have others : Place.IsPlain rest := fun other member => plain other (by simp [member])
    have directory : after.node? start = some .directory := by
      by_contra noDirectory
      have absent := node?_below noDirectory (List.prefix_append start (name :: rest)) (by simp)
      rw [absent] at standing
      exact absurd standing (by simp)
    have onward : step start name = start ++ [name] := by
      rw [step, if_neg first.notHere, if_neg first.notUp]
    rw [follow] at reached
    split at reached
    · simp at reached
    · simp at reached
    split at reached
    · simp at reached
    · rename_i _ short
      rw [follow, directory]
      simp only [short, if_false]
      have regrouped : start ++ name :: rest = start ++ [name] ++ rest := by simp
      rw [onward] at reached ⊢
      rw [regrouped] at standing ⊢
      exact ih others reached standing

theorem resolve_pathOf {node : FileNode} (plain : place.IsPlain)
    (reached : before.resolve (pathOf place) = .ok last)
    (standing : after.node? place = some node) : after.resolve (pathOf place) = .ok place := by
  rcases resolve_eq_ok_iff.1 reached with ⟨nonempty, noNull, short, followed⟩
  rw [isAbsolute_pathOf, if_pos rfl, segments_pathOf plain] at followed
  rw [resolve_eq_ok_iff, isAbsolute_pathOf, if_pos rfl, segments_pathOf plain]
  exact ⟨nonempty, noNull, short, follow_of_node? plain followed standing⟩

/-! ### Trees with plain names -/

/-- Whether every name in a tree is a plain one. -/
def WellNamed (tree : FileTree) : Prop := ∀ place ∈ tree.nodes.keys, place.IsPlain

instance (tree : FileTree) : Decidable tree.WellNamed :=
  inferInstanceAs (Decidable (∀ place ∈ tree.nodes.keys, place.IsPlain))

theorem mem_keys_of_node? {node : FileNode} (inner : place ≠ [])
    (standing : tree.node? place = some node) : place ∈ tree.nodes.keys := by
  rw [node?_eq_get? inner] at standing
  exact OrderedMap.mem_keys_iff_exists.2 ⟨node, standing⟩

theorem WellNamed.isPlain {node : FileNode} (named : tree.WellNamed)
    (standing : tree.node? place = some node) : place.IsPlain := by
  by_cases root : place = []
  · simp [root, Place.IsPlain]
  · exact named place (mem_keys_of_node? root standing)

/-- A path that leads to a free place ends with the name of the place. -/
theorem WellNamed.isPlain_of_follow (named : tree.WellNamed) {start : Place}
    (single : ∀ name ∈ names, name ≠ "" ∧ '/' ∉ name.toList) (moved : names ≠ [])
    (reached : tree.follow start names = .ok last)
    (noDirectory : tree.node? last ≠ some .directory) : last.IsPlain := by
  induction names generalizing start with
  | nil => exact absurd rfl moved
  | cons name rest ih =>
    rw [follow] at reached
    split at reached
    · simp at reached
    · simp at reached
    rename_i directory
    split at reached
    · simp at reached
    by_cases more : rest = []
    · subst more
      rw [follow, Except.ok.injEq] at reached
      subst reached
      by_cases here : name = "."
      · rw [step, if_pos here] at noDirectory
        exact absurd directory noDirectory
      by_cases up : name = ".."
      · rw [step, if_neg here, if_pos up] at noDirectory
        exact absurd (node?_dropLast directory) noDirectory
      rw [step, if_neg here, if_neg up]
      intro other member
      rcases List.mem_append.1 member with inside | isLast
      · exact named.isPlain directory other inside
      · rw [List.mem_singleton.1 isLast]
        have own := single name (by simp)
        exact ⟨own.1, own.2, here, up⟩
    · exact ih (fun other member => single other (List.mem_cons_of_mem _ member)) more reached

theorem WellNamed.isPlain_of_resolve (named : tree.WellNamed)
    (reached : tree.resolve path = .ok place) (noDirectory : tree.node? place ≠ some .directory) :
    place.IsPlain := by
  rcases resolve_eq_ok_iff.1 reached with ⟨nonempty, -, -, followed⟩
  by_cases still : path.segments = []
  · cases absolute : path.isAbsolute with
    | false => exact absurd still (Path.segments_ne_nil nonempty absolute)
    | true =>
      rw [still, absolute, if_pos rfl, follow, Except.ok.injEq] at followed
      exact absurd (followed ▸ tree.node?_nil) noDirectory
  · apply named.isPlain_of_follow _ still followed noDirectory
    intro name member
    exact Path.single_of_mem_segments member

theorem WellNamed.put (named : tree.WellNamed) (plain : place.IsPlain) (node : FileNode) :
    (tree.put place node).WellNamed := by
  rw [FileTree.put]
  split
  · intro other member
    rcases OrderedMap.mem_keys_insert.1 member with rfl | older
    · exact plain
    · exact named other older
  · exact named

end FileTree

end NodeLocale
