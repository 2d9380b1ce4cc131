import NodeLocale.Proofs.Detection.DiscoveryOrder
import NodeLocale.Proofs.Occurrences

/-!
# Taken keys

A class takes the key under which it is registered last, or its own name if it is not registered.
So a class that is registered twice has a node under one of its keys only, and where several node
classes take one key the node is that of the last of them. Its title is the last one that is given
to the key.
-/

namespace NodeLocale

open Script

namespace Registration

/-! ### References to classes -/

/-- Whether an expression refers to a class, by a bare name or behind a dot. -/
inductive RefersTo : Expression → String → Prop
  | name (className : String) : RefersTo (.name className) className
  | text {className : String} : isClassName className.toList = true →
      RefersTo (.other className) className
  | dotted {className : String} (qualifier : String) : isClassName className.toList = true →
      RefersTo (.other (qualifier ++ "." ++ className)) className

theorem dot_not_mem_of_isClassName {text : List Char} (valid : isClassName text = true) :
    '.' ∉ text := by
  intro member
  simp only [isClassName, Bool.and_eq_true, List.all_eq_true] at valid
  have admitted := valid.1.2 '.' member
  exact absurd admitted (by decide +kernel)

section

variable {className : String} (plain : '.' ∉ className.toList)

include plain

theorem takeWhile_reverse_append (before : List Char) :
    (className.toList.reverse ++ before).takeWhile (fun c => c != '.') =
      className.toList.reverse ++ before.takeWhile fun c => c != '.' := by
  apply List.takeWhile_append_of_pos
  intro c member
  rw [bne_iff_ne]
  rintro rfl
  exact plain (List.mem_reverse.1 member)

theorem afterLastDot_plain : afterLastDot className = className.toList := by
  simpa [afterLastDot] using congrArg List.reverse (takeWhile_reverse_append plain [])

theorem afterLastDot_dotted (qualifier : String) :
    afterLastDot (qualifier ++ "." ++ className) = className.toList := by
  simp [afterLastDot, takeWhile_reverse_append plain]

end

theorem eq_or_dotted (text : String) : text = String.ofList (afterLastDot text) ∨
    ∃ qualifier, text = qualifier ++ "." ++ String.ofList (afterLastDot text) := by
  have parts := List.takeWhile_append_dropWhile (p := fun c => c != '.') (l := text.toList.reverse)
  cases before : text.toList.reverse.dropWhile (fun c => c != '.') with
  | nil =>
    left
    rw [before, List.append_nil] at parts
    rw [afterLastDot, parts, List.reverse_reverse, String.ofList_toList]
  | cons c rest =>
    right
    have dot : c = '.' := by
      have stops := List.head?_dropWhile_not (fun c => c != '.') text.toList.reverse
      rw [before] at stops
      simpa using stops
    refine ⟨String.ofList rest.reverse, String.toList_injective ?_⟩
    have whole : rest.reverse ++ ['.'] ++ afterLastDot text = text.toList := by
      rw [before, dot] at parts
      simpa [afterLastDot] using congrArg List.reverse parts
    simpa using whole.symm

theorem className?_eq_some_iff {expression : Expression} {className : String} :
    className? expression = some className ↔ RefersTo expression className := by
  constructor
  · intro referred
    cases expression with
    | name name =>
      rcases Option.some.inj referred with rfl
      exact .name name
    | other text =>
      simp only [className?] at referred
      split at referred
      · rename_i valid
        rw [← String.toList_ofList (l := afterLastDot text), Option.some.inj referred] at valid
        rcases eq_or_dotted text with whole | ⟨qualifier, whole⟩
        · rw [whole, Option.some.inj referred]
          exact .text valid
        · rw [whole, Option.some.inj referred]
          exact .dotted qualifier valid
      · exact absurd referred (by simp)
    | string | tuple | list | dict => exact absurd referred (by simp [className?])
  · intro refers
    cases refers with
    | name => rfl
    | text valid =>
      have plain := dot_not_mem_of_isClassName valid
      simp [className?, afterLastDot_plain plain, valid]
    | dotted qualifier valid =>
      have plain := dot_not_mem_of_isClassName valid
      simp [className?, afterLastDot_dotted plain, valid]

/-! ### Tables -/

/-- The entries of a dictionary that a statement binds to a name. -/
def entriesIn (table : String) : Statement → List (Expression × Expression)
  | .assign targets (.dict entries) => if table ∈ targets then entries else []
  | _ => []

/-- The entries of all dictionaries that are bound to a name, in order. -/
def entriesOf (table : String) (opened : List Statement) : List (Expression × Expression) :=
  opened.flatMap (entriesIn table)

/-- Whether an entry of a dictionary registers a class. -/
inductive Registers (className : String) : Expression × Expression → Prop
  | entry {value : Expression} (key : String) :
      RefersTo value className → Registers className (.string key, value)

/-- Whether a class takes a key: that of the last entry that registers it, or its own name. -/
inductive Takes (opened : List Statement) (className : String) : String → Prop
  | registered {key : String} {value : Expression} :
      IsLast (Registers className) (.string key, value) (entriesOf classesName opened) →
      Takes opened className key
  | unregistered : (∀ entry ∈ entriesOf classesName opened, ¬Registers className entry) →
      Takes opened className className

/-- Whether an entry of a dictionary gives a title to a key. -/
inductive Entitles (key : String) : Expression × Expression → Prop
  | entry (title : String) : Entitles key (.string key, .string title)

/-- Whether a key has a title: the last one that is given to it, or the key itself. -/
inductive Titled (opened : List Statement) (key : String) : String → Prop
  | given {title : String} :
      IsLast (Entitles key) (.string key, .string title) (entriesOf titlesName opened) →
      Titled opened key title
  | own : (∀ entry ∈ entriesOf titlesName opened, ¬Entitles key entry) → Titled opened key key

/-- Whether no dictionary is bound to the names of both tables. -/
def Separate (opened : List Statement) : Prop :=
  ∀ targets entries, .assign targets (.dict entries) ∈ opened →
    classesName ∈ targets → titlesName ∉ targets

theorem registeredClass?_eq_some_iff {entry : Expression × Expression} {className key : String} :
    registeredClass? entry = some (className, key) ↔
      entry.1 = .string key ∧ RefersTo entry.2 className := by
  rcases entry with ⟨name, value⟩
  rw [← className?_eq_some_iff]
  cases name with
  | string own =>
    cases referred : className? value <;>
      simp [registeredClass?, Expression.string?, referred, and_comm]
  | name | tuple | list | dict | other => simp [registeredClass?, Expression.string?]

theorem registeredTitle?_eq_some_iff {entry : Expression × Expression} {key title : String} :
    registeredTitle? entry = some (key, title) ↔ entry = (.string key, .string title) := by
  rcases entry with ⟨name, value⟩
  cases name with
  | string own =>
    cases value <;> simp [registeredTitle?, Expression.string?]
  | name | tuple | list | dict | other => simp [registeredTitle?, Expression.string?]

theorem flatMap_assignments_eq {table : String} {opened : List Statement}
    {entries : List String × Expression → List (String × String)}
    {transform : Expression × Expression → Option (String × String)}
    (same : ∀ statement ∈ opened, statement.assignment?.toList.flatMap entries =
      (entriesIn table statement).filterMap transform) :
    (opened.filterMap Statement.assignment?).flatMap entries =
      (entriesOf table opened).filterMap transform := by
  rw [List.filterMap_eq_flatMap_toList, List.flatMap_assoc, entriesOf, List.filterMap_flatMap]
  exact List.flatMap_congr same

theorem flatMap_classEntries (opened : List Statement) :
    (opened.filterMap Statement.assignment?).flatMap classEntries =
      (entriesOf classesName opened).filterMap registeredClass? := by
  apply flatMap_assignments_eq
  intro statement member
  cases statement with
  | assign targets value =>
    cases value with
    | dict entries =>
      by_cases bound : classesName ∈ targets <;>
        simp [Statement.assignment?, classEntries, entriesIn, Expression.dict?, bound]
    | string | name | tuple | list | other =>
      simp [Statement.assignment?, classEntries, entriesIn, Expression.dict?]
  | classDef | functionDef | returns | block | other => rfl

theorem flatMap_titleEntries {opened : List Statement} (separate : Separate opened) :
    (opened.filterMap Statement.assignment?).flatMap titleEntries =
      (entriesOf titlesName opened).filterMap registeredTitle? := by
  apply flatMap_assignments_eq
  intro statement member
  cases statement with
  | assign targets value =>
    cases value with
    | dict entries =>
      by_cases bound : titlesName ∈ targets
      · have alone : classesName ∉ targets := by
          intro both
          exact separate targets entries member both bound
        simp [Statement.assignment?, titleEntries, entriesIn, Expression.dict?, bound, alone]
      · simp [Statement.assignment?, titleEntries, entriesIn, bound]
    | string | name | tuple | list | other =>
      simp [Statement.assignment?, titleEntries, entriesIn, Expression.dict?]
  | classDef | functionDef | returns | block | other => rfl

section

variable {opened : List Statement} {className key : String}

theorem registers_iff {entry : Expression × Expression} : Registers className entry ↔
    ∃ registered, registeredClass? entry = some registered ∧ registered.1 = className := by
  constructor
  · rintro ⟨key, refers⟩
    exact ⟨(className, key), registeredClass?_eq_some_iff.2 ⟨rfl, refers⟩, rfl⟩
  · rintro ⟨⟨name, key⟩, registered, rfl⟩
    rcases entry with ⟨first, value⟩
    rcases registeredClass?_eq_some_iff.1 registered with ⟨rfl, refers⟩
    exact .entry key refers

theorem entitles_iff {entry : Expression × Expression} : Entitles key entry ↔
    ∃ given, registeredTitle? entry = some given ∧ given.1 = key := by
  constructor
  · rintro ⟨title⟩
    exact ⟨(key, title), registeredTitle?_eq_some_iff.2 rfl, rfl⟩
  · rintro ⟨⟨name, title⟩, given, rfl⟩
    rw [registeredTitle?_eq_some_iff.1 given]
    exact .entry title

theorem takes_keyOf (opened : List Statement) (className : String) :
    Takes opened className
      ((ofAssignments (opened.filterMap Statement.assignment?)).keyOf className) := by
  rw [keyOf, ofAssignments, flatMap_classEntries]
  cases found : (OrderedMap.ofList ((entriesOf classesName opened).filterMap
      registeredClass?)).get? className with
  | none =>
    apply Takes.unregistered
    exact (OrderedMap.get?_ofList_filterMap_eq_none_iff fun _ => registers_iff).1 found
  | some key =>
    rcases (OrderedMap.get?_ofList_filterMap_iff fun _ => registers_iff).1 found with
      ⟨⟨first, value⟩, isLast, registered⟩
    rcases registeredClass?_eq_some_iff.1 registered with ⟨rfl, refers⟩
    exact .registered isLast

theorem Takes.unique {other : String} (first : Takes opened className key)
    (second : Takes opened className other) : key = other := by
  cases first with
  | registered isLast =>
    cases second with
    | registered also =>
      rcases isLast.unique also with ⟨⟩
      rfl
    | unregistered none => exact absurd isLast.holds (none _ isLast.mem)
  | unregistered none =>
    cases second with
    | registered isLast => exact absurd isLast.holds (none _ isLast.mem)
    | unregistered => rfl

theorem keyOf_eq_iff :
    (ofAssignments (opened.filterMap Statement.assignment?)).keyOf className = key ↔
      Takes opened className key := by
  constructor
  · rintro rfl
    exact takes_keyOf opened className
  · exact (takes_keyOf opened className).unique

instance : Decidable (Takes opened className key) := decidable_of_iff _ keyOf_eq_iff

theorem titled_titleOf (separate : Separate opened) (key : String) :
    Titled opened key
      ((ofAssignments (opened.filterMap Statement.assignment?)).titleOf key) := by
  rw [titleOf, ofAssignments, flatMap_titleEntries separate]
  cases found : (OrderedMap.ofList ((entriesOf titlesName opened).filterMap
      registeredTitle?)).get? key with
  | none =>
    apply Titled.own
    exact (OrderedMap.get?_ofList_filterMap_eq_none_iff fun _ => entitles_iff).1 found
  | some title =>
    rcases (OrderedMap.get?_ofList_filterMap_iff fun _ => entitles_iff).1 found with
      ⟨entry, isLast, given⟩
    rw [registeredTitle?_eq_some_iff.1 given] at isLast
    exact .given isLast

end

end Registration

namespace Detected

open Registration

variable {tables : TypeTables} {source : Option Path} {program : Program}
  {opened : List Statement} {key : String}

/-- Whether a class is a node class that takes a key. -/
def Contends (opened : List Statement) (key : String) (definition : ClassDef) : Prop :=
  NodeClass.isNode definition = true ∧ Takes opened definition.name key

instance (definition : ClassDef) : Decidable (Contends opened key definition) :=
  inferInstanceAs (Decidable (_ ∧ _))

/-- The node under a key is that of the last node class that takes the key. -/
theorem get?_nodes_iff (opens : Opens program.body opened) {schema : NodeSchema} :
    (nodes tables source program).get? key = some schema ↔
      ∃ definition, IsLast (Contends opened key) definition
          (opened.filterMap Statement.class?) ∧
        schema = NodeClass.schema tables
          ((ofAssignments (opened.filterMap Statement.assignment?)).titleOf key) source
          definition := by
  have written (other : ClassDef) : Contends opened key other ↔
      ∃ entry, (if NodeClass.isNode other then some (entryOf tables
        (ofAssignments (opened.filterMap Statement.assignment?)) source other) else none) =
          some entry ∧ entry.1 = key := by
    by_cases node : NodeClass.isNode other = true
    · simp [Contends, node, entryOf, keyOf_eq_iff]
    · simp [Contends, node]
  rw [nodes_eq_ofClasses opens, ofClasses, ← List.filterMap_eq_map, List.filterMap_filter]
  apply (OrderedMap.get?_ofList_filterMap_iff written).trans
  apply exists_congr
  intro definition
  apply and_congr_right
  intro isLast
  rcases isLast.holds with ⟨node, takes⟩
  simp [node, entryOf, keyOf_eq_iff.2 takes, eq_comm]

/-- A key has a node if a node class takes it, and the node is that of the last such class. -/
theorem node_of_takenKey (opens : Opens program.body opened) :
    (key ∈ (nodes tables source program).keys ↔
        ∃ definition ∈ opened.filterMap Statement.class?, Contends opened key definition) ∧
      ∀ definition, IsLast (Contends opened key) definition
          (opened.filterMap Statement.class?) →
        ∃ title, (nodes tables source program).get? key =
            some (NodeClass.schema tables title source definition) ∧
          (Separate opened → Titled opened key title) := by
  constructor
  · rw [OrderedMap.mem_keys_iff_exists, ← IsLast.exists_iff]
    constructor
    · rintro ⟨schema, found⟩
      rcases (get?_nodes_iff opens).1 found with ⟨definition, isLast, -⟩
      exact ⟨definition, isLast⟩
    · rintro ⟨definition, isLast⟩
      exact ⟨_, (get?_nodes_iff opens).2 ⟨definition, isLast, rfl⟩⟩
  · intro definition isLast
    refine ⟨_, (get?_nodes_iff opens).2 ⟨definition, isLast, rfl⟩, ?_⟩
    intro separate
    exact titled_titleOf separate key

/-- One class is registered twice, and one under the name of a later class. -/
def aliased : Program where
  body :=
    [classReturning "Blend" "IMAGE", classReturning "Blur" "MASK", classReturning "Mix" "LATENT",
      .assign ["NODE_CLASS_MAPPINGS"] (.dict
        [(.string "Layer", .name "Blend"), (.string "Overlay", .other "nodes.Blend"),
          (.string "Mix", .name "Blur")]),
      .assign ["NODE_DISPLAY_NAME_MAPPINGS"] (.dict [(.string "Overlay", .string "Overlay V2")])]

theorem node_of_overlay :
    Opens aliased.body aliased.statements ∧
      IsLast (Contends aliased.statements "Overlay") (returning "Blend" "IMAGE")
        (aliased.statements.filterMap Statement.class?) ∧
      ∃ title, (nodes (.ofConfig {}) none aliased).get? "Overlay" =
          some (NodeClass.schema (.ofConfig {}) title none (returning "Blend" "IMAGE")) ∧
        (Separate aliased.statements → Titled aliased.statements "Overlay" title) := by
  have opens : Opens aliased.body aliased.statements := opens_scope _
  have last : IsLast (Contends aliased.statements "Overlay") (returning "Blend" "IMAGE")
      (aliased.statements.filterMap Statement.class?) := by
    refine ⟨[], [returning "Blur" "MASK", returning "Mix" "LATENT"], rfl, ?_, ?_⟩
    · decide +kernel
    · decide +kernel
  exact ⟨opens, last, (node_of_takenKey opens).2 _ last⟩

/-- Whether the last entry of a key refers to a node class that is the only class of its name. -/
structure RefersLast (opened : List Statement) (key : String) (definition : ClassDef) : Prop where
  last : ∃ value, RefersTo value definition.name ∧
    IsLast (fun entry => entry.1 = .string key) (.string key, value) (entriesOf classesName opened)
  only : (opened.filterMap Statement.class?).filter (fun other => other.name = definition.name) =
    [definition]
  node : NodeClass.isNode definition = true

/-- A class has no node under the first of its two keys, and another class takes the key of one. -/
theorem nodes_lost_of_aliased :
    RefersLast aliased.statements "Layer" (returning "Blend" "IMAGE") ∧
      (nodes (.ofConfig {}) none aliased).get? "Layer" = none ∧
      RefersLast aliased.statements "Mix" (returning "Blur" "MASK") ∧
      ∀ title, (nodes (.ofConfig {}) none aliased).get? "Mix" ≠
        some (NodeClass.schema (.ofConfig {}) title none (returning "Blur" "MASK")) := by
  have entries : entriesOf classesName aliased.statements =
      [(.string "Layer", .name "Blend"), (.string "Overlay", .other "nodes.Blend"),
        (.string "Mix", .name "Blur")] := rfl
  refine ⟨⟨⟨_, .name _, [], _, entries, rfl, ?_⟩, rfl, by decide +kernel⟩, by decide +kernel,
    ⟨⟨_, .name _, [_, _], [], entries, rfl, ?_⟩, rfl, by decide +kernel⟩, ?_⟩
  · simp
  · simp
  · intro title same
    have outputs := congrArg (Option.map NodeSchema.outputs) same
    have untitled : (NodeClass.schema (.ofConfig {}) title none (returning "Blur" "MASK")).outputs =
        (NodeClass.schema (.ofConfig {}) "" none (returning "Blur" "MASK")).outputs := rfl
    rw [Option.map_some, untitled] at outputs
    exact absurd outputs (by decide +kernel)

end Detected

end NodeLocale
