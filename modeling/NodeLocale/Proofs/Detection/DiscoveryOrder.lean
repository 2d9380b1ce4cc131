import NodeLocale.Detection.Detected
import NodeLocale.Proofs.Basic

/-!
# Order of discovery

Nodes are found by two passes over the statements of a program, as they stand with compound
statements opened: the first pass writes down what is registered, the second pass the node classes.
Either pass sees one kind of statement only, so it does not matter how the two kinds are mixed, in
which compound statements they stand and what stands between them.
-/

namespace NodeLocale

open Script

/-! ### Opened bodies -/

/-- Whether a list holds the statements of a body in order, those of a compound statement in the
place of it. Classes and functions stay closed. -/
inductive Script.Opens : List Statement → List Statement → Prop
  | nil : Opens [] []
  | block {inner rest opened others : List Statement} : Opens inner opened → Opens rest others →
      Opens (.block inner :: rest) (opened ++ others)
  | simple {statement : Statement} {rest others : List Statement} :
      (∀ inner, statement ≠ .block inner) → Opens rest others →
      Opens (statement :: rest) (statement :: others)

namespace Script

variable {body opened : List Statement}

theorem Statement.opened_of_simple {statement : Statement}
    (simple : ∀ inner, statement ≠ .block inner) : statement.opened = [statement] := by
  cases statement with
  | block inner => exact absurd rfl (simple inner)
  | assign | classDef | functionDef | returns | other => rw [Statement.opened]

theorem Opens.eq_scope (opens : Opens body opened) : opened = scope body := by
  induction opens with
  | nil => rfl
  | block inner rest ihInner ihRest => rw [scope, Statement.opened, ihInner, ihRest]
  | simple simple rest ih =>
    rw [scope, Statement.opened_of_simple simple, ih]
    rfl

mutual

theorem opens_cons_opened {rest others : List Statement} (opens : Opens rest others) :
    ∀ statement : Statement, Opens (statement :: rest) (statement.opened ++ others)
  | .block inner => by
    rw [Statement.opened]
    exact .block (opens_scope inner) opens
  | .assign targets value => .simple (by simp) opens
  | .classDef name line body => .simple (by simp) opens
  | .functionDef name decorators body => .simple (by simp) opens
  | .returns value => .simple (by simp) opens
  | .other => .simple (by simp) opens

theorem opens_scope : ∀ body : List Statement, Opens body (scope body)
  | [] => .nil
  | statement :: rest => by
    rw [scope]
    exact opens_cons_opened (opens_scope rest) statement

end

end Script

/-! ### The two passes -/

namespace Registration

/-- The registration after a statement. -/
def visit (registration : Registration) : Statement → Registration
  | .assign targets (.dict entries) =>
    if classesName ∈ targets then
      { registration with
        keyForClass := registration.keyForClass.insertMany (entries.filterMap registeredClass?) }
    else if titlesName ∈ targets then
      { registration with
        titles := registration.titles.insertMany (entries.filterMap registeredTitle?) }
    else registration
  | _ => registration

/-- What is registered by assignments. -/
def ofAssignments (assignments : List (List String × Expression)) : Registration where
  keyForClass := .ofList (assignments.flatMap classEntries)
  titles := .ofList (assignments.flatMap titleEntries)

theorem visit_ofAssignments (assignments : List (List String × Expression))
    (statement : Statement) :
    (ofAssignments assignments).visit statement =
      ofAssignments (assignments ++ statement.assignment?.toList) := by
  cases statement with
  | assign targets value =>
    cases value with
    | dict entries =>
      by_cases classes : classesName ∈ targets
      · simp [visit, ofAssignments, Statement.assignment?, classEntries, titleEntries,
          Expression.dict?, OrderedMap.ofList_append, classes]
      · by_cases titles : titlesName ∈ targets
        · simp [visit, ofAssignments, Statement.assignment?, classEntries, titleEntries,
            Expression.dict?, OrderedMap.ofList_append, classes, titles]
        · simp [visit, ofAssignments, Statement.assignment?, classEntries, titleEntries, classes,
            titles]
    | string | name | tuple | list | other =>
      simp [visit, ofAssignments, Statement.assignment?, classEntries, titleEntries,
        Expression.dict?]
  | classDef | functionDef | returns | block | other =>
    simp [visit, Statement.assignment?]

theorem foldl_visit (opened : List Statement) :
    opened.foldl visit (ofAssignments []) =
      ofAssignments (opened.filterMap Statement.assignment?) := by
  induction opened using List.reverseRecOn with
  | nil => rfl
  | append_singleton front statement ih =>
    rw [List.foldl_concat, ih, visit_ofAssignments, List.filterMap_append]
    cases assigned : statement.assignment? <;> simp [assigned]

end Registration

namespace Detected

variable {tables : TypeTables} {source : Option Path} {registration : Registration}

/-- The nodes after a statement. -/
def visit (tables : TypeTables) (source : Option Path) (registration : Registration)
    (nodes : NodeMap) : Statement → NodeMap
  | .classDef name line body =>
    if NodeClass.isNode ⟨name, line, body⟩ then
      let entry := entryOf tables registration source ⟨name, line, body⟩
      nodes.insert entry.1 entry.2
    else nodes
  | _ => nodes

/-- What two passes over the statements of a program find. -/
def twoPasses (tables : TypeTables) (source : Option Path) (opened : List Statement) : NodeMap :=
  let registration := opened.foldl Registration.visit (.ofAssignments [])
  opened.foldl (visit tables source registration) ∅

/-- The nodes of some classes. -/
def ofClasses (tables : TypeTables) (source : Option Path) (registration : Registration)
    (classes : List ClassDef) : NodeMap :=
  .ofList ((classes.filter NodeClass.isNode).map (entryOf tables registration source))

theorem visit_ofClasses (classes : List ClassDef) (statement : Statement) :
    visit tables source registration (ofClasses tables source registration classes) statement =
      ofClasses tables source registration (classes ++ statement.class?.toList) := by
  cases statement with
  | classDef name line body =>
    by_cases node : NodeClass.isNode ⟨name, line, body⟩
    · simp [visit, ofClasses, Statement.class?, node, OrderedMap.ofList_concat]
    · simp [visit, ofClasses, Statement.class?, node]
  | assign | functionDef | returns | block | other => simp [visit, Statement.class?]

theorem foldl_visit (opened : List Statement) :
    opened.foldl (visit tables source registration) ∅ =
      ofClasses tables source registration (opened.filterMap Statement.class?) := by
  induction opened using List.reverseRecOn with
  | nil => rfl
  | append_singleton front statement ih =>
    rw [List.foldl_concat, ih, visit_ofClasses, List.filterMap_append]
    cases defined : statement.class? <;> simp [defined]

theorem nodes_eq_ofClasses {program : Program} {opened : List Statement}
    (opens : Opens program.body opened) : nodes tables source program =
      ofClasses tables source (.ofAssignments (opened.filterMap Statement.assignment?))
        (opened.filterMap Statement.class?) := by
  rw [opens.eq_scope]
  rfl

/-- Two programs with the same classes and the same assignments, in whatever way these are mixed,
nested and surrounded, have the same nodes in the same order. -/
theorem nodes_eq_of_same_order {first second : Program} {opened reopened : List Statement}
    (firstOpens : Opens first.body opened) (secondOpens : Opens second.body reopened)
    (sameClasses : opened.filterMap Statement.class? = reopened.filterMap Statement.class?)
    (sameAssignments :
      opened.filterMap Statement.assignment? = reopened.filterMap Statement.assignment?) :
    nodes tables source first = nodes tables source second ∧
      twoPasses tables source opened = nodes tables source first := by
  have passes : twoPasses tables source opened = nodes tables source first := by
    rw [twoPasses, Registration.foldl_visit, foldl_visit, nodes_eq_ofClasses firstOpens]
  refine ⟨?_, passes⟩
  rw [nodes_eq_ofClasses firstOpens, nodes_eq_ofClasses secondOpens, sameClasses, sameAssignments]

/-- A class with one output. -/
def returning (name type : String) : ClassDef :=
  ⟨name, 1, [.assign ["RETURN_TYPES"] (.tuple [.string type])]⟩

def classReturning (name type : String) : Statement :=
  .classDef name 1 (returning name type).body

def classTable : Statement :=
  .assign ["NODE_CLASS_MAPPINGS"] (.dict [(.string "Mix", .name "Blend")])

def titleTable : Statement :=
  .assign ["NODE_DISPLAY_NAME_MAPPINGS"] (.dict [(.string "Mix", .string "Mixer")])

/-- The tables stand in compound statements, one before the classes and one between them, and a
function has a class of its own. -/
def scattered : Program where
  body :=
    [.other, .block [.other, .block [titleTable]], classReturning "Blend" "IMAGE",
      .functionDef "make" [] [classReturning "Hidden" "IMAGE"], .block [classTable, .block []],
      .block [classReturning "Blur" "MASK", .returns none]]

def gathered : Program where
  body :=
    [classReturning "Blend" "IMAGE", classReturning "Blur" "MASK", titleTable, classTable]

theorem nodes_eq_of_scattered :
    Opens scattered.body scattered.statements ∧ Opens gathered.body gathered.body ∧
      nodes (.ofConfig {}) none scattered = nodes (.ofConfig {}) none gathered ∧
      twoPasses (.ofConfig {}) none scattered.statements =
        nodes (.ofConfig {}) none scattered := by
  have firstOpens : Opens scattered.body scattered.statements := opens_scope _
  have secondOpens : Opens gathered.body gathered.body := opens_scope gathered.body
  exact ⟨firstOpens, secondOpens, nodes_eq_of_same_order firstOpens secondOpens rfl rfl⟩

end Detected

end NodeLocale
