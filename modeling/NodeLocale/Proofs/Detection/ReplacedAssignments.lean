import NodeLocale.Proofs.Detection.RenamedOutputs

/-!
# Replaced assignments

An assignment has an influence on what is extracted through what it registers and through the
outputs of the class in whose body it stands, and through nothing else. So assignments can be
replaced by others that agree with them in this, wherever they stand in a program.
-/

namespace NodeLocale

open Script

namespace Script

/-- The statements of some assignments. -/
def assigning (assignments : List (List String × Expression)) : List Statement :=
  assignments.map fun assignment => .assign assignment.1 assignment.2

/-- Whether a body results from another one if some assignments that stand one behind the other
somewhere in it, at any depth, are replaced by other assignments. -/
inductive Replaces (old new : List (List String × Expression)) :
    List Statement → List Statement → Prop
  | here (rest : List Statement) : Replaces old new (assigning old ++ rest) (assigning new ++ rest)
  | later {body result : List Statement} (first : Statement) :
      Replaces old new body result → Replaces old new (first :: body) (first :: result)
  | block {inner result : List Statement} (rest : List Statement) :
      Replaces old new inner result →
      Replaces old new (.block inner :: rest) (.block result :: rest)
  | classDef {inner result : List Statement} (name : String) (line : Nat) (rest : List Statement) :
      Replaces old new inner result →
      Replaces old new (.classDef name line inner :: rest) (.classDef name line result :: rest)
  | functionDef {inner result : List Statement} (name : String) (decorators : List String)
      (rest : List Statement) : Replaces old new inner result →
      Replaces old new (.functionDef name decorators inner :: rest)
        (.functionDef name decorators result :: rest)

section

variable (assignments : List (List String × Expression))

@[simp]
theorem scope_assigning : scope (assigning assignments) = assigning assignments := by
  induction assignments with
  | nil => simp [assigning, scope]
  | cons assignment rest ih =>
    rw [assigning, List.map_cons, scope, Statement.opened, ← assigning, ih]
    rfl

@[simp]
theorem assignments_assigning :
    (assigning assignments).filterMap Statement.assignment? = assignments := by
  simp [assigning, List.filterMap_map, Function.comp_def, Statement.assignment?]

@[simp]
theorem classes_assigning : (assigning assignments).filterMap Statement.class? = [] := by
  simp [assigning, Statement.class?]

@[simp]
theorem returned_assigning : (assigning assignments).filterMap Statement.returned? = [] := by
  simp [assigning, Statement.returned?]

@[simp]
theorem findSome?_assigning (name : String) :
    (assigning assignments).findSome? (NodeClass.functionBody? name) = none := by
  rw [List.findSome?_eq_none_iff]
  intro statement member
  rcases List.mem_map.1 member with ⟨assignment, -, rfl⟩
  rfl

end

end Script

theorem NodeClass.outputsThrough_assigning (outputs : FieldMap)
    (assignments : List (List String × Expression)) :
    outputsThrough outputs (assigning assignments) = assignments.foldl outputsAfter outputs := by
  rw [outputsThrough, assignments_assigning]

/-- Whether assignments agree in what they register, in what becomes of the outputs of a class and
in whether they declare outputs. -/
structure Interchangeable (old new : List (List String × Expression)) : Prop where
  classes : ∀ name, (OrderedMap.ofList (old.flatMap Registration.classEntries)).get? name =
    (OrderedMap.ofList (new.flatMap Registration.classEntries)).get? name
  titles : ∀ key, (OrderedMap.ofList (old.flatMap Registration.titleEntries)).get? key =
    (OrderedMap.ofList (new.flatMap Registration.titleEntries)).get? key
  outputs : ∀ outputs, old.foldl NodeClass.outputsAfter outputs =
    new.foldl NodeClass.outputsAfter outputs
  declares : (assigning old).any (NodeClass.bindsSequence NodeClass.outputTypesName) =
    (assigning new).any (NodeClass.bindsSequence NodeClass.outputTypesName)

namespace OrderedMap

variable {α β : Type} [DecidableEq α]

theorem get?_ofList_singleton (key : α) (value : β) :
    (ofList [(key, value)]).get? key = some value :=
  get?_ofList_iff.2 (.head rfl (by simp))

theorem get?_ofList_append_list (key : α) (front back : List (α × β)) :
    (ofList (front ++ back)).get? key =
      ((ofList back).get? key).or ((ofList front).get? key) := by
  simp only [get?, ofList, Entries.find?_collect, List.reverse_append, Entries.find?_append]

end OrderedMap

namespace Script.Replaces

variable {old new : List (List String × Expression)} {body result : List Statement}

/-! ### Classes -/

theorem returned_eq (replaces : Replaces old new body result) :
    (scope body).filterMap Statement.returned? = (scope result).filterMap Statement.returned? := by
  induction replaces with
  | here rest => simp [scope_append]
  | later first _ ih => simp [scope, ih]
  | block rest _ ih => simp [scope, Statement.opened, ih]
  | classDef name line rest _ =>
    simp [scope, Statement.opened, Statement.returned?, List.filterMap_cons]
  | functionDef name decorators rest _ =>
    simp [scope, Statement.opened, Statement.returned?, List.filterMap_cons]

theorem methodBody?_eq (replaces : Replaces old new body result) (name : String) :
    (body.findSome? (NodeClass.functionBody? name)).map
        (fun inner => (scope inner).filterMap Statement.returned?) =
      (result.findSome? (NodeClass.functionBody? name)).map
        fun inner => (scope inner).filterMap Statement.returned? := by
  induction replaces with
  | here rest => simp [List.findSome?_append]
  | later first _ ih =>
    cases found : NodeClass.functionBody? name first <;> simp [found, ih]
  | block rest _ => simp [List.findSome?_cons, NodeClass.functionBody?]
  | classDef called line rest _ => simp [List.findSome?_cons, NodeClass.functionBody?]
  | functionDef called decorators rest inner _ =>
    by_cases same : called = name <;>
      simp [NodeClass.functionBody?, same, inner.returned_eq]

theorem declarations_eq (replaces : Replaces old new body result) (name : String) (line : Nat) :
    NodeClass.declarations ⟨name, line, body⟩ = NodeClass.declarations ⟨name, line, result⟩ := by
  have declared (definition : ClassDef) : NodeClass.declarations definition =
      (((NodeClass.methodBody? NodeClass.inputsMethod definition).map fun inner =>
        (scope inner).filterMap Statement.returned?).getD []).flatMap NodeClass.declarationsIn := by
    rw [NodeClass.declarations]
    cases NodeClass.methodBody? NodeClass.inputsMethod definition <;> rfl
  rw [declared, declared, NodeClass.methodBody?, NodeClass.methodBody?, replaces.methodBody?_eq]

section

variable (interchangeable : Interchangeable old new) (replaces : Replaces old new body result)

include interchangeable replaces

theorem outputsThrough_eq (outputs : FieldMap) :
    NodeClass.outputsThrough outputs body = NodeClass.outputsThrough outputs result := by
  induction replaces generalizing outputs with
  | here rest =>
    rw [NodeClass.outputsThrough_append, NodeClass.outputsThrough_append,
      NodeClass.outputsThrough_assigning, NodeClass.outputsThrough_assigning,
      interchangeable.outputs]
  | later first _ ih =>
    rw [NodeClass.outputsThrough_cons, ih, ← NodeClass.outputsThrough_cons]
  | block rest _ => rfl
  | classDef name line rest _ => rfl
  | functionDef name decorators rest _ => rfl

theorem declares_eq : body.any (NodeClass.bindsSequence NodeClass.outputTypesName) =
    result.any (NodeClass.bindsSequence NodeClass.outputTypesName) := by
  induction replaces with
  | here rest => rw [List.any_append, List.any_append, interchangeable.declares]
  | later first _ ih => rw [List.any_cons, List.any_cons, ih]
  | block rest _ => rfl
  | classDef name line rest _ => rfl
  | functionDef name decorators rest _ => rfl

variable (name : String) (line : Nat)

theorem isNode_eq :
    NodeClass.isNode ⟨name, line, body⟩ = NodeClass.isNode ⟨name, line, result⟩ := by
  have method := congrArg Option.isSome (replaces.methodBody?_eq NodeClass.inputsMethod)
  rw [Option.isSome_map, Option.isSome_map] at method
  rw [NodeClass.isNode, NodeClass.isNode, NodeClass.hasMethod, NodeClass.hasMethod,
    NodeClass.methodBody?, NodeClass.methodBody?, method, NodeClass.hasSequence,
    NodeClass.hasSequence, replaces.declares_eq interchangeable]

theorem schema_eq (tables : TypeTables) (title : String) (source : Option Path) :
    NodeClass.schema tables title source ⟨name, line, body⟩ =
      NodeClass.schema tables title source ⟨name, line, result⟩ := by
  have declarations := replaces.declarations_eq name line
  have outputs : NodeClass.outputs ⟨name, line, body⟩ = NodeClass.outputs ⟨name, line, result⟩ :=
    replaces.outputsThrough_eq interchangeable ∅
  simp only [NodeClass.schema, NodeClass.inputs, NodeClass.widgets, NodeClass.fieldsWhere,
    declarations, outputs]

end

/-! ### Programs -/

/-- What assignments register is found in the same way after they were replaced, if it is in the
assignments themselves. -/
theorem get?_registered_eq (replaces : Replaces old new body result)
    {entries : List String × Expression → List (String × String)}
    (same : ∀ key, (OrderedMap.ofList (old.flatMap entries)).get? key =
      (OrderedMap.ofList (new.flatMap entries)).get? key) (key : String) :
    (OrderedMap.ofList
        (((scope body).filterMap Statement.assignment?).flatMap entries)).get? key =
      (OrderedMap.ofList
        (((scope result).filterMap Statement.assignment?).flatMap entries)).get? key := by
  induction replaces with
  | here rest => simp [scope_append, OrderedMap.get?_ofList_append_list, same]
  | later first _ ih => simp [scope, OrderedMap.get?_ofList_append_list, ih]
  | block rest _ ih =>
    simp [scope, Statement.opened, OrderedMap.get?_ofList_append_list, ih]
  | classDef name line rest _ =>
    simp [scope, Statement.opened, Statement.assignment?, List.filterMap_cons]
  | functionDef name decorators rest _ =>
    simp [scope, Statement.opened, Statement.assignment?, List.filterMap_cons]

variable {tables : TypeTables} {source : Option Path}

theorem entries_eq (interchangeable : Interchangeable old new)
    (replaces : Replaces old new body result) (registration : Registration) :
    (Detected.nodeClasses ⟨body⟩).map (Detected.entryOf tables registration source) =
      (Detected.nodeClasses ⟨result⟩).map (Detected.entryOf tables registration source) := by
  simp only [Detected.nodeClasses, Program.classes, Program.statements]
  induction replaces with
  | here rest => simp [scope_append]
  | later first _ ih => simp [scope, ih]
  | block rest _ ih => simp [scope, Statement.opened, ih]
  | classDef name line rest inner _ =>
    simp only [scope, Statement.opened, List.singleton_append, List.filterMap_cons,
      Statement.class?, List.filter_cons, inner.isNode_eq interchangeable]
    split
    · rw [List.map_cons, List.map_cons, Detected.entryOf, Detected.entryOf,
        inner.schema_eq interchangeable]
    · rfl
  | functionDef name decorators rest _ =>
    simp [scope, Statement.opened, Statement.class?, List.filterMap_cons]

/-- A program has the same nodes after some of its assignments were replaced by ones that can stand
for them. -/
theorem nodes_eq (interchangeable : Interchangeable old new)
    (replaces : Replaces old new body result) :
    Detected.nodes tables source ⟨body⟩ = Detected.nodes tables source ⟨result⟩ := by
  have entry (definition : ClassDef) :
      Detected.entryOf tables (.ofProgram ⟨body⟩) source definition =
        Detected.entryOf tables (.ofProgram ⟨result⟩) source definition := by
    have keys := replaces.get?_registered_eq interchangeable.classes
    have titles := replaces.get?_registered_eq interchangeable.titles
    simp only [Detected.entryOf, Registration.keyOf, Registration.titleOf, Registration.ofProgram,
      Program.assignments, Program.statements, keys, titles]
  rw [Detected.nodes, Detected.nodes, ← replaces.entries_eq interchangeable]
  exact congrArg OrderedMap.ofList (List.map_congr_left fun definition _ => entry definition)

end Script.Replaces

end NodeLocale
