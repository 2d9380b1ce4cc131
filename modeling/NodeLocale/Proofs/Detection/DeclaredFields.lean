import NodeLocale.Proofs.Detection.Identity
import NodeLocale.Proofs.Detection.TakenKeys

/-!
# Declared fields

The inputs method of a node class declares fields in the dictionaries that it returns, at any
depth of compound statements. A field may be declared more than once, and with different types.
It is entered if one of its declarations is that of an entered field, and connected if one of them
is not, so a field can be both. What such a declaration looks like is said by relations that do not
refer to how declarations are looked for.
-/

namespace NodeLocale

open Script

universe u v

/-- Whether a list puts together what the items of another one stand for. -/
inductive Concatenates {α : Type u} {β : Type v} (stands : α → List β → Prop) :
    List α → List β → Prop
  | nil : Concatenates stands [] []
  | cons {item : α} {rest : List α} {own others : List β} : stands item own →
      Concatenates stands rest others → Concatenates stands (item :: rest) (own ++ others)

theorem concatenates_iff {α : Type u} {β : Type v} {stands : α → List β → Prop}
    {transform : α → List β} (given : ∀ item own, stands item own ↔ own = transform item)
    {items : List α} {result : List β} :
    Concatenates stands items result ↔ result = items.flatMap transform := by
  constructor
  · intro concatenates
    induction concatenates with
    | nil => rfl
    | cons own others ih => rw [List.flatMap_cons, (given _ _).1 own, ih]
  · rintro rfl
    induction items with
    | nil => exact .nil
    | cons item rest ih => exact .cons ((given _ _).2 rfl) ih

namespace TypeTables

/-- Whether an expression names a type by a text or a bare name. -/
inductive Tags : Expression → String → Prop
  | text (tag : String) : Tags (.string tag) tag
  | name (tag : String) : Tags (.name tag) tag

/-- Whether a declaration names a type, in the first element of a tuple or a list. -/
inductive Typed : Expression → String → Prop
  | tuple {first : Expression} {tag : String} (rest : List Expression) :
      Tags first tag → Typed (.tuple (first :: rest)) tag
  | list {first : Expression} {tag : String} (rest : List Expression) :
      Tags first tag → Typed (.list (first :: rest)) tag

/-- Whether a declaration is that of an entered field. -/
def Enters (tables : TypeTables) (declaration : Expression) : Prop :=
  ∃ tag, Typed declaration tag ∧ Text.upper tag ∈ tables.widgets ∧
    Text.upper tag ∉ tables.handles

theorem tags_iff {expression : Expression} {tag : String} :
    expression.tag? = some tag ↔ Tags expression tag := by
  constructor
  · intro named
    cases expression with
    | string text =>
      rcases Option.some.inj named with rfl
      exact .text text
    | name name =>
      rcases Option.some.inj named with rfl
      exact .name name
    | tuple | list | dict | other => exact absurd named (by simp [Expression.tag?])
  · intro tags
    cases tags with
    | text => rfl
    | name => rfl

theorem typed_iff {declaration : Expression} {tag : String} :
    NodeClass.declaredTag? declaration = some tag ↔ Typed declaration tag := by
  constructor
  · intro named
    cases declaration with
    | tuple items =>
      cases items with
      | nil => exact absurd named (by simp [NodeClass.declaredTag?, Expression.sequence?])
      | cons first rest => exact .tuple rest (tags_iff.1 named)
    | list items =>
      cases items with
      | nil => exact absurd named (by simp [NodeClass.declaredTag?, Expression.sequence?])
      | cons first rest => exact .list rest (tags_iff.1 named)
    | string | name | dict | other =>
      exact absurd named (by simp [NodeClass.declaredTag?, Expression.sequence?])
  · intro typed
    cases typed with
    | tuple rest tags => exact tags_iff.2 tags
    | list rest tags => exact tags_iff.2 tags

theorem enters_iff {tables : TypeTables} {declaration : Expression} :
    NodeClass.declaresWidget tables declaration = true ↔ tables.Enters declaration := by
  rw [NodeClass.declaresWidget, Option.any_eq_true]
  apply exists_congr
  intro tag
  rw [typed_iff]
  simp [isWidget]

end TypeTables

namespace NodeClass

/-! ### Declarations -/

/-- Whether an entry of a section declares a field, which only a text can name. -/
inductive EntryDeclares : Expression × Expression → List (String × Expression) → Prop
  | named (name : String) (declaration : Expression) :
      EntryDeclares (.string name, declaration) [(name, declaration)]
  | unnamed {key : Expression} (declaration : Expression) :
      (∀ name, key ≠ .string name) → EntryDeclares (key, declaration) []

/-- What a section declares, which is nothing if it is not written out. -/
inductive SectionDeclares : Expression × Expression → List (String × Expression) → Prop
  | written {key : Expression} {entries : List (Expression × Expression)}
      {declared : List (String × Expression)} :
      Concatenates EntryDeclares entries declared → SectionDeclares (key, .dict entries) declared
  | computed {key value : Expression} :
      (∀ entries, value ≠ .dict entries) → SectionDeclares (key, value) []

/-- What a statement of a method declares; only the return of a dictionary declares anything. -/
inductive StatementDeclares : Statement → List (String × Expression) → Prop
  | returned {sections : List (Expression × Expression)} {declared : List (String × Expression)} :
      Concatenates SectionDeclares sections declared →
      StatementDeclares (.returns (some (.dict sections))) declared
  | silent {statement : Statement} :
      (∀ sections, statement ≠ .returns (some (.dict sections))) → StatementDeclares statement []

/-- What a class declares in its first inputs method, in the order of the source. -/
inductive Declares (definition : ClassDef) : List (String × Expression) → Prop
  | method {before later body opened : List Statement} {decorators : List String}
      {declared : List (String × Expression)} :
      definition.body = before ++ .functionDef inputsMethod decorators body :: later →
      (∀ decorators body, .functionDef inputsMethod decorators body ∉ before) →
      Opens body opened → Concatenates StatementDeclares opened declared →
      Declares definition declared
  | missing : (∀ decorators body, .functionDef inputsMethod decorators body ∉ definition.body) →
      Declares definition []

theorem entryDeclares_iff (entry : Expression × Expression)
    (declared : List (String × Expression)) : EntryDeclares entry declared ↔
      declared = (entry.1.string?.map fun name => (name, entry.2)).toList := by
  rcases entry with ⟨key, declaration⟩
  constructor
  · intro declares
    cases declares with
    | named => rfl
    | unnamed _ fails =>
      cases key with
      | string name => exact absurd rfl (fails name)
      | name | tuple | list | dict | other => rfl
  · rintro rfl
    cases key with
    | string name => exact .named name declaration
    | name | tuple | list | dict | other => exact .unnamed declaration (by simp)

theorem sectionDeclarations_of_computed {value : Expression}
    (computed : ∀ entries, value ≠ .dict entries) : sectionDeclarations value = [] := by
  cases value with
  | dict entries => exact absurd rfl (computed entries)
  | string | name | tuple | list | other => rfl

theorem concatenates_entries_iff {entries : List (Expression × Expression)}
    {declared : List (String × Expression)} : Concatenates EntryDeclares entries declared ↔
      declared = sectionDeclarations (.dict entries) := by
  rw [concatenates_iff entryDeclares_iff, sectionDeclarations, List.filterMap_eq_flatMap_toList]
  rfl

theorem sectionDeclares_iff (part : Expression × Expression)
    (declared : List (String × Expression)) :
    SectionDeclares part declared ↔ declared = sectionDeclarations part.2 := by
  rcases part with ⟨key, value⟩
  constructor
  · intro declares
    cases declares with
    | written concatenates => exact concatenates_entries_iff.1 concatenates
    | computed fails => exact (sectionDeclarations_of_computed fails).symm
  · intro same
    by_cases written : ∃ entries, value = .dict entries
    · rcases written with ⟨entries, rfl⟩
      exact .written (concatenates_entries_iff.2 same)
    · rw [same, sectionDeclarations_of_computed (not_exists.1 written)]
      exact .computed (not_exists.1 written)

theorem declarationsIn_of_silent {statement : Statement}
    (silent : ∀ sections, statement ≠ .returns (some (.dict sections))) :
    statement.returned?.toList.flatMap declarationsIn = [] := by
  cases statement with
  | returns value =>
    rcases value with _ | value
    · rfl
    · cases value with
      | dict sections => exact absurd rfl (silent sections)
      | string | name | tuple | list | other => rfl
  | assign | classDef | functionDef | block | other => rfl

theorem concatenates_sections_iff {sections : List (Expression × Expression)}
    {declared : List (String × Expression)} : Concatenates SectionDeclares sections declared ↔
      declared = declarationsIn (.dict sections) := by
  rw [concatenates_iff sectionDeclares_iff]
  rfl

theorem statementDeclares_iff (statement : Statement) (declared : List (String × Expression)) :
    StatementDeclares statement declared ↔
      declared = statement.returned?.toList.flatMap declarationsIn := by
  constructor
  · intro declares
    cases declares with
    | returned concatenates =>
      rw [concatenates_sections_iff.1 concatenates]
      exact (List.flatMap_singleton _ _).symm
    | silent fails => exact (declarationsIn_of_silent fails).symm
  · intro same
    by_cases written : ∃ sections, statement = .returns (some (.dict sections))
    · rcases written with ⟨sections, rfl⟩
      rw [same]
      exact .returned (concatenates_sections_iff.2 (List.flatMap_singleton _ _))
    · rw [same, declarationsIn_of_silent (not_exists.1 written)]
      exact .silent (not_exists.1 written)

theorem concatenates_statements_iff {opened : List Statement}
    {declared : List (String × Expression)} : Concatenates StatementDeclares opened declared ↔
      declared = (opened.filterMap Statement.returned?).flatMap declarationsIn := by
  rw [concatenates_iff statementDeclares_iff, List.filterMap_eq_flatMap_toList, List.flatMap_assoc]

theorem functionBody?_eq_some_iff {name : String} {statement : Statement}
    {body : List Statement} : functionBody? name statement = some body ↔
      ∃ decorators, statement = .functionDef name decorators body := by
  cases statement with
  | functionDef called decorators inner =>
    by_cases same : called = name
    · simp [functionBody?, same]
    · simp [functionBody?, same]
  | assign | classDef | returns | block | other => simp [functionBody?]

theorem findSome?_functionBody?_eq_none_iff {name : String} {statements : List Statement} :
    statements.findSome? (functionBody? name) = none ↔
      ∀ decorators body, .functionDef name decorators body ∉ statements := by
  rw [List.findSome?_eq_none_iff]
  constructor
  · intro missing decorators body member
    have found : functionBody? name (.functionDef name decorators body) = some body :=
      functionBody?_eq_some_iff.2 ⟨decorators, rfl⟩
    rw [missing _ member] at found
    exact absurd found (by simp)
  · intro missing statement member
    cases found : functionBody? name statement with
    | none => rfl
    | some body =>
      rcases functionBody?_eq_some_iff.1 found with ⟨decorators, rfl⟩
      exact absurd member (missing decorators body)

theorem methodBody?_eq_some_iff {name : String} {definition : ClassDef} {body : List Statement} :
    methodBody? name definition = some body ↔ ∃ before decorators later,
      definition.body = before ++ .functionDef name decorators body :: later ∧
        ∀ decorators body, .functionDef name decorators body ∉ before := by
  rw [methodBody?, List.findSome?_eq_some_iff]
  constructor
  · rintro ⟨before, method, later, split, own, first⟩
    rcases functionBody?_eq_some_iff.1 own with ⟨decorators, rfl⟩
    exact ⟨before, decorators, later, split,
      findSome?_functionBody?_eq_none_iff.1 (List.findSome?_eq_none_iff.2 first)⟩
  · rintro ⟨before, decorators, later, split, first⟩
    exact ⟨before, _, later, split, functionBody?_eq_some_iff.2 ⟨decorators, rfl⟩,
      List.findSome?_eq_none_iff.1 (findSome?_functionBody?_eq_none_iff.2 first)⟩

theorem declares_iff {definition : ClassDef} {declared : List (String × Expression)} :
    Declares definition declared ↔ declared = declarations definition := by
  constructor
  · intro declares
    cases declares with
    | method split first opens concatenates =>
      rw [declarations, methodBody?_eq_some_iff.2 ⟨_, _, _, split, first⟩,
        concatenates_statements_iff.1 concatenates, opens.eq_scope]
    | missing none => rw [declarations, methodBody?, findSome?_functionBody?_eq_none_iff.2 none]
  · rintro rfl
    rw [declarations]
    cases found : methodBody? inputsMethod definition with
    | none => exact .missing (findSome?_functionBody?_eq_none_iff.1 found)
    | some body =>
      rcases methodBody?_eq_some_iff.1 found with ⟨before, decorators, later, split, first⟩
      exact .method split first (opens_scope body) (concatenates_statements_iff.2 rfl)

/-! ### Fields of a schema -/

/-- Whether the fields of a schema are those that are declared, each under its own name. -/
structure Classifies (tables : TypeTables) (declared : List (String × Expression))
    (schema : NodeSchema) : Prop where
  widgets : FirstsOf tables.Enters declared schema.widgets.keys
  inputs : FirstsOf (fun declaration => ¬tables.Enters declaration) declared schema.inputs.keys
  entered : ∀ field ∈ schema.widgets.entries, field.2 = field.1
  connected : ∀ field ∈ schema.inputs.entries, field.2 = field.1

theorem fieldsWhere_named (test : Expression → Bool) (definition : ClassDef) :
    ∀ field ∈ (fieldsWhere test definition).entries, field.2 = field.1 := by
  intro field member
  have written := OrderedMap.mem_of_get?_ofList (OrderedMap.get?_eq_some_iff.2 member)
  rcases List.mem_map.1 written with ⟨entry, -, same⟩
  rw [Prod.mk.injEq] at same
  rw [← same.1, ← same.2]

theorem firstsOf_keys_fieldsWhere (test : Expression → Bool) (definition : ClassDef) :
    FirstsOf (fun declaration => test declaration = true) (declarations definition)
      (fieldsWhere test definition).keys :=
  OrderedMap.firstsOf_keys_ofList test Prod.fst (declarations definition)

/-- A label that is the key of its field stays, even if it names a primitive type. -/
theorem identity_fieldsWhere (primitive : List String) (test : Expression → Bool)
    (definition : ClassDef) :
    (fieldsWhere test definition).mapValues (NodeSchema.identityLabel primitive) =
      fieldsWhere test definition := by
  apply OrderedMap.mapValues_eq_self
  intro field member
  rw [fieldsWhere_named test definition field member, NodeSchema.identityLabel_key]

section

variable (tables : TypeTables) (title : String) (source : Option Path) (definition : ClassDef)

theorem widgets_schema :
    (schema tables title source definition).widgets = widgets tables definition :=
  identity_fieldsWhere tables.primitive _ definition

theorem inputs_schema :
    (schema tables title source definition).inputs = inputs tables definition :=
  identity_fieldsWhere tables.primitive (fun declaration => !declaresWidget tables declaration)
    definition

theorem schema_classifies :
    Classifies tables (declarations definition) (schema tables title source definition) where
  widgets := by
    rw [widgets_schema, widgets]
    apply (FirstsOf.congr _).1 (firstsOf_keys_fieldsWhere _ definition)
    intro declaration
    exact TypeTables.enters_iff
  inputs := by
    rw [inputs_schema, inputs]
    apply (FirstsOf.congr _).1 (firstsOf_keys_fieldsWhere _ definition)
    intro declaration
    rw [Bool.not_eq_true', ← Bool.not_eq_true, TypeTables.enters_iff]
  entered := by
    rw [widgets_schema, widgets]
    exact fieldsWhere_named _ definition
  connected := by
    rw [inputs_schema, inputs]
    exact fieldsWhere_named _ definition

end

end NodeClass

namespace Detected

variable {tables : TypeTables} {source : Option Path} {program : Program}
  {opened : List Statement} {key : String} {definition : ClassDef}
  {declared : List (String × Expression)}

/-- The node of the last class that takes a key has the fields that the class declares. -/
theorem nodes_classify (opens : Opens program.body opened)
    (last : IsLast (Contends opened key) definition (opened.filterMap Statement.class?))
    (declares : NodeClass.Declares definition declared) :
    ∃ schema, (nodes tables source program).get? key = some schema ∧
      NodeClass.Classifies tables declared schema := by
  refine ⟨_, (get?_nodes_iff opens).2 ⟨definition, last, rfl⟩, ?_⟩
  rw [NodeClass.declares_iff.1 declares]
  exact NodeClass.schema_classifies tables _ source definition

/-- Both fields that are declared first are declared again with a type of the other kind. -/
def sampler : ClassDef where
  name := "Sampler"
  line := 1
  body := [.functionDef "INPUT_TYPES" ["classmethod"]
    [.block [.returns (some (.dict
        [(.string "required", .dict
            [(.string "steps", .tuple [.string "int", .dict []]),
              (.string "image", .tuple [.string "IMAGE"])]),
          (.string "hidden", .other "hidden_inputs()")]))],
      .returns (some (.dict
        [(.string "required", .dict
            [(.string "image", .list [.name "STRING"]), (.name "seed", .tuple [.string "INT"]),
              (.string "model", .string "MODEL"), (.string "steps", .tuple [.name "LATENT"])])]))]]

def sampling : Program where
  body := [.block [.classDef sampler.name sampler.line sampler.body], .other]

theorem nodes_classify_sampler :
    Opens sampling.body sampling.statements ∧
      IsLast (Contends sampling.statements "Sampler") sampler
        (sampling.statements.filterMap Statement.class?) ∧
      NodeClass.Declares sampler (NodeClass.declarations sampler) ∧
      (NodeClass.declarations sampler).map Prod.fst =
        ["steps", "image", "image", "model", "steps"] ∧
      ∃ schema, (nodes (.ofConfig {}) none sampling).get? "Sampler" = some schema ∧
        NodeClass.Classifies (.ofConfig {}) (NodeClass.declarations sampler) schema := by
  have opens : Opens sampling.body sampling.statements := opens_scope _
  have last : IsLast (Contends sampling.statements "Sampler") sampler
      (sampling.statements.filterMap Statement.class?) :=
    ⟨[], [], rfl, by decide +kernel, by simp⟩
  have declares : NodeClass.Declares sampler (NodeClass.declarations sampler) :=
    NodeClass.declares_iff.2 rfl
  exact ⟨opens, last, declares, rfl, nodes_classify opens last declares⟩

end Detected

end NodeLocale
