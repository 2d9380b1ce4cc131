import Mathlib.Data.List.Basic
import NodeLocale.Proofs.Files.Contents
import NodeLocale.Proofs.Files.Saving
import NodeLocale.Proofs.Reconcile.RepairLog

/-!
# Lines of a correction log

A saved log ends each entry by a line feed, and an entry quotes keys and labels as they are. So the
file has one line for each entry exactly if no entry quotes a text with a line feed in it. Which
texts these are depends on what was to be recorded: the node of every entry, the key of every field
that is filled or overridden, and of an overridden field also the label before and after. Whatever
else a candidate holds is not quoted.
-/

namespace NodeLocale

/-! ### Texts and their lines -/

namespace Text

universe u

theorem not_mem_of_mem_splitOn {α : Type u} [BEq α] [LawfulBEq α] {separator : α}
    {items piece : List α} (member : piece ∈ items.splitOn separator) : separator ∉ piece := by
  induction items generalizing piece with
  | nil =>
    rw [List.splitOn_nil, List.mem_singleton] at member
    simp [member]
  | cons item rest ih =>
    rw [List.splitOn_cons_eq_if_modifyHead] at member
    split at member
    · rcases List.mem_cons.1 member with rfl | later
      · simp
      · exact ih later
    · rename_i different
      rcases List.exists_cons_of_ne_nil (List.splitOn_ne_nil separator rest) with
        ⟨first, others, pieces⟩
      rw [pieces] at ih member
      rcases List.mem_cons.1 member with rfl | later
      · have plain : separator ∉ first := ih List.mem_cons_self
        rw [List.mem_cons, not_or]
        exact ⟨fun same => different (by simp [same]), plain⟩
      · exact ih (List.mem_cons_of_mem _ later)

/-- Whether a text is split by its line feeds into some lines, with nothing behind the last. -/
def SplitsInto (text : String) (lines : List String) : Prop :=
  text.toList.splitOn '\n' = lines.map String.toList ++ [[]]

instance (text : String) (lines : List String) : Decidable (SplitsInto text lines) :=
  inferInstanceAs (Decidable (_ = _))

theorem splitsInto_linesText_iff {lines : List String} :
    SplitsInto (Artifact.linesText lines) lines ↔ ∀ line ∈ lines, '\n' ∉ line.toList := by
  constructor
  · intro splits line member
    have piece : line.toList ∈ (Artifact.linesText lines).toList.splitOn '\n' := by
      rw [splits]
      exact List.mem_append_left _ (List.mem_map_of_mem member)
    exact not_mem_of_mem_splitOn piece
  · intro plain
    induction lines with
    | nil => rfl
    | cons line rest ih =>
      have own : '\n' ∉ line.toList := plain line List.mem_cons_self
      have others : SplitsInto (Artifact.linesText rest) rest :=
        ih fun other member => plain other (List.mem_cons_of_mem _ member)
      have written : (Artifact.linesText (line :: rest)).toList =
          line.toList ++ '\n' :: (Artifact.linesText rest).toList := by
        simp [Artifact.linesText, String.toList_join]
      rw [SplitsInto, written, List.splitOn_append_cons_self_of_not_mem own, others]
      rfl

theorem mem_toList_intercalate {c : Char} {separator : String} (absent : c ∉ separator.toList)
    (list : List String) : c ∈ (String.intercalate separator list).toList ↔
      ∃ word ∈ list, c ∈ word.toList := by
  rw [String.toList_intercalate]
  induction list with
  | nil => simp
  | cons word rest ih =>
    cases rest with
    | nil => simp
    | cons next later =>
      rw [List.map_cons] at ih
      rw [List.map_cons, List.map_cons, List.intercalate_cons_cons, List.mem_append,
        List.mem_append, ih]
      simp [absent]

end Text

/-! ### What an entry quotes -/

namespace Issue

/-- The texts that an issue quotes. -/
def quoted : Issue → List String
  | parseFailure file error => [file, error]
  | untranslatedNode node => [node]
  | missingTitle node => [node]
  | missingKey field => [field.node, field.key]
  | unusableValue field found => [field.node, field.key, found]
  | incompleteNode node missing => node :: missing
  | rekeyedEntry node _ translated source _ => [node, translated, source]
  | unmappedKey field => [field.node, field.key]
  | ambiguousKey field candidates => field.node :: field.key :: candidates
  | glossaryOverride field before after _ => [field.node, field.key, before, after]

theorem newline_mem_text_iff (field : FieldRef) : '\n' ∈ field.text.toList ↔
    '\n' ∈ field.node.toList ∨ '\n' ∈ field.key.toList := by
  cases part : field.part <;> simp [FieldRef.text, part, FieldSection.name]

/-- An entry has a line feed only if it quotes one. -/
theorem newline_mem_line_iff (issue : Issue) :
    '\n' ∈ issue.line.toList ↔ ∃ text ∈ issue.quoted, '\n' ∈ text.toList := by
  have message : '\n' ∈ issue.line.toList ↔ '\n' ∈ issue.message.toList := by
    cases issue <;> simp [line, severity, rule, Severity.name, Rule.name]
  have comma : '\n' ∉ (", " : String).toList := by decide
  rw [message]
  cases issue with
  | rekeyedEntry node part translated source caseInsensitive =>
    cases part <;> cases caseInsensitive <;>
      simp [Issue.message, quoted, inQuotes, FieldSection.name]
  | glossaryOverride field before after reason =>
    cases reason <;>
      simp [Issue.message, quoted, inQuotes, newline_mem_text_iff, GlossaryRule.text, or_assoc]
  | incompleteNode | ambiguousKey =>
    simp [Issue.message, quoted, inQuotes, newline_mem_text_iff, or_assoc,
      Text.mem_toList_intercalate comma, -String.toList_intercalate]
  | parseFailure | untranslatedNode | missingTitle | missingKey | unusableValue | unmappedKey =>
    simp [Issue.message, quoted, inQuotes, newline_mem_text_iff, or_assoc]

end Issue

/-! ### What is recorded -/

/-- Whether a glossary replaces the label of a field by another one. -/
structure Glossary.Overrides (glossary : Glossary) (nodes : NodeMap) (field : FieldRef)
    (label dictated : String) (reason : GlossaryRule) : Prop where
  held : (nodes.fieldsAt field.node field.part).get? field.key = some label
  dictates : glossary.lookup field.key = some (dictated, reason)
  different : label ≠ dictated

theorem Glossary.issue?_eq_some_iff {glossary : Glossary} {field : FieldRef} {label : String}
    {issue : Issue} : glossary.issue? field label = some issue ↔
      ∃ dictated reason, glossary.lookup field.key = some (dictated, reason) ∧ label ≠ dictated ∧
        issue = .glossaryOverride field label dictated reason := by
  rw [issue?]
  split
  · rename_i dictated reason dictates
    by_cases same : label = dictated
    · simp [same, dictates]
    · simp [same, dictates, eq_comm]
  · rename_i silent
    simp [silent]

theorem Glossary.mem_issues_iff {glossary : Glossary} {nodes : NodeMap} {issue : Issue} :
    issue ∈ glossary.issues nodes ↔ ∃ field label dictated reason,
      glossary.Overrides nodes field label dictated reason ∧
        issue = .glossaryOverride field label dictated reason := by
  rw [issues, List.mem_flatMap]
  constructor
  · rintro ⟨⟨node, schema⟩, member, listed⟩
    rcases List.mem_flatMap.1 listed with ⟨part, -, listed⟩
    rcases List.mem_filterMap.1 listed with ⟨⟨key, label⟩, held, recorded⟩
    rcases issue?_eq_some_iff.1 recorded with ⟨dictated, reason, dictates, different, rfl⟩
    refine ⟨⟨node, part, key⟩, label, dictated, reason, ⟨?_, dictates, different⟩, rfl⟩
    rw [NodeMap.fieldsAt_of_mem member]
    exact OrderedMap.get?_eq_some_iff.2 held
  · rintro ⟨⟨node, part, key⟩, label, dictated, reason, overrides, rfl⟩
    rcases NodeMap.exists_of_get?_fieldsAt overrides.held with ⟨schema, member, held⟩
    refine ⟨(node, schema), member, List.mem_flatMap.2 ⟨part, part.mem_all, ?_⟩⟩
    refine List.mem_filterMap.2 ⟨(key, label), OrderedMap.get?_eq_some_iff.1 held, ?_⟩
    exact issue?_eq_some_iff.2
      ⟨dictated, reason, overrides.dictates, overrides.different, rfl⟩

theorem Json.newline_not_mem_kind (value : Json) : '\n' ∉ value.kind.toList := by
  cases value <;> simp [kind]

namespace RepairPass

variable {pass : RepairPass} {glossary? : Option Glossary} {source : NodeMap}
  {candidate : JsonObject} {issue : Issue}

/-- The log of a pass, behind which the changes of the glossary stand if there is one. -/
def logWith (pass : RepairPass) (glossary? : Option Glossary) (source : NodeMap)
    (candidate : JsonObject) : CorrectionLog :=
  match glossary? with
  | none => (pass.run source candidate).log
  | some glossary => (glossary.apply (pass.run source candidate)).log

theorem mem_logWith_iff : issue ∈ pass.logWith glossary? source candidate ↔
    Recorded pass source candidate issue ∨
      ∃ glossary ∈ glossary?, issue ∈ glossary.issues (pass.run source candidate).nodes := by
  cases glossary? with
  | none => simp [logWith, mem_log_iff]
  | some glossary => simp [logWith, Glossary.apply, mem_log_iff]

/-- Whether no line feed stands in what a log has to quote: the nodes and keys of what is repaired,
and the nodes, keys and both labels of what is overridden. -/
structure Unbroken (pass : RepairPass) (glossary? : Option Glossary) (source : NodeMap)
    (candidate : JsonObject) : Prop where
  node : ∀ issue node, Recorded pass source candidate issue → issue.node? = some node →
    '\n' ∉ node.toList
  key : ∀ issue field, Recorded pass source candidate issue → issue.place? = some (.field field) →
    '\n' ∉ field.key.toList
  overridden : ∀ glossary ∈ glossary?, ∀ field label dictated reason,
    glossary.Overrides (pass.run source candidate).nodes field label dictated reason →
      ∀ text ∈ [field.node, field.key, label, dictated], '\n' ∉ text.toList

theorem newline_not_mem_missing {members : List (String × Json)} {name : String}
    (lacking : name ∈ pass.missing members) : '\n' ∉ name.toList := by
  have required : name ∈ pass.required := (List.mem_filter.1 lacking).1
  have plain : ∀ name ∈ Repair.requiredMembers, '\n' ∉ name.toList := by decide
  cases pass with
  | batch => exact absurd required (by simp [RepairPass.required])
  | final => exact plain name required

/-- What is repaired quotes its node and its key, and otherwise fixed texts. -/
theorem newline_mem_quoted_iff (recorded : Recorded pass source candidate issue) :
    (∃ text ∈ issue.quoted, '\n' ∈ text.toList) ↔
      (∃ node, issue.node? = some node ∧ '\n' ∈ node.toList) ∨
        ∃ field, issue.place? = some (.field field) ∧ '\n' ∈ field.key.toList := by
  cases recorded with
  | untranslated | missingTitle | missingKey => simp [Issue.quoted, Issue.node?, Issue.place?]
  | incomplete =>
    simpa [Issue.quoted, Issue.node?, Issue.place?] using
      fun name member broken => absurd broken (newline_not_mem_missing member)
  | unusableValue known given complete found noLabel =>
    simp [Issue.quoted, Issue.node?, Issue.place?, Json.newline_not_mem_kind]

theorem splitsInto_log_iff :
    Text.SplitsInto (Artifact.linesText (pass.logWith glossary? source candidate).lines)
        (pass.logWith glossary? source candidate).lines ↔
      pass.Unbroken glossary? source candidate := by
  have entries : Text.SplitsInto
      (Artifact.linesText (pass.logWith glossary? source candidate).lines)
        (pass.logWith glossary? source candidate).lines ↔
      ∀ issue ∈ pass.logWith glossary? source candidate,
        ¬∃ text ∈ issue.quoted, '\n' ∈ text.toList := by
    simp only [Text.splitsInto_linesText_iff, CorrectionLog.lines, List.forall_mem_map,
      Issue.newline_mem_line_iff]
  rw [entries]
  constructor
  · intro plain
    constructor
    case node =>
      intro issue node recorded about broken
      apply plain issue (mem_logWith_iff.2 (.inl recorded))
      exact (newline_mem_quoted_iff recorded).2 (.inl ⟨node, about, broken⟩)
    case key =>
      intro issue field recorded about broken
      apply plain issue (mem_logWith_iff.2 (.inl recorded))
      exact (newline_mem_quoted_iff recorded).2 (.inr ⟨field, about, broken⟩)
    case overridden =>
      intro glossary wanted field label dictated reason overrides text quoted broken
      apply plain (.glossaryOverride field label dictated reason)
      · exact mem_logWith_iff.2 (.inr ⟨glossary, wanted,
          Glossary.mem_issues_iff.2 ⟨field, label, dictated, reason, overrides, rfl⟩⟩)
      · exact ⟨text, quoted, broken⟩
  · intro unbroken issue logged broken
    rcases mem_logWith_iff.1 logged with recorded | ⟨glossary, wanted, listed⟩
    · rcases (newline_mem_quoted_iff recorded).1 broken with
        ⟨node, about, inside⟩ | ⟨field, about, inside⟩
      · exact unbroken.node issue node recorded about inside
      · exact unbroken.key issue field recorded about inside
    · rcases Glossary.mem_issues_iff.1 listed with
        ⟨field, label, dictated, reason, overrides, rfl⟩
      rcases broken with ⟨text, quoted, inside⟩
      exact unbroken.overridden glossary wanted field label dictated reason overrides text quoted
        inside

/-- A saved log is read back as one line for each of its entries, in order, if and only if no line
feed stands in what it has to quote. -/
theorem oneLineEach_iff {before after : FileTree} {path : Path}
    (saved : Artifact.saveLines before path (pass.logWith glossary? source candidate).lines =
      (after, .ok ())) :
    (∃ text, after.readText path = .ok text ∧
        Text.SplitsInto text (pass.logWith glossary? source candidate).lines) ↔
      pass.Unbroken glossary? source candidate := by
  rw [← splitsInto_log_iff]
  have read := FileTree.readText_of_look (Artifact.savedAs_of_saveText saved).shown
  rw [read]
  constructor
  · rintro ⟨text, same, splits⟩
    rwa [Except.ok.inj same]
  · intro splits
    exact ⟨_, rfl, splits⟩

/-- The final pass over a node whose one input is labelled with a text, under a glossary with a term
for this input. -/
def labelledLog (label : String) : CorrectionLog :=
  RepairPass.final.logWith (some ⟨[], [], .ofList [("image", "图像")]⟩)
    (.ofList [("Blur", { title := "Blur", inputs := .ofList [("image", "image")] })])
    (.ofList [("Blur", .object [("title", .string "Blur"),
      ("inputs", .object [("image", .string label)]), ("widgets", .object []),
      ("outputs", .object [])])])

theorem oneLineEach_of_plainLabel : ∃ after,
    Artifact.saveLines .empty ⟨"logs/final.log"⟩ (labelledLog "picture frame").lines =
        (after, .ok ()) ∧
      ∃ text, after.readText ⟨"logs/final.log"⟩ = .ok text ∧
        Text.SplitsInto text (labelledLog "picture frame").lines := by
  have saved : Artifact.saveLines .empty ⟨"logs/final.log"⟩ (labelledLog "picture frame").lines =
      (_, .ok ()) := rfl
  refine ⟨_, saved, (oneLineEach_iff saved).2 (splitsInto_log_iff.1 ?_)⟩
  decide +kernel

/-- The line break of a label that is overridden cuts its entry in two. -/
theorem entry_cut_of_brokenLabel : ∃ after text,
    Artifact.saveLines .empty ⟨"logs/final.log"⟩ (labelledLog "picture\nframe").lines =
        (after, .ok ()) ∧
      after.readText ⟨"logs/final.log"⟩ = .ok text ∧
      (labelledLog "picture\nframe").length = 1 ∧
      Text.SplitsInto text ["[info] glossary-override: 'Blur.inputs.image' picture",
        "frame -> 图像 (standard term)"] ∧
      ¬Text.SplitsInto text (labelledLog "picture\nframe").lines := by
  have log : labelledLog "picture\nframe" =
      [.glossaryOverride ⟨"Blur", .inputs, "image"⟩ "picture\nframe" "图像" .term] := by
    decide +kernel
  rw [log]
  refine ⟨_, _, rfl, rfl, ?_⟩
  decide +kernel

end RepairPass

end NodeLocale
