import Mathlib.Algebra.Ring.Nat
import NodeLocale.Proofs.Localization.Endings

/-!
# The counts of tokens

A reply may carry a record of the tokens that it took. A run adds up these records, one batch after
another, and reports the running total with each of them. Counts are machine words, so a record is
counted only if all three sums fit into one; at the first record that does not fit the run panics.
What is counted and reported is exact up to there. So the counts of a run are the sums of all
records that its replies carry if and only if these sums fit, and else the run panics at the last of
them.

That the counts are exact so far is the invariant of a run: a batch either keeps it, with the record
of its reply added, or panics and leaves it as it was.
-/

namespace NodeLocale

namespace TokenUsage

/-- The total of a record as a number of any size. -/
def exactTotal (usage : TokenUsage) : Nat :=
  if 0 < usage.total then usage.total.toNat else usage.prompt.toNat + usage.completion.toNat

/-- The sums of the prompt tokens, of the completion tokens and of the totals of some records. -/
structure Sums where
  prompt : Nat
  completion : Nat
  total : Nat
deriving DecidableEq

def sums (records : List TokenUsage) : Sums where
  prompt := (records.map fun usage => usage.prompt.toNat).sum
  completion := (records.map fun usage => usage.completion.toNat).sum
  total := (records.map exactTotal).sum

/-- Whether each of three sums fits into a machine word. -/
structure Sums.Fit (sums : Sums) : Prop where
  prompt : sums.prompt < UInt64.size
  completion : sums.completion < UInt64.size
  total : sums.total < UInt64.size

/-- Whether counts are exactly some sums. -/
structure Hold (counts : TokenUsage) (sums : Sums) : Prop where
  prompt : counts.prompt.toNat = sums.prompt
  completion : counts.completion.toNat = sums.completion
  total : counts.total.toNat = sums.total

/-- Whether the sums of some counts and a record fit into a machine word. -/
structure HasRoom (counts usage : TokenUsage) : Prop where
  prompt : counts.prompt.toNat + usage.prompt.toNat < UInt64.size
  completion : counts.completion.toNat + usage.completion.toNat < UInt64.size
  total : counts.total.toNat + usage.exactTotal < UInt64.size

/-- Whether every count is at most the other. -/
structure AtMost (left right : TokenUsage) : Prop where
  prompt : left.prompt.toNat ≤ right.prompt.toNat
  completion : left.completion.toNat ≤ right.completion.toNat
  total : left.total.toNat ≤ right.total.toNat

variable {counts usage next less : TokenUsage} {records : List TokenUsage}

/-! ### Counting in machine words -/

theorem add?_eq_some_iff {left right sum : UInt64} :
    add? left right = some sum ↔ sum.toNat = left.toNat + right.toNat := by
  have small := sum.toNat_lt_size
  rw [add?]
  split
  · rename_i fits
    have exact : (left + right).toNat = left.toNat + right.toNat := by
      rw [UInt64.toNat_add, Nat.mod_eq_of_lt fits]
    rw [Option.some.injEq, ← UInt64.toNat_inj, exact, eq_comm]
  · constructor
    · simp
    · intro same
      omega

theorem effectiveTotal?_eq_some_iff {total : UInt64} :
    usage.effectiveTotal? = some total ↔ total.toNat = usage.exactTotal := by
  rw [effectiveTotal?, exactTotal]
  split
  · rw [Option.some.injEq, ← UInt64.toNat_inj, eq_comm]
  · exact add?_eq_some_iff

/-- A record is counted if and only if there are counts that are the exact sums. -/
theorem record?_eq_some_iff :
    counts.record? usage = some next ↔
      next.prompt.toNat = counts.prompt.toNat + usage.prompt.toNat ∧
      next.completion.toNat = counts.completion.toNat + usage.completion.toNat ∧
      next.total.toNat = counts.total.toNat + usage.exactTotal := by
  simp only [record?, Option.bind_eq_bind, Option.bind_eq_some_iff, add?_eq_some_iff,
    effectiveTotal?_eq_some_iff, Option.pure_def, Option.some.injEq]
  constructor
  · rintro ⟨prompt, ofPrompt, completion, ofCompletion, part, ofPart, total, ofTotal, rfl⟩
    exact ⟨ofPrompt, ofCompletion, ofPart ▸ ofTotal⟩
  · rintro ⟨ofPrompt, ofCompletion, ofTotal⟩
    have small := next.total.toNat_lt_size
    have fits : usage.exactTotal < UInt64.size := by omega
    have part : (UInt64.ofNat usage.exactTotal).toNat = usage.exactTotal :=
      UInt64.toNat_ofNat_of_lt' fits
    exact ⟨_, ofPrompt, _, ofCompletion, _, part, _, part.symm ▸ ofTotal, rfl⟩

theorem HasRoom.exists_record? (room : counts.HasRoom usage) :
    ∃ next, counts.record? usage = some next := by
  refine ⟨⟨.ofNat (counts.prompt.toNat + usage.prompt.toNat),
    .ofNat (counts.completion.toNat + usage.completion.toNat),
    .ofNat (counts.total.toNat + usage.exactTotal)⟩, ?_⟩
  apply record?_eq_some_iff.2
  exact ⟨UInt64.toNat_ofNat_of_lt' room.prompt, UInt64.toNat_ofNat_of_lt' room.completion,
    UInt64.toNat_ofNat_of_lt' room.total⟩

theorem hasRoom_of_record? (counted : counts.record? usage = some next) :
    counts.HasRoom usage := by
  rcases record?_eq_some_iff.1 counted with ⟨prompt, completion, total⟩
  exact ⟨prompt ▸ UInt64.toNat_lt_size _, completion ▸ UInt64.toNat_lt_size _,
    total ▸ UInt64.toNat_lt_size _⟩

/-- What is counted on top of some counts is counted on top of smaller ones, too. -/
theorem AtMost.record? (smaller : less.AtMost counts)
    (counted : counts.record? usage = some next) :
    ∃ nextLess, less.record? usage = some nextLess ∧ nextLess.AtMost next := by
  rcases smaller with ⟨lessPrompt, lessCompletion, lessTotal⟩
  rcases hasRoom_of_record? counted with ⟨roomPrompt, roomCompletion, roomTotal⟩
  have room : less.HasRoom usage := ⟨by omega, by omega, by omega⟩
  rcases room.exists_record? with ⟨nextLess, countedLess⟩
  rcases record?_eq_some_iff.1 counted with ⟨prompt, completion, total⟩
  rcases record?_eq_some_iff.1 countedLess with ⟨ofPrompt, ofCompletion, ofTotal⟩
  exact ⟨nextLess, countedLess, by omega, by omega, by omega⟩

theorem Hold.fit {sums : Sums} (hold : counts.Hold sums) : sums.Fit :=
  ⟨hold.prompt ▸ UInt64.toNat_lt_size _, hold.completion ▸ UInt64.toNat_lt_size _,
    hold.total ▸ UInt64.toNat_lt_size _⟩

theorem Hold.recorded (hold : counts.Hold (sums records))
    (counted : counts.record? usage = some next) : next.Hold (sums (records ++ [usage])) := by
  rcases record?_eq_some_iff.1 counted with ⟨prompt, completion, total⟩
  constructor
  · simp [sums, prompt, hold.prompt]
  · simp [sums, completion, hold.completion]
  · simp [sums, total, hold.total]

theorem Hold.not_fit (hold : counts.Hold (sums records))
    (uncounted : counts.record? usage = none) : ¬(sums (records ++ [usage])).Fit := by
  intro fit
  have room : counts.HasRoom usage := by
    rcases fit with ⟨prompt, completion, total⟩
    constructor
    · simpa [sums, hold.prompt] using prompt
    · simpa [sums, hold.completion] using completion
    · simpa [sums, hold.total] using total
  rcases room.exists_record? with ⟨next, counted⟩
  simp [uncounted] at counted

end TokenUsage

/-- The usage that an event reports, with the running total. -/
def RunEvent.usage? : RunEvent → Option (TokenUsage × UInt64)
  | batchUsage _ usage runningTotal => some (usage, runningTotal)
  | _ => none

/-- The records of usage that a run has reported, with the running totals. -/
def RunState.usages (state : RunState) : List (TokenUsage × UInt64) :=
  state.events.filterMap RunEvent.usage?

/-- Whether a run has counted and reported some records of usage, with exact sums throughout. -/
structure RunState.CountsExactly (state : RunState) (records : List TokenUsage) : Prop where
  counts : state.tokens.Hold (TokenUsage.sums records)
  /-- Every record is reported, in its place. -/
  told : state.usages.map Prod.fst = records
  running : ∀ position told, state.usages[position]? = some told →
    told.2.toNat = (TokenUsage.sums (records.take (position + 1))).total

namespace RunState.CountsExactly

variable {before after : RunState} {records : List TokenUsage} {usage : TokenUsage}

theorem of_same (exact : before.CountsExactly records) (tokens : after.tokens = before.tokens)
    (usages : after.usages = before.usages) : after.CountsExactly records :=
  ⟨tokens ▸ exact.counts, usages ▸ exact.told, usages ▸ exact.running⟩

/-- One more record is counted and reported. -/
theorem recorded (exact : before.CountsExactly records)
    (counted : before.tokens.record? usage = some after.tokens)
    (usages : after.usages = before.usages ++ [(usage, after.tokens.total)]) :
    after.CountsExactly (records ++ [usage]) := by
  have counts := exact.counts.recorded counted
  have length : before.usages.length = records.length := by
    rw [← exact.told, List.length_map]
  refine ⟨counts, ?_, ?_⟩
  · simp [usages, exact.told]
  · intro position told found
    rw [usages] at found
    by_cases earlier : position < records.length
    · rw [List.getElem?_append_left (by omega)] at found
      rw [exact.running position told found, List.take_append_of_le_length earlier]
    · rw [List.getElem?_append_right (by omega), List.getElem?_singleton] at found
      split at found
      · rw [← Option.some.inj found, counts.total, List.take_of_length_le]
        simp
        omega
      · simp at found

end RunState.CountsExactly

namespace LocalizationRun

variable (run : LocalizationRun) (total : Nat)

/-! ### The records that replies carry -/

/-- The usage that the reply for a batch carries. There is no reply if the batch is resumed or if
the service fails. -/
def usageFor (batch : Batch) (before : RunState) : Option TokenUsage :=
  match run.savedBatch? before.tree batch, (run.service before.tree (run.request batch)).2 with
  | none, .ok reply => reply.usage
  | _, _ => none

/-- The records that the replies carry while a run goes through batches. -/
def recordsAlong : List Batch → RunState → List TokenUsage
  | [], _ => []
  | batch :: rest, before =>
    if run.cancel (.before batch.index) before.events then []
    else
      (run.usageFor batch before).toList ++
        match run.processBatch total batch before with
        | (_, .error _) => []
        | (after, .ok ()) =>
          if run.cancel (.after batch.index) after.events && batch.index < total then []
          else recordsAlong rest after

/-- The records that the replies of a run carry. There are no replies unless the pending nodes are
saved. -/
def records (tree : FileTree) (nodes : NodeMap) : List TokenUsage :=
  match Artifact.saveJson tree run.dirs.pendingFile nodes.withoutSources.toJson with
  | (_, .error _) => []
  | (prepared, .ok ()) =>
    run.recordsAlong (run.batches nodes).length (run.batches nodes) (run.opening prepared nodes)

/-! ### What is counted of them -/

/-- How much of some records a run has counted: all of them, or all but the last, at which it
panicked. -/
inductive Counted {α : Type} : List TokenUsage → RunState → Except TranslateError α → Prop
  | all {records : List TokenUsage} {after : RunState} {result : Except TranslateError α}
      (exact : after.CountsExactly records)
      (calm : ∀ index, result ≠ .error (.panicked index)) : Counted records after result
  | allButLast {earlier : List TokenUsage} {last : TokenUsage} {after : RunState} {index : Nat}
      (exact : after.CountsExactly earlier) (uncounted : after.tokens.record? last = none) :
      Counted (earlier ++ [last]) after (.error (.panicked index))

variable {run total} {batch : Batch} {before after : RunState} {records : List TokenUsage}

theorem countsExactly_afterRequest (exact : before.CountsExactly records) :
    (run.afterRequest total batch before).CountsExactly records := by
  apply exact.of_same
  · rfl
  · simp [RunState.usages, afterRequest, RunState.report, RunEvent.usage?]

theorem countsExactly_afterReply {usage : Option TokenUsage} {tokens : TokenUsage}
    (exact : before.CountsExactly records)
    (counted : before.tokens.recordTold? usage = some tokens) :
    (run.afterReply total batch usage tokens before).CountsExactly
      (records ++ usage.toList) := by
  have asked : (run.afterRequest total batch before).CountsExactly records :=
    countsExactly_afterRequest exact
  cases usage with
  | none =>
    rw [Option.toList_none, List.append_nil]
    apply asked.of_same
    · exact (Option.some.inj counted).symm
    · simp [RunState.usages, afterReply, usageReports]
  | some usage =>
    have recorded : (run.afterRequest total batch before).tokens.record? usage =
        some (run.afterReply total batch (some usage) tokens before).tokens := counted
    apply asked.recorded recorded
    simp [RunState.usages, afterReply, usageReports, RunEvent.usage?]

/-- A batch counts the record of its reply, or the run panics. -/
theorem counted_of_step {result : Except TranslateError Unit}
    (exact : before.CountsExactly records)
    (step : BatchStep run total batch before after result) :
    Counted (records ++ (run.usageFor batch before).toList) after result := by
  cases step with
  | resumed found =>
    simp only [usageFor, found, Option.toList_none, List.append_nil]
    refine .all (exact.of_same rfl ?_) (by simp)
    simp [RunState.usages, afterResuming, RunState.report, RunState.register, RunState.merge,
      RunEvent.usage?]
  | serviceFailed absent answered =>
    simp only [usageFor, absent, answered, Option.toList_none, List.append_nil]
    exact .all (countsExactly_afterRequest exact) (by simp)
  | panicked absent answered uncounted =>
    rcases TokenUsage.recordTold?_eq_none_iff.1 uncounted with ⟨usage, told, unrecorded⟩
    simp only [usageFor, absent, answered, told]
    exact .allButLast (countsExactly_afterRequest exact) unrecorded
  | replyUnusable absent answered counted unread =>
    simp only [usageFor, absent, answered]
    exact .all (countsExactly_afterReply exact counted) (by simp)
  | notSaved absent answered counted read unsaved =>
    simp only [usageFor, absent, answered]
    have replied : (run.afterReply total batch _ _ before).CountsExactly _ :=
      countsExactly_afterReply exact counted
    exact .all (replied.of_same rfl rfl) (by simp)
  | translated absent answered counted read saved =>
    simp only [usageFor, absent, answered]
    have replied : (run.afterReply total batch _ _ before).CountsExactly _ :=
      countsExactly_afterReply exact counted
    refine .all (replied.of_same rfl ?_) (by simp)
    simp [RunState.usages, afterSaving, RunState.report, RunState.register, RunState.merge,
      RunEvent.usage?]

theorem counted_processBatches (batches : List Batch) (exact : before.CountsExactly records) :
    Counted (records ++ run.recordsAlong total batches before)
      (run.processBatches total batches before).1
      (run.processBatches total batches before).2 := by
  induction batches generalizing before records with
  | nil =>
    rw [recordsAlong, List.append_nil]
    exact .all exact (by simp [processBatches])
  | cons batch rest ih =>
    rw [processBatches, recordsAlong]
    split
    · rw [List.append_nil]
      exact .all exact (by simp)
    · have step := counted_of_step exact (batchStep_processBatch run total batch before)
      rw [← List.append_assoc]
      generalize records ++ (run.usageFor batch before).toList = told at step ⊢
      rcases processed : run.processBatch total batch before with ⟨after, error | _⟩
      all_goals
        rw [processed] at step
        dsimp only at step ⊢
      · rw [List.append_nil]
        cases step with
        | all exact calm => exact .all exact (by simpa using calm)
        | allButLast exact uncounted => exact .allButLast exact uncounted
      · cases step with
        | all exact calm =>
          split
          · rw [List.append_nil]
            exact .all exact (by simp)
          · exact ih exact

theorem countsExactly_finish {pending : NodeMap} (exact : before.CountsExactly records) :
    (run.finish pending total before).1.CountsExactly records := by
  rcases kept : run.saveResult before.tree (run.validated pending before) with ⟨tree, error | _⟩
  · rw [finish_of_unsaved kept]
    apply exact.of_same
    · rfl
    · simp [RunState.usages, RunState.report, RunEvent.usage?]
  · rw [finish_of_saved kept, afterResult, cleanUp]
    split
    all_goals
      apply exact.of_same
      · rfl
      · simp [RunState.usages, RunState.report, RunEvent.usage?]

theorem countsExactly_fresh {state : RunState} (tokens : state.tokens = {})
    (usages : state.usages = []) : state.CountsExactly [] := by
  refine ⟨?_, ?_, ?_⟩
  · rw [tokens]
    exact ⟨rfl, rfl, rfl⟩
  · rw [usages, List.map_nil]
  · simp [usages]

/-- A run counts the records that its replies carry, or panics at the last of them. -/
theorem counted_execute (run : LocalizationRun) (tree : FileTree) (nodes : NodeMap) :
    Counted (run.records tree nodes) (run.execute tree nodes).1 (run.execute tree nodes).2 := by
  rcases saved : Artifact.saveJson tree run.dirs.pendingFile nodes.withoutSources.toJson
    with ⟨prepared, error | _⟩
  · have noRecords : run.records tree nodes = [] := by
      unfold records
      rw [saved]
    rw [noRecords, execute_of_unsaved run saved]
    exact .all (countsExactly_fresh rfl rfl) (by simp)
  · have carried : run.records tree nodes = run.recordsAlong (run.batches nodes).length
        (run.batches nodes) (run.opening prepared nodes) := by
      unfold records
      rw [saved]
    have opened : (run.opening prepared nodes).CountsExactly [] := by
      apply countsExactly_fresh
      · rfl
      · simp [RunState.usages, opening, RunState.report, RunState.register, RunEvent.usage?]
    have along : Counted ([] ++ run.recordsAlong (run.batches nodes).length (run.batches nodes)
        (run.opening prepared nodes)) _ _ :=
      counted_processBatches (run.batches nodes) opened
    rw [List.nil_append, ← carried] at along
    rw [execute_of_saved run saved]
    generalize run.records tree nodes = told at along ⊢
    rcases went : run.processBatches (run.batches nodes).length (run.batches nodes)
      (run.opening prepared nodes) with ⟨last, error | _ | finished⟩
    all_goals
      rw [went] at along
      dsimp only at along ⊢
    · cases along with
      | all exact calm => exact .all exact (by simpa using calm)
      | allButLast exact uncounted => exact .allButLast exact uncounted
    · cases along with
      | all exact calm =>
        refine .all (countsExactly_finish exact) ?_
        intro index panicked
        rcases finish_eq_error (Prod.ext rfl panicked) with ⟨reason, other⟩
        simp at other
    · cases along with
      | all exact calm => exact .all exact (by simp)

theorem Counted.fit_iff {α : Type} {result : Except TranslateError α}
    (counted : Counted records after result) :
    (TokenUsage.sums records).Fit ↔ after.CountsExactly records := by
  refine ⟨?_, fun exact => exact.counts.fit⟩
  intro fit
  cases counted with
  | all exact calm => exact exact
  | allButLast exact uncounted => exact absurd fit (exact.counts.not_fit uncounted)

theorem Counted.panicked_iff {α : Type} {result : Except TranslateError α}
    (counted : Counted records after result) :
    (∃ index, result = .error (.panicked index)) ↔ ¬(TokenUsage.sums records).Fit := by
  cases counted with
  | all exact calm => simp [calm, exact.counts.fit]
  | allButLast exact uncounted => simp [exact.counts.not_fit uncounted]

theorem Counted.earlier {α : Type} {result : Except TranslateError α}
    (counted : Counted records after result) (unfit : ¬(TokenUsage.sums records).Fit) :
    ∃ earlier last, records = earlier ++ [last] ∧ after.CountsExactly earlier := by
  cases counted with
  | all exact calm => exact absurd exact.counts.fit unfit
  | allButLast exact uncounted => exact ⟨_, _, rfl, exact⟩

/-- Whether the sums of the records that the replies of a run carry fit into a machine word. -/
def CountsFit (run : LocalizationRun) (tree : FileTree) (nodes : NodeMap) : Prop :=
  (TokenUsage.sums (run.records tree nodes)).Fit

/-- A run panics if and only if what its replies tell cannot be counted. -/
theorem panics_iff (run : LocalizationRun) (tree : FileTree) (nodes : NodeMap) :
    run.Panics tree nodes ↔ ¬run.CountsFit tree nodes :=
  (counted_execute run tree nodes).panicked_iff

theorem countsFit_iff {tree : FileTree} {nodes : NodeMap} :
    run.CountsFit tree nodes ↔ ¬run.Panics tree nodes := by
  rw [panics_iff, Classical.not_not]

theorem countsFit_of_untold {tree : FileTree} {nodes : NodeMap}
    (untold : ∀ batch ∈ run.batches nodes, ∀ tree reply,
      (run.service tree (run.request batch)).2 = .ok reply → reply.usage = none) :
    run.CountsFit tree nodes := by
  rw [countsFit_iff]
  exact not_panics_of_untold untold

/-- The counts of a run and its running totals are exact if and only if the sums of the records fit
into a machine word. Else the run panics at the last record, and all others are counted exactly. -/
theorem countsExactly_iff (run : LocalizationRun) (tree : FileTree) (nodes : NodeMap) :
    ((run.execute tree nodes).1.CountsExactly (run.records tree nodes) ↔
        run.CountsFit tree nodes) ∧
      (run.Panics tree nodes ↔ ¬run.CountsFit tree nodes) ∧
      (run.Panics tree nodes → ∃ earlier last, run.records tree nodes = earlier ++ [last] ∧
        (run.execute tree nodes).1.CountsExactly earlier) := by
  have counted := counted_execute run tree nodes
  refine ⟨counted.fit_iff.symm, panics_iff run tree nodes, ?_⟩
  intro panics
  exact counted.earlier ((panics_iff run tree nodes).1 panics)

/-- A run of which the only reply tells the largest number of prompt tokens that there is, and one
completion token. -/
def hugeRun : LocalizationRun where
  service := .ofReplies fun _ =>
    .ok { text := "\x7b\x7d", usage := some ⟨18446744073709551615, 1, 0⟩ }
  options := sampleOptions
  dirs := sampleDirs "pack"

set_option maxRecDepth 100000 in
theorem execute_hugeRun : (hugeRun.execute .empty sampleNode).2 = .error (.panicked 1) := by
  have ended : failure? (hugeRun.execute .empty sampleNode).2 = some (.panicked 1) := by
    decide +kernel
  exact failure?_eq_some_iff.1 ended

set_option maxRecDepth 100000 in
/-- The total of a single record does not fit. The run panics and counts nothing. -/
theorem panicked_of_hugeRun :
    hugeRun.records .empty sampleNode = [⟨18446744073709551615, 1, 0⟩] ∧
      (hugeRun.execute .empty sampleNode).2 = .error (.panicked 1) ∧
      (hugeRun.execute .empty sampleNode).1.tokens = {} ∧
      ¬(hugeRun.execute .empty sampleNode).1.CountsExactly
        (hugeRun.records .empty sampleNode) := by
  have ended : hugeRun.records .empty sampleNode = [⟨18446744073709551615, 1, 0⟩] ∧
      (hugeRun.execute .empty sampleNode).1.tokens = {} := by
    decide +kernel
  refine ⟨ended.1, execute_hugeRun, ended.2, ?_⟩
  intro exact
  have total := exact.counts.total
  rw [ended.1, ended.2] at total
  exact absurd total (by decide)

end LocalizationRun

end NodeLocale
