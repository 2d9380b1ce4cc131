import NodeLocale.Proofs.Localization.Progress
import NodeLocale.Proofs.Localization.Resumption

/-!
# Runs that fail at a batch

A run fails at a batch if the service fails or replies nothing usable, or if what the reply tells of
tokens cannot be counted. Nothing is saved for that batch then, so the files are those that the
batches before it left behind: what they saved can be resumed, and what an earlier run saved for the
batch itself or for a later one is still there.
-/

namespace NodeLocale

open FileTree

namespace LocalizationRun

variable {run : LocalizationRun} {nodes : NodeMap} {course : List (Batch × Handling)}
  {batch : Batch} {rest : List Batch} {before last : RunState} {tree : FileTree} {total : Nat}
  {error : TranslateError}

/-- Whether a batch comes to nothing: the service fails, or what it replies holds no object. -/
inductive Unanswered (run : LocalizationRun) (tree : FileTree) (batch : Batch) :
    TranslateError → Prop
  | service {reason : String}
      (answered : (run.service tree (run.request batch)).2 = .error reason) :
      Unanswered run tree batch (.service batch.index reason)
  | shape {reply : ServiceReply} {fault : ReplyFault}
      (answered : (run.service tree (run.request batch)).2 = .ok reply)
      (unread : ReplyObject.read reply.text = .error fault) :
      Unanswered run tree batch (.shape batch.index fault)

/-- Whether the tokens that the reply for a batch tells cannot be counted. -/
def Uncountable (run : LocalizationRun) (state : RunState) (batch : Batch) : Prop :=
  ∃ reply, (run.service state.tree (run.request batch)).2 = .ok reply ∧
    state.tokens.recordTold? reply.usage = none

/-- A batch that comes to nothing has been requested, and nothing was saved for it. -/
theorem unanswered_of_step (step : BatchStep run total batch before last (.error error))
    (notSaving : error.ofSaving = false) :
    (run.Unanswered before.tree batch error ∨
        run.Uncountable before batch ∧ error = .panicked batch.index) ∧
      last.tree = (run.service before.tree (run.request batch)).1 ∧
      last.requests = before.requests ++ [run.request batch] := by
  cases step with
  | serviceFailed absent answered => exact ⟨.inl (.service answered), rfl, rfl⟩
  | panicked absent answered uncounted => exact ⟨.inr ⟨⟨_, answered, uncounted⟩, rfl⟩, rfl, rfl⟩
  | replyUnusable absent answered counted unread =>
    exact ⟨.inl (.shape answered unread), rfl, rfl⟩
  | notSaved absent answered counted read unsaved => simp [TranslateError.ofSaving] at notSaving

theorem Reaches.index_ne_of_mem_rest (reached : run.Reaches tree nodes course rest last)
    {later : Batch} (member : later ∈ rest) :
    ∀ entry ∈ course, entry.1.index ≠ later.index := by
  have distinct := nodup_index_batches run nodes
  rw [reached.split, List.map_append, List.map_map, List.nodup_append] at distinct
  intro entry entryMember
  exact distinct.2.2 _ (List.mem_map_of_mem entryMember) _ (List.mem_map_of_mem member)

/-- A run that fails at a batch leaves behind what the batches before it saved and resumed, and
nothing else is changed or removed. -/
theorem progress_of_failed (failed : (run.execute tree nodes).2 = .error error)
    (notSaving : error.ofSaving = false) :
    ∃ course batch rest before,
      run.Reaches tree nodes course (batch :: rest) before ∧
      (run.Unanswered before.tree batch error ∨
        run.Uncountable before batch ∧ error = .panicked batch.index) ∧
      error.batch? = some (course.length + 1) ∧ batch.index = course.length + 1 ∧
      (run.execute tree nodes).1.requests =
        (course.flatMap fun entry => entry.2.requests run entry.1) ++ [run.request batch] ∧
      run.Progress tree nodes course (run.execute tree nodes).1.tree ∧
      ∀ later ∈ batch :: rest,
        run.service.Spares ((run.dirs.batchFile later.index).target tree.workingDirectory) →
          (run.execute tree nodes).1.tree.content? (run.dirs.batchFile later.index) =
            tree.content? (run.dirs.batchFile later.index) := by
  have ends := courseEnd_execute run tree nodes
  rw [failed] at ends
  generalize (run.execute tree nodes).1 = after at ends ⊢
  cases ends with
  | unprepared unsaved => simp [TranslateError.ofSaving] at notSaving
  | @failed course batch rest before _ _ reached step =>
    rcases unanswered_of_step step notSaving with ⟨unanswered, treeAfter, requested⟩
    have index : batch.index = course.length + 1 := by
      rw [index_of_batches reached.split, List.length_map]
    have progress : run.Progress tree nodes course after.tree := by
      rw [treeAfter]
      exact reached.progress (reached.saves.asked (run.request batch))
    refine ⟨course, batch, rest, before, reached, unanswered, ?_, index, ?_, progress, ?_⟩
    · rw [(requested_of_step step).2.2, index]
    · rw [requested, reached.requests]
    · intro later member spared
      exact progress.others later.index (reached.index_ne_of_mem_rest member) spared
  | finished reached ended =>
    rw [ofSaving_of_finish ended] at notSaving
    simp at notSaving

/-- A run that goes on where `failedRun` stopped, with a third node for which the reply is no
object. -/
def thirdFails : LocalizationRun :=
  replying (fun request =>
    if request.batch = 3 then .ok { text := "no nodes" } else steadyReplies request)
      { sampleOptions with resume := true } (sampleDirs "pack") .never

def threeNodes : NodeMap := sampleNodes.insert "Sharpen" { title := "Sharpen" }

set_option maxRecDepth 100000 in
/-- The first batch is resumed, the second one requested, and the third one fails. -/
theorem progress_of_thirdFails : ∃ course,
    (thirdFails.execute failedRun.1.tree threeNodes).2 = .error (.shape 3 .noObject) ∧
      course.length = 2 ∧
      (thirdFails.execute failedRun.1.tree threeNodes).1.requests.map
        LocalizationRequest.batch = [2, 3] ∧
      thirdFails.Progress failedRun.1.tree threeNodes course
        (thirdFails.execute failedRun.1.tree threeNodes).1.tree := by
  have ran : failure? (thirdFails.execute failedRun.1.tree threeNodes).2 =
        some (.shape 3 .noObject) ∧
      (thirdFails.execute failedRun.1.tree threeNodes).1.requests.map
        LocalizationRequest.batch = [2, 3] := by decide +kernel
  have failed := failure?_eq_some_iff.1 ran.1
  rcases progress_of_failed failed rfl with
    ⟨course, batch, rest, before, -, -, index, -, -, progress, -⟩
  have length : 3 = course.length + 1 := Option.some.inj index
  exact ⟨course, failed, by omega, ran.2, progress⟩

end LocalizationRun

end NodeLocale
