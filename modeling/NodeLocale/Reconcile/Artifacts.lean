import NodeLocale.Artifact
import NodeLocale.Reconcile.CrossCheck
import NodeLocale.Reconcile.Glossary

/-!
# Reconciling artifacts

A translated artifact is reconciled with the artifact it was made from in one of three modes.
The modes that repair take whatever object the translated file holds; the cross check needs it to
be a node map.
-/

namespace NodeLocale

/-- How a translated artifact is reconciled with its source artifact. -/
inductive ReconcileMode
  /-- Field by field. -/
  | batch
  /-- Incomplete nodes are restored as a whole. -/
  | final
  /-- Translated keys are restored. -/
  | strict
deriving DecidableEq

namespace ReconcileMode

def name : ReconcileMode → String
  | batch => "batch"
  | final => "final"
  | strict => "strict"

def all : List ReconcileMode := [batch, final, strict]

def ofName? (text : String) : Option ReconcileMode := all.find? fun mode => mode.name = text

end ReconcileMode

/-- What the reconciliation of two artifacts gives. -/
structure ReconcileOutcome where
  result : Reconciled
  /-- The cross check behind them, if there was one. -/
  checked : Option CrossChecked := none

namespace ReconcileOutcome

/-- Reconciles two artifacts. -/
def ofFiles (tree : FileTree) (mode : ReconcileMode) (source translated : Path) :
    Except ArtifactError ReconcileOutcome := do
  let nodes ← Artifact.loadNodes tree source
  match mode with
  | .batch =>
    return { result := reconcileBatch nodes (← Artifact.loadObject tree translated) }
  | .final =>
    return { result := finalValidation nodes (← Artifact.loadObject tree translated) }
  | .strict =>
    let checked := crossCheck nodes (← Artifact.loadNodes tree translated)
    return { result := ⟨checked.nodes, checked.log⟩, checked := some checked }

/-- The result under the glossary of a configuration, if the glossary is wanted. -/
def resultWith (config : GlossaryConfig) (wanted : Bool) (outcome : ReconcileOutcome) :
    Reconciled :=
  if wanted then (Glossary.ofConfig config).apply outcome.result else outcome.result

/-- Whether a cross check corrected anything; none if there was no cross check. -/
def correctionsMade (outcome : ReconcileOutcome) : Option Bool :=
  outcome.checked.map CrossChecked.correctionsMade

end ReconcileOutcome

end NodeLocale
