import NodeLocale.Proofs.Reconcile.RepairedNodes

/-!
# Repaired artifacts need no repair

A pass gives a relabelling of its source: the same nodes with the same fields and files, under other
titles and labels. Written as an object, a relabelling has all that either pass looks for, and every
title and label is a text, so both passes take it as it is. The artifacts that a pass leaves alone
are therefore exactly the relabellings of its source, and what was repaired once is among them.
-/

namespace NodeLocale

/-- Whether node maps differ in titles and labels only. -/
structure NodeMap.Relabels (source relabelled : NodeMap) : Prop where
  shape : relabelled.shape = source.shape
  sourceFile : ∀ node schema other, (node, schema) ∈ relabelled.entries →
    (node, other) ∈ source.entries → schema.sourceFile = other.sourceFile

theorem NodeMap.Relabels.refl (source : NodeMap) : source.Relabels source := by
  refine ⟨rfl, fun node schema other first second => ?_⟩
  have found := OrderedMap.get?_eq_some_iff.2 first
  rw [OrderedMap.get?_eq_some_iff.2 second, Option.some.injEq] at found
  rw [found]

namespace RepairPass

variable {pass : RepairPass} {source nodes : NodeMap}

/-- Both passes take what a schema is written as. -/
theorem verdict_toJson (pass : RepairPass) (schema : NodeSchema) :
    pass.verdict (some schema.toJson) = .usable schema.toJson := by
  cases pass <;> rfl

theorem relabels_run (pass : RepairPass) (source : NodeMap) (candidate : JsonObject) :
    source.Relabels (pass.run source candidate).nodes := by
  rw [run_eq]
  constructor
  · exact Repair.shape_reconcileBy pass.verdict source candidate
  · intro node schema other repaired original
    exact Repair.sourceFile_reconcileBy repaired original

/-- A pass leaves an artifact alone if and only if it is a relabelling of the source. -/
theorem run_toJsonObject_eq_iff :
    pass.run source nodes.toJsonObject = ⟨nodes, []⟩ ↔ source.Relabels nodes := by
  constructor
  · intro fixed
    have repaired := pass.relabels_run source nodes.toJsonObject
    rwa [fixed] at repaired
  · intro relabels
    rw [run_eq]
    exact Repair.reconcileBy_toJsonObject pass.verdict_toJson relabels.shape relabels.sourceFile

/-- Without a candidate the source stays as it is. -/
theorem nodes_run_empty (pass : RepairPass) (source : NodeMap) :
    (pass.run source ∅).nodes = source := by
  have untranslated : ∀ node, pass.verdict ((∅ : JsonObject).get? node) = .untranslated := by
    intro node
    exact verdict_of_not_hasObject nofun
  rw [run_eq, Repair.reconcileBy]
  apply OrderedMap.ext
  simp [OrderedMap.mapValues, untranslated, Repair.Verdict.apply]

/-- What a pass has repaired, either pass leaves alone and records nothing. So does it leave alone
the source itself, which is what a pass makes of no candidate. -/
theorem run_run (first second : RepairPass) (source : NodeMap) (candidate : JsonObject) :
    second.run source (first.run source candidate).nodes.toJsonObject =
        ⟨(first.run source candidate).nodes, []⟩ ∧
      (first.run source ∅).nodes = source ∧
      second.run source source.toJsonObject = ⟨source, []⟩ := by
  refine ⟨?_, first.nodes_run_empty source, ?_⟩
  · exact run_toJsonObject_eq_iff.2 (first.relabels_run source candidate)
  · exact run_toJsonObject_eq_iff.2 (.refl source)

end RepairPass

end NodeLocale
