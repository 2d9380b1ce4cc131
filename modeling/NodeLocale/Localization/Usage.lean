import NodeLocale.Decimal.Binary64

/-!
# Token usage

A service may report how many tokens a request took. Counts are machine words, and an addition whose
sum does not fit into one panics: there is no sum then, and nothing goes on from there. A record
without a total counts with the sum of its parts.
-/

namespace NodeLocale

/-- Counts of tokens. -/
structure TokenUsage where
  prompt : UInt64 := 0
  completion : UInt64 := 0
  total : UInt64 := 0
deriving DecidableEq, Inhabited

/-- What tokens cost. -/
structure CostEstimate where
  prompt : Binary64
  completion : Binary64
  total : Binary64
deriving DecidableEq

namespace TokenUsage

/-- The sum of two counts, if it fits. -/
def add? (left right : UInt64) : Option UInt64 :=
  if left.toNat + right.toNat < UInt64.size then some (left + right) else none

/-- The total of a record, if it fits. -/
def effectiveTotal? (usage : TokenUsage) : Option UInt64 :=
  if 0 < usage.total then some usage.total else add? usage.prompt usage.completion

/-- The counts after another record, if they fit. -/
def record? (counts usage : TokenUsage) : Option TokenUsage := do
  let prompt ← add? counts.prompt usage.prompt
  let completion ← add? counts.completion usage.completion
  let total ← add? counts.total (← usage.effectiveTotal?)
  return { prompt, completion, total }

/-- The cost of a count of tokens at a price for a thousand. -/
def costOf (count : UInt64) (per1k : Binary64) : Float :=
  count.toFloat / 1000.0 * per1k.toFloat

/-- The cost of the counts at the given prices for a thousand tokens. -/
def cost (counts : TokenUsage) (promptPer1k completionPer1k : Binary64) : CostEstimate :=
  let prompt := costOf counts.prompt promptPer1k
  let completion := costOf counts.completion completionPer1k
  ⟨.ofFloat prompt, .ofFloat completion, .ofFloat (prompt + completion)⟩

end TokenUsage

end NodeLocale
