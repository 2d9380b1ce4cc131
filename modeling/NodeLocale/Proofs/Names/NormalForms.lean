import Mathlib.Algebra.GroupWithZero.Nat
import Mathlib.Algebra.Order.BigOperators.Group.List
import Mathlib.Algebra.Order.Group.Nat
import Mathlib.Data.List.TakeWhile
import NodeLocale.Proofs.Names.Phrases

/-!
# Normal forms

Normalising a normal form changes nothing as long as no replacement brings white space or a colon
into a name and no normal form is a phrase of its own. Where words are joined without white space
the normal form is a single word, and a single word can only change if it is such a phrase. The
table of phrases comes from the configuration, which may break each of these conditions: a
replacement with a space in it is cut at this space when it is read again. To see that nothing less
will do, a phrase is put beside a word that is longer than all words of the table together.
-/

namespace NodeLocale.NameNormalizer

open Text

variable {normalizer : NameNormalizer} {words pieces : List String} {text name category : String}
  {phrase : Phrase}

/-! ### Suffixes -/

theorem toList_normalizeSuffix (replaces : normalizer.Replaces (Text.words text) pieces) :
    (normalizer.normalizeSuffix text).toList = pieces.flatMap String.toList := by
  rw [normalizeSuffix, ← replaces.eq_pieces, String.toList_join]

theorem toList_normalizeSuffix_intercalate (areWords : ∀ word ∈ words, IsWord word)
    (replaces : normalizer.Replaces words pieces) :
    (normalizer.normalizeSuffix (String.intercalate " " words)).toList =
      pieces.flatMap String.toList := by
  rw [← words_intercalate areWords] at replaces
  exact toList_normalizeSuffix replaces

/-- A single word changes only if it is a phrase. -/
theorem normalizeSuffix_word (worded : normalizer.Worded) (isWord : IsWord text) :
    normalizer.normalizeSuffix text = text ∨ ∃ phrase, normalizer.Applies phrase ∧
      phrase.words = [text] ∧ normalizer.normalizeSuffix text = phrase.replacement := by
  have replaces := replaces_pieces worded (Text.words text)
  have written := toList_normalizeSuffix replaces
  rw [isWord.words_eq] at replaces written
  rcases replaces.single with same | ⟨phrase, applies, consists, same⟩
  · left
    apply String.ext
    simp [written, same]
  · refine .inr ⟨phrase, applies, consists, ?_⟩
    apply String.ext
    simp [written, same]

theorem Applies.normalizeSuffix_word (applies : normalizer.Applies phrase)
    (worded : normalizer.Worded) (consists : phrase.words = [text]) :
    normalizer.normalizeSuffix text = phrase.replacement := by
  have isWord := worded.areWords phrase applies.mem text (by simp [consists])
  have replaces := applies.replaces worded
  rw [consists, ← isWord.words_eq] at replaces
  apply String.ext
  simp [toList_normalizeSuffix replaces]

/-! ### Categories -/

theorem splitCategory?_eq_none_iff : splitCategory? name = none ↔ ':' ∉ name.toList := by
  rw [splitCategory?]
  split
  · rename_i dropped
    rw [List.dropWhile_eq_nil_iff] at dropped
    simp only [true_iff]
    intro colon
    simpa using dropped ':' colon
  · rename_i first suffix dropped
    have stops := List.head?_dropWhile_not (fun c => c != ':') name.toList
    rw [dropped] at stops
    have colon : first = ':' := by simpa using stops
    have kept : first ∈ name.toList.dropWhile fun c => c != ':' := by simp [dropped]
    rw [colon] at kept
    simpa using (List.dropWhile_suffix _).subset kept

theorem splitCategory?_append {front back : List Char} (split : name.toList = front ++ ':' :: back)
    (noColon : ':' ∉ front) :
    splitCategory? name = some (String.ofList front, String.ofList back) := by
  have passes : ∀ c ∈ front, (c != ':') = true := by
    intro c member
    simpa using fun colon : c = ':' => noColon (colon ▸ member)
  simp only [splitCategory?, split, List.dropWhile_append_of_pos passes,
    List.takeWhile_append_of_pos passes]
  simp

theorem colon_not_mem_category {suffix : String}
    (split : splitCategory? name = some (category, suffix)) : ':' ∉ category.toList := by
  rw [splitCategory?] at split
  split at split
  · simp at split
  · rw [Option.some.injEq, Prod.mk.injEq] at split
    rw [← split.1, String.toList_ofList]
    intro colon
    have passes := List.mem_takeWhile_imp colon
    simp at passes

/-- A space behind the colon does not count. -/
theorem normalize_category (noColon : ':' ∉ category.toList) (suffix : String) :
    normalizer.normalize (category ++ ": " ++ suffix) =
      trim category ++ ": " ++ normalizer.normalizeSuffix suffix := by
  have split : (category ++ ": " ++ suffix).toList =
      category.toList ++ ':' :: ' ' :: suffix.toList := by
    simp
  have same : Text.words (String.ofList (' ' :: suffix.toList)) = Text.words suffix := by
    rw [words_cons_blank _ (by decide), String.ofList_toList]
  rw [normalize, splitCategory?_append split noColon]
  simp only [normalizeSuffix, same, String.ofList_toList]

theorem normalize_plain (noColon : ':' ∉ name.toList) :
    normalizer.normalize name = normalizer.normalizeSuffix name := by
  rw [normalize, splitCategory?_eq_none_iff.2 noColon]

/-! ### Tables that keep normal forms -/

/-- Whether normal forms are normal forms of themselves. -/
def FixesNormalForms (normalizer : NameNormalizer) : Prop :=
  ∀ name, normalizer.normalize (normalizer.normalize name) = normalizer.normalize name

/-- Whether no phrase brings white space into a name, none brings a colon into a name without
colons, and no normal form is a phrase with another replacement. -/
structure Settled (normalizer : NameNormalizer) : Prop where
  spaceless : ∀ phrase, normalizer.Applies phrase →
    ∀ c ∈ phrase.replacement.toList, isBlank c = false
  uncategorized : ∀ phrase, normalizer.Applies phrase → (∀ word ∈ phrase.words, ':' ∉ word.toList) →
    ':' ∉ phrase.replacement.toList
  single : ∀ phrase text, normalizer.Applies phrase →
    phrase.words = [normalizer.normalizeSuffix text] →
    phrase.replacement = normalizer.normalizeSuffix text

namespace Settled

variable (settled : normalizer.Settled) (worded : normalizer.Worded)

include settled worded

theorem visible_normalizeSuffix (text : String) :
    ∀ c ∈ (normalizer.normalizeSuffix text).toList, isBlank c = false := by
  have replaces := replaces_pieces worded (Text.words text)
  rw [toList_normalizeSuffix replaces]
  intro c letter
  rcases List.mem_flatMap.1 letter with ⟨piece, member, inside⟩
  cases replaces.stemsFrom piece member with
  | word listed => exact (isWord_of_mem_words listed).visible c inside
  | phrase applies within => exact settled.spaceless _ applies c inside

theorem normalizeSuffix_normalizeSuffix (text : String) :
    normalizer.normalizeSuffix (normalizer.normalizeSuffix text) =
      normalizer.normalizeSuffix text := by
  have visible := settled.visible_normalizeSuffix worded text
  by_cases empty : (normalizer.normalizeSuffix text).toList = []
  · rw [String.toList_eq_nil_iff.1 empty]
    rfl
  · rcases normalizeSuffix_word worded ⟨empty, visible⟩ with
      same | ⟨phrase, applies, consists, same⟩
    · exact same
    · rw [same, settled.single phrase text applies consists]

theorem colon_not_mem_normalizeSuffix (noColon : ':' ∉ text.toList) :
    ':' ∉ (normalizer.normalizeSuffix text).toList := by
  have wordsNoColon : ∀ word ∈ Text.words text, ':' ∉ word.toList := by
    intro word listed colon
    exact noColon (mem_of_mem_words listed colon)
  have replaces := replaces_pieces worded (Text.words text)
  rw [toList_normalizeSuffix replaces]
  intro colon
  rcases List.mem_flatMap.1 colon with ⟨piece, member, inside⟩
  cases replaces.stemsFrom piece member with
  | word listed => exact wordsNoColon _ listed inside
  | phrase applies within =>
    refine settled.uncategorized _ applies ?_ inside
    intro word listed
    exact wordsNoColon word (within word listed)

theorem fixesNormalForms : normalizer.FixesNormalForms := by
  intro name
  cases split : splitCategory? name with
  | none =>
    rw [splitCategory?_eq_none_iff] at split
    rw [normalize_plain split, normalize_plain (settled.colon_not_mem_normalizeSuffix worded split)]
    exact settled.normalizeSuffix_normalizeSuffix worded name
  | some parts =>
    have noColon : ':' ∉ (trim parts.1).toList := by
      intro colon
      exact colon_not_mem_category split (mem_of_mem_trim colon)
    have once : normalizer.normalize name =
        trim parts.1 ++ ": " ++ normalizer.normalizeSuffix parts.2 := by
      rw [normalize, split]
    rw [once, normalize_category noColon, trim_trim,
      settled.normalizeSuffix_normalizeSuffix worded]

end Settled

/-! ### Nothing less will do -/

/-- A category does not touch what is behind it, so suffixes are fixed as names are. -/
theorem FixesNormalForms.normalizeSuffix (fixed : normalizer.FixesNormalForms) (text : String) :
    normalizer.normalizeSuffix (normalizer.normalizeSuffix text) =
      normalizer.normalizeSuffix text := by
  have once : normalizer.normalize ("" ++ ": " ++ text) =
      "" ++ ": " ++ normalizer.normalizeSuffix text :=
    normalize_category (by simp) text
  have twice := fixed ("" ++ ": " ++ text)
  rw [once, normalize_category (by simp)] at twice
  apply String.ext
  simpa [trim, trimChars, trimStartChars] using congrArg String.toList twice

/-- A word that is longer than all words of all phrases together. -/
def stranger (normalizer : NameNormalizer) : List Char :=
  'x' :: List.replicate ((normalizer.phrases.flatMap Phrase.words).map String.length).sum 'x'

theorem visible_stranger : ∀ c ∈ normalizer.stranger, isBlank c = false := by
  intro c member
  have same : c = 'x' := by
    rcases List.mem_cons.1 member with rfl | repeated
    · rfl
    · exact List.eq_of_mem_replicate repeated
  rw [same]
  decide

theorem isPlain_of_length (long : normalizer.stranger.length ≤ text.length) :
    normalizer.IsPlain text := by
  intro phrase member listed
  have inside : text.length ∈ (normalizer.phrases.flatMap Phrase.words).map String.length :=
    List.mem_map_of_mem (List.mem_flatMap.2 ⟨phrase, member, listed⟩)
  have bound := List.le_sum_of_mem inside
  simp only [stranger, List.length_cons, List.length_replicate] at long
  omega

/-- What is written without white space around a stranger is a word that belongs to no phrase. -/
theorem stranger_joined (normalizer : NameNormalizer) {front back : List Char}
    (frontVisible : ∀ c ∈ front, isBlank c = false) (backVisible : ∀ c ∈ back, isBlank c = false) :
    IsWord (String.ofList (front ++ normalizer.stranger ++ back)) ∧
      normalizer.IsPlain (String.ofList (front ++ normalizer.stranger ++ back)) := by
  refine ⟨⟨by simp [stranger], ?_⟩, ?_⟩
  · intro c member
    rw [String.toList_ofList, List.mem_append, List.mem_append] at member
    rcases member with (inFront | inside) | inBack
    · exact frontVisible c inFront
    · exact visible_stranger c inside
    · exact backVisible c inBack
  · apply isPlain_of_length
    rw [String.length_ofList, List.length_append, List.length_append]
    omega

/-- Between strangers, a phrase is replaced, and the words of what comes of it are replaced from the
first to the last white space of the replacement. -/
theorem FixesNormalForms.pieces_middle (fixed : normalizer.FixesNormalForms)
    (worded : normalizer.Worded) (applies : normalizer.Applies phrase)
    {left middle right : List Char} (split : phrase.replacement.toList = left ++ middle ++ right)
    (leftVisible : ∀ c ∈ left, isBlank c = false) (rightVisible : ∀ c ∈ right, isBlank c = false)
    (begins : ∃ c ∈ middle.head?, isBlank c = true)
    (ends : ∃ c ∈ middle.getLast?, isBlank c = true)
    (replaces : normalizer.Replaces (Text.words (String.ofList middle)) pieces) :
    pieces.flatMap String.toList = middle := by
  have noneVisible : ∀ c ∈ ([] : List Char), isBlank c = false := by simp
  have alone := stranger_joined normalizer noneVisible noneVisible
  have first := stranger_joined normalizer noneVisible leftVisible
  have last := stranger_joined normalizer rightVisible noneVisible
  rw [List.nil_append, List.append_nil] at alone
  rw [List.nil_append] at first
  rw [List.append_nil] at last
  -- The phrase stands between two strangers.
  have areWords : ∀ word ∈ String.ofList normalizer.stranger ::
      (phrase.words ++ [String.ofList normalizer.stranger]), IsWord word := by
    intro word listed
    rcases List.mem_cons.1 listed with rfl | behind
    · exact alone.1
    · rcases List.mem_append.1 behind with inside | isLast
      · exact worded.areWords phrase applies.mem word inside
      · rw [List.mem_singleton.1 isLast]
        exact alone.1
  have replaced := alone.2.replaces_cons worded
    (alone.2.replaces_append worded (applies.replaces worded) .done)
  have once := toList_normalizeSuffix_intercalate areWords replaced
  -- What comes of it has the same middle between two longer strangers.
  have again := first.2.replaces_cons worded (last.2.replaces_append worded replaces .done)
  have middleWords := words_between first.1 last.1 begins ends
  have regrouped : normalizer.stranger ++ left ++ middle ++ (right ++ normalizer.stranger) =
      (normalizer.normalizeSuffix (String.intercalate " " (String.ofList normalizer.stranger ::
        (phrase.words ++ [String.ofList normalizer.stranger])))).toList := by
    rw [once]
    simp [split]
  rw [regrouped, String.ofList_toList] at middleWords
  rw [← List.cons_append, ← middleWords] at again
  have twice := toList_normalizeSuffix again
  rw [fixed.normalizeSuffix, ← regrouped] at twice
  simpa using twice.symm

/-- Whether a phrase brings white space to the beginning of a text and one brings some to the
end. -/
structure Padded (normalizer : NameNormalizer) : Prop where
  begins : ∃ phrase, normalizer.Applies phrase ∧
    ∃ c ∈ phrase.replacement.toList.head?, isBlank c = true
  ends : ∃ phrase, normalizer.Applies phrase ∧
    ∃ c ∈ phrase.replacement.toList.getLast?, isBlank c = true

theorem StemsFrom.exists_applies {piece : String} {c : Char}
    (stems : normalizer.StemsFrom (Text.words text) piece) (letter : c ∈ piece.toList)
    (blank : isBlank c = true) :
    ∃ phrase, normalizer.Applies phrase ∧ phrase.replacement = piece := by
  cases stems with
  | word listed =>
    have visible := (isWord_of_mem_words listed).visible c letter
    simp [blank] at visible
  | @phrase phrase applies within => exact ⟨phrase, applies, rfl⟩

theorem FixesNormalForms.padded (fixed : normalizer.FixesNormalForms) (worded : normalizer.Worded)
    (applies : normalizer.Applies phrase) {c : Char} (letter : c ∈ phrase.replacement.toList)
    (blank : isBlank c = true) : normalizer.Padded := by
  rcases exists_blank_middle letter blank with
    ⟨left, middle, right, split, leftVisible, rightVisible, begins, ends⟩
  have replaces := replaces_pieces worded (Text.words (String.ofList middle))
  have whole :=
    fixed.pieces_middle worded applies split leftVisible rightVisible begins ends replaces
  rcases begins with ⟨first, isFirst, firstBlank⟩
  rcases ends with ⟨last, isLast, lastBlank⟩
  constructor
  · rw [← whole, List.head?_flatMap] at isFirst
    rcases List.exists_of_findSome?_eq_some isFirst with ⟨piece, member, atFront⟩
    rcases (replaces.stemsFrom piece member).exists_applies (List.mem_of_mem_head? atFront)
      firstBlank with ⟨phrase, applies, rfl⟩
    exact ⟨phrase, applies, first, atFront, firstBlank⟩
  · rw [← whole, List.getLast?_flatMap] at isLast
    rcases List.exists_of_findSome?_eq_some isLast with ⟨piece, member, atEnd⟩
    rcases (replaces.stemsFrom piece (List.mem_reverse.1 member)).exists_applies
      (List.mem_of_getLast? atEnd) lastBlank with ⟨phrase, applies, rfl⟩
    exact ⟨phrase, applies, last, atEnd, lastBlank⟩

theorem FixesNormalForms.settled (fixed : normalizer.FixesNormalForms) (worded : normalizer.Worded)
    (unpadded : ¬normalizer.Padded) : normalizer.Settled := by
  have spaceless : ∀ phrase, normalizer.Applies phrase →
      ∀ c ∈ phrase.replacement.toList, isBlank c = false := by
    intro phrase applies c letter
    rw [Bool.eq_false_iff]
    intro blank
    exact unpadded (fixed.padded worded applies letter blank)
  refine ⟨spaceless, ?_, ?_⟩
  · intro phrase applies noColon colon
    have plain : ':' ∉ (String.intercalate " " phrase.words).toList := by
      intro inside
      rcases mem_intercalate inside with space | ⟨word, listed, letter⟩
      · simp at space
      · exact noColon word listed letter
    have written := toList_normalizeSuffix_intercalate (worded.areWords phrase applies.mem)
      (applies.replaces worded)
    have once : normalizer.normalize (String.intercalate " " phrase.words) =
        phrase.replacement := by
      rw [normalize_plain plain]
      apply String.ext
      simp [written]
    have twice := fixed (String.intercalate " " phrase.words)
    rw [once] at twice
    -- Read again, the colon gets a space behind it.
    have space : ' ' ∈ phrase.replacement.toList := by
      rw [← twice, normalize]
      cases category : splitCategory? phrase.replacement with
      | none => exact absurd colon (splitCategory?_eq_none_iff.1 category)
      | some parts => simp
    have visible := spaceless phrase applies ' ' space
    exact absurd visible (by decide)
  · intro phrase text applies consists
    rw [← fixed.normalizeSuffix text, applies.normalizeSuffix_word worded consists]

/-! ### The phrases without a configuration -/

/-- The normaliser that is used without a configuration. -/
def standard : NameNormalizer := ofConfig {}

theorem phrases_standard : ∀ phrase ∈ standard.phrases, 1 < phrase.words.length ∧
    ∀ c ∈ phrase.replacement.toList, isBlank c = false ∧ c ≠ ':' := by
  have checked : (standard.phrases.all fun phrase => decide (1 < phrase.words.length) &&
      phrase.replacement.toList.all fun c => !isBlank c && c != ':') = true := by
    decide +kernel
  simpa using checked

theorem settled_standard : standard.Settled := by
  constructor
  · intro phrase applies c letter
    exact ((phrases_standard phrase applies.mem).2 c letter).1
  · intro phrase applies noColon colon
    exact ((phrases_standard phrase applies.mem).2 ':' colon).2 rfl
  · intro phrase text applies consists
    have long := (phrases_standard phrase applies.mem).1
    simp [consists] at long

theorem fixesNormalForms_standard : standard.FixesNormalForms :=
  settled_standard.fixesNormalForms (worded_ofTable _)

/-! ### Tables that fix normal forms -/

/-- Normal forms are fixed where the table is settled. Conversely a table that fixes them is
settled, unless its replacements bring white space to both ends of a text, as that of a phrase X by
X with a space on either side does, which reads its own spaces back. -/
theorem settled_fixesNormalForms (table : OrderedMap String String) :
    ((ofTable table).Settled → (ofTable table).FixesNormalForms) ∧
      ((ofTable table).FixesNormalForms → (ofTable table).Settled ∨ (ofTable table).Padded) := by
  have worded := worded_ofTable table
  constructor
  · intro settled
    exact settled.fixesNormalForms worded
  · intro fixed
    by_cases padded : (ofTable table).Padded
    · exact .inr padded
    · exact .inl (fixed.settled worded padded)

/-- So the phrases that are there without a configuration fix normal forms. -/
theorem settled_fixesNormalForms_standard :
    standard.Settled ∧ ∀ name, standard.normalize (standard.normalize name) =
      standard.normalize name :=
  ⟨settled_standard, (settled_fixesNormalForms _).1 settled_standard⟩

/-- A configuration with a phrase that keeps its space. -/
def spacedPhrases : Config := { phrases := .ofList [("Llama Vision", "Llama Vision")] }

/-- The space of a replacement is lost when the normal form is normalised once more. -/
theorem normalize_twice_of_spacedPhrases :
    spacedPhrases.validate = .ok () ∧
      (ofConfig spacedPhrases).normalize "LayerUtility: Llama Vision V2" =
        "LayerUtility: Llama VisionV2" ∧
      (ofConfig spacedPhrases).normalize "LayerUtility: Llama VisionV2" =
        "LayerUtility: LlamaVisionV2" := by
  decide +kernel

end NodeLocale.NameNormalizer
