import Mathlib.Data.List.Basic
import NodeLocale.NodeName
import NodeLocale.Proofs.Text.Words

/-!
# Replacing phrases

The pieces of a name are found from left to right: a version marker is a piece of its own, then
comes the longest phrase that stands here, and else the word itself. A word that belongs to no
phrase keeps what is before it and what is behind it apart. A phrase is replaced somewhere exactly
if it is replaced where it stands alone, and each piece is a word of the name or replaces words of
it.
-/

namespace NodeLocale.NameNormalizer

open Text

/-! ### The longest phrase -/

/-- Whether a phrase is the first of those with the most words that begin a list of words. -/
def IsLongest (words : List String) (phrases : List Phrase) (phrase : Phrase) : Prop :=
  ∃ front back, phrases = front ++ phrase :: back ∧ phrase.words <+: words ∧
    (∀ other ∈ front, other.words <+: words → other.words.length < phrase.words.length) ∧
    ∀ other ∈ back, other.words <+: words → other.words.length ≤ phrase.words.length

variable {words : List String} {phrases : List Phrase} {phrase : Phrase}

namespace IsLongest

theorem mem (longest : IsLongest words phrases phrase) : phrase ∈ phrases := by
  rcases longest with ⟨front, back, rfl, -⟩
  simp

theorem fits (longest : IsLongest words phrases phrase) : phrase.words <+: words := by
  rcases longest with ⟨front, back, rfl, fits, -⟩
  exact fits

theorem length_le (longest : IsLongest words phrases phrase) {other : Phrase}
    (member : other ∈ phrases) (fits : other.words <+: words) :
    other.words.length ≤ phrase.words.length := by
  rcases longest with ⟨front, back, rfl, -, earlier, later⟩
  rcases List.mem_append.1 member with before | after
  · exact Nat.le_of_lt (earlier other before fits)
  · rcases List.mem_cons.1 after with rfl | behind
    · exact Nat.le_refl _
    · exact later other behind fits

theorem unique {other : Phrase} (first : IsLongest words phrases phrase)
    (second : IsLongest words phrases other) : phrase = other := by
  have same : phrase.words.length = other.words.length :=
    Nat.le_antisymm (second.length_le first.mem first.fits) (first.length_le second.mem second.fits)
  rcases first with ⟨front, back, rfl, fits, earlier, -⟩
  rcases second with ⟨head, tail, split, otherFits, before, -⟩
  -- The one that stands behind the other would have to be longer.
  rcases List.append_eq_append_iff.1 split with ⟨between, rfl, rest⟩ | ⟨between, rfl, rest⟩
  · rcases between with _ | ⟨next, between⟩
    · simp_all
    · rw [List.cons_append, List.cons.injEq] at rest
      have shorter := before phrase (by simp [rest.1]) fits
      omega
  · rcases between with _ | ⟨next, between⟩
    · simp_all
    · rw [List.cons_append, List.cons.injEq] at rest
      have shorter := earlier other (by simp [rest.1]) otherFits
      omega

end IsLongest

theorem longestIn_eq_none_iff :
    longestIn words phrases = none ↔ ∀ phrase ∈ phrases, ¬phrase.words <+: words := by
  induction phrases with
  | nil => simp [longestIn]
  | cons first rest ih =>
    rw [longestIn]
    split
    · rename_i fits
      rw [List.isPrefixOf_iff_prefix] at fits
      split
      · simp [fits]
      · split <;> simp [fits]
    · rename_i misses
      rw [List.isPrefixOf_iff_prefix] at misses
      simp [misses, ih]

theorem isLongest_of_longestIn (found : longestIn words phrases = some phrase) :
    IsLongest words phrases phrase := by
  induction phrases generalizing phrase with
  | nil => simp [longestIn] at found
  | cons first rest ih =>
    rw [longestIn] at found
    split at found
    · rename_i fits
      rw [List.isPrefixOf_iff_prefix] at fits
      split at found
      · rename_i none
        rw [longestIn_eq_none_iff] at none
        rcases Option.some.inj found with rfl
        refine ⟨[], rest, rfl, fits, by simp, ?_⟩
        intro other member otherFits
        exact absurd otherFits (none other member)
      · rename_i other longer
        split at found
        · rename_i shorter
          rcases Option.some.inj found with rfl
          rcases ih longer with ⟨front, back, rfl, otherFits, earlier, later⟩
          refine ⟨first :: front, back, rfl, otherFits, ?_, later⟩
          intro candidate member candidateFits
          rcases List.mem_cons.1 member with rfl | before
          · exact shorter
          · exact earlier candidate before candidateFits
        · rename_i notShorter
          rcases Option.some.inj found with rfl
          refine ⟨[], rest, rfl, fits, by simp, ?_⟩
          intro candidate member candidateFits
          have bound := (ih longer).length_le member candidateFits
          omega
    · rename_i misses
      rw [List.isPrefixOf_iff_prefix] at misses
      rcases ih found with ⟨front, back, rfl, fits, earlier, later⟩
      refine ⟨first :: front, back, rfl, fits, ?_, later⟩
      intro candidate member candidateFits
      rcases List.mem_cons.1 member with rfl | before
      · exact absurd candidateFits misses
      · exact earlier candidate before candidateFits

/-- The phrase that is found is the first one with the most words that stands there. -/
theorem longestIn_eq_some_iff :
    longestIn words phrases = some phrase ↔ IsLongest words phrases phrase := by
  constructor
  · exact isLongest_of_longestIn
  · intro longest
    cases found : longestIn words phrases with
    | none => exact absurd longest.fits (longestIn_eq_none_iff.1 found phrase longest.mem)
    | some other => rw [longest.unique (isLongest_of_longestIn found)]

theorem longestIn_congr {others : List String}
    (same : ∀ phrase ∈ phrases, phrase.words <+: words ↔ phrase.words <+: others) :
    longestIn words phrases = longestIn others phrases := by
  induction phrases with
  | nil => rfl
  | cons first rest ih =>
    have later := ih fun phrase member => same phrase (List.mem_cons_of_mem _ member)
    have here : first.words.isPrefixOf words = first.words.isPrefixOf others := by
      rw [Bool.eq_iff_iff, List.isPrefixOf_iff_prefix, List.isPrefixOf_iff_prefix]
      exact same first (by simp)
    rw [longestIn, longestIn, here, later]

/-! ### Pieces -/

/-- Whether every phrase consists of words and has at least one. -/
structure Worded (normalizer : NameNormalizer) : Prop where
  nonempty : ∀ phrase ∈ normalizer.phrases, phrase.words ≠ []
  areWords : ∀ phrase ∈ normalizer.phrases, ∀ word ∈ phrase.words, IsWord word

theorem worded_ofTable (table : OrderedMap String String) : (ofTable table).Worded := by
  have origin : ∀ phrase ∈ (ofTable table).phrases,
      phrase.words ≠ [] ∧ ∃ text, phrase.words = Text.words text := by
    intro phrase member
    rcases List.mem_filter.1 member with ⟨listed, full⟩
    rcases List.mem_map.1 listed with ⟨entry, -, rfl⟩
    exact ⟨by simpa using full, entry.1, rfl⟩
  constructor
  · intro phrase member
    exact (origin phrase member).1
  · intro phrase member word listed
    rcases (origin phrase member).2 with ⟨text, same⟩
    rw [same] at listed
    exact isWord_of_mem_words listed

/-- How words are made into the pieces of a name, from left to right. -/
inductive Replaces (normalizer : NameNormalizer) : List String → List String → Prop
  | done : Replaces normalizer [] []
  | marker {word : String} {rest pieces : List String} (marks : isVersionMarker word = true)
      (later : Replaces normalizer rest pieces) :
      Replaces normalizer (word :: rest) (word :: pieces)
  | phrase {first : String} {others rest pieces : List String} {phrase : Phrase}
      (unmarked : isVersionMarker first = false) (consists : phrase.words = first :: others)
      (found : normalizer.phraseAt? (first :: (others ++ rest)) = some phrase)
      (later : Replaces normalizer rest pieces) :
      Replaces normalizer (first :: (others ++ rest)) (phrase.replacement :: pieces)
  | word {word : String} {rest pieces : List String} (unmarked : isVersionMarker word = false)
      (none : normalizer.phraseAt? (word :: rest) = none)
      (later : Replaces normalizer rest pieces) :
      Replaces normalizer (word :: rest) (word :: pieces)

variable {normalizer : NameNormalizer} {word : String} {front rest pieces others : List String}

theorem pieces_drop (normalizer : NameNormalizer) (skipped : Nat) (words : List String) :
    normalizer.pieces skipped words = normalizer.pieces 0 (words.drop skipped) := by
  induction words generalizing skipped with
  | nil =>
    cases skipped <;> rfl
  | cons word rest ih =>
    cases skipped with
    | zero => rfl
    | succ skipped =>
      rw [NameNormalizer.pieces, List.drop_succ_cons]
      exact ih skipped

theorem pieces_behind {first : String} (consists : phrase.words = first :: others) :
    normalizer.pieces (phrase.words.length - 1) (others ++ rest) = normalizer.pieces 0 rest := by
  rw [pieces_drop, consists]
  simp

theorem Replaces.eq_pieces (replaces : normalizer.Replaces words pieces) :
    pieces = normalizer.pieces 0 words := by
  induction replaces with
  | done => rfl
  | marker marks later ih => rw [NameNormalizer.pieces, if_pos marks, ih]
  | phrase unmarked consists found later ih =>
    simp only [NameNormalizer.pieces, unmarked, Bool.false_eq_true, if_false, found,
      pieces_behind consists, ih]
  | word unmarked none later ih =>
    rw [NameNormalizer.pieces, if_neg (by simp [unmarked]), none, ih]

theorem replaces_pieces (worded : normalizer.Worded) (words : List String) :
    normalizer.Replaces words (normalizer.pieces 0 words) := by
  rcases words with _ | ⟨word, rest⟩
  · exact .done
  · rw [NameNormalizer.pieces]
    cases marks : isVersionMarker word with
    | true => exact .marker marks (replaces_pieces worded rest)
    | false =>
      cases found : normalizer.phraseAt? (word :: rest) with
      | none => exact .word marks found (replaces_pieces worded rest)
      | some phrase =>
        have longest := longestIn_eq_some_iff.1 found
        rcases longest.fits with ⟨behind, split⟩
        rcases consists : phrase.words with _ | ⟨first, others⟩
        · exact absurd consists (worded.nonempty phrase longest.mem)
        · rw [consists, List.cons_append, List.cons.injEq] at split
          rcases split with ⟨rfl, rfl⟩
          simp only [Bool.false_eq_true, if_false, pieces_behind consists]
          exact .phrase marks consists found (replaces_pieces worded behind)
termination_by words.length

/-- Whether a phrase is replaced where it stands alone. -/
structure Applies (normalizer : NameNormalizer) (phrase : Phrase) : Prop where
  found : normalizer.phraseAt? phrase.words = some phrase
  unmarked : ∀ word ∈ phrase.words.head?, isVersionMarker word = false

theorem Applies.mem (applies : normalizer.Applies phrase) : phrase ∈ normalizer.phrases :=
  (longestIn_eq_some_iff.1 applies.found).mem

theorem Applies.replaces (applies : normalizer.Applies phrase) (worded : normalizer.Worded) :
    normalizer.Replaces phrase.words [phrase.replacement] := by
  rcases consists : phrase.words with _ | ⟨first, others⟩
  · exact absurd consists (worded.nonempty phrase applies.mem)
  · have unmarked := applies.unmarked first (by simp [consists])
    have found := applies.found
    rw [consists] at found
    rw [← List.append_nil others] at found ⊢
    exact .phrase unmarked (by simp [consists]) found .done

/-- A phrase that is replaced among other words would be replaced alone as well, since every other
phrase that stands in it would stand there too. -/
theorem applies_of_found {first : String} (unmarked : isVersionMarker first = false)
    (consists : phrase.words = first :: others)
    (found : normalizer.phraseAt? (first :: (others ++ rest)) = some phrase) :
    normalizer.Applies phrase := by
  constructor
  · rcases longestIn_eq_some_iff.1 found with ⟨front, back, split, fits, earlier, later⟩
    apply longestIn_eq_some_iff.2
    refine ⟨front, back, split, List.prefix_refl _, ?_, ?_⟩
    · intro other member inside
      exact earlier other member (inside.trans fits)
    · intro other member inside
      exact later other member (inside.trans fits)
  · intro word isFirst
    rw [consists, List.head?_cons, Option.mem_some_iff] at isFirst
    rw [← isFirst, unmarked]

theorem Replaces.single (replaces : normalizer.Replaces [word] pieces) :
    pieces = [word] ∨ ∃ phrase, normalizer.Applies phrase ∧ phrase.words = [word] ∧
      pieces = [phrase.replacement] := by
  generalize given : [word] = words at replaces
  have nothing : ∀ {pieces}, normalizer.Replaces [] pieces → pieces = [] := by
    intro pieces replaces
    exact replaces.eq_pieces
  cases replaces with
  | done => simp at given
  | marker marks later =>
    rw [List.cons.injEq] at given
    rcases given with ⟨rfl, rfl⟩
    left
    rw [nothing later]
  | @phrase first others rest pieces phrase unmarked consists found later =>
    have applies := applies_of_found unmarked consists found
    rw [List.cons.injEq, eq_comm (a := []), List.append_eq_nil_iff] at given
    rcases given with ⟨rfl, rfl, rfl⟩
    right
    exact ⟨phrase, applies, consists, by rw [nothing later]⟩
  | word unmarked none later =>
    rw [List.cons.injEq] at given
    rcases given with ⟨rfl, rfl⟩
    left
    rw [nothing later]

/-- Whether a piece is one of some words or replaces some of them. -/
inductive StemsFrom (normalizer : NameNormalizer) (words : List String) : String → Prop
  | word {word : String} (member : word ∈ words) : StemsFrom normalizer words word
  | phrase {phrase : Phrase} (applies : normalizer.Applies phrase)
      (within : ∀ word ∈ phrase.words, word ∈ words) :
      StemsFrom normalizer words phrase.replacement

theorem StemsFrom.mono {piece : String} (stems : normalizer.StemsFrom words piece)
    (within : ∀ word ∈ words, word ∈ others) : normalizer.StemsFrom others piece := by
  cases stems with
  | word member => exact .word (within _ member)
  | phrase applies inside => exact .phrase applies fun word member => within _ (inside word member)

theorem Replaces.stemsFrom (replaces : normalizer.Replaces words pieces) :
    ∀ piece ∈ pieces, normalizer.StemsFrom words piece := by
  induction replaces with
  | done => simp
  | marker marks later ih =>
    intro piece member
    rcases List.mem_cons.1 member with rfl | behind
    · exact .word List.mem_cons_self
    · exact (ih piece behind).mono fun word => List.mem_cons_of_mem _
  | @phrase first others rest pieces phrase unmarked consists found later ih =>
    intro piece member
    rcases List.mem_cons.1 member with rfl | behind
    · apply StemsFrom.phrase (applies_of_found unmarked consists found)
      intro word listed
      rw [consists] at listed
      exact List.mem_append_left rest listed
    · apply (ih piece behind).mono
      intro word listed
      exact List.mem_append_right (first :: others) listed
  | word unmarked none later ih =>
    intro piece member
    rcases List.mem_cons.1 member with rfl | behind
    · exact .word List.mem_cons_self
    · exact (ih piece behind).mono fun word => List.mem_cons_of_mem _

/-- Whether a word belongs to no phrase. -/
def IsPlain (normalizer : NameNormalizer) (word : String) : Prop :=
  ∀ phrase ∈ normalizer.phrases, word ∉ phrase.words

/-- No phrase reaches beyond a word that belongs to none. -/
theorem IsPlain.phraseAt?_append (plain : normalizer.IsPlain word) (front rest : List String) :
    normalizer.phraseAt? (front ++ word :: rest) = normalizer.phraseAt? front := by
  apply longestIn_congr
  intro phrase member
  constructor
  · intro fits
    have reaches : front ++ [word] <+: front ++ word :: rest := ⟨rest, by simp⟩
    rcases List.prefix_or_prefix_of_prefix fits reaches with inside | beyond
    · rcases List.prefix_concat_iff.1 inside with same | inside
      · exact absurd (by simp [same]) (plain phrase member)
      · exact inside
    · exact absurd (beyond.subset (by simp)) (plain phrase member)
  · intro fits
    exact fits.trans (List.prefix_append _ _)

theorem IsPlain.replaces_cons (plain : normalizer.IsPlain word) (worded : normalizer.Worded)
    (later : normalizer.Replaces rest pieces) :
    normalizer.Replaces (word :: rest) (word :: pieces) := by
  cases marks : isVersionMarker word with
  | true => exact .marker marks later
  | false =>
    refine .word marks ?_ later
    have none : normalizer.phraseAt? [] = none := by
      apply longestIn_eq_none_iff.2
      intro phrase member fits
      exact worded.nonempty phrase member (List.prefix_nil.1 fits)
    rw [← none]
    exact plain.phraseAt?_append [] rest

/-- What is before a word that belongs to no phrase and what is behind it are replaced apart. -/
theorem IsPlain.replaces_append (plain : normalizer.IsPlain word) (worded : normalizer.Worded)
    (before : normalizer.Replaces front pieces) (behind : normalizer.Replaces rest others) :
    normalizer.Replaces (front ++ word :: rest) (pieces ++ word :: others) := by
  induction before with
  | done => exact plain.replaces_cons worded behind
  | marker marks later ih => exact .marker marks ih
  | phrase unmarked consists found later ih =>
    rw [List.cons_append, List.append_assoc]
    refine .phrase unmarked consists ?_ ih
    rw [← List.append_assoc, ← List.cons_append, plain.phraseAt?_append, found]
  | word unmarked none later ih =>
    rw [List.cons_append]
    refine .word unmarked ?_ ih
    rw [← List.cons_append, plain.phraseAt?_append, none]

end NodeLocale.NameNormalizer
