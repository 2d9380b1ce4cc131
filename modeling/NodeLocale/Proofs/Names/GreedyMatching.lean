import Mathlib.Data.List.Nodup
import Mathlib.Logic.Relation
import NodeLocale.Proofs.Names.Phrases

/-!
# Greedy matching

The words of a name are scanned from left to right. A version marker stands for itself, else the
phrase with the most words that stands here contributes its replacement, and where there is no
phrase the word stands for itself. Each step takes at least one word, since phrases without words
are left out, so every scan comes to an end, with all words taken. Where a phrase is declared only
counts among phrases with the same words: a table without such phrases may be reordered, and sorting
a table by the number of words changes nothing in any case.
-/

namespace NodeLocale.NameNormalizer

open Relation Text

variable {table reordered : OrderedMap String String} {words : List String} {phrase : Phrase}
  {entry other : String × String}

/-! ### The chosen entry -/

/-- Whether an entry of a table is the one whose phrase is replaced at the beginning of some words:
it has the most words of all that stand there, and is declared first among those with its words. -/
structure Chosen (table : OrderedMap String String) (words : List String)
    (entry : String × String) : Prop where
  nonempty : Text.words entry.1 ≠ []
  fits : Text.words entry.1 <+: words
  longest : ∀ other ∈ table.entries, Text.words other.1 <+: words →
    (Text.words other.1).length ≤ (Text.words entry.1).length
  first : ∃ front back, table.entries = front ++ entry :: back ∧
    ∀ other ∈ front, Text.words other.1 ≠ Text.words entry.1

/-- The phrase of an entry. -/
def phraseOf (entry : String × String) : Phrase := ⟨Text.words entry.1, entry.2⟩

theorem Chosen.isLongest (chosen : Chosen table words entry) :
    IsLongest words (ofTable table).phrases (phraseOf entry) := by
  rcases chosen.first with ⟨front, back, split, before⟩
  have listed : (phraseOf entry).words.isEmpty = false := by
    simpa [phraseOf] using chosen.nonempty
  have phrases : (ofTable table).phrases =
      ((front.map phraseOf).filter fun phrase => !phrase.words.isEmpty) ++ phraseOf entry ::
        (back.map phraseOf).filter fun phrase => !phrase.words.isEmpty := by
    change (table.entries.map phraseOf).filter _ = _
    simp [split, listed]
  refine ⟨_, _, phrases, chosen.fits, ?_, ?_⟩
  · intro phrase member fits
    rcases List.mem_map.1 (List.mem_of_mem_filter member) with ⟨other, earlier, rfl⟩
    apply Nat.lt_of_le_of_ne (chosen.longest other (by simp [split, earlier]) fits)
    intro same
    -- Two phrases with equally many words that stand at one place have the same words.
    have alike := List.prefix_of_prefix_length_le fits chosen.fits (Nat.le_of_eq same)
    exact before other earlier (alike.eq_of_length same)
  · intro phrase member fits
    rcases List.mem_map.1 (List.mem_of_mem_filter member) with ⟨other, later, rfl⟩
    exact chosen.longest other (by simp [split, later]) fits

theorem exists_chosen (found : (ofTable table).phraseAt? words = some phrase) :
    ∃ entry, Chosen table words entry ∧ phraseOf entry = phrase := by
  have longest := longestIn_eq_some_iff.1 found
  rcases List.mem_filter.1 longest.mem with ⟨member, full⟩
  rcases List.mem_map.1 member with ⟨listed, declared, rfl⟩
  -- The chosen entry is the first one with these words.
  cases search : table.entries.find? (fun entry => Text.words entry.1 == Text.words listed.1) with
  | none => exact absurd (List.find?_eq_none.1 search listed declared) (by simp)
  | some entry =>
    rcases List.find?_eq_some_iff_append.1 search with ⟨same, front, back, split, before⟩
    rw [beq_iff_eq] at same
    have chosen : Chosen table words entry := by
      constructor
      · simpa [same] using full
      · rw [same]
        exact longest.fits
      · intro other otherDeclared fits
        rw [same]
        cases empty : (Text.words other.1).isEmpty with
        | true => simp [List.isEmpty_iff.1 empty]
        | false =>
          have kept : phraseOf other ∈ (ofTable table).phrases :=
            List.mem_filter.2 ⟨List.mem_map_of_mem otherDeclared, by simp [phraseOf, empty]⟩
          exact longest.length_le kept fits
      · refine ⟨front, back, split, ?_⟩
        intro other earlier
        rw [same]
        simpa using before other earlier
    exact ⟨entry, chosen, chosen.isLongest.unique longest⟩

theorem phraseAt?_eq_some_iff : (ofTable table).phraseAt? words = some phrase ↔
    ∃ entry, Chosen table words entry ∧ phraseOf entry = phrase := by
  constructor
  · exact exists_chosen
  · rintro ⟨entry, chosen, rfl⟩
    exact longestIn_eq_some_iff.2 chosen.isLongest

theorem phraseAt?_eq_none_iff :
    (ofTable table).phraseAt? words = none ↔ ∀ entry, ¬Chosen table words entry := by
  rw [Option.eq_none_iff_forall_ne_some]
  constructor
  · intro none entry chosen
    exact none _ (phraseAt?_eq_some_iff.2 ⟨entry, chosen, rfl⟩)
  · intro none phrase found
    rcases exists_chosen found with ⟨entry, chosen, -⟩
    exact none entry chosen

theorem Chosen.exists_first {rest : List String}
    (chosen : Chosen table (Text.words entry.1 ++ rest) entry) :
    ∃ first others, Text.words entry.1 = first :: others ∧
      (ofTable table).phraseAt? (first :: (others ++ rest)) = some (phraseOf entry) := by
  have found := phraseAt?_eq_some_iff.2 ⟨entry, chosen, rfl⟩
  rcases List.exists_cons_of_ne_nil chosen.nonempty with ⟨first, others, consists⟩
  rw [consists, List.cons_append] at found
  exact ⟨first, others, consists, found⟩

/-! ### Sorting -/

/-- Whether a phrase has at least as many words as another one. -/
def notShorter (first second : Phrase) : Bool := second.words.length ≤ first.words.length

theorem notShorter_trans (first second third : Phrase) (left : notShorter first second = true)
    (right : notShorter second third = true) : notShorter first third = true := by
  simp only [notShorter, decide_eq_true_eq] at *
  omega

theorem notShorter_total (first second : Phrase) :
    (notShorter first second || notShorter second first) = true := by
  simp only [notShorter, Bool.or_eq_true, decide_eq_true_eq]
  omega

/-- The phrases with the longest first, phrases of one length staying in their order. -/
def longestFirst (phrases : List Phrase) : List Phrase := phrases.mergeSort notShorter

/-- Sorting keeps the order of the phrases of one length. -/
theorem filter_longestFirst {test : Phrase → Bool} {length : Nat}
    (alike : ∀ phrase, test phrase = true → phrase.words.length = length) (phrases : List Phrase) :
    (longestFirst phrases).filter test = phrases.filter test := by
  have ordered : (phrases.filter test).Pairwise fun first second =>
      notShorter first second = true := by
    apply List.pairwise_of_forall_mem_list
    intro first member second otherMember
    simp [notShorter, alike first (List.of_mem_filter member),
      alike second (List.of_mem_filter otherMember)]
  have inSorted : (phrases.filter test).Sublist (longestFirst phrases) :=
    List.sublist_mergeSort notShorter_trans notShorter_total ordered List.filter_sublist
  have within : (phrases.filter test).Sublist ((longestFirst phrases).filter test) := by
    simpa using inSorted.filter test
  have sizes := ((List.mergeSort_perm phrases notShorter).filter test).length_eq
  exact (within.eq_of_length sizes.symm).symm

/-- In a sorted table the longest phrase is the first one that stands somewhere. -/
theorem phraseAt?_eq_find?_longestFirst (normalizer : NameNormalizer) (words : List String) :
    normalizer.phraseAt? words =
      (longestFirst normalizer.phrases).find? fun phrase => phrase.words.isPrefixOf words := by
  cases search : (longestFirst normalizer.phrases).find? fun phrase =>
    phrase.words.isPrefixOf words with
  | none =>
    apply longestIn_eq_none_iff.2
    intro phrase member fits
    have listed : phrase ∈ longestFirst normalizer.phrases := List.mem_mergeSort.2 member
    exact List.find?_eq_none.1 search phrase listed (List.isPrefixOf_iff_prefix.2 fits)
  | some phrase =>
    rcases List.find?_eq_some_iff_append.1 search with ⟨fits, front, back, split, before⟩
    have sorted : (front ++ phrase :: back).Pairwise fun first second =>
        notShorter first second = true :=
      split ▸ List.pairwise_mergeSort notShorter_trans notShorter_total normalizer.phrases
    have most : ∀ other ∈ normalizer.phrases, other.words <+: words →
        other.words.length ≤ phrase.words.length := by
      intro other member otherFits
      have listed : other ∈ front ++ phrase :: back := split ▸ List.mem_mergeSort.2 member
      rcases List.mem_append.1 listed with earlier | later
      · have misses := before other earlier
        simp [List.isPrefixOf_iff_prefix.2 otherFits] at misses
      · rcases List.mem_cons.1 later with rfl | behind
        · exact Nat.le_refl _
        · have ordered := (List.pairwise_append.1 sorted).2.1
          simpa [notShorter] using List.rel_of_pairwise_cons ordered behind
    -- Among the phrases of its length, it is the first one in the table as well.
    let test : Phrase → Bool := fun other =>
      other.words.isPrefixOf words && other.words.length == phrase.words.length
    have alike : ∀ other, test other = true → other.words.length = phrase.words.length := by
      simp [test]
    have inSorted : (longestFirst normalizer.phrases).find? test = some phrase := by
      apply List.find?_eq_some_iff_append.2
      refine ⟨by simp [test, fits], front, back, split, ?_⟩
      intro other earlier
      have misses := before other earlier
      simp_all [test]
    have inTable : normalizer.phrases.find? test = some phrase := by
      rw [← List.head?_filter] at inSorted ⊢
      rw [← inSorted, filter_longestFirst alike]
    rcases List.find?_eq_some_iff_append.1 inTable with ⟨-, earlier, later, listed, others⟩
    apply longestIn_eq_some_iff.2
    refine ⟨earlier, later, listed, List.isPrefixOf_iff_prefix.1 fits, ?_, ?_⟩
    · intro other member otherFits
      apply Nat.lt_of_le_of_ne (most other (by simp [listed, member]) otherFits)
      intro same
      have misses := others other member
      simp [test, List.isPrefixOf_iff_prefix.2 otherFits, same] at misses
    · intro other member otherFits
      exact most other (by simp [listed, member]) otherFits

/-! ### Scanning -/

/-- How far some words have been scanned. -/
structure Scan where
  /-- The words that each step took, and what it contributed. -/
  steps : List Phrase
  /-- The words that are left. -/
  rest : List String

namespace Scan

/-- What a scan does next. -/
inductive Next (table : OrderedMap String String) : Scan → Scan → Prop
  | marker {steps : List Phrase} {word : String} {rest : List String}
      (marks : isVersionMarker word = true) :
      Next table ⟨steps, word :: rest⟩ ⟨steps ++ [⟨[word], word⟩], rest⟩
  | phrase {steps : List Phrase} {entry : String × String} {rest : List String}
      (unmarked : ∀ word ∈ (Text.words entry.1).head?, isVersionMarker word = false)
      (chosen : Chosen table (Text.words entry.1 ++ rest) entry) :
      Next table ⟨steps, Text.words entry.1 ++ rest⟩
        ⟨steps ++ [⟨Text.words entry.1, entry.2⟩], rest⟩
  | word {steps : List Phrase} {word : String} {rest : List String}
      (unmarked : isVersionMarker word = false)
      (none : ∀ entry, ¬Chosen table (word :: rest) entry) :
      Next table ⟨steps, word :: rest⟩ ⟨steps ++ [⟨[word], word⟩], rest⟩

/-- The same, computed. -/
def advance (normalizer : NameNormalizer) (scan : Scan) : Option Scan :=
  match scan.rest with
  | [] => none
  | word :: rest =>
    let itself : Phrase := ⟨[word], word⟩
    let taken : Phrase :=
      if isVersionMarker word then itself
      else (normalizer.phraseAt? (word :: rest)).getD itself
    some ⟨scan.steps ++ [taken], (word :: rest).drop taken.words.length⟩

variable {before after last : Scan} {text : String}

theorem next_iff : Next table before after ↔ advance (ofTable table) before = some after := by
  constructor
  · intro next
    cases next with
    | marker marks => simp [advance, marks]
    | @phrase steps entry rest unmarked chosen =>
      rcases chosen.exists_first with ⟨first, others, consists, found⟩
      have unmarked := unmarked first (by simp [consists])
      simp [advance, unmarked, found, phraseOf, consists]
    | word unmarked none =>
      simp [advance, unmarked, phraseAt?_eq_none_iff.2 none]
  · intro advanced
    rcases before with ⟨steps, _ | ⟨word, rest⟩⟩
    · simp [advance] at advanced
    · obtain rfl := Option.some.inj advanced
      cases marks : isVersionMarker word with
      | true => simpa using Next.marker marks
      | false =>
        cases found : (ofTable table).phraseAt? (word :: rest) with
        | none => simpa using Next.word marks (phraseAt?_eq_none_iff.1 found)
        | some phrase =>
          rcases exists_chosen found with ⟨entry, chosen, rfl⟩
          rcases chosen.fits with ⟨behind, split⟩
          have unmarked : ∀ first ∈ (Text.words entry.1).head?, isVersionMarker first = false := by
            intro first isFirst
            rcases List.head?_eq_some_iff.1 isFirst with ⟨others, consists⟩
            rw [consists, List.cons_append, List.cons.injEq] at split
            rw [split.1, marks]
          simp only [Bool.false_eq_true, if_false, Option.getD_some, phraseOf]
          rw [← split] at chosen ⊢
          rw [List.drop_left]
          exact .phrase unmarked chosen

theorem Next.shorter (next : Next table before after) : after.rest.length < before.rest.length := by
  cases next with
  | marker marks => simp
  | phrase unmarked chosen =>
    have taken := List.length_pos_iff.2 chosen.nonempty
    simp
    omega
  | word unmarked none => simp

theorem wellFounded_next (table : OrderedMap String String) :
    WellFounded fun after before => Next table before after :=
  Subrelation.wf (fun next => next.shorter)
    (InvImage.wf (fun scan : Scan => scan.rest.length) Nat.lt_wfRel.wf)

theorem exists_next (table : OrderedMap String String) (steps : List Phrase) (word : String)
    (rest : List String) : ∃ after, Next table ⟨steps, word :: rest⟩ after := by
  simp only [next_iff]
  exact ⟨_, rfl⟩

theorem pieces_of_chosen {rest : List String}
    (unmarked : ∀ word ∈ (Text.words entry.1).head?, isVersionMarker word = false)
    (chosen : Chosen table (Text.words entry.1 ++ rest) entry) :
    (ofTable table).pieces 0 (Text.words entry.1 ++ rest) =
      entry.2 :: (ofTable table).pieces 0 rest := by
  rcases chosen.exists_first with ⟨first, others, consists, found⟩
  have unmarked := unmarked first (by simp [consists])
  have words : (phraseOf entry).words = first :: others := consists
  simp only [consists, List.cons_append, NameNormalizer.pieces, unmarked, Bool.false_eq_true,
    if_false, found, pieces_behind words]
  rfl

/-- Whether a scan has taken the first of some words, each step at least one, and has contributed
what their normal form begins with. -/
structure Covers (normalizer : NameNormalizer) (words : List String) (scan : Scan) : Prop where
  taken : scan.steps.flatMap Phrase.words ++ scan.rest = words
  nonempty : ∀ step ∈ scan.steps, step.words ≠ []
  contributed : scan.steps.map Phrase.replacement ++ normalizer.pieces 0 scan.rest =
    normalizer.pieces 0 words

theorem covers_start (normalizer : NameNormalizer) (words : List String) :
    Covers normalizer words ⟨[], words⟩ := by
  constructor <;> simp

theorem Covers.next (covers : Covers (ofTable table) words before)
    (next : Next table before after) : Covers (ofTable table) words after := by
  cases next with
  | marker marks =>
    constructor
    · simp [← covers.taken]
    · simpa [or_imp, forall_and] using covers.nonempty
    · simp [← covers.contributed, NameNormalizer.pieces, marks]
  | @phrase steps entry rest unmarked chosen =>
    constructor
    · simp [← covers.taken]
    · simpa [or_imp, forall_and, chosen.nonempty] using covers.nonempty
    · simp [← covers.contributed, pieces_of_chosen unmarked chosen]
  | word unmarked none =>
    constructor
    · simp [← covers.taken]
    · simpa [or_imp, forall_and] using covers.nonempty
    · simp [← covers.contributed, NameNormalizer.pieces, unmarked, phraseAt?_eq_none_iff.2 none]

theorem Covers.reached (covers : Covers (ofTable table) words before)
    (reached : ReflTransGen (Next table) before after) : Covers (ofTable table) words after := by
  induction reached with
  | refl => exact covers
  | tail _ next ih => exact ih.next next

theorem exists_run (table : OrderedMap String String) (start : Scan) :
    ∃ steps, ReflTransGen (Next table) start ⟨steps, []⟩ := by
  induction start using (wellFounded_next table).induction with
  | _ start ih =>
    rcases start with ⟨steps, _ | ⟨word, rest⟩⟩
    · exact ⟨steps, .refl⟩
    · rcases exists_next table steps word rest with ⟨after, next⟩
      rcases ih after next with ⟨all, run⟩
      exact ⟨all, .head next run⟩

/-- Whether a scan that starts here can end there. -/
structure Ends (table : OrderedMap String String) (start last : Scan) : Prop where
  reached : ReflTransGen (Next table) start last
  stuck : ∀ after, ¬Next table last after

theorem Ends.unique {start other : Scan} (first : Ends table start last)
    (second : Ends table start other) : last = other := by
  have deterministic : Relator.RightUnique (Next table) := by
    intro before after other next otherNext
    rw [next_iff] at next otherNext
    exact Option.some.inj (next.symm.trans otherNext)
  rcases ReflTransGen.total_of_right_unique deterministic first.reached second.reached with
    beyond | beyond
  · rcases beyond.cases_head with same | ⟨after, next, -⟩
    · exact same
    · exact absurd next (first.stuck after)
  · rcases beyond.cases_head with same | ⟨after, next, -⟩
    · exact same.symm
    · exact absurd next (second.stuck after)

theorem exists_ends (table : OrderedMap String String) (start : Scan) :
    ∃ steps, Ends table start ⟨steps, []⟩ := by
  rcases exists_run table start with ⟨steps, run⟩
  refine ⟨steps, run, ?_⟩
  intro after next
  simp [next_iff, advance] at next

end Scan

/-! ### Reordered tables -/

/-- Whether no two phrases of a table have the same words. -/
def WordsApart (table : OrderedMap String String) : Prop :=
  ∀ entry ∈ table.entries, ∀ other ∈ table.entries, Text.words entry.1 ≠ [] →
    Text.words entry.1 = Text.words other.1 → entry = other

theorem Chosen.of_perm (chosen : Chosen table words entry) (apart : WordsApart table)
    (perm : reordered.entries.Perm table.entries) : Chosen reordered words entry := by
  rcases chosen.first with ⟨front, back, split, -⟩
  have declared : entry ∈ reordered.entries := perm.mem_iff.2 (by simp [split])
  refine ⟨chosen.nonempty, chosen.fits, ?_, ?_⟩
  · intro other member fits
    exact chosen.longest other (perm.mem_iff.1 member) fits
  · rcases List.append_of_mem declared with ⟨earlier, later, listed⟩
    refine ⟨earlier, later, listed, ?_⟩
    intro other before same
    have otherMember : other ∈ reordered.entries := by simp [listed, before]
    have equal := apart entry (by simp [split]) other (perm.mem_iff.1 otherMember) chosen.nonempty
      same.symm
    -- No entry stands before itself.
    have distinct : (earlier ++ entry :: later).Nodup :=
      listed ▸ List.Nodup.of_map Prod.fst reordered.distinct
    rw [← equal] at before
    exact (List.nodup_append.1 distinct).2.2 entry before entry (by simp) rfl

theorem phraseAt?_of_perm (apart : WordsApart table)
    (perm : reordered.entries.Perm table.entries) (words : List String) :
    (ofTable reordered).phraseAt? words = (ofTable table).phraseAt? words := by
  have backApart : WordsApart reordered := by
    intro entry member other otherMember
    exact apart entry (perm.mem_iff.1 member) other (perm.mem_iff.1 otherMember)
  apply Option.ext
  intro phrase
  rw [phraseAt?_eq_some_iff, phraseAt?_eq_some_iff]
  constructor
  · rintro ⟨entry, chosen, same⟩
    exact ⟨entry, chosen.of_perm backApart perm.symm, same⟩
  · rintro ⟨entry, chosen, same⟩
    exact ⟨entry, chosen.of_perm apart perm, same⟩

theorem pieces_congr {left right : NameNormalizer}
    (same : ∀ words, left.phraseAt? words = right.phraseAt? words) (skipped : Nat)
    (words : List String) : left.pieces skipped words = right.pieces skipped words := by
  induction words generalizing skipped with
  | nil => cases skipped <;> rfl
  | cons word rest ih =>
    cases skipped with
    | zero => simp only [NameNormalizer.pieces, same, ih]
    | succ skipped => exact ih skipped

theorem normalizeSuffix_of_perm (apart : WordsApart table)
    (perm : reordered.entries.Perm table.entries) (text : String) :
    (ofTable reordered).normalizeSuffix text = (ofTable table).normalizeSuffix text := by
  rw [normalizeSuffix, normalizeSuffix, pieces_congr (phraseAt?_of_perm apart perm)]

/-- The normal form of a name is what the one scan of its words contributes, which comes to an end
for every table and takes every word once. The phrase that it replaces is the first one that stands
there when the phrases are sorted, and tables whose phrases have different words may be reordered in
any way. -/
theorem normalizeSuffix_eq_scan (table : OrderedMap String String) :
    WellFounded (fun after before => Scan.Next table before after) ∧
    (∀ text, ∃ steps, (∀ last, Scan.Ends table ⟨[], Text.words text⟩ last ↔ last = ⟨steps, []⟩) ∧
      steps.flatMap Phrase.words = Text.words text ∧ (∀ step ∈ steps, step.words ≠ []) ∧
      (ofTable table).normalizeSuffix text = String.join (steps.map Phrase.replacement)) ∧
    (∀ words, (ofTable table).phraseAt? words =
      (longestFirst (ofTable table).phrases).find? fun phrase => phrase.words.isPrefixOf words) ∧
    ∀ reordered, WordsApart table → reordered.entries.Perm table.entries → ∀ name,
      (ofTable reordered).normalizeSuffix name = (ofTable table).normalizeSuffix name ∧
      (ofTable reordered).normalize name = (ofTable table).normalize name ∧
      (ofTable reordered).baseName name = (ofTable table).baseName name := by
  refine ⟨Scan.wellFounded_next table, ?_, phraseAt?_eq_find?_longestFirst _, ?_⟩
  · intro text
    rcases Scan.exists_ends table ⟨[], Text.words text⟩ with ⟨steps, ends⟩
    have covers := (Scan.covers_start (ofTable table) (Text.words text)).reached ends.reached
    refine ⟨steps, ?_, by simpa using covers.taken, covers.nonempty, ?_⟩
    · intro last
      constructor
      · intro other
        exact other.unique ends
      · rintro rfl
        exact ends
    · have contributed := covers.contributed
      simp only [NameNormalizer.pieces, List.append_nil] at contributed
      rw [normalizeSuffix, contributed]
  · intro reordered apart perm name
    have suffixes := normalizeSuffix_of_perm apart perm
    have names : (ofTable reordered).normalize name = (ofTable table).normalize name := by
      simp only [normalize, suffixes]
    refine ⟨suffixes name, names, ?_⟩
    rw [baseName, baseName, names]

/-- Phrases that overlap, one of which consists of white space. -/
def overlappingPhrases : OrderedMap String String := .ofList [
  ("Mask Edge", "ME"), ("  ", "nothing"), ("Mask Edge Ultra Detail", "MEUD"), ("Edge V2", "E2")]

/-- The same phrases in another order. -/
def reorderedPhrases : OrderedMap String String := .ofList [
  ("Edge V2", "E2"), ("Mask Edge Ultra Detail", "MEUD"), ("Mask Edge", "ME"), ("  ", "nothing")]

/-- The longer phrase wins where it stands, whatever the order. -/
theorem normalizeSuffix_of_overlapping : reorderedPhrases.entries.Perm overlappingPhrases.entries ∧
    WordsApart overlappingPhrases ∧
    (ofTable overlappingPhrases).normalizeSuffix "Mask Edge Ultra Detail V2 Mask Edge V2" =
      "MEUDV2MEV2" ∧
    (ofTable reorderedPhrases).normalizeSuffix "Mask Edge Ultra Detail V2 Mask Edge V2" =
      "MEUDV2MEV2" := by
  have perm : reorderedPhrases.entries.Perm overlappingPhrases.entries := by decide +kernel
  have apart : WordsApart overlappingPhrases := by
    rw [WordsApart]
    decide +kernel
  have value : (ofTable overlappingPhrases).normalizeSuffix
      "Mask Edge Ultra Detail V2 Mask Edge V2" = "MEUDV2MEV2" := by decide +kernel
  have same := (normalizeSuffix_eq_scan overlappingPhrases).2.2.2 reorderedPhrases apart perm
    "Mask Edge Ultra Detail V2 Mask Edge V2"
  exact ⟨perm, apart, value, same.1.trans value⟩

end NodeLocale.NameNormalizer
