import NodeLocale.Proofs.Names.AddedNodes

/-!
# Spacing in names

The spacing of a name may change from one release to the next. The phrases that are there without a
configuration are replaced by their words without the spaces, so spacing does not count, with one
exception: "EVF-SAM Ultra" also loses its hyphen, but only where it is spaced as the phrase is. Else
the hyphen stays, and as punctuation it ends a word of the base name. Names that differ in spacing
are therefore taken for the same node if and only if the phrase stands at the same places in them.
-/

namespace NodeLocale

/-! ### Words that begin with the same character -/

namespace Text

variable {c next : Char} {left right : List Char}

theorem wordChars_cons (visible : isBlank c = false) (rest : List Char) :
    wordChars (c :: rest) = (c :: rest.takeWhile fun c => !isBlank c) ::
      wordChars (rest.dropWhile fun c => !isBlank c) := by
  have run : ∀ d ∈ c :: rest.takeWhile (fun c => !isBlank c), isBlank d = false := by
    intro d member
    rcases List.mem_cons.1 member with rfl | inside
    · exact visible
    · simpa using List.mem_takeWhile_imp inside
  have whole : c :: rest = (c :: rest.takeWhile fun c => !isBlank c) ++
      rest.dropWhile fun c => !isBlank c := by simp
  cases behind : rest.dropWhile fun c => !isBlank c with
  | nil =>
    rw [behind, List.append_nil] at whole
    rw [whole, wordChars, splitChars_of_forall run]
    rfl
  | cons blank others =>
    have stops := List.head?_dropWhile_not (fun c => !isBlank c) rest
    have isBlank : isBlank blank = true := by simpa [behind] using stops
    rw [whole, behind, wordChars, splitChars_append_separator _ isBlank, splitChars_of_forall run]
    simp [wordChars, splitChars, isBlank]

theorem wordChars_eq (text : List Char) :
    wordChars text = ([text.takeWhile fun c => !isBlank c].filter fun run => !run.isEmpty) ++
      wordChars (text.dropWhile fun c => !isBlank c) := by
  cases text with
  | nil => rfl
  | cons c rest =>
    cases visible : isBlank c with
    | true => simp [visible]
    | false => simp [visible, wordChars_cons]

theorem wordChars_of_cons (same : wordChars (c :: left) = wordChars (c :: right)) :
    wordChars left = wordChars right := by
  cases visible : isBlank c with
  | true => simpa [wordChars, splitChars, visible] using same
  | false =>
    rw [wordChars_cons visible, wordChars_cons visible, List.cons.injEq, List.cons.injEq] at same
    rw [wordChars_eq left, wordChars_eq right, same.1.2, same.2]

theorem wordChars_ne_of_blank (visible : isBlank c = false) (nextVisible : isBlank next = false) :
    wordChars (c :: ' ' :: left) ≠ wordChars (c :: next :: right) := by
  intro same
  rw [wordChars_cons visible, wordChars_cons visible] at same
  simp [nextVisible, show isBlank ' ' = true by decide] at same

end Text

namespace NameNormalizer

open Text

variable {words pieces : List String} {one other : String}

/-! ### Dropped hyphens -/

/-- Whether a word loses its hyphen in front of other words. -/
def dropsHyphen (word : String) (rest : List String) : Bool :=
  word == "EVF-SAM" && rest.head? == some "Ultra"

theorem dropsHyphen_iff {word : String} {rest : List String} : dropsHyphen word rest = true ↔
    word = "EVF-SAM" ∧ ∃ back, rest = "Ultra" :: back := by
  simp [dropsHyphen, List.head?_eq_some_iff]

/-- The characters of some words, and whether they are dropped. -/
def marked : List String → List (Char × Bool)
  | [] => []
  | word :: rest =>
    (word.toList.map fun c => (c, c == '-' && dropsHyphen word rest)) ++ marked rest

def kept (marks : List (Char × Bool)) : List Char :=
  (marks.filter fun mark => !mark.2).map Prod.fst

theorem map_fst_marked (words : List String) :
    (marked words).map Prod.fst = words.flatMap String.toList := by
  induction words with
  | nil => rfl
  | cons word rest ih => simp [marked, ih, Function.comp_def]

theorem kept_append (left right : List (Char × Bool)) :
    kept (left ++ right) = kept left ++ kept right := by
  simp [kept]

theorem kept_marked_cons {word : String} {rest : List String}
    (keeps : dropsHyphen word rest = false) :
    kept (marked (word :: rest)) = word.toList ++ kept (marked rest) := by
  simp [marked, kept, keeps, List.filter_map, Function.comp_def]

theorem kept_marked_append {front : List String} (absent : "EVF-SAM" ∉ front) (rest : List String) :
    kept (marked (front ++ rest)) = front.flatMap String.toList ++ kept (marked rest) := by
  induction front with
  | nil => rfl
  | cons word front ih =>
    rw [List.mem_cons, not_or] at absent
    have keeps : dropsHyphen word (front ++ rest) = false := by
      simp [dropsHyphen, Ne.symm absent.1]
    simp [kept_marked_cons keeps, ih absent.2]

/-- The phrase that loses its hyphen. -/
def hyphenated : Phrase := ⟨["EVF-SAM", "Ultra"], "EVFSAMUltra"⟩

theorem hyphenated_mem : hyphenated ∈ standard.phrases := by decide +kernel

/-- All other phrases are replaced by their words. -/
theorem joined_of_mem_standard : ∀ phrase ∈ standard.phrases, phrase = hyphenated ∨
    "EVF-SAM" ∉ phrase.words ∧ phrase.replacement = String.join phrase.words := by
  decide +kernel

theorem Replaces.kept_marked (replaces : standard.Replaces words pieces) :
    kept (marked words) = pieces.flatMap String.toList := by
  induction replaces with
  | done => rfl
  | @marker word rest pieces marks later ih =>
    have keeps : dropsHyphen word rest = false := by
      rw [Bool.eq_false_iff, ne_eq, dropsHyphen_iff]
      rintro ⟨rfl, -⟩
      exact absurd marks (by decide)
    simp [kept_marked_cons keeps, ih]
  | @phrase first others rest pieces phrase unmarked consists found later ih =>
    have member := (longestIn_eq_some_iff.1 found).mem
    rcases joined_of_mem_standard phrase member with rfl | ⟨absent, joined⟩
    · simp only [hyphenated, List.cons.injEq] at consists
      rcases consists with ⟨rfl, rfl⟩
      have keeps : dropsHyphen "Ultra" rest = false := rfl
      have phraseMarks : marked ("EVF-SAM" :: "Ultra" :: rest) =
          ("EVF-SAM".toList.map fun c => (c, c == '-')) ++ marked ("Ultra" :: rest) := by
        rw [marked]
        rfl
      rw [List.singleton_append, phraseMarks, kept_append, kept_marked_cons keeps, ih]
      rfl
    · rw [consists] at absent
      rw [← List.cons_append, kept_marked_append absent, ih, ← consists, List.flatMap_cons, joined,
        String.toList_join]
  | @word word rest pieces unmarked none later ih =>
    have keeps : dropsHyphen word rest = false := by
      rw [Bool.eq_false_iff, ne_eq, dropsHyphen_iff]
      rintro ⟨rfl, back, rfl⟩
      exact longestIn_eq_none_iff.1 none hyphenated hyphenated_mem ⟨back, rfl⟩
    simp [kept_marked_cons keeps, ih]

theorem toList_normalizeSuffix_standard (text : String) :
    (standard.normalizeSuffix text).toList = kept (marked (Text.words text)) := by
  have worded : standard.Worded := worded_ofTable _
  have replaces := replaces_pieces worded (Text.words text)
  rw [toList_normalizeSuffix replaces, replaces.kept_marked]

/-- Whether the phrase that loses its hyphen stands in some words behind so many characters. -/
def StandsAt (words : List String) (place : Nat) : Prop :=
  ∃ front back, words = front ++ "EVF-SAM" :: "Ultra" :: back ∧
    (front.flatMap String.toList).length = place

/-- The hyphen is the fourth character of the phrase. -/
theorem getElem?_marked_iff {index : Nat} : (marked words)[index]?.map Prod.snd = some true ↔
    ∃ place, StandsAt words place ∧ index = place + 3 := by
  constructor
  · intro dropped
    induction words generalizing index with
    | nil => simp [marked] at dropped
    | cons word rest ih =>
      rw [marked] at dropped
      by_cases inside : index < word.toList.length
      · rw [List.getElem?_append_left (by simpa using inside), List.getElem?_map] at dropped
        simp only [Option.map_map, Option.map_eq_some_iff, Function.comp_apply, Bool.and_eq_true,
          beq_iff_eq, dropsHyphen_iff] at dropped
        rcases dropped with ⟨_, hyphen, rfl, rfl, back, rfl⟩
        have fourth : ∀ i < 7, "EVF-SAM".toList[i]? = some '-' → i = 3 := by decide
        exact ⟨0, ⟨[], back, rfl, rfl⟩, fourth index inside hyphen⟩
      · rw [List.getElem?_append_right (by simpa using inside)] at dropped
        rcases ih dropped with ⟨_, ⟨front, back, rfl, rfl⟩, same⟩
        refine ⟨_, ⟨word :: front, back, rfl, rfl⟩, ?_⟩
        simp at inside same ⊢
        omega
  · rintro ⟨_, ⟨front, back, rfl, rfl⟩, rfl⟩
    induction front with
    | nil => rfl
    | cons word front ih =>
      rw [List.cons_append, marked, List.getElem?_append_right (by simp; omega), ← ih]
      congr 2
      simp
      omega

theorem standsAt_iff {place : Nat} :
    StandsAt words place ↔ (marked words)[place + 3]?.map Prod.snd = some true := by
  rw [getElem?_marked_iff]
  simp

/-! ### Hyphens between letters -/

/-- What becomes of a character in a base name. -/
def spaced (c : Char) : Char := if isJoint c then ' ' else c

/-- Whether hyphens are dropped only between characters that stand in a word of the base name. -/
inductive Dropping : List (Char × Bool) → Prop
  | nil : Dropping []
  | keep {c : Char} {rest : List (Char × Bool)} (later : Dropping rest) :
      Dropping ((c, false) :: rest)
  | drop {before after : Char} {rest : List (Char × Bool)}
      (beforeVisible : isBlank (spaced before) = false)
      (afterVisible : isBlank (spaced after) = false) (later : Dropping ((after, false) :: rest)) :
      Dropping ((before, false) :: ('-', true) :: (after, false) :: rest)

theorem Dropping.append_letters {rest : List (Char × Bool)} (later : Dropping rest)
    (letters : List Char) : Dropping ((letters.map fun c => (c, false)) ++ rest) := by
  induction letters with
  | nil => exact later
  | cons c letters ih => exact .keep ih

theorem dropping_marked (words : List String) : Dropping (marked words) := by
  induction words with
  | nil => exact .nil
  | cons word rest ih =>
    rw [marked]
    cases drops : dropsHyphen word rest with
    | false => simpa using ih.append_letters word.toList
    | true =>
      rw [(dropsHyphen_iff.1 drops).1]
      exact .keep (.keep (.drop (by decide) (by decide) (.keep (.keep (.keep ih)))))

/-- A hyphen that is kept ends a word that goes on if it is dropped. -/
theorem Dropping.words_ne {c after : Char} {hyphen : List (Char × Bool)} {rest : List Char}
    (visible : isBlank (spaced c) = false) (afterVisible : isBlank (spaced after) = false)
    (dropping : Dropping hyphen) (begins : (hyphen.map Prod.fst).head? = some '-') :
    wordChars ((c :: kept hyphen).map spaced) ≠ wordChars ((c :: after :: rest).map spaced) := by
  cases dropping with
  | nil => simp at begins
  | keep later =>
    obtain rfl := Option.some.inj begins
    exact wordChars_ne_of_blank visible afterVisible
  | drop beforeVisible =>
    obtain rfl := Option.some.inj begins
    exact absurd beforeVisible (by decide)

/-- The words of a base name tell which hyphens are dropped. -/
theorem Dropping.eq_of_words {left right : List (Char × Bool)} (leftDropping : Dropping left)
    (rightDropping : Dropping right) (letters : left.map Prod.fst = right.map Prod.fst)
    (same : wordChars ((kept left).map spaced) = wordChars ((kept right).map spaced)) :
    left = right := by
  induction leftDropping generalizing right with
  | nil => simpa using letters.symm
  | keep later ih =>
    cases rightDropping with
    | nil => simp at letters
    | keep rightLater =>
      rw [List.map_cons, List.map_cons, List.cons.injEq] at letters
      rcases letters with ⟨rfl, letters⟩
      rw [ih rightLater letters (wordChars_of_cons same)]
    | drop beforeVisible afterVisible rightLater =>
      rw [List.map_cons, List.map_cons, List.cons.injEq] at letters
      rcases letters with ⟨rfl, letters⟩
      exact absurd same (later.words_ne beforeVisible afterVisible (by simp [letters]))
  | drop beforeVisible afterVisible later ih =>
    cases rightDropping with
    | nil => simp at letters
    | keep rightLater =>
      simp only [List.map_cons, List.cons.injEq] at letters
      rcases letters with ⟨rfl, letters⟩
      exact absurd same.symm
        (rightLater.words_ne beforeVisible afterVisible (by simp [← letters]))
    | drop _ _ rightLater =>
      simp only [List.map_cons, List.cons.injEq, true_and] at letters
      rcases letters with ⟨rfl, rfl, letters⟩
      rw [ih rightLater (by simp [letters]) (wordChars_of_cons same)]

/-! ### Names -/

/-- The part of a name behind its category. -/
def suffix (name : String) : String :=
  match splitCategory? name with
  | some (_, suffix) => suffix
  | none => name

/-- The characters of a text without its white space. -/
def visible (text : String) : List Char := text.toList.filter fun c => !isBlank c

/-- Whether names have the same category, or none, and differ at most in their spacing behind it. -/
structure SameButSpacing (one other : String) : Prop where
  category : (splitCategory? one).map Prod.fst = (splitCategory? other).map Prod.fst
  suffix : visible (suffix one) = visible (suffix other)

/-- Whether the phrase that loses its hyphen stands at the same places in two names, counted without
white space. -/
def HyphensAlike (one other : String) : Prop :=
  ∀ place, StandsAt (Text.words (suffix one)) place ↔ StandsAt (Text.words (suffix other)) place

theorem flatMap_words (text : String) : (Text.words text).flatMap String.toList = visible text := by
  rw [visible, ← flatten_wordChars, Text.words, List.flatMap_map]
  simp [List.flatMap]

theorem marked_eq_iff {text next : String} (same : visible text = visible next) :
    marked (Text.words text) = marked (Text.words next) ↔
      ∀ place, StandsAt (Text.words text) place ↔ StandsAt (Text.words next) place := by
  constructor
  · intro equal place
    rw [standsAt_iff, standsAt_iff, equal]
  · intro alike
    apply List.ext_getElem?
    intro index
    have letters : (marked (Text.words text))[index]?.map Prod.fst =
        (marked (Text.words next))[index]?.map Prod.fst := by
      simp only [← List.getElem?_map, map_fst_marked, flatMap_words, same]
    have dropped : (marked (Text.words text))[index]?.map Prod.snd = some true ↔
        (marked (Text.words next))[index]?.map Prod.snd = some true := by
      simp only [getElem?_marked_iff, alike]
    rcases first : (marked (Text.words text))[index]? with _ | ⟨c, drops⟩ <;>
      rcases second : (marked (Text.words next))[index]? with _ | ⟨d, otherDrops⟩ <;>
      simp only [first, second, Option.map_some, Option.map_none, reduceCtorEq,
        Option.some.injEq] at letters dropped
    · rfl
    · rw [letters, Bool.eq_iff_iff.2 dropped]

/-- The words of a base name that come from a category. -/
def categoryWords : Option String → List String
  | some category => Text.words (String.ofList ((trim category).toList.map spaced))
  | none => []

theorem baseName_eq (normalizer : NameNormalizer) (name : String) :
    normalizer.baseName name = String.intercalate " "
      (categoryWords ((splitCategory? name).map Prod.fst) ++ Text.words
        (String.ofList ((normalizer.normalizeSuffix (suffix name)).toList.map spaced))) := by
  have unfolded : normalizer.baseName name = String.intercalate " "
      (Text.words (String.ofList ((normalizer.normalize name).toList.map spaced))) := rfl
  rw [unfolded, normalize, suffix]
  cases splitCategory? name with
  | none => simp [categoryWords]
  | some parts =>
    have colon : ": ".toList.map spaced = [' ', ' '] := by decide
    have apart : (trim parts.1 ++ ": " ++ normalizer.normalizeSuffix parts.2).toList.map spaced =
        (trim parts.1).toList.map spaced ++ ' ' :: ' ' ::
          (normalizer.normalizeSuffix parts.2).toList.map spaced := by
      rw [String.toList_append, String.toList_append, List.map_append, List.map_append, colon]
      simp
    simp only [apart, words_append_blank _ _ (show isBlank ' ' = true by decide),
      words_cons_blank _ (show isBlank ' ' = true by decide), Option.map_some, categoryWords]

theorem baseName_eq_iff (same : SameButSpacing one other) :
    standard.baseName one = standard.baseName other ↔ HyphensAlike one other := by
  have areWords : ∀ name, ∀ word ∈ categoryWords ((splitCategory? name).map Prod.fst) ++
      Text.words (String.ofList ((standard.normalizeSuffix (suffix name)).toList.map spaced)),
        IsWord word := by
    intro name word member
    rcases List.mem_append.1 member with inCategory | inSuffix
    · cases split : splitCategory? name <;> simp [split, categoryWords] at inCategory
      exact isWord_of_mem_words inCategory
    · exact isWord_of_mem_words inSuffix
  rw [baseName_eq, baseName_eq, HyphensAlike, ← marked_eq_iff same.suffix]
  simp only [toList_normalizeSuffix_standard] at areWords ⊢
  constructor
  · intro sameNames
    have sameWords := congrArg Text.words sameNames
    rw [words_intercalate (areWords one), words_intercalate (areWords other), same.category]
      at sameWords
    have sameSuffixes := List.append_cancel_left sameWords
    simp only [Text.words, String.toList_ofList] at sameSuffixes
    apply (dropping_marked _).eq_of_words (dropping_marked _)
    · rw [map_fst_marked, map_fst_marked, flatMap_words, flatMap_words, same.suffix]
    · exact List.map_injective_iff.2 (fun _ _ => String.ofList_injective) sameSuffixes
  · intro sameMarks
    rw [sameMarks, same.category]

end NameNormalizer

/-! ### Comparisons -/

namespace NodeDiff

open NameNormalizer

variable {one other : String}

/-- Whether a name is never added to an artifact that has a known one. -/
def NeverAddedTo (normalizer : NameNormalizer) (known name : String) : Prop :=
  ∀ older newer, known ∈ older.keys → name ∉ (between normalizer older newer).added.keys

theorem neverAddedTo_iff {normalizer : NameNormalizer} :
    NeverAddedTo normalizer other one ↔ normalizer.baseName one = normalizer.baseName other := by
  constructor
  · intro never
    by_contra different
    apply never (.ofList [(other, .null)]) (.ofList [(one, .null)])
    · simp [OrderedMap.mem_keys_ofList]
    · rw [mem_keys_added_iff]
      simp [OrderedMap.mem_keys_ofList, baseNames, Ne.symm different]
  · intro same older newer known added
    rw [mem_keys_added_iff, same] at added
    exact added.2 (List.mem_map_of_mem known)

/-- Names that differ in their spacing have one base name, and neither of them is added where the
other one is known, if and only if the phrase that loses its hyphen stands at the same places in
them. -/
theorem spacing_ignored_iff (same : SameButSpacing one other) :
    (standard.baseName one = standard.baseName other ↔ HyphensAlike one other) ∧
    (NeverAddedTo standard other one ↔ HyphensAlike one other) ∧
    (NeverAddedTo standard one other ↔ HyphensAlike one other) := by
  have sameBase := baseName_eq_iff same
  refine ⟨sameBase, neverAddedTo_iff.trans sameBase, ?_⟩
  rw [neverAddedTo_iff, eq_comm]
  exact sameBase

/-- The phrase stands at the front of both names, and what else is spaced in another way does not
count. -/
theorem spacing_ignored_of_maskEdge :
    SameButSpacing "LayerMask: EVF-SAM Ultra Mask Edge V2" "LayerMask:EVF-SAM  Ultra MaskEdgeV 2" ∧
    NeverAddedTo .standard "LayerMask: EVF-SAM Ultra Mask Edge V2"
      "LayerMask:EVF-SAM  Ultra MaskEdgeV 2" := by
  have same : SameButSpacing "LayerMask: EVF-SAM Ultra Mask Edge V2"
      "LayerMask:EVF-SAM  Ultra MaskEdgeV 2" := ⟨by decide +kernel, by decide +kernel⟩
  have ignored := spacing_ignored_iff same
  have alike := ignored.1.1 (by decide +kernel)
  exact ⟨same, ignored.2.2.2 alike⟩

/-- A name that loses one space is added to the same artifact. -/
theorem added_of_joined : SameButSpacing "LayerMask: EVF-SAM Ultra" "LayerMask: EVF-SAMUltra" ∧
    NameNormalizer.standard.baseName "LayerMask: EVF-SAM Ultra" = "LayerMask EVFSAMUltra" ∧
    NameNormalizer.standard.baseName "LayerMask: EVF-SAMUltra" = "LayerMask EVF SAMUltra" ∧
    (between .standard (.ofList [("LayerMask: EVF-SAM Ultra", .object [])])
      (.ofList [("LayerMask: EVF-SAMUltra", .object [])])).added.keys =
        ["LayerMask: EVF-SAMUltra"] := by
  refine ⟨⟨by decide +kernel, by decide +kernel⟩, ?_⟩
  decide +kernel

end NodeDiff

end NodeLocale
