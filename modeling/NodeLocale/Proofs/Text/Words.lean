import Mathlib.Data.List.Basic
import NodeLocale.Text.Blank

/-!
# Words and white space

White space separates words wherever it stands and however much of it there is. A text without
white space is a single word, so every list of words is that of some text. Trimming a text removes
the white space at its ends and leaves nothing to trim again.
-/

namespace NodeLocale.Text

/-! ### Trimming -/

theorem trimStartChars_of_head {text : List Char} (first : ∀ c ∈ text.head?, isBlank c = false) :
    trimStartChars text = text := by
  cases text with
  | nil => rfl
  | cons c rest =>
    have visible : isBlank c = false := first c rfl
    rw [trimStartChars, List.dropWhile_cons_of_neg (by simp [visible])]

theorem trim_of_ends {text : String} (first : ∀ c ∈ text.toList.head?, isBlank c = false)
    (last : ∀ c ∈ text.toList.getLast?, isBlank c = false) : trim text = text := by
  have mirrored : ∀ c ∈ text.toList.reverse.head?, isBlank c = false := by
    rwa [List.head?_reverse]
  rw [trim, trimChars, trimStartChars_of_head first, trimStartChars_of_head mirrored,
    List.reverse_reverse, String.ofList_toList]

theorem head_trimStartChars (text : List Char) :
    ∀ c ∈ (trimStartChars text).head?, isBlank c = false := by
  induction text with
  | nil => simp [trimStartChars]
  | cons c rest ih =>
    cases blank : isBlank c with
    | true => simpa [trimStartChars, blank] using ih
    | false => simp [trimStartChars, blank]

/-- What is trimmed at its end begins as before. -/
theorem trimChars_isPrefix (text : List Char) : trimChars text <+: trimStartChars text := by
  rw [trimChars, ← List.reverse_suffix, List.reverse_reverse]
  exact List.dropWhile_suffix isBlank

theorem head_trim (text : String) {c : Char} (isFirst : c ∈ (trim text).toList.head?) :
    isBlank c = false := by
  rw [trim, String.toList_ofList] at isFirst
  rcases trimChars_isPrefix text.toList with ⟨dropped, whole⟩
  apply head_trimStartChars text.toList
  rw [← whole, List.head?_append, Option.mem_def.1 isFirst]
  rfl

theorem getLast_trim (text : String) {c : Char} (isLast : c ∈ (trim text).toList.getLast?) :
    isBlank c = false := by
  rw [trim, String.toList_ofList, trimChars, List.getLast?_reverse] at isLast
  exact head_trimStartChars _ c isLast

theorem trim_trim (text : String) : trim (trim text) = trim text :=
  trim_of_ends (fun _ isFirst => head_trim text isFirst) (fun _ isLast => getLast_trim text isLast)

theorem length_trim_le (text : String) : (trim text).toList.length ≤ text.toList.length := by
  rw [trim, String.toList_ofList]
  exact Nat.le_trans (trimChars_isPrefix text.toList).length_le
    (List.dropWhile_suffix isBlank).length_le

/-- Trimming a text adds no character. -/
theorem mem_of_mem_trim {text : String} {c : Char} (member : c ∈ (trim text).toList) :
    c ∈ text.toList := by
  rw [trim, String.toList_ofList] at member
  have kept := (trimChars_isPrefix text.toList).subset member
  exact (List.dropWhile_suffix isBlank).subset kept

/-! ### Words -/

/-- Whether a text is a word. -/
structure IsWord (word : String) : Prop where
  nonempty : word.toList ≠ []
  visible : ∀ c ∈ word.toList, isBlank c = false

/-- White space ends a word. Everything about words follows from this. -/
theorem words_append_blank (front back : List Char) {c : Char} (blank : isBlank c = true) :
    words (String.ofList (front ++ c :: back)) =
      words (String.ofList front) ++ words (String.ofList back) := by
  simp only [words, wordChars, String.toList_ofList, splitChars_append_separator front blank,
    List.filter_append, List.map_append]

theorem words_nil : words (String.ofList []) = [] := rfl

theorem words_cons_blank (back : List Char) {c : Char} (blank : isBlank c = true) :
    words (String.ofList (c :: back)) = words (String.ofList back) := by
  have separated := words_append_blank [] back blank
  rwa [words_nil, List.nil_append, List.nil_append] at separated

theorem IsWord.words_eq {word : String} (isWord : IsWord word) : words word = [word] := by
  rw [words, wordChars, splitChars_of_forall isWord.visible]
  simp [isWord.nonempty]

theorem isWord_of_mem_words {text word : String} (member : word ∈ words text) : IsWord word := by
  rcases List.mem_map.1 member with ⟨run, listed, rfl⟩
  rcases List.mem_filter.1 listed with ⟨isRun, full⟩
  constructor
  · simpa using full
  · intro c present
    rw [String.toList_ofList] at present
    exact separates_eq_false_of_mem isRun present

theorem mem_of_mem_words {text word : String} {c : Char} (member : word ∈ words text)
    (letter : c ∈ word.toList) : c ∈ text.toList := by
  rcases List.mem_map.1 member with ⟨run, listed, rfl⟩
  rw [String.toList_ofList] at letter
  have kept : c ∈ text.toList.filter fun c => !isBlank c := by
    rw [← flatten_wordChars]
    exact List.mem_flatten.2 ⟨run, listed, letter⟩
  exact (List.mem_filter.1 kept).1

/-- A text that begins and ends with white space keeps its words between two others. -/
theorem words_between {left middle right : List Char} (leftWord : IsWord (String.ofList left))
    (rightWord : IsWord (String.ofList right)) (begins : ∃ c ∈ middle.head?, isBlank c = true)
    (ends : ∃ c ∈ middle.getLast?, isBlank c = true) :
    words (String.ofList (left ++ middle ++ right)) =
      String.ofList left :: words (String.ofList middle) ++ [String.ofList right] := by
  rcases begins with ⟨first, isFirst, firstBlank⟩
  rcases ends with ⟨last, isLast, lastBlank⟩
  rcases List.head?_eq_some_iff.1 isFirst with ⟨back, fromFirst⟩
  rcases List.getLast?_eq_some_iff.1 isLast with ⟨front, toLast⟩
  have leftApart : words (String.ofList (left ++ middle ++ right)) =
      words (String.ofList left) ++ words (String.ofList (middle ++ right)) := by
    rw [fromFirst, List.append_assoc, List.cons_append, words_append_blank _ _ firstBlank,
      words_cons_blank _ firstBlank]
  have rightApart : words (String.ofList (middle ++ right)) =
      words (String.ofList middle) ++ words (String.ofList right) := by
    rw [toLast, List.append_assoc, List.singleton_append, words_append_blank _ _ lastBlank,
      words_append_blank _ _ lastBlank, words_nil, List.append_nil]
  rw [leftApart, rightApart, leftWord.words_eq, rightWord.words_eq]
  simp

/-- A text with white space in it has a part from its first to its last white space. -/
theorem exists_blank_middle {text : List Char} {c : Char} (member : c ∈ text)
    (blank : isBlank c = true) : ∃ left middle right, text = left ++ middle ++ right ∧
      (∀ c ∈ left, isBlank c = false) ∧ (∀ c ∈ right, isBlank c = false) ∧
      (∃ c ∈ middle.head?, isBlank c = true) ∧ ∃ c ∈ middle.getLast?, isBlank c = true := by
  cases foundFirst : text.find? isBlank with
  | none => exact absurd blank (List.find?_eq_none.1 foundFirst c member)
  | some first =>
    rcases List.find?_eq_some_iff_append.1 foundFirst with
      ⟨firstBlank, left, rest, rfl, leftVisible⟩
    cases foundLast : (first :: rest).reverse.find? isBlank with
    | none => exact absurd firstBlank (List.find?_eq_none.1 foundLast first (by simp))
    | some last =>
      rcases List.find?_eq_some_iff_append.1 foundLast with
        ⟨lastBlank, behind, before, backwards, behindVisible⟩
      have forwards : first :: rest = before.reverse ++ [last] ++ behind.reverse := by
        simpa using congrArg List.reverse backwards
      refine ⟨left, before.reverse ++ [last], behind.reverse, ?_, ?_, ?_, ⟨first, ?_, firstBlank⟩,
        ⟨last, ?_, lastBlank⟩⟩
      · rw [forwards]
        simp
      · simpa using leftVisible
      · simpa using behindVisible
      · have begins := congrArg List.head? forwards
        rw [List.head?_cons, List.head?_append_of_ne_nil _ (by simp)] at begins
        exact begins.symm
      · simp

theorem toList_intercalate_cons (word next : String) (later : List String) :
    (String.intercalate " " (word :: next :: later)).toList =
      word.toList ++ ' ' :: (String.intercalate " " (next :: later)).toList := by
  simp [String.toList_intercalate, List.intercalate]

theorem mem_intercalate {list : List String} {c : Char}
    (letter : c ∈ (String.intercalate " " list).toList) :
    c = ' ' ∨ ∃ word ∈ list, c ∈ word.toList := by
  induction list with
  | nil => simp at letter
  | cons word rest ih =>
    cases rest with
    | nil => exact .inr ⟨word, by simp, by simpa using letter⟩
    | cons next later =>
      rw [toList_intercalate_cons, List.mem_append, List.mem_cons] at letter
      rcases letter with inside | rfl | behind
      · exact .inr ⟨word, by simp, inside⟩
      · exact .inl rfl
      · rcases ih behind with space | ⟨other, listed, inside⟩
        · exact .inl space
        · exact .inr ⟨other, List.mem_cons_of_mem _ listed, inside⟩

/-- Words with spaces between them are read as the same words. -/
theorem words_intercalate {list : List String} (areWords : ∀ word ∈ list, IsWord word) :
    words (String.intercalate " " list) = list := by
  induction list with
  | nil => rfl
  | cons word rest ih =>
    have isWord := areWords word (by simp)
    have others := ih fun other member => areWords other (List.mem_cons_of_mem _ member)
    cases rest with
    | nil => simpa using isWord.words_eq
    | cons next later =>
      rw [← String.ofList_toList (s := String.intercalate " " (word :: next :: later)),
        toList_intercalate_cons, words_append_blank _ _ (by decide), String.ofList_toList,
        String.ofList_toList, isWord.words_eq, others]
      rfl

end NodeLocale.Text
