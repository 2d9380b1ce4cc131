import NodeLocale.Text.CharClass

/-!
# Blanks and words

A word of a name is a longest run of characters that are not white space, where white space is
the property of that name over all scripts. `words` loses nothing but white space, and trimming
removes white space at the two ends only.
-/

namespace NodeLocale.Text

/-- The white space characters of all scripts. -/
def blankRanges : CodeRanges :=
  [(0x9, 0xd), (0x20, 0x20), (0x85, 0x85), (0xa0, 0xa0), (0x1680, 0x1680), (0x2000, 0x200a),
   (0x2028, 0x2029), (0x202f, 0x202f), (0x205f, 0x205f), (0x3000, 0x3000)]

/-- Whether a character is white space. -/
def isBlank (c : Char) : Bool := blankRanges.has c

/-- Drops the white space at the front. -/
def trimStartChars (text : List Char) : List Char := text.dropWhile isBlank

/-- Drops the white space at both ends. -/
def trimChars (text : List Char) : List Char :=
  (trimStartChars (trimStartChars text).reverse).reverse

/-- Drops the white space at both ends of a text. -/
def trim (text : String) : String := String.ofList (trimChars text.toList)

/-- The runs between characters that satisfy a test, empty runs included. -/
def splitChars (separates : Char → Bool) : List Char → List (List Char)
  | [] => [[]]
  | c :: rest =>
    if separates c then [] :: splitChars separates rest
    else
      match splitChars separates rest with
      | [] => [[c]]
      | run :: runs => (c :: run) :: runs

/-- The longest runs of characters that are not white space, in order. -/
def wordChars (text : List Char) : List (List Char) :=
  (splitChars isBlank text).filter fun run => !run.isEmpty

def words (text : String) : List String := (wordChars text.toList).map String.ofList

theorem splitChars_ne_nil (separates : Char → Bool) (text : List Char) :
    splitChars separates text ≠ [] := by
  induction text with
  | nil => simp [splitChars]
  | cons c rest ih =>
    rw [splitChars]
    split
    · simp
    · split <;> simp

/-- Splitting drops exactly the separators. -/
theorem flatten_splitChars (separates : Char → Bool) (text : List Char) :
    (splitChars separates text).flatten = text.filter fun c => !separates c := by
  induction text with
  | nil => rfl
  | cons c rest ih =>
    by_cases separator : separates c = true
    · simp [splitChars, separator, ih]
    · have kept : separates c = false := by simpa using separator
      rw [splitChars, if_neg separator]
      cases runs : splitChars separates rest with
      | nil => exact absurd runs (splitChars_ne_nil separates rest)
      | cons run others =>
        rw [runs] at ih
        simp only [List.flatten_cons] at ih
        simp [kept, ← ih]

theorem splitChars_of_forall {separates : Char → Bool} {text : List Char}
    (none : ∀ c ∈ text, separates c = false) : splitChars separates text = [text] := by
  induction text with
  | nil => rfl
  | cons c rest ih =>
    have later := ih fun other present => none other (List.mem_cons_of_mem _ present)
    simp [splitChars, none c (by simp), later]

theorem splitChars_append_separator {separates : Char → Bool} (front : List Char)
    {separator : Char} (separating : separates separator = true) (back : List Char) :
    splitChars separates (front ++ separator :: back) =
      splitChars separates front ++ splitChars separates back := by
  induction front with
  | nil => simp [splitChars, separating]
  | cons c rest ih =>
    by_cases first : separates c = true
    · simp [splitChars, first, ih]
    · rw [List.cons_append, splitChars, if_neg first, splitChars, if_neg first, ih]
      cases runs : splitChars separates rest with
      | nil => exact absurd runs (splitChars_ne_nil separates rest)
      | cons run others => simp

/-- The runs between separators hold no separator. -/
theorem separates_eq_false_of_mem {separates : Char → Bool} {text run : List Char} {c : Char}
    (runMember : run ∈ splitChars separates text) (member : c ∈ run) : separates c = false := by
  have kept : c ∈ text.filter fun c => !separates c := by
    rw [← flatten_splitChars separates text]
    exact List.mem_flatten.2 ⟨run, runMember, member⟩
  simpa using (List.mem_filter.1 kept).2

theorem flatten_filter_nonempty (runs : List (List Char)) :
    (runs.filter fun run => !run.isEmpty).flatten = runs.flatten := by
  induction runs with
  | nil => rfl
  | cons run others ih => cases run <;> simp [ih]

/-- The words of a text, joined, are the text without its white space. -/
theorem flatten_wordChars (text : List Char) :
    (wordChars text).flatten = text.filter fun c => !isBlank c := by
  rw [wordChars, flatten_filter_nonempty, flatten_splitChars]

end NodeLocale.Text
