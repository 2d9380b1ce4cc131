import NodeLocale.Proofs.Json.Printing
import NodeLocale.Proofs.Localization.Messages

/-!
# Objects between other text

A translator that was asked for an object may say more than this. The object is recovered from
between a text without an opening brace and a text without a closing one, whatever braces and quotes
its own strings hold, since trimming and the search for braces leave it whole. The reply as a whole
comes first: if it is JSON that the reader goes all the way through, then it is taken for what it
is. A reply that is nested too deep for this is searched for braces like any other.
-/

namespace NodeLocale

open Json Json.Reader

/-! ### Trimming -/

theorem Text.trimStartChars_append (front rest : List Char) {c : Char}
    (visible : isBlank c = false) :
    ∃ kept, kept ⊆ front ∧ trimStartChars (front ++ c :: rest) = kept ++ c :: rest := by
  refine ⟨front.dropWhile isBlank, (List.dropWhile_suffix isBlank).subset, ?_⟩
  have stays : (c :: rest).dropWhile isBlank = c :: rest := by simp [visible]
  rw [trimStartChars, List.dropWhile_append, stays]
  split
  · rename_i none
    rw [List.isEmpty_iff.1 none, List.nil_append]
  · rfl

/-- Trimming leaves what stands from one visible character to another. -/
theorem Text.exists_trimChars (front inner behind : List Char) {first last : Char}
    (visibleFirst : isBlank first = false) (visibleLast : isBlank last = false) :
    ∃ keptFront keptBehind, keptFront ⊆ front ∧ keptBehind ⊆ behind ∧
      trimChars (front ++ (first :: inner ++ [last]) ++ behind) =
        keptFront ++ (first :: inner ++ [last]) ++ keptBehind := by
  rcases trimStartChars_append front (inner ++ last :: behind) visibleFirst with
    ⟨keptFront, subset, started⟩
  rcases trimStartChars_append behind.reverse (inner.reverse ++ first :: keptFront.reverse)
    visibleLast with ⟨keptBehind, subsetBehind, ended⟩
  refine ⟨keptFront, keptBehind.reverse, subset, ?_, ?_⟩
  · intro c member
    exact List.mem_reverse.1 (subsetBehind (List.mem_reverse.1 member))
  · have whole : front ++ (first :: inner ++ [last]) ++ behind =
        front ++ first :: (inner ++ last :: behind) := by simp
    have mirrored : (keptFront ++ first :: (inner ++ last :: behind)).reverse =
        behind.reverse ++ last :: (inner.reverse ++ first :: keptFront.reverse) := by simp
    rw [trimChars, whole, started, mirrored, ended]
    simp

namespace ReplyObject

/-! ### Replies that are JSON -/

/-- Whether a reply is a JSON text of a value, white space at its ends apart. -/
def IsJsonOf (reply : String) (value : Json) : Prop :=
  ∃ nesting, Denotes nesting (Text.trim reply).toList value

/-- Whether a reply is a JSON text of a value that is nested no deeper than the reader goes. -/
def IsReadableJsonOf (reply : String) (value : Json) : Prop :=
  Denotes (nestingLimit - 1) (Text.trim reply).toList value

theorem readText_value_iff {reply : String} {value : Json} :
    readText Reader.value (Text.trim reply) = .ok value ↔ IsReadableJsonOf reply value :=
  readText_trim_iff (recognizes_valueWithin (nestingLimit - 1))

/-- A reply that is JSON as a whole is taken for what it is. -/
theorem read_of_isReadableJsonOf {reply : String} {value : Json}
    (isJson : IsReadableJsonOf reply value) : read reply = ofValue value := by
  have whole := readText_value_iff.2 isJson
  have full : (Text.trim reply).isEmpty = false := by
    rw [Bool.eq_false_iff]
    intro empty
    rw [String.isEmpty_iff.1 empty] at whole
    exact absurd whole nofun
  simp only [read, full, whole]
  rfl

theorem ofValue_ofMap (object : JsonObject) : ofValue (ofMap object) = .ok object :=
  congrArg Except.ok (OrderedMap.ofList_entries object)

theorem ofValue_of_forall_ne {reply : String} {value : Json} (isJson : IsReadableJsonOf reply value)
    (noMap : ∀ object : JsonObject, value ≠ ofMap object) :
    ofValue value = .error (.notObject value.kind) := by
  cases value with
  | object members => exact absurd rfl (noMap ⟨members, Denotes.distinct isJson⟩)
  | _ => rfl

/-! ### Replies that are no JSON -/

/-- Whether a reply is read as what it is if it is JSON, and else as the object expected in it. -/
structure Recovers (isJsonOf : String → Json → Prop) (reply : String) (object : JsonObject) :
    Prop where
  /-- A JSON text of an object gives this object. -/
  whole : ∀ other : JsonObject, isJsonOf reply (ofMap other) → read reply = .ok other
  /-- A JSON text of anything else gives no object. -/
  notObject : ∀ value, isJsonOf reply value → (∀ other : JsonObject, value ≠ ofMap other) →
    read reply = .error (.notObject value.kind)
  /-- Any other text gives the object that is expected in it. -/
  wrapped : (∀ value, ¬isJsonOf reply value) → read reply = .ok object

/-- An object that is written between other text is read from there if the whole is no JSON. -/
theorem read_of_forall_not {object : JsonObject} {reply : String} {written front behind : List Char}
    (denotes : Denotes (nestingLimit - 1) written (ofMap object)) (noOpening : '\x7b' ∉ front)
    (noClosing : '\x7d' ∉ behind) (split : reply.toList = front ++ written ++ behind)
    (noJson : ∀ value, ¬IsReadableJsonOf reply value) : read reply = .ok object := by
  have visible : Text.isBlank '\x7b' = false ∧ Text.isBlank '\x7d' = false := ⟨rfl, rfl⟩
  rcases denotes.exists_braces with ⟨inner, rfl⟩
  rcases Text.exists_trimChars front inner behind visible.1 visible.2 with
    ⟨keptFront, keptBehind, subset, subsetBehind, trimmed⟩
  have enclosed : braced? (Text.trim reply).toList = some ('\x7b' :: inner ++ ['\x7d']) := by
    rw [Text.trim, String.toList_ofList, split, ← List.cons_append, trimmed]
    exact braced?_append (fun member => noOpening (subset member))
      (fun member => noClosing (subsetBehind member))
  have readObject : readText Reader.value (String.ofList ('\x7b' :: (inner ++ ['\x7d']))) =
      .ok (.object object.entries) :=
    ((recognizes_valueWithin (nestingLimit - 1)).reads denotes).readText
  cases whole : readText Reader.value (Text.trim reply) with
  | ok value => exact absurd (readText_value_iff.1 whole) (noJson value)
  | error fault =>
    rw [read_of_braced whole enclosed readObject]
    exact ofValue_ofMap object

/-- An object is recovered from the text around it, however it is laid out. -/
theorem recovers_write (spacing : Spacing) {object : JsonObject} {reply front behind : String}
    (fits : Fits (nestingLimit - 1) (ofMap object)) (noOpening : '\x7b' ∉ front.toList)
    (noClosing : '\x7d' ∉ behind.toList)
    (split : reply.toList = front.toList ++ spacing.write 0 (ofMap object) ++ behind.toList) :
    Recovers IsReadableJsonOf reply object where
  whole other isJson := by rw [read_of_isReadableJsonOf isJson, ofValue_ofMap]
  notObject value isJson noMap := by
    rw [read_of_isReadableJsonOf isJson, ofValue_of_forall_ne isJson noMap]
  wrapped noJson := read_of_forall_not (spacing.denotes fits 0) noOpening noClosing split noJson

/-! ### Texts without braces -/

theorem mem_of_dropWhile_ne_nil {text : List Char} {c : Char}
    (some : text.dropWhile (· != c) ≠ []) : c ∈ text := by
  simpa [List.dropWhile_eq_nil_iff] using some

theorem braces_of_braced? {text span : List Char} (enclosed : braced? text = some span) :
    '\x7b' ∈ text ∧ '\x7d' ∈ text := by
  simp only [braced?] at enclosed
  split at enclosed
  · simp at enclosed
  · rename_i ends
    have closing : '\x7d' ∈ text.dropWhile fun c => c != '\x7b' :=
      List.mem_reverse.1 (mem_of_dropWhile_ne_nil fun none => ends (by rw [none]; rfl))
    exact ⟨mem_of_dropWhile_ne_nil (List.ne_nil_of_mem closing),
      (List.dropWhile_suffix _).subset closing⟩

/-- Only a text with both braces gives an object. -/
theorem braces_of_read {reply : String} {object : JsonObject} (done : read reply = .ok object) :
    '\x7b' ∈ reply.toList ∧ '\x7d' ∈ reply.toList := by
  suffices inside : '\x7b' ∈ (Text.trim reply).toList ∧ '\x7d' ∈ (Text.trim reply).toList from
    ⟨Text.mem_of_mem_trim inside.1, Text.mem_of_mem_trim inside.2⟩
  simp only [read] at done
  split at done
  · simp at done
  · split at done
    · rename_i value whole
      cases value with
      | object members =>
        rcases (readText_value_iff.1 whole).exists_braces with ⟨inner, split⟩
        simp [split]
      | _ => simp [ofValue] at done
    · split at done
      · simp at done
      · rename_i enclosed
        exact braces_of_braced? enclosed

/-! ### Replies that are nested too deep -/

/-- A value in so many arrays. -/
def inArrays : Nat → Json → Json
  | 0, value => value
  | depth + 1, value => .array [inArrays depth value]

theorem fits_inArrays {nesting : Nat} {value : Json} (fits : Fits nesting value) (depth : Nat) :
    Fits (nesting + depth) (inArrays depth value) := by
  induction depth with
  | zero => exact fits
  | succ depth ih => exact .array (by simpa [inArrays] using ih)

theorem compactChars_inArrays (depth : Nat) (value : Json) :
    compactChars (inArrays depth value) =
      List.replicate depth '[' ++ compactChars value ++ List.replicate depth ']' := by
  induction depth with
  | zero => simp [inArrays]
  | succ depth ih =>
    rw [inArrays, compactChars, compactItems, ih, List.replicate_succ, List.replicate_succ']
    simp

theorem beginsItem_brackets {c : Char} (opens : c = '[' ∨ c = '\x7b') (depth : Nat)
    (rest : List Char) : BeginsItem (List.replicate depth '[' ++ c :: rest) := by
  cases depth with
  | zero => rcases opens with rfl | rfl <;> exact ⟨_, rest, rfl, by decide⟩
  | succ depth => exact ⟨'[', _, rfl, by decide⟩

/-- The reader stops at the first bracket for which no nesting is left. -/
theorem valueWithin_brackets {c : Char} (opens : c = '[' ∨ c = '\x7b') (depth : Nat)
    (rest : List Char) :
    ∃ fault, valueWithin (depth + 1) (List.replicate depth '[' ++ c :: rest) = .error fault := by
  induction depth with
  | zero => rcases opens with rfl | rfl <;> exact ⟨_, rfl⟩
  | succ depth ih =>
    rcases ih with ⟨fault, stops⟩
    refine ⟨fault, ?_⟩
    have next := nextElement_separator (.opening gap_nil) (beginsItem_brackets opens depth rest) []
    rw [List.nil_append, List.append_nil] at next
    rw [List.replicate_succ, List.cons_append, valueWithin, skipGap_of_not_isGap rfl]
    simp [-List.length_append, elements_eq, next, stops, bind, Except.bind]

theorem trim_compact_array (items : List Json) :
    Text.trim (compact (.array items)) = compact (.array items) := by
  apply Text.trim_of_ends
  · intro c isFirst
    obtain rfl : '[' = c := by simpa [compact, compactChars] using isFirst
    rfl
  · intro c isLast
    rw [compact, String.toList_ofList, compactChars, List.getLast?_concat] at isLast
    obtain rfl : ']' = c := by simpa using isLast
    rfl

/-- What is nested too deep is not gone through as a whole. -/
theorem not_isReadableJsonOf_inArrays {depth : Nat} (deep : nestingLimit - 1 ≤ depth)
    (members : List (String × Json)) (value : Json) :
    ¬IsReadableJsonOf (compact (inArrays depth (.object members))) value := by
  obtain ⟨more, rfl⟩ : ∃ more, depth = nestingLimit - 1 + more := Nat.exists_eq_add_of_le deep
  have trimmed : Text.trim (compact (inArrays (nestingLimit - 1 + more) (.object members))) =
      compact (inArrays (nestingLimit - 1 + more) (.object members)) := by
    rw [nestingLimit, Nat.add_comm]
    exact trim_compact_array _
  have bracket : ∃ c rest, (c = '[' ∨ c = '\x7b') ∧
      (compact (inArrays (nestingLimit - 1 + more) (.object members))).toList =
        List.replicate (nestingLimit - 1) '[' ++ c :: rest := by
    rw [compact, String.toList_ofList, compactChars_inArrays, ← List.replicate_append_replicate]
    cases more with
    | zero => exact ⟨'\x7b', _, .inr rfl, by simp [compactChars]; rfl⟩
    | succ more => exact ⟨'[', _, .inl rfl, by simp [List.replicate_succ]; rfl⟩
  intro isJson
  rcases bracket with ⟨c, rest, opens, begins⟩
  rcases valueWithin_brackets opens (nestingLimit - 1) rest with ⟨fault, stops⟩
  have read := (recognizes_valueWithin (nestingLimit - 1)).reads isJson [] [] gap_nil endsNumber_nil
  rw [trimmed, begins, List.nil_append, List.append_nil, stops] at read
  cases read

/-- An object in too many arrays is taken out of them. -/
theorem read_inArrays {object : JsonObject} (fits : Fits (nestingLimit - 1) (ofMap object))
    {depth : Nat} (deep : nestingLimit - 1 ≤ depth) :
    read (compact (inArrays depth (ofMap object))) = .ok object := by
  have split : (compact (inArrays depth (ofMap object))).toList =
      List.replicate depth '[' ++ compactChars (ofMap object) ++ List.replicate depth ']' := by
    rw [compact, String.toList_ofList, compactChars_inArrays]
  exact read_of_forall_not (compactSpacing.denotes fits 0) (by simp) (by simp) split
    (not_isReadableJsonOf_inArrays deep object.entries)

theorem isJsonOf_inArrays {nesting : Nat} {value : Json} (fits : Fits nesting value) (depth : Nat) :
    IsJsonOf (compact (inArrays (depth + 1) value)) (inArrays (depth + 1) value) := by
  refine ⟨nesting + (depth + 1), ?_⟩
  rw [inArrays, trim_compact_array, ← inArrays, compact, String.toList_ofList]
  exact compactSpacing.denotes (fits_inArrays fits (depth + 1)) 0

/-- The object is taken although the reply is JSON of an array. -/
theorem not_recovers_inArrays {object : JsonObject} (fits : Fits (nestingLimit - 1) (ofMap object))
    {depth : Nat} (deep : nestingLimit - 1 ≤ depth) :
    ¬Recovers IsJsonOf (compact (inArrays depth (ofMap object))) object := by
  obtain ⟨depth, rfl⟩ : ∃ less, depth = less + 1 :=
    Nat.exists_eq_add_one.2 (Nat.lt_of_lt_of_le (by decide) deep)
  intro recovers
  have refused := recovers.notObject _ (isJsonOf_inArrays fits depth) nofun
  rw [read_inArrays fits deep] at refused
  cases refused

/-- An object need not be recovered if the reply as a whole may be nested as deep as it likes. -/
theorem not_recovers_tooDeep :
    ¬∀ (object : JsonObject) (front behind : String), Fits (nestingLimit - 1) (ofMap object) →
      '\x7b' ∉ front.toList → '\x7d' ∉ behind.toList →
      Recovers IsJsonOf (front ++ compact (ofMap object) ++ behind) object := by
  intro recovers
  have fits : Fits (nestingLimit - 1) (ofMap ∅) := .object (∅ : JsonObject).distinct nofun
  have noOpening : ∀ depth, '\x7b' ∉ (String.ofList (List.replicate depth '[')).toList := by simp
  have noClosing : ∀ depth, '\x7d' ∉ (String.ofList (List.replicate depth ']')).toList := by simp
  have recovered := recovers ∅ _ _ fits (noOpening 127) (noClosing 127)
  rw [compact, ← String.ofList_append, ← String.ofList_append, ← compactChars_inArrays,
    ← compact] at recovered
  exact not_recovers_inArrays fits (by decide) recovered

/-- An object is recovered from a text that is no JSON as a whole, and only from a text with
braces. -/
theorem recovers_wrapped :
    (∀ (object : JsonObject) (text front behind : String),
      Fits (nestingLimit - 1) (ofMap object) →
      text = compact (ofMap object) ∨ text = pretty (ofMap object) →
      '\x7b' ∉ front.toList → '\x7d' ∉ behind.toList →
      Recovers IsReadableJsonOf (front ++ text ++ behind) object) ∧
    ∀ (reply : String) (object : JsonObject), read reply = .ok object →
      '\x7b' ∈ reply.toList ∧ '\x7d' ∈ reply.toList := by
  refine ⟨?_, fun reply object done => braces_of_read done⟩
  intro object text front behind fits written noOpening noClosing
  rcases written with rfl | rfl
  · apply recovers_write compactSpacing fits noOpening noClosing
    simp [compact, compactSpacing]
  · apply recovers_write prettySpacing fits noOpening noClosing
    simp [pretty, prettySpacing]

theorem recovers_wrapped_label :
    let object : JsonObject := ⟨[("Blur", .string "\x7d")], by simp⟩
    let reply := "Sure: " ++ compact (ofMap object) ++ " \x7b"
    read reply = .ok object ∧ '\x7b' ∈ reply.toList ∧ '\x7d' ∈ reply.toList := by
  intro object reply
  have fits : Fits (nestingLimit - 1) (ofMap object) :=
    .object object.distinct (by simpa [object] using Fits.string "\x7d")
  have recovered := recovers_wrapped.1 object _ "Sure: " " \x7b" fits (.inl rfl) (by decide)
    (by decide)
  have written : reply.toList =
      'S' :: ("ure: ".toList ++ (compactChars (ofMap object) ++ [' '])) ++ ['\x7b'] := by
    simp [reply, compact]
  have trimmed : Text.trim reply = reply := by
    apply Text.trim_of_ends
    · intro c isFirst
      obtain rfl : 'S' = c := by simpa [written] using isFirst
      rfl
    · intro c isLast
      rw [written, List.getLast?_concat] at isLast
      obtain rfl : '\x7b' = c := by simpa using isLast
      rfl
  have noJson : ∀ value, ¬IsReadableJsonOf reply value := by
    intro value isJson
    have stops : ∃ fault, Reader.value reply.toList = .error fault := by
      rw [written]
      exact ⟨_, rfl⟩
    rcases stops with ⟨fault, stops⟩
    have whole := readText_value_iff.2 isJson
    rw [trimmed, readText_of_stops stops] at whole
    cases whole
  exact ⟨recovered.wrapped noJson, recovers_wrapped.2 reply object (recovered.wrapped noJson)⟩

end ReplyObject

end NodeLocale
