import NodeLocale.Localization.Reply
import NodeLocale.Proofs.Json.Numbers
import NodeLocale.Proofs.Json.RecordReading

/-!
# Envelopes

The output of a service is an envelope if it is an object with a text as its only content. The
reader of envelopes is that of any record, so it decides about more than this: it also takes an
array that gives the content first, and it gives the whole output up over a usage that is out of
shape or over a key that stands for half a character. Apart from these outputs a reply is unwrapped
exactly if it comes in an envelope.
-/

namespace NodeLocale

open Json Json.Reader

/-- Whether a text is an object with the given members. -/
def IsObject (text : List Char) (contents : List Item) : Prop :=
  ∃ inner, text = '\x7b' :: (inner ++ ['\x7d']) ∧ Derives (.items .object true contents) inner

theorem IsObject.contents_eq {text : List Char} {contents contents' : List Item}
    (isObject : IsObject text contents) (isObject' : IsObject text contents') :
    contents = contents' := by
  rcases isObject with ⟨inner, rfl, items⟩
  rcases isObject' with ⟨inner', same, items'⟩
  obtain rfl : inner = inner' := by simpa using same
  exact Reader.contents_eq items items'

theorem not_isObject_cons {c : Char} {rest : List Char} {contents : List Item}
    (other : c ≠ '\x7b') : ¬IsObject (c :: rest) contents := by
  rintro ⟨inner, same, -⟩
  exact other (List.cons.inj same).1

/-- What is read as a record from an object is read from its members. -/
theorem Json.Record.ReadFrom.fills {σ : Type} {record : Record σ}
    {forms : String → List Char → (σ → σ) → Prop} {text : List Char} {value : σ}
    {contents : List Item} (readFrom : record.ReadFrom forms text value)
    (isObject : IsObject text contents) :
    ∃ seen, Fills (record.Changes forms) contents (record.initial, []) (value, seen) ∧
      record.missing? seen = none := by
  cases readFrom with
  | object items fills complete =>
    obtain rfl := isObject.contents_eq ⟨_, rfl, items⟩
    exact ⟨_, fills, complete⟩
  | array items gives => exact absurd isObject (not_isObject_cons (by decide))

/-! ### Usage -/

namespace TokenUsage

/-- Whether a text is a count of tokens. -/
def IsCount (text : List Char) (count : UInt64) : Prop := Numeral text count.toNat

/-- Whether a text is an object that gives each of the counts at most once, and nothing that is no
count. A count that is not given is zero. -/
def IsObjectOf (text : List Char) (usage : TokenUsage) : Prop :=
  ∃ contents, IsObject text contents ∧ (∀ item ∈ contents, item.key ≠ none) ∧
    Record.Given IsCount (textsOf "prompt_tokens" contents) 0 usage.prompt ∧
    Record.Given IsCount (textsOf "completion_tokens" contents) 0 usage.completion ∧
    Record.Given IsCount (textsOf "total_tokens" contents) 0 usage.total

/-- The names of the counts, each with what a count under it changes. -/
def counters : List (String × (UInt64 → TokenUsage → TokenUsage)) :=
  [("prompt_tokens", fun count usage => { usage with prompt := count }),
    ("completion_tokens", fun count usage => { usage with completion := count }),
    ("total_tokens", fun count usage => { usage with total := count })]

/-- What the text of a field changes about the counts. -/
def Stores (name : String) (text : List Char) (change : TokenUsage → TokenUsage) : Prop :=
  ∃ count store, IsCount text count ∧ (name, store) ∈ counters ∧ change = store count

theorem recognizes_countReader : Recognizes countReader IsCount where
  reads := by
    intro text count isCount gap rest blank ends
    have read := (recognizes_unsigned "u64").reads ⟨isCount, count.toNat_lt⟩ gap rest blank ends
    rw [countReader, read]
    simp [bind, Except.bind, pure, Except.pure]
  read := by
    intro text count rest read
    rcases bind_eq_ok_iff.1 read with ⟨⟨magnitude, behind⟩, readNumber, done⟩
    obtain ⟨rfl, rfl⟩ : UInt64.ofNat magnitude = count ∧ behind = rest := by
      simpa [pure, Except.pure] using done
    rcases (recognizes_unsigned "u64").read readNumber with
      ⟨gap, written, blank, ⟨numeral, small⟩, split⟩
    have kept : (UInt64.ofNat magnitude).toNat = magnitude := UInt64.toNat_ofNat_of_lt' small
    exact ⟨gap, written, blank, by rwa [IsCount, kept], split⟩

theorem hasForms_stores : jsonRecord.HasForms Stores where
  derives := by
    rintro name text change ⟨count, store, isCount, -⟩
    have isNumber : UnsignedNumber (text ++ ([] ++ [])) :=
      .parts isCount.isWhole (.parts .none .none)
    rw [List.append_nil, List.append_nil] at isNumber
    exact .number (.unsigned isNumber)
  recognizes := by
    intro found isField
    have stored : ∃ store, found = field found.name countReader store ∧
        ∀ other, (found.name, other) ∈ counters ↔ other = store := by
      simp only [jsonRecord, List.mem_cons, List.not_mem_nil, or_false] at isField
      rcases isField with rfl | rfl | rfl <;> exact ⟨_, rfl, by simp [counters, field]⟩
    rcases stored with ⟨store, isCounter, only⟩
    have recognizes := recognizes_field recognizes_countReader found.name store
    rw [← isCounter] at recognizes
    refine recognizes.congr fun text change => ?_
    simp only [Stores, only]
    constructor
    · rintro ⟨count, isCount, rfl⟩
      exact ⟨count, store, isCount, rfl, rfl⟩
    · rintro ⟨count, _, isCount, rfl, rfl⟩
      exact ⟨count, isCount, rfl⟩

theorem component_count {name : String} {get : TokenUsage → UInt64}
    (gets : ∀ store, (name, store) ∈ counters → ∀ count usage, get (store count usage) = count)
    (keeps : ∀ counter ∈ counters, counter.1 ≠ name →
      ∀ count usage, get (counter.2 count usage) = get usage)
    (isField : ∃ field ∈ jsonRecord.fields, field.name = name) :
    jsonRecord.Component Stores name IsCount get where
  stores := by
    rintro text change ⟨count, store, isCount, listed, rfl⟩
    exact ⟨count, isCount, gets store listed count⟩
  keeps := by
    rintro other text change different ⟨count, store, -, listed, rfl⟩ usage
    exact keeps (other, store) listed different count usage
  isField := isField

theorem component_prompt : jsonRecord.Component Stores "prompt_tokens" IsCount TokenUsage.prompt :=
  component_count (by simp [counters]) (by simp [counters]) (by simp [jsonRecord, field])

theorem component_completion :
    jsonRecord.Component Stores "completion_tokens" IsCount TokenUsage.completion :=
  component_count (by simp [counters]) (by simp [counters]) (by simp [jsonRecord, field])

theorem component_total : jsonRecord.Component Stores "total_tokens" IsCount TokenUsage.total :=
  component_count (by simp [counters]) (by simp [counters]) (by simp [jsonRecord, field])

/-- Among objects, the usage of tokens is read from those that give it. -/
theorem isObjectOf_iff {text : List Char} {usage : TokenUsage} :
    IsObjectOf text usage ↔
      jsonRecord.ReadFrom Stores text usage ∧ ∃ contents, IsObject text contents := by
  constructor
  · rintro ⟨contents, ⟨inner, rfl, items⟩, spelled, prompt, completion, total⟩
    have once : ∀ {name : String} {count : UInt64}, (∃ store, (name, store) ∈ counters) →
        Record.Given IsCount (textsOf name contents) 0 count →
        textsOf name contents = [] ∨ name ∉ ([] : List String) ∧ ∃ text change,
          textsOf name contents = [text] ∧ Stores name text change := by
      rintro name count ⟨store, listed⟩ (⟨none, -⟩ | ⟨text, single, isCount⟩)
      · exact .inl none
      · exact .inr ⟨by simp, text, store count, single, count, store, isCount, listed, rfl⟩
    have filled : ∃ after,
        Fills (jsonRecord.Changes Stores) contents (jsonRecord.initial, []) after := by
      apply Record.exists_fills spelled (derives_of_mem_contents items)
      intro found isField
      simp only [jsonRecord, List.mem_cons, List.not_mem_nil, or_false] at isField
      rcases isField with rfl | rfl | rfl
      · exact once ⟨_, List.mem_cons_self⟩ prompt
      · exact once ⟨_, List.mem_cons_of_mem _ List.mem_cons_self⟩ completion
      · exact once ⟨_, List.mem_cons_of_mem _ (List.mem_cons_of_mem _ List.mem_cons_self)⟩ total
    rcases filled with ⟨⟨value, seen⟩, fills⟩
    have givenPrompt := (Record.given_of_fills component_prompt fills).2.1
    have givenCompletion := (Record.given_of_fills component_completion fills).2.1
    have givenTotal := (Record.given_of_fills component_total fills).2.1
    have samePrompt := givenPrompt.eq prompt recognizes_countReader.unique
    have sameCompletion := givenCompletion.eq completion recognizes_countReader.unique
    have sameTotal := givenTotal.eq total recognizes_countReader.unique
    obtain rfl : value = usage := by
      cases value
      cases usage
      simp_all
    exact ⟨.object items fills rfl, contents, inner, rfl, items⟩
  · rintro ⟨readFrom, contents, isObject⟩
    rcases readFrom.fills isObject with ⟨seen, fills, complete⟩
    exact ⟨contents, isObject, Record.spelled_of_fills fills,
      (Record.given_of_fills component_prompt fills).2.1,
      (Record.given_of_fills component_completion fills).2.1,
      (Record.given_of_fills component_total fills).2.1⟩

end TokenUsage

/-! ### Replies in envelopes -/

namespace ServiceReply

/-- Whether the members of an object make it an envelope: a single content, which is a string, and
at most one usage. -/
structure IsEnvelope (contents : List Item) : Prop where
  content : ∃ content text, textsOf "content" contents = [content] ∧ StringText content text
  usage : (textsOf "usage" contents).length ≤ 1

/-- Whether a reply holds the content of an envelope, with the usage if that is one. -/
structure HeldBy (contents : List Item) (reply : ServiceReply) : Prop where
  text : ∀ content ∈ textsOf "content" contents, StringText content reply.text
  usage : ∀ usage, reply.usage = some usage ↔
    ∃ text ∈ textsOf "usage" contents, TokenUsage.IsObjectOf text usage

/-- Whether an output was taken for an envelope exactly if it is one, and for the reply if not. -/
structure Unwraps (output : String) (reply : ServiceReply) : Prop where
  envelope : ∀ contents, IsObject (Text.trim output).toList contents → IsEnvelope contents →
    HeldBy contents reply
  verbatim : (∀ contents, IsObject (Text.trim output).toList contents → ¬IsEnvelope contents) →
    reply = { text := output }

/-- What the text of a field changes about a reply. -/
def Stores (name : String) (text : List Char) (change : ServiceReply → ServiceReply) : Prop :=
  name = "content" ∧
      (∃ value, StringText text value ∧ change = fun reply => { reply with text := value }) ∨
    name = "usage" ∧ ∃ usage, ((text = ['n', 'u', 'l', 'l'] ∧ usage = none) ∨
      ∃ known, TokenUsage.jsonRecord.ReadFrom TokenUsage.Stores text known ∧ usage = some known) ∧
      change = fun reply => { reply with usage := usage }

/-- The outputs about which the reader of envelopes decides otherwise. -/
inductive Misread (text : List Char) : Prop
  /-- An array of a content and perhaps a usage is taken for an envelope. -/
  | array {contents : List Item} {inner : List Char} {reply : ServiceReply}
      (isArray : text = '[' :: (inner ++ [']']))
      (items : Derives (.items .list true contents) inner)
      (gives : Record.Gives Stores envelope.fields contents {} reply)
  /-- An envelope is given up over a key that stands for half a character. -/
  | key {contents : List Item} (isObject : IsObject text contents)
      (isEnvelope : IsEnvelope contents) (unspelled : ∃ item ∈ contents, item.key = none)
  /-- An envelope is given up over a usage that is neither null nor well-formed, or an array is
  taken for the usage. -/
  | usage {contents : List Item} {usage : List Char} (isObject : IsObject text contents)
      (isEnvelope : IsEnvelope contents) (isUsage : usage ∈ textsOf "usage" contents)
      (notNull : usage ≠ ['n', 'u', 'l', 'l'])
      (malformed : ∀ counts, ¬TokenUsage.IsObjectOf usage counts)

theorem hasForms_stores : envelope.HasForms Stores where
  derives := by
    rintro name text change (⟨-, value, isText, -⟩ | ⟨-, usage, ⟨rfl, -⟩ | ⟨known, readFrom, -⟩, -⟩)
    · exact isText.derives
    · exact .null
    · exact readFrom.derives
  recognizes := by
    intro found isField
    simp only [envelope, List.mem_cons, List.not_mem_nil, or_false] at isField
    rcases isField with rfl | rfl
    · have contents := recognizes_field recognizes_string "content"
        fun text (reply : ServiceReply) => { reply with text := text }
      exact contents.congr fun text change => by simp [Stores, requiredField, field]
    · have usages := recognizes_optional (Record.recognizes_read TokenUsage.hasForms_stores)
        fun readFrom => by
          cases readFrom with
          | object items fills complete => exact ⟨_, _, rfl, rfl, by decide⟩
          | array items gives => exact ⟨_, _, rfl, rfl, by decide⟩
      exact (recognizes_field usages _ _).congr fun text change => by simp [Stores, field]

theorem component_text : envelope.Component Stores "content" StringText ServiceReply.text where
  stores := by
    rintro text change (⟨-, value, isText, rfl⟩ | ⟨other, -⟩)
    · exact ⟨value, isText, fun reply => rfl⟩
    · simp at other
  keeps := by
    rintro other text change different (⟨rfl, -⟩ | ⟨-, usage, -, rfl⟩) reply
    · exact absurd rfl different
    · rfl
  isField := by simp [envelope, requiredField, field]

theorem component_usage :
    envelope.Component Stores "usage"
      (fun text usage => (text = ['n', 'u', 'l', 'l'] ∧ usage = none) ∨
        ∃ known, TokenUsage.jsonRecord.ReadFrom TokenUsage.Stores text known ∧ usage = some known)
      ServiceReply.usage where
  stores := by
    rintro text change (⟨other, -⟩ | ⟨-, usage, isUsage, rfl⟩)
    · simp at other
    · exact ⟨usage, isUsage, fun reply => rfl⟩
  keeps := by
    rintro other text change different (⟨-, value, -, rfl⟩ | ⟨rfl, -⟩) reply
    · rfl
    · exact absurd rfl different
  isField := by simp [envelope, requiredField, field]

variable {output : String} {text : List Char} {contents : List Item} {reply : ServiceReply}

/-- An output is read as a record is, and passed on as it is where no record is read from it. -/
theorem ofOutput_cases (output : String) :
    (envelope.ReadFrom Stores (Text.trim output).toList (ofOutput output)) ∨
      (∀ reply, ¬envelope.ReadFrom Stores (Text.trim output).toList reply) ∧
        ofOutput output = { text := output } := by
  have readText_iff := @readText_trim_iff _ _ _ (Record.recognizes_read hasForms_stores) output
  rw [ofOutput]
  split
  · rename_i reply read
    exact .inl (readText_iff.1 read)
  · rename_i fault failed
    refine .inr ⟨?_, rfl⟩
    intro reply readFrom
    rw [readText_iff.2 readFrom] at failed
    simp at failed

/-- What is inside the output is shorter than the output. -/
theorem text_ne_output {kind : Enclosing} {opening closing : Char} {inner : List Char} {item : Item}
    {value : String} (whole : (Text.trim output).toList = opening :: (inner ++ [closing]))
    (items : Derives (.items kind true contents) inner) (member : item ∈ contents)
    (isText : StringText item.text value) : value ≠ output := by
  rintro rfl
  have trimmed := Text.length_trim_le value
  have small := length_text_le items item member
  have less := isText.length_lt
  rw [whole, List.length_cons, List.length_append] at trimmed
  omega

/-- What an object of which a reply was read holds. -/
theorem isEnvelope_of_fills {seen : List String}
    (fills : Fills (envelope.Changes Stores) contents (envelope.initial, []) (reply, seen))
    (complete : envelope.missing? seen = none) :
    IsEnvelope contents ∧
      ∀ content ∈ textsOf "content" contents, StringText content reply.text := by
  have contentSeen : "content" ∈ seen := by
    simpa [Record.missing?, envelope, requiredField, field] using complete
  rcases Record.given_of_fills component_text fills with ⟨-, given, isSeen⟩
  rcases Record.given_of_fills component_usage fills with ⟨-, givenUsage, -⟩
  have single : (textsOf "usage" contents).length ≤ 1 := by
    rcases givenUsage with ⟨none, -⟩ | ⟨text, only, -⟩
    · simp [none]
    · simp [only]
  rcases given with ⟨none, -⟩ | ⟨content, only, isText⟩
  · simp [none, contentSeen] at isSeen
  · exact ⟨⟨⟨content, reply.text, only, isText⟩, single⟩, by simpa [only] using isText⟩

/-- If no usage is out of shape, the reply that was read from an envelope is the one in it. -/
theorem heldBy_of_fills {seen : List String}
    (fills : Fills (envelope.Changes Stores) contents (envelope.initial, []) (reply, seen))
    (complete : envelope.missing? seen = none)
    (wellFormed : ∀ usage ∈ textsOf "usage" contents,
      usage = ['n', 'u', 'l', 'l'] ∨ ∃ counts, TokenUsage.IsObjectOf usage counts) :
    HeldBy contents reply where
  text := (isEnvelope_of_fills fills complete).2
  usage := by
    intro usage
    rcases (Record.given_of_fills component_usage fills).2.1 with
      ⟨none, kept⟩ | ⟨text, only, ⟨rfl, kept⟩ | ⟨known, readFrom, kept⟩⟩
    · have kept : reply.usage = Option.none := kept
      simp [none, kept]
    · have notObject : ¬TokenUsage.IsObjectOf ['n', 'u', 'l', 'l'] usage := by
        rintro ⟨contents, ⟨inner, same, -⟩, -⟩
        simp at same
      have kept : reply.usage = Option.none := kept
      simp [only, kept, notObject]
    · have kept : reply.usage = some known := kept
      have unique : ∀ {counts}, TokenUsage.IsObjectOf text counts → counts = known := by
        intro counts isObjectOf
        exact (Record.recognizes_read TokenUsage.hasForms_stores).unique
          (TokenUsage.isObjectOf_iff.1 isObjectOf).1 readFrom
      have given : TokenUsage.IsObjectOf text known := by
        rcases wellFormed text (by simp [only]) with rfl | ⟨counts, isObjectOf⟩
        · cases readFrom
        · rwa [← unique isObjectOf]
      rw [kept, only]
      constructor
      · rintro ⟨rfl⟩
        exact ⟨text, by simp, given⟩
      · rintro ⟨other, member, isObjectOf⟩
        obtain rfl : other = text := by simpa using member
        rw [unique isObjectOf]

/-- Envelopes with spelled keys and no usage out of shape are read. -/
theorem exists_readFrom (isObject : IsObject text contents) (isEnvelope : IsEnvelope contents)
    (spelled : ∀ item ∈ contents, item.key ≠ none)
    (wellFormed : ∀ usage ∈ textsOf "usage" contents,
      usage = ['n', 'u', 'l', 'l'] ∨ ∃ counts, TokenUsage.IsObjectOf usage counts) :
    ∃ reply, envelope.ReadFrom Stores text reply := by
  rcases isObject with ⟨inner, rfl, items⟩
  rcases isEnvelope.content with ⟨content, value, only, isText⟩
  have filled : ∃ after, Fills (envelope.Changes Stores) contents (envelope.initial, []) after := by
    apply Record.exists_fills spelled (derives_of_mem_contents items)
    intro found isField
    simp only [envelope, List.mem_cons, List.not_mem_nil, or_false] at isField
    rcases isField with rfl | rfl
    · exact .inr ⟨by simp, content, _, only, .inl ⟨rfl, value, isText, rfl⟩⟩
    · change textsOf "usage" contents = [] ∨ "usage" ∉ [] ∧ _
      rcases usages : textsOf "usage" contents with - | ⟨usage, - | ⟨other, others⟩⟩
      · exact .inl rfl
      · right
        rcases wellFormed usage (by simp [usages]) with rfl | ⟨counts, isObjectOf⟩
        · exact ⟨by simp, _, _, usages, .inr ⟨rfl, none, .inl ⟨rfl, rfl⟩, rfl⟩⟩
        · exact ⟨by simp, _, _, usages, .inr ⟨rfl, some counts,
            .inr ⟨counts, (TokenUsage.isObjectOf_iff.1 isObjectOf).1, rfl⟩, rfl⟩⟩
      · have single := isEnvelope.usage
        simp [usages] at single
  rcases filled with ⟨⟨reply, seen⟩, fills⟩
  have contentSeen : "content" ∈ seen :=
    (Record.given_of_fills component_text fills).2.2.2 (.inr (by simp [only]))
  have complete : envelope.missing? seen = none := by
    simpa [Record.missing?, envelope, requiredField, field] using contentSeen
  exact ⟨reply, .object items fills complete⟩

/-- What is unwrapped from an envelope was read from it. -/
theorem fills_of_unwraps (unwraps : Unwraps output (ofOutput output))
    (isObject : IsObject (Text.trim output).toList contents) (isEnvelope : IsEnvelope contents) :
    ∃ seen, Fills (envelope.Changes Stores) contents (envelope.initial, [])
      (ofOutput output, seen) := by
  have heldBy := unwraps.envelope contents isObject isEnvelope
  rcases ofOutput_cases output with readFrom | ⟨-, kept⟩
  · rcases readFrom.fills isObject with ⟨seen, fills, complete⟩
    exact ⟨seen, fills⟩
  · rcases isEnvelope.content with ⟨content, -, only, -⟩
    rcases isObject with ⟨inner, whole, items⟩
    have member : content ∈ textsOf "content" contents := by simp [only]
    have isText := heldBy.text content member
    rw [kept] at isText
    exact absurd rfl (text_ne_output whole items (mem_textsOf_iff.1 member) isText)

theorem text_of_gives (gives : Record.Gives Stores envelope.fields contents {} reply) :
    ∃ item ∈ contents, StringText item.text reply.text := by
  have fields : envelope.fields = [requiredField "content" Reader.string
      fun text reply => { reply with text := text },
    field "usage" (Reader.optional TokenUsage.jsonRecord.read)
      fun usage reply => { reply with usage := usage }] := rfl
  rw [fields] at gives
  cases gives with
  | none optional => simp [requiredField] at optional
  | @cons _ _ content rest _ _ _ gives more =>
    rcases component_text.stores gives with ⟨value, isText, stored⟩
    refine ⟨content, List.mem_cons_self, ?_⟩
    cases more with
    | none optional => rwa [stored]
    | cons givesUsage more =>
      cases more with
      | none optional => rwa [component_text.keeps (by decide) givesUsage, stored]

/-! ### Outputs that are not unwrapped -/

theorem not_unwraps_of_array {inner : List Char}
    (isArray : (Text.trim output).toList = '[' :: (inner ++ [']']))
    (items : Derives (.items .list true contents) inner)
    (gives : Record.Gives Stores envelope.fields contents {} reply) :
    ¬Unwraps output (ofOutput output) := by
  intro unwraps
  have kept : ofOutput output = { text := output } := by
    apply unwraps.verbatim
    intro contents isObject
    rw [isArray] at isObject
    exact absurd isObject (not_isObject_cons (by decide))
  have readFrom : envelope.ReadFrom Stores (Text.trim output).toList reply := by
    rw [isArray]
    exact .array items gives
  rcases ofOutput_cases output with readOutput | ⟨unread, -⟩
  · rcases text_of_gives gives with ⟨item, member, isText⟩
    apply text_ne_output isArray items member isText
    rw [(Record.recognizes_read hasForms_stores).unique readFrom readOutput, kept]
  · exact unread reply readFrom

theorem spelled_of_unwraps (unwraps : Unwraps output (ofOutput output))
    (isObject : IsObject (Text.trim output).toList contents) (isEnvelope : IsEnvelope contents) :
    ∀ item ∈ contents, item.key ≠ none := by
  rcases fills_of_unwraps unwraps isObject isEnvelope with ⟨seen, fills⟩
  exact Record.spelled_of_fills fills

theorem wellFormed_of_unwraps (unwraps : Unwraps output (ofOutput output))
    (isObject : IsObject (Text.trim output).toList contents) (isEnvelope : IsEnvelope contents) :
    ∀ usage ∈ textsOf "usage" contents,
      usage = ['n', 'u', 'l', 'l'] ∨ ∃ counts, TokenUsage.IsObjectOf usage counts := by
  intro usage isUsage
  rcases fills_of_unwraps unwraps isObject isEnvelope with ⟨seen, fills⟩
  rcases (Record.given_of_fills component_usage fills).2.1 with
    ⟨none, -⟩ | ⟨text, only, ⟨rfl, -⟩ | ⟨known, -, kept⟩⟩
  · simp [none] at isUsage
  · exact .inl (by simpa [only] using isUsage)
  · rcases ((unwraps.envelope contents isObject isEnvelope).usage known).1 kept with
      ⟨other, member, isObjectOf⟩
    obtain rfl : usage = text := by simpa [only] using isUsage
    obtain rfl : other = usage := by simpa [only] using member
    exact .inr ⟨known, isObjectOf⟩

/-! ### Outputs that are unwrapped -/

theorem heldBy_ofOutput (isObject : IsObject (Text.trim output).toList contents)
    (isEnvelope : IsEnvelope contents) (spelled : ∀ item ∈ contents, item.key ≠ none)
    (wellFormed : ∀ usage ∈ textsOf "usage" contents,
      usage = ['n', 'u', 'l', 'l'] ∨ ∃ counts, TokenUsage.IsObjectOf usage counts) :
    HeldBy contents (ofOutput output) := by
  rcases ofOutput_cases output with readFrom | ⟨unread, -⟩
  · rcases readFrom.fills isObject with ⟨seen, fills, complete⟩
    exact heldBy_of_fills fills complete wellFormed
  · rcases exists_readFrom isObject isEnvelope spelled wellFormed with ⟨reply, readFrom⟩
    exact absurd readFrom (unread reply)

theorem ofOutput_of_not_misread (asExpected : ¬Misread (Text.trim output).toList)
    (noEnvelope : ∀ contents, IsObject (Text.trim output).toList contents → ¬IsEnvelope contents) :
    ofOutput output = { text := output } := by
  rcases ofOutput_cases output with readFrom | ⟨-, kept⟩
  · generalize (Text.trim output).toList = text at readFrom asExpected noEnvelope
    cases readFrom with
    | object items fills complete =>
      exact absurd (isEnvelope_of_fills fills complete).1 (noEnvelope _ ⟨_, rfl, items⟩)
    | array items gives => exact absurd (.array rfl items gives) asExpected
  · exact kept

/-- An output is unwrapped if and only if it is an envelope, unless it is an array or an envelope
with a usage or a key that is out of shape. -/
theorem unwraps_ofOutput_iff (output : String) :
    Unwraps output (ofOutput output) ↔ ¬Misread (Text.trim output).toList := by
  constructor
  · intro unwraps misread
    cases misread with
    | array isArray items gives => exact not_unwraps_of_array isArray items gives unwraps
    | key isObject isEnvelope unspelled =>
      rcases unspelled with ⟨item, member, unspelled⟩
      exact spelled_of_unwraps unwraps isObject isEnvelope item member unspelled
    | usage isObject isEnvelope isUsage notNull malformed =>
      rcases wellFormed_of_unwraps unwraps isObject isEnvelope _ isUsage with null | ⟨counts, given⟩
      · exact notNull null
      · exact malformed counts given
  · intro asExpected
    refine ⟨?_, ofOutput_of_not_misread asExpected⟩
    intro contents isObject isEnvelope
    apply heldBy_ofOutput isObject isEnvelope
    · intro item member unspelled
      exact asExpected (.key isObject isEnvelope ⟨item, member, unspelled⟩)
    · intro usage isUsage
      by_contra malformed
      push Not at malformed
      exact asExpected (.usage isObject isEnvelope isUsage malformed.1 malformed.2)

/-- The only element of an array is taken for the content of an envelope. -/
theorem not_unwraps_array :
    ofOutput "[\"x\"]" = { text := "x" } ∧ ¬Unwraps "[\"x\"]" (ofOutput "[\"x\"]") := by
  have taken : ofOutput "[\"x\"]" = { text := "x" } := by decide +kernel
  refine ⟨taken, ?_⟩
  intro unwraps
  have kept := unwraps.verbatim (by
    rintro contents ⟨inner, same, -⟩
    have begins : (Text.trim "[\"x\"]").toList = '[' :: ['"', 'x', '"', ']'] := by decide +kernel
    rw [begins] at same
    simp at same)
  rw [taken] at kept
  exact absurd (congrArg ServiceReply.text kept) (by decide)

end ServiceReply

end NodeLocale
