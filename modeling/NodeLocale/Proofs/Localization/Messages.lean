import Mathlib.Data.List.Basic
import NodeLocale.Localization.Reply
import NodeLocale.Localization.Request
import NodeLocale.Proofs.Files.Reloading
import NodeLocale.Proofs.Json.ValueReading
import NodeLocale.Proofs.Text.Words

/-!
# The nodes in a message

The message of a request is a line of text with the indented nodes behind it. The nodes are read
from it as they were written. A service that gives the message back gives no JSON and no envelope,
but the line holds no brace, so from the first opening to the last closing brace its reply is the
object of the nodes, whatever braces and quotes the keys and labels hold.
-/

namespace NodeLocale

open Json Json.Reader

/-! ### Texts around an object -/

theorem Json.exists_prettyChars_object (level : Nat) (entries : List (String × Json)) :
    ∃ inner, prettyChars level (.object entries) = '\x7b' :: inner ++ ['\x7d'] := by
  cases entries with
  | nil => exact ⟨[], rfl⟩
  | cons entry rest => exact ⟨_, rfl⟩

theorem Json.Reader.readText_of_stops {α : Type} {reader : Reader α} {text : String}
    {fault : Fault} (stops : reader text.toList = .error fault) :
    readText reader text = .error (fault.message text.toList) := by
  rw [readText, readAll, stops]
  rfl

namespace ReplyObject

/-- What stands in front of the first opening and behind the last closing brace is left out. -/
theorem braced?_append {front inner behind : List Char} (noOpening : '\x7b' ∉ front)
    (noClosing : '\x7d' ∉ behind) :
    braced? (front ++ ('\x7b' :: inner ++ ['\x7d']) ++ behind) =
      some ('\x7b' :: inner ++ ['\x7d']) := by
  have opened : (front ++ ('\x7b' :: inner ++ ['\x7d']) ++ behind).dropWhile (· != '\x7b') =
      '\x7b' :: inner ++ ['\x7d'] ++ behind := by
    have dropped : ∀ c ∈ front, (c != '\x7b') = true := by
      intro c member
      simpa using fun opening : c = '\x7b' => noOpening (opening ▸ member)
    rw [List.append_assoc, List.dropWhile_append_of_pos dropped]
    rfl
  have closed : ('\x7b' :: inner ++ ['\x7d'] ++ behind).reverse.dropWhile (· != '\x7d') =
      ('\x7b' :: inner ++ ['\x7d']).reverse := by
    have dropped : ∀ c ∈ behind.reverse, (c != '\x7d') = true := by
      intro c member
      simpa using fun closing : c = '\x7d' => noClosing (closing ▸ List.mem_reverse.1 member)
    rw [List.reverse_append, List.dropWhile_append_of_pos dropped, List.reverse_append]
    rfl
  simp only [braced?, opened, closed, List.reverse_reverse]
  rfl

/-- A reply that is no JSON is read by what its braces enclose. -/
theorem read_of_braced {reply fault : String} {span : List Char} {members : List (String × Json)}
    (noJson : readText value (Text.trim reply) = .error fault)
    (enclosed : braced? (Text.trim reply).toList = some span)
    (object : readText value (String.ofList span) = .ok (.object members)) :
    read reply = .ok (.ofList members) := by
  have full : (Text.trim reply).isEmpty = false := by
    rw [Bool.eq_false_iff]
    intro empty
    rw [String.isEmpty_iff.1 empty] at enclosed
    simp [braced?] at enclosed
  simp only [read, full, noJson, enclosed, object, ofValue]
  rfl

end ReplyObject

/-! ### Messages -/

namespace LocalizationRequest

variable (nodes : NodeMap)

theorem toList_userMessage :
    (userMessage nodes).toList = leadIn.toList ++ prettyChars 0 nodes.toJson := by
  rw [userMessage, String.toList_append, Json.pretty, String.toList_ofList]

theorem leadIn_eq_cons : leadIn.toList = '请' :: leadIn.toList.tail := by decide +kernel

theorem opening_not_mem_leadIn : '\x7b' ∉ leadIn.toList := by decide +kernel

/-- A message begins with a character that no JSON begins with. -/
theorem exists_userMessage : ∃ rest, (userMessage nodes).toList = '请' :: rest := by
  rw [toList_userMessage, leadIn_eq_cons, List.cons_append]
  exact ⟨_, rfl⟩

theorem exists_prettyChars_toJson :
    ∃ inner, prettyChars 0 nodes.toJson = '\x7b' :: inner ++ ['\x7d'] :=
  exists_prettyChars_object 0 nodes.toJsonObject.entries

theorem trim_userMessage : Text.trim (userMessage nodes) = userMessage nodes := by
  apply Text.trim_of_ends
  · rcases exists_userMessage nodes with ⟨rest, begins⟩
    rw [begins]
    intro c isHead
    rcases Option.mem_some_iff.1 isHead with rfl
    decide
  · rcases exists_prettyChars_toJson nodes with ⟨inner, written⟩
    rw [toList_userMessage, written, ← List.append_assoc, List.getLast?_concat]
    intro c isLast
    rcases Option.mem_some_iff.1 isLast with rfl
    decide

/-- A message is no envelope, so it is taken for the reply itself. -/
theorem ofOutput_userMessage :
    ServiceReply.ofOutput (userMessage nodes) = { text := userMessage nodes } := by
  have noEnvelope :
      ∃ fault, ServiceReply.envelope.read (userMessage nodes).toList = .error fault := by
    rcases exists_userMessage nodes with ⟨rest, begins⟩
    rw [begins]
    exact ⟨_, rfl⟩
  rcases noEnvelope with ⟨fault, stops⟩
  rw [ServiceReply.ofOutput, trim_userMessage, readText_of_stops stops]

/-- The braces of a message enclose its nodes. -/
theorem braced?_userMessage :
    ReplyObject.braced? (userMessage nodes).toList = some (prettyChars 0 nodes.toJson) := by
  rcases exists_prettyChars_toJson nodes with ⟨inner, written⟩
  have enclosed :
      ReplyObject.braced? (leadIn.toList ++ ('\x7b' :: inner ++ ['\x7d']) ++ []) = _ :=
    ReplyObject.braced?_append opening_not_mem_leadIn nofun
  rwa [← written, List.append_nil, ← toList_userMessage] at enclosed

/-- A message is read as the object of its nodes. -/
theorem read_userMessage : ReplyObject.read (userMessage nodes) = .ok nodes.toJsonObject := by
  have noValue : ∃ fault, value (userMessage nodes).toList = .error fault := by
    rcases exists_userMessage nodes with ⟨rest, begins⟩
    rw [begins]
    exact ⟨_, rfl⟩
  rcases noValue with ⟨fault, stops⟩
  have noJson := readText_of_stops stops
  have enclosed := braced?_userMessage nodes
  rw [← trim_userMessage nodes] at noJson enclosed
  have whole : OrderedMap.ofList nodes.toJsonObject.entries = nodes.toJsonObject :=
    OrderedMap.ofList_entries nodes.toJsonObject
  rw [ReplyObject.read_of_braced noJson enclosed (nodes.reads_value 0).readText, whole]

/-- The nodes that a request asks to translate, as its message gives them. -/
def nodes? (request : LocalizationRequest) : Option NodeMap :=
  (leadIn.toList.isPrefixOf? request.user.toList).bind fun body =>
    (readText NodeMap.reader (String.ofList body)).toOption

theorem nodes?_ofBatch (system : String) (batch : Batch) :
    (ofBatch system batch).nodes? = some batch.nodes.withoutSources := by
  have split : leadIn.toList.isPrefixOf? (ofBatch system batch).user.toList =
      some (prettyChars 0 batch.nodes.toJson) := by
    rw [List.isPrefixOf?_eq_some_iff_append_eq]
    exact (toList_userMessage batch.nodes).symm
  have read := (batch.nodes.reads_reader 0).readText
  simp [nodes?, split, read, Except.toOption]

end LocalizationRequest

end NodeLocale
