import NodeLocale.Json.Record
import NodeLocale.Text.Blank
import NodeLocale.Localization.Usage

/-!
# Replies

The output of a localization service is either the reply itself or an envelope that holds the
reply as its content, perhaps with the usage of tokens. The reply should hold a JSON object;
text around the object does not matter, unless the whole reply is JSON of another kind.
-/

namespace NodeLocale

/-- The reply of a localization service. -/
structure ServiceReply where
  text : String := ""
  usage : Option TokenUsage := none
deriving DecidableEq, Inhabited

/-- Reads a count of tokens. -/
def TokenUsage.countReader : Json.Reader UInt64 := fun rest => do
  let (count, rest) ← Json.Reader.unsigned "u64" rest
  return (UInt64.ofNat count, rest)

/-- How the usage of tokens is read. -/
def TokenUsage.jsonRecord : Json.Record TokenUsage where
  name := "TokenUsage"
  initial := {}
  fields :=
    [Json.field "prompt_tokens" countReader fun count usage => { usage with prompt := count },
      Json.field "completion_tokens" countReader fun count usage =>
        { usage with completion := count },
      Json.field "total_tokens" countReader fun count usage => { usage with total := count }]

namespace ServiceReply

/-- How an envelope is read. -/
def envelope : Json.Record ServiceReply where
  name := "ReplyEnvelope"
  initial := {}
  fields :=
    [Json.requiredField "content" Json.Reader.string fun text reply =>
        { reply with text := text },
      Json.field "usage" (Json.Reader.optional TokenUsage.jsonRecord.read) fun usage reply =>
        { reply with usage := usage }]

def ofOutput (output : String) : ServiceReply :=
  match Json.Reader.readText envelope.read (Text.trim output) with
  | .ok reply => reply
  | .error _ => { text := output }

end ServiceReply

/-- Why a reply holds no object. -/
inductive ReplyFault
  | empty
  /-- No braces enclose anything. -/
  | noObject
  /-- What the braces enclose is no JSON. -/
  | invalid (fault : String)
  /-- The reply is JSON of another kind. -/
  | notObject (kind : String)
deriving DecidableEq

def ReplyFault.message : ReplyFault → String
  | empty => "reply is empty"
  | noObject => "no JSON object found in reply"
  | invalid fault => "invalid JSON: " ++ fault
  | notObject kind => "expected a JSON object, found " ++ kind

namespace ReplyObject

def ofValue (value : Json) : Except ReplyFault JsonObject :=
  match value with
  | .object members => .ok (.ofList members)
  | other => .error (.notObject other.kind)

/-- The text from the first opening to the last closing brace. -/
def braced? (text : List Char) : Option (List Char) :=
  let fromOpening := text.dropWhile fun c => c != '\x7b'
  match (fromOpening.reverse.dropWhile fun c => c != '\x7d').reverse with
  | [] => none
  | span => some span

def read (reply : String) : Except ReplyFault JsonObject :=
  let text := Text.trim reply
  if text.isEmpty then .error .empty
  else
    match Json.Reader.readText Json.Reader.value text with
    | .ok value => ofValue value
    | .error _ =>
      match braced? text.toList with
      | none => .error .noObject
      | some span =>
        match Json.Reader.readText Json.Reader.value (String.ofList span) with
        | .ok value => ofValue value
        | .error fault => .error (.invalid fault)

end ReplyObject

end NodeLocale
