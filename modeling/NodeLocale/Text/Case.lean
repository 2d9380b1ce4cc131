import NodeLocale.Text.CaseTable

/-!
# Upper and lower case

Case is mapped character by character, with one exception: a capital sigma at the end of a word
becomes a final sigma. A sigma ends a word when a cased character stands before it and none
after it, characters that are ignorable for this purpose being passed over.
-/

namespace NodeLocale.Text

/-- The partner of a code point in a list of runs. -/
def CaseRun.partner? (code : Nat) : List CaseRun → Option Nat
  | [] => none
  | run :: rest =>
    if run.first ≤ code && code ≤ run.last && (code - run.first) % run.step == 0 then
      some (run.target + (code - run.first))
    else partner? code rest

/-- Maps one character by a list of expansions and a list of runs. -/
def mapCase (expansions : List (Nat × List Nat)) (runs : List CaseRun) (c : Char) : List Char :=
  match CaseRun.partner? c.toNat runs with
  | some code => [Char.ofNat code]
  | none =>
    match expansions.find? fun entry => entry.1 == c.toNat with
    | some entry => entry.2.map Char.ofNat
    | none => [c]

/-- The uppercase form of a character. -/
def upperChar (c : Char) : List Char :=
  if c.toNat < 128 then [c.toUpper] else mapCase upperExpansions upperRuns c

/-- The lowercase form of a character outside any word. -/
def lowerChar (c : Char) : List Char :=
  if c.toNat < 128 then [c.toLower] else mapCase lowerExpansions lowerRuns c

def upper (text : String) : String := String.ofList (text.toList.flatMap upperChar)

/-- Whether the first character that is not ignorable for case is a cased one. -/
def casedNext (text : List Char) : Bool :=
  match text.dropWhile caseIgnorableRanges.has with
  | [] => false
  | c :: _ => casedRanges.has c

/-- The lowercase form of the characters after those in `before`, which are in reverse order. -/
def lowerChars (before : List Char) : List Char → List Char
  | [] => []
  | c :: rest =>
    let mapped :=
      if c = 'Σ' then
        if casedNext before && !casedNext rest then ['ς'] else ['σ']
      else lowerChar c
    mapped ++ lowerChars (c :: before) rest

def lower (text : String) : String := String.ofList (lowerChars [] text.toList)

end NodeLocale.Text
