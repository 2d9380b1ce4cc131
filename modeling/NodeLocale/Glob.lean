/-!
# Ignore patterns

A pattern is matched against a whole path. A star stands for any characters, separators
included; two stars are a path component of their own and stand for any number of whole
components, or for all that is left; a question mark stands for one character, and brackets for
one character of a class or outside it.
-/

namespace NodeLocale

/-- Why a text is no pattern, with the position at which that shows. -/
inductive GlobFault
  /-- More than two stars in a row. -/
  | wildcards (position : Nat)
  /-- Two stars that are not a component of their own. -/
  | recursiveWildcards (position : Nat)
  /-- Brackets without an end. -/
  | range (position : Nat)
deriving DecidableEq

/-- The text of a pattern fault. -/
def GlobFault.message : GlobFault → String
  | wildcards position =>
    s!"Pattern syntax error near position {position}: " ++
      "wildcards are either regular `*` or recursive `**`"
  | recursiveWildcards position =>
    s!"Pattern syntax error near position {position}: " ++
      "recursive wildcards must form a single path component"
  | range position => s!"Pattern syntax error near position {position}: invalid range pattern"

namespace Glob

/-- A part of a class of characters: those from a first to a last one. -/
structure CharSpan where
  first : Char
  last : Char
deriving DecidableEq

/-- Whether a character belongs to a class. -/
def inClass (spans : List CharSpan) (c : Char) : Bool :=
  spans.any fun span => span.first ≤ c && c ≤ span.last

/-- What a pattern consists of. -/
inductive Token
  | literal (c : Char)
  | anyChar
  | anySequence
  /-- Any number of whole components, or all that is left. -/
  | anyComponents
  /-- One character of a class. -/
  | within (spans : List CharSpan)
  /-- One character outside a class. -/
  | outside (spans : List CharSpan)
deriving DecidableEq

/-- The class that the text between brackets describes. -/
def classOf : List Char → List CharSpan
  | first :: '-' :: last :: rest => ⟨first, last⟩ :: classOf rest
  | c :: rest => ⟨c, c⟩ :: classOf rest
  | [] => []

/-- The characters before and after the first closing bracket. -/
def splitAtBracket : List Char → Option (List Char × List Char)
  | [] => none
  | ']' :: rest => some ([], rest)
  | c :: rest => (splitAtBracket rest).map fun parts => (c :: parts.1, parts.2)

/-- Adds a token for whole components, unless one stands there already. -/
def addComponents (tokens : List Token) : List Token :=
  match tokens with
  | .anyComponents :: _ :: _ => tokens
  | _ => .anyComponents :: tokens

/-- Reads the tokens of a pattern. `previous` is the character in front of the remaining text,
`position` its index and `tokens` what was read before, in reverse order. -/
def tokensFrom : Nat → Option Char → Nat → List Token → List Char →
    Except GlobFault (List Token)
  | 0, _, _, tokens, _ => .ok tokens.reverse
  | _, _, _, tokens, [] => .ok tokens.reverse
  | fuel + 1, previous, position, tokens, c :: rest =>
    if c = '?' then tokensFrom fuel (some c) (position + 1) (.anyChar :: tokens) rest
    else if c = '*' then
      let stars := 1 + (rest.takeWhile (· == '*')).length
      let after := rest.dropWhile (· == '*')
      if 2 < stars then .error (.wildcards (position + 2))
      else if stars = 2 then
        if previous = none ∨ previous = some '/' then
          match after with
          | [] => .ok (addComponents tokens).reverse
          | d :: after =>
            if d = '/' then
              tokensFrom fuel (some '/') (position + 3) (addComponents tokens) after
            else .error (.recursiveWildcards (position + 2))
        else .error (.recursiveWildcards (position - 1))
      else tokensFrom fuel (some c) (position + 1) (.anySequence :: tokens) rest
    else if c = '[' then
      match rest with
      | '!' :: first :: others =>
        match splitAtBracket others with
        | none => .error (.range position)
        | some (inside, after) =>
          tokensFrom fuel (some ']') (position + inside.length + 4)
            (.outside (classOf (first :: inside)) :: tokens) after
      | first :: others =>
        if first = '!' then .error (.range position)
        else
          match splitAtBracket others with
          | none => .error (.range position)
          | some (inside, after) =>
            tokensFrom fuel (some ']') (position + inside.length + 3)
              (.within (classOf (first :: inside)) :: tokens) after
      | [] => .error (.range position)
    else tokensFrom fuel (some c) (position + 1) (.literal c :: tokens) rest

/-- Whether a token takes a character. -/
def Token.takes (token : Token) (c : Char) : Bool :=
  match token with
  | .literal expected => expected == c
  | .anyChar => true
  | .within spans => inClass spans c
  | .outside spans => !inClass spans c
  | .anySequence => false
  | .anyComponents => false

/-- Whether a proper tail of a text satisfies a test, where only the empty tail and those behind
a separator count. -/
def someComponentTail (test : List Char → Bool) : List Char → Bool
  | [] => test []
  | c :: rest => (c == '/' && test rest) || someComponentTail test rest

/-- Whether some tail of a text satisfies a test. -/
def someTail (test : List Char → Bool) : List Char → Bool
  | [] => test []
  | c :: rest => test (c :: rest) || someTail test rest

/-- Whether tokens describe a text. -/
def tokensMatch : List Token → List Char → Bool
  | [], text => text.isEmpty
  | .anySequence :: rest, text => someTail (tokensMatch rest) text
  | .anyComponents :: rest, text =>
    tokensMatch rest text || someComponentTail (tokensMatch rest) text
  | token :: rest, text =>
    match text with
    | [] => false
    | c :: text => token.takes c && tokensMatch rest text

end Glob

/-- A pattern, with the text that it was read from. -/
structure Glob where
  /-- The text of the pattern. -/
  source : String
  tokens : List Glob.Token
deriving DecidableEq

namespace Glob

/-- Reads a pattern. -/
def parse (source : String) : Except GlobFault Glob := do
  let tokens ← tokensFrom (source.length + 1) none 0 [] source.toList
  return ⟨source, tokens⟩

/-- Whether a pattern describes a whole path. -/
def accepts (glob : Glob) (path : String) : Bool := tokensMatch glob.tokens path.toList

end Glob

end NodeLocale
