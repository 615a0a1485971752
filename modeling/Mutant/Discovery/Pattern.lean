import Mutant.Discovery.Search
import Mutant.Text.Blank

/-!
Patterns in the notation of ignore files. A pattern is cut into segments at its slashes; `**` stands
for any number of folders, and the other segments are globs. It matches a path if it describes the
path or a folder above it. Blanks in front of a pattern belong to it; there are readers that drop them,
and a search can be given any other language in place of this one.
-/

namespace Mutant.Pattern

abbrev Class := List (Char × Char)

inductive Token where
  | exactly (character : Char)
  | anyOne
  | anyRun
  | oneOf (negated : Bool) (members : Class)
  /-- Nothing, or folders and the slash after them. -/
  | leadingFolders
  /-- Nothing, or a slash and folders. -/
  | innerFolders
  | boundary
deriving DecidableEq, Repr

inductive Matcher where
  | nothing
  | everything
  | insideFolder
  | tokens (tokens : List Token)
deriving DecidableEq, Repr

structure Rule where
  negated : Bool
  matcher : Matcher
deriving DecidableEq, Repr

inductive Fault where
  | invalid (pattern : String)
  | badRange
deriving DecidableEq, Repr

def Fault.message : Fault → String
  | invalid pattern => "Invalid git pattern: " ++ Text.quoted pattern
  | badRange => "bad character range"

def inClass (members : Class) (character : Char) : Bool :=
  members.any fun range => range.1 ≤ character && character ≤ range.2

/-- Whether some rest of the text passes, where only characters that may be crossed come before it. -/
def someRest (mayCross : Char → Bool) (passes : List Char → Bool) : List Char → Bool
  | [] => passes []
  | character :: rest =>
      passes (character :: rest) || (mayCross character && someRest mayCross passes rest)

def isNotNewline (character : Char) : Bool := character != '\n'

def someFolderRest (passes : List Char → Bool) : List Char → Bool
  | [] => false
  | character :: rest =>
      (character == '/' && passes rest) || (isNotNewline character && someFolderRest passes rest)

def matchesTokens : List Token → List Char → Bool
  | [], _ => true
  | .exactly wanted :: tokens, character :: rest => wanted == character && matchesTokens tokens rest
  | .anyOne :: tokens, character :: rest => character != '/' && matchesTokens tokens rest
  | .oneOf negated members :: tokens, character :: rest =>
      (inClass members character != negated) && matchesTokens tokens rest
  | .anyRun :: tokens, text => someRest (· != '/') (matchesTokens tokens) text
  | .leadingFolders :: tokens, text =>
      matchesTokens tokens text ||
        match text with
        | first :: rest => isNotNewline first && someFolderRest (matchesTokens tokens) rest
        | [] => false
  | .innerFolders :: tokens, text =>
      matchesTokens tokens text ||
        match text with
        | '/' :: first :: rest =>
            isNotNewline first && someRest isNotNewline (matchesTokens tokens) rest
        | _ => false
  | .boundary :: tokens, text =>
      match text with
      | [] => matchesTokens tokens []
      | '/' :: rest => matchesTokens tokens rest
      | ['\n'] => matchesTokens tokens text
      | _ => false
  | _, [] => false

def Matcher.accepts : Matcher → List Char → Bool
  | .nothing, _ => false
  | .everything, _ => true
  | .insideFolder, path => path.contains '/'
  | .tokens sequence, path => matchesTokens sequence path

/-- The verdict of the last rule that matches decides. -/
def accepts (rules : List Rule) (path : List Char) : Bool :=
  match rules.reverse.find? fun rule => rule.matcher.accepts path with
  | some rule => !rule.negated
  | none => false

def classMembers : List Char → Except Fault Class
  | first :: '-' :: last :: rest =>
      if last < first then .error .badRange
      else (classMembers rest).map ((first, last) :: ·)
  | first :: rest => (classMembers rest).map ((first, first) :: ·)
  | [] => .ok []

/-- The text of a bracket expression from its `[` on: whether it is negated, what it holds, and what
follows it. A closing bracket at the beginning is a member. -/
def bracket? (text : List Char) : Option (Bool × List Char × List Char) :=
  let (negated, body) :=
    match text with
    | '!' :: rest => (true, rest)
    | '^' :: rest => (true, rest)
    | _ => (false, text)
  let (first, body) :=
    match body with
    | ']' :: rest => ([']'], rest)
    | _ => ([], body)
  match body.dropWhile (· != ']') with
  | [] => none
  | _ :: rest => some (negated, first ++ body.takeWhile (· != ']'), rest)

inductive Glob where
  | tokens (tokens : List Token)
  | unclosed
  | dangling
  | fault (fault : Fault)
deriving DecidableEq, Repr

def Glob.cons (token : Token) : Glob → Glob
  | tokens rest => tokens (token :: rest)
  | other => other

/-- A fault counts only if nothing after it makes the pattern match nothing or be refused. -/
def Glob.faulty (fault : Fault) : Glob → Glob
  | tokens _ => .fault fault
  | .fault _ => .fault fault
  | other => other

def globFrom : Nat → List Char → Glob
  | _, [] => .tokens []
  | skip + 1, _ :: rest => globFrom skip rest
  | 0, character :: rest =>
      if character == Text.backslash then
        match rest with
        | [] => .dangling
        | next :: _ => (globFrom 1 rest).cons (.exactly next)
      else if character == '*' then (globFrom 0 rest).cons .anyRun
      else if character == '?' then (globFrom 0 rest).cons .anyOne
      else if character == '[' then
        match bracket? rest with
        | none => .unclosed
        | some (negated, members, after) =>
            let following := globFrom (rest.length - after.length) rest
            match classMembers members with
            | .error fault => following.faulty fault
            | .ok members => following.cons (.oneOf negated members)
      else (globFrom 0 rest).cons (.exactly character)

def Glob.append : Glob → Glob → Glob
  | tokens first, tokens second => tokens (first ++ second)
  | tokens _, other => other
  | fault first, second => second.faulty first
  | other, _ => other

def segments : List Char → List (List Char)
  | [] => [[]]
  | character :: rest =>
      match segments rest with
      | [] => [[character]]
      | segment :: others =>
          if character == '/' then [] :: segment :: others
          else (character :: segment) :: others

def star : List Char := ['*']

def doubleStar : List Char := ['*', '*']

/-- A pattern without a slash, other than at its end, matches in every folder. A slash at the
beginning ties it to the root. -/
def anchored : List (List Char) → List (List Char)
  | [] :: rest => rest
  | [single] => if single == doubleStar then [single] else [doubleStar, single]
  | [single, []] => if single == doubleStar then [single, []] else [doubleStar, single, []]
  | several => several

/-- An empty last segment stands for all that is in the folder. -/
def filled (segments : List (List Char)) : List (List Char) :=
  match segments.getLast? with
  | some [] => segments.dropLast ++ [doubleStar]
  | _ => segments

def collapsed : List (List Char) → List (List Char)
  | first :: second :: rest =>
      if first == doubleStar && second == doubleStar then collapsed (second :: rest)
      else first :: collapsed (second :: rest)
  | few => few

def tokensFrom (isFirst slash : Bool) : List (List Char) → Glob
  | [] => .tokens []
  | segment :: rest =>
      let isLast := rest.isEmpty
      if segment == doubleStar then
        if isFirst then (tokensFrom false false rest).cons .leadingFolders
        else if isLast then .tokens [.exactly '/']
        else (tokensFrom false true rest).cons .innerFolders
      else
        let glob :=
          if segment == star then Glob.tokens [.anyOne, .anyRun] else globFrom 0 segment
        let opened := if slash then Glob.tokens [.exactly '/'] else .tokens []
        let closed := if isLast then Glob.tokens [.boundary] else .tokens []
        (opened.append glob).append (closed.append (tokensFrom false true rest))

def matcherOf (line : String) (segments : List (List Char)) : Except Fault Matcher :=
  let endsInSlash := segments.getLast? == some []
  let folded := collapsed (filled (anchored segments))
  if (anchored segments).isEmpty then .error (.invalid line)
  else if folded == [doubleStar] then .ok (if endsInSlash then .insideFolder else .everything)
  else if folded == [doubleStar, star] then .ok .everything
  else if folded == [doubleStar, star, doubleStar] then .ok .insideFolder
  else
    match tokensFrom true false folded with
    | .tokens tokens => .ok (.tokens tokens)
    | .unclosed => .ok .nothing
    | .dangling => .error (.invalid line)
    | .fault fault => .error fault

/-- White space at the end does not count, unless a backslash keeps the last blank. -/
def trimmed (line : List Char) : List Char :=
  if [' ', Text.backslash].isPrefixOf line.reverse then line else Text.stripRight line

/-- The rule of one line, if it has one. Empty lines and comments match nothing. -/
def rule (line : String) : Except Fault Rule :=
  let text := trimmed line.toList
  let isComment := text.head? == some '#'
  if text.isEmpty || isComment || text == ['/'] then .ok ⟨false, .nothing⟩
  else
    match text with
    | '!' :: rest => (matcherOf line (segments rest)).map fun matcher => ⟨true, matcher⟩
    | _ => (matcherOf line (segments text)).map fun matcher => ⟨false, matcher⟩

def rules : List String → Except Fault (List Rule)
  | [] => .ok []
  | line :: rest =>
      match rule line, rules rest with
      | .error fault, _ => .error fault
      | .ok _, .error fault => .error fault
      | .ok first, .ok others => .ok (first :: others)

def spec : Discovery.PathSpec Fault where
  fault? patterns :=
    match rules patterns with
    | .error fault => some fault
    | .ok _ => none
  accepts patterns path :=
    match rules patterns with
    | .error _ => false
    | .ok rules => accepts rules path

end Mutant.Pattern
