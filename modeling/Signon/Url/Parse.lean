import Signon.Url.Basic
import Signon.Text.Split

/-!
Reading URLs, alone or against a base URL, by the rules browsers follow. Controls and spaces
around the text are dropped, and tabs and line breaks anywhere in it. A scheme is a letter, then
letters, digits, `+`, `-` or `.`, then `:`; without one the text is resolved against the base.
-/

namespace Signon.Url

def isC0OrSpace (c : Char) : Bool := c.toNat ≤ 0x20

def isTabOrNewline (c : Char) : Bool := c = '\t' || c = '\n' || c = '\r'

def prepare (s : String) : List Char :=
  ((s.toList.dropWhile isC0OrSpace).reverse.dropWhile isC0OrSpace).reverse.filter
    (!isTabOrNewline ·)

def isSchemeChar (c : Char) : Bool := c.isAlphanum || c = '+' || c = '-' || c = '.'

/-- The scheme at the start of the text, lowercased, and what follows its colon. -/
def scheme? : List Char → Option (String × List Char)
  | c :: rest =>
    if c.isAlpha then
      let body := rest.takeWhile isSchemeChar
      match rest.drop body.length with
      | ':' :: after => some (String.ofList ((c :: body).map Char.toLower), after)
      | _ => none
    else none
  | [] => none

def isSlash (special : Bool) (c : Char) : Bool := c = '/' || (special && c = '\\')

def isSingleDot (s : String) : Bool :=
  let l := s.toLower
  l = "." || l = "%2e"

def isDoubleDot (s : String) : Bool :=
  let l := s.toLower
  l = ".." || l = ".%2e" || l = "%2e." || l = "%2e%2e"

def isDriveLetter : List Char → Bool
  | [a, b] => a.isAlpha && (b = ':' || b = '|')
  | _ => false

def isNormalizedDriveLetter : List Char → Bool
  | [a, b] => a.isAlpha && b = ':'
  | _ => false

/-- Whether a text starts with a drive letter that ends there or at a separator. -/
def startsWithDriveLetter : List Char → Bool
  | a :: b :: rest =>
    isDriveLetter [a, b] &&
      match rest with
      | [] => true
      | c :: _ => c = '/' || c = '\\' || c = '?' || c = '#'
  | _ => false

/-- Segments read so far, and whether a drive letter came first in a `file` URL. -/
structure Segments where
  parts : List String
  driveFirst : Bool

/-- The path without its last segment; a `file` URL keeps a drive letter. -/
def shorten (file : Bool) (parts : List String) : List String :=
  match parts.getLast? with
  | some last => if file && isNormalizedDriveLetter last.toList then parts else parts.dropLast
  | none => []

/-- Ends a segment, `slash` telling whether a slash ended it: `..` removes the last segment,
`.` adds nothing, and at the end of the path both leave an empty last segment. -/
def Segments.close (file : Bool) (st : Segments) (buffer : List Char) (slash : Bool) : Segments :=
  let b := String.ofList buffer
  if isDoubleDot b then
    let parts := shorten file st.parts
    { st with parts := if slash then parts else parts ++ [""] }
  else if isSingleDot b then
    if slash then st else { st with parts := st.parts ++ [""] }
  else if file && st.parts.isEmpty && isDriveLetter buffer then
    match buffer with
    | [a, _] => { parts := [String.ofList [a, ':']], driveFirst := true }
    | _ => { st with parts := st.parts ++ [b] }
  else { st with parts := st.parts ++ [b] }

/-- Reads path segments until a query, a fragment or the end; `buffer` holds the segment being
read. Gives the segments and the rest of the text. -/
def readPath (special file : Bool) : Segments → List Char → List Char → Segments × List Char
  | st, buffer, [] => (st.close file buffer false, [])
  | st, buffer, c :: rest =>
    if isSlash special c then readPath special file (st.close file buffer true) [] rest
    else if c = '?' || c = '#' then (st.close file buffer false, c :: rest)
    else
      let (st, buffer) :=
        if file && st.parts.isEmpty && isNormalizedDriveLetter buffer then
          ({ st with parts := [String.ofList buffer] }, [])
        else (st, buffer)
      readPath special file st (buffer ++ encodeChar .path c) rest

def trimFilePath : List String → List String
  | "" :: p :: rest => trimFilePath (p :: rest)
  | parts => parts

/-- Reads a path from its start: a special URL skips one leading slash; another URL has no path
when a query, a fragment or the end comes first. -/
def pathStart (special file : Bool) (input : List Char) : Segments × List Char :=
  let none : Segments := ⟨[], false⟩
  if special then
    match input with
    | c :: rest => if isSlash true c then readPath special file none [] rest
      else readPath special file none [] input
    | [] => readPath special file none [] []
  else match input with
    | '?' :: _ | '#' :: _ | [] => (none, input)
    | '/' :: rest => readPath special file none [] rest
    | _ => readPath special file none [] input

/-- The query and the fragment after a path. -/
def queryAndFragment (special : Bool) (input : List Char) : Option String × Option String :=
  let fragment (f : List Char) : String := String.ofList (encode .fragment f)
  match input with
  | '?' :: rest =>
    let q := rest.takeWhile (· ≠ '#')
    (some (String.ofList (encode (if special then .specialQuery else .query) q)),
      match rest.drop q.length with
      | _ :: f => some (fragment f)
      | [] => none)
  | '#' :: rest => (none, some (fragment rest))
  | _ => (none, none)

def endsAuthority (special : Bool) (c : Char) : Bool :=
  c = '/' || c = '?' || c = '#' || (special && c = '\\')

/-- The user name and password before the last `@` of the authority, escaped, and the rest. -/
def readUserinfo (special : Bool) (input : List Char) :
    Except ParseError ((String × String) × List Char) :=
  let authority := input.takeWhile (!endsAuthority special ·)
  match authority.reverse.findIdx? (· = '@') with
  | none => pure (("", ""), input)
  | some j =>
    let atSign := authority.length - 1 - j
    let rest := input.drop (atSign + 1)
    if atSign = 0 then
      match rest with
      | c :: _ => if endsAuthority special c then throw .emptyHost else pure (("", ""), rest)
      | [] => pure (("", ""), rest)
    else
      let info := input.take atSign
      let (user, pass) := (Text.splitFirst? ':' info).getD (info, [])
      pure ((String.ofList (encode .userinfo user), String.ofList (encode .userinfo pass)), rest)

/-- The host text: up to a colon outside brackets or the end of the authority. -/
def takeHost (special : Bool) : Bool → List Char → List Char × List Char
  | inside, c :: rest =>
    if (c = ':' && !inside) || endsAuthority special c then ([], c :: rest)
    else
      let inside := if c = '[' then true else if c = ']' then false else inside
      let (h, r) := takeHost special inside rest
      (c :: h, r)
  | _, [] => ([], [])

/-- Reads a port after its colon: digits up to 65535, ending at the end of the authority; the
default port of the scheme is dropped. -/
def readPort (default : Option Nat) : Nat → Bool → List Char → Except ParseError (Option Nat × List Char)
  | port, seen, c :: rest =>
    if '0' ≤ c ∧ c ≤ '9' then
      let p := port * 10 + (c.toNat - 48)
      if p > 65535 then throw .invalidPort else readPort default p true rest
    else if c = '/' || c = '\\' || c = '?' || c = '#' then
      pure (if !seen || some port = default then none else some port, c :: rest)
    else throw .invalidPort
  | port, seen, [] => pure (if !seen || some port = default then none else some port, [])

/-- Reads a host and port of a URL that is not a `file` URL. -/
def hostAndPort (scheme : String) (input : List Char) :
    Except ParseError (Host × Option Nat × List Char) := do
  let special := isSpecialScheme scheme
  let (text, rest) := takeHost special false input
  if special && text.isEmpty then throw .emptyHost
  let host ← if special then parseSpecialHost text else parseOpaqueHost text
  if host = .domain "" && rest.head? = some ':' then throw .emptyHost
  match rest with
  | ':' :: more =>
    let (port, rest) ← readPort (defaultPort scheme) 0 false more
    pure (host, port, rest)
  | _ => pure (host, none, rest)

/-- Reads what follows `//` in a URL that is not a `file` URL: the authority, the path, the query
and the fragment. -/
def afterAuthoritySlashes (scheme : String) (input : List Char) : Except ParseError Url := do
  let special := isSpecialScheme scheme
  let ((user, pass), rest) ← readUserinfo special input
  let (host, port, rest) ← hostAndPort scheme rest
  if host = .domain "" && !(user.isEmpty && pass.isEmpty) then throw .emptyHost
  let (st, rest) := pathStart special false rest
  let (q, f) := queryAndFragment special rest
  pure ⟨scheme, user, pass, some host, port, .segments st.parts, q, f⟩

/-- Reads a URL that is not special and has no authority. -/
def withoutAuthority (scheme : String) (input : List Char) : Url :=
  match input with
  | '/' :: rest =>
    let (st, rest) := readPath false false ⟨[], false⟩ [] rest
    let (q, f) := queryAndFragment false rest
    ⟨scheme, "", "", none, none, .segments st.parts, q, f⟩
  | _ =>
    let p := input.takeWhile fun c => c ≠ '?' && c ≠ '#'
    let (q, f) := queryAndFragment false (input.drop p.length)
    ⟨scheme, "", "", none, none, .plain (String.ofList (encode .controls p)), q, f⟩

/-- A `file` URL whose path is read from `input`, starting from `parts`. -/
def filePath (host : Host) (parts : List String) (input : List Char) : Url :=
  let (st, rest) := readPath true true ⟨parts, false⟩ [] input
  let (q, f) := queryAndFragment true rest
  let host := if st.driveFirst then .domain "" else host
  ⟨"file", "", "", some host, none, .segments (trimFilePath st.parts), q, f⟩

/-- Reads a `file` URL after `file:`, against a `file` base if there is one. -/
def parseFile (base : Option Url) (input : List Char) : Except ParseError Url :=
  let baseParts : List String := match base with
    | some b => match b.path with
      | .segments parts => parts
      | .plain _ => []
    | none => []
  let baseHost : Host := (base.bind Url.host).getD (.domain "")
  match input with
  | c :: d :: rest =>
    if isSlash true c && isSlash true d then
      let text := rest.takeWhile fun c => !endsAuthority true c
      let after := rest.drop text.length
      if isDriveLetter text then pure (filePath (.domain "") [] rest)
      else if text.isEmpty then
        let (st, more) := pathStart true true after
        let (q, f) := queryAndFragment true more
        pure ⟨"file", "", "", some (.domain ""), none, .segments (trimFilePath st.parts), q, f⟩
      else do
        let host ← parseSpecialHost text
        let host := if host = .domain "localhost" then .domain "" else host
        let (st, more) := pathStart true true after
        let (q, f) := queryAndFragment true more
        let host := if st.driveFirst then .domain "" else host
        pure ⟨"file", "", "", some host, none, .segments (trimFilePath st.parts), q, f⟩
    else if isSlash true c then
      let tail := d :: rest
      match base with
      | some _ =>
        if startsWithDriveLetter tail then pure (filePath (.domain "") [] tail)
        else
          let kept := match baseParts.head? with
            | some p => if isNormalizedDriveLetter p.toList then [p] else []
            | none => []
          pure (filePath baseHost kept tail)
      | none => pure (filePath (.domain "") [] tail)
    else fileRelative base baseParts baseHost input
  | _ => fileRelative base baseParts baseHost input
where
  /-- A `file` URL that does not start with a slash: against the base, or from the root. -/
  fileRelative (base : Option Url) (baseParts : List String) (baseHost : Host)
      (input : List Char) : Except ParseError Url :=
    match base with
    | none => pure (filePath (.domain "") [] input)
    | some b =>
      match input with
      | [] => pure { b with fragment := none }
      | '?' :: _ =>
        let (q, f) := queryAndFragment true input
        pure { b with query := q, fragment := f }
      | '#' :: rest => pure { b with fragment := some (String.ofList (encode .fragment rest)) }
      | _ =>
        if startsWithDriveLetter input then pure (filePath (.domain "") [] input)
        else pure (filePath baseHost (shorten true baseParts) input)

/-- Resolves a text without a scheme against a base that is not a `file` URL. -/
def resolve (base : Url) (input : List Char) : Except ParseError Url :=
  let special := base.isSpecial
  let fragment (f : List Char) : String := String.ofList (encode .fragment f)
  match input with
  | [] => pure { base with fragment := none }
  | '?' :: _ =>
    let (q, f) := queryAndFragment special input
    pure { base with query := q, fragment := f }
  | '#' :: rest => pure { base with fragment := some (fragment rest) }
  | c :: rest =>
    if c = '/' || c = '\\' then
      let slashes := input.takeWhile fun c => c = '/' || c = '\\'
      if slashes.length ≥ 2 then
        match input with
        | '/' :: '/' :: after => afterAuthoritySlashes base.scheme after
        | _ => afterAuthoritySlashes base.scheme (input.drop slashes.length)
      else
        let (st, r) := readPath special false ⟨[], false⟩ [] rest
        let (q, f) := queryAndFragment special r
        pure { base with path := .segments st.parts, query := q, fragment := f }
    else
      let parts := match base.path with
        | .segments parts => shorten false parts
        | .plain _ => []
      let (st, r) := readPath special false ⟨parts, false⟩ [] input
      let (q, f) := queryAndFragment special r
      pure { base with path := .segments st.parts, query := q, fragment := f }

/-- Reads the rest of a URL after its scheme and colon. -/
def withScheme (base : Option Url) (scheme : String) (input : List Char) : Except ParseError Url :=
  if scheme = "file" then
    parseFile (base.filter (·.scheme == "file")) input
  else if isSpecialScheme scheme then
    let slashes := input.takeWhile fun c => c = '/' || c = '\\'
    match base with
    | some b =>
      if slashes.length < 2 && b.scheme = scheme then resolve b input
      else afterAuthoritySlashes scheme (input.drop slashes.length)
    | none => afterAuthoritySlashes scheme (input.drop slashes.length)
  else
    match input with
    | '/' :: '/' :: rest => afterAuthoritySlashes scheme rest
    | _ => pure (withoutAuthority scheme input)

/-- Reads a URL, resolving it against `base` when it has no scheme. -/
def parseWith (base : Option Url) (text : String) : Except ParseError Url :=
  let input := prepare text
  match scheme? input with
  | some (scheme, rest) => withScheme base scheme rest
  | none =>
    match base with
    | none => throw .relativeWithoutBase
    | some b =>
      match input with
      | '#' :: rest => pure { b with fragment := some (String.ofList (encode .fragment rest)) }
      | _ =>
        match b.path with
        | .plain _ => throw .relativeWithoutBase
        | .segments _ =>
          if b.scheme = "file" then parseFile (some b) input else resolve b input

def parse (text : String) : Except ParseError Url := parseWith none text

def join (base : Url) (reference : String) : Except ParseError Url := parseWith (some base) reference

end Signon.Url
