import EndpointScout.Url.Basic
import EndpointScout.Url.Percent
import EndpointScout.Url.Idna

/-! Parsing URLs, absolute or against a base. -/
namespace EndpointScout.Url

def hostOfName (name : Text) : Except Error Host :=
  if endsInNumber name then
    match ipv4? name with
    | some n => .ok (.ipv4 n)
    | none => .error .invalidIpv4Address
  else .ok (.domain name)

def parseHost (t : Text) : Except Error Host :=
  match t with
  | '[' :: inner =>
    if inner.getLast? == some ']' then
      match ipv6? inner.dropLast with
      | some ps => .ok (.ipv6 ps)
      | none => .error .invalidIpv6Address
    else .error .invalidIpv6Address
  | _ =>
    match (Text.Utf8.decode? (percentDecode t)).bind Idna.toAscii? with
    | none => .error .idna
    | some [] => .error .emptyHost
    | some name => hostOfName name

def isForbiddenInOpaqueHost (c : Char) : Bool :=
  c.toNat == 0 || c == '\t' || c == '\n' || c == '\r' || " #/:<>?@[\\]^|".toList.contains c

def parseOpaqueHost (t : Text) : Except Error (Option Host) :=
  match t with
  | [] => .ok none
  | '[' :: inner =>
    if inner.getLast? == some ']' then
      match ipv6? inner.dropLast with
      | some ps => .ok (some (.ipv6 ps))
      | none => .error .invalidIpv6Address
    else .error .invalidIpv6Address
  | _ =>
    if t.any isForbiddenInOpaqueHost then .error .invalidDomainCharacter
    else .ok (some (.domain (percentEncode isControl t)))

def readHost (special : Bool) (t : Text) : Except Error (Option Host) :=
  if special then some <$> parseHost t else parseOpaqueHost t

def isSlash (special : Bool) (c : Char) : Bool := c == '/' || (special && c == '\\')

def endsAuthority (special : Bool) (c : Char) : Bool :=
  isSlash special c || c == '?' || c == '#'

def isDriveLetter (segment : Text) : Bool :=
  match segment with
  | [c, d] => Text.isLetter c && (d == ':' || d == '|')
  | _ => false

def isNormalizedDriveLetter (segment : Text) : Bool :=
  match segment with
  | [c, ':'] => Text.isLetter c
  | _ => false

def startsWithDriveLetter (t : Text) : Bool :=
  isDriveLetter (t.take 2) &&
    ((t.drop 2).head?.map fun c => isSlash true c || c == '?' || c == '#').getD true

def isDoubleDot (segment : Text) : Bool :=
  let s := segment.map fun c => if c == 'E' then 'e' else c
  ["..", "%2e%2e", "%2e.", ".%2e"].any fun d => d.toList == s

def isSingleDot (segment : Text) : Bool :=
  let s := segment.map fun c => if c == 'E' then 'e' else c
  s == ['.'] || s == "%2e".toList

def popSegment (done : List Text) : List Text :=
  match done with
  | s :: rest => if isDriveLetter s then done else rest
  | [] => []

def pushSegment (file : Bool) (done : List Text) (segment : Text) : List Text :=
  if isDoubleDot segment then popSegment done
  else if isSingleDot segment then done
  else if file && isDriveLetter segment then (segment.take 1 ++ [':']) :: done
  else segment :: done

/-- The last segment of a path is empty if dots stand in its place. -/
def lastSegment (file : Bool) (done : List Text) (segment : Text) : List Text :=
  if isDoubleDot segment || isSingleDot segment then [] :: pushSegment file done segment
  else pushSegment file done segment

def dropEmptyFront : List Text → List Text
  | [] :: s :: rest => dropEmptyFront (s :: rest)
  | segments => segments

/-- Splits a path into segments and resolves dots. `done` holds the segments before,
last first, and `current` the encoded characters of the open one, last first.
The path ends at a query or fragment if `stops`. -/
def pathGo (special file stops : Bool) : List Text → Text → Text → List Text × Text
  | done, current, [] => ((lastSegment file done current.reverse).reverse, [])
  | done, current, c :: t =>
    if isSlash special c then
      pathGo special file stops (pushSegment file done current.reverse) [] t
    else if stops && (c == '?' || c == '#') then
      ((lastSegment file done current.reverse).reverse, c :: t)
    else
      pathGo special file stops done ((percentChar encodedInPath c).reverse ++ current) t

def parseSegments (scheme : Text) (stops : Bool) (done : List Text) (t : Text) :
    List Text × Text :=
  let file := isFileScheme scheme
  let (segments, rest) := pathGo (isSpecialScheme scheme) file stops done.reverse [] t
  (if file then dropEmptyFront segments else segments, rest)

def parsePathStart (scheme : Text) (stops : Bool) (t : Text) : List Text × Text :=
  if isSpecialScheme scheme then
    match t with
    | [] => parseSegments scheme stops [] []
    | c :: rest =>
      if isSlash true c then parseSegments scheme stops [] rest
      else parseSegments scheme stops [] t
  else match t with
    | [] => ([], [])
    | c :: rest =>
      if stops && (c == '?' || c == '#') then ([], t)
      else if c == '/' then parseSegments scheme stops [] rest
      else parseSegments scheme stops [] t

def parseVerbatimPath (t : Text) : Text × Text :=
  let ends (c : Char) : Bool := c == '?' || c == '#'
  (percentEncode isControl (t.takeWhile fun c => !ends c), t.dropWhile fun c => !ends c)

def parseTail (scheme : Text) (t : Text) : Option Text × Option Text :=
  match t with
  | '#' :: f => (none, some (percentEncode encodedInFragment f))
  | '?' :: q =>
    let query := percentEncode (encodedInQuery (isSpecialScheme scheme)) (q.takeWhile (· != '#'))
    match q.dropWhile (· != '#') with
    | _ :: f => (some query, some (percentEncode encodedInFragment f))
    | [] => (some query, none)
  | _ => (none, none)

/-- Puts a URL together; a path without authority is shielded if it begins with an
empty segment before another. -/
def assemble (scheme : Text) (authority : Option Authority) (path : Path) (tail : Text) : Url :=
  let (query, fragment) := parseTail scheme tail
  let shielded := match authority, path with
    | none, .segments ([] :: _ :: _) => true
    | _, _ => false
  ⟨scheme, authority, shielded, path, query, fragment⟩

def cutUserinfo (special : Bool) (t : Text) : Option (Text × Text) :=
  let front := t.takeWhile fun c => !endsAuthority special c
  if front.contains '@' then
    let hostLength := (front.reverse.takeWhile (· != '@')).length
    some (front.take (front.length - hostLength - 1), t.drop (front.length - hostLength))
  else none

def parseUserinfo (special : Bool) (t : Text) : Except Error (Text × Text × Text) :=
  match cutUserinfo special t with
  | none => .ok ([], [], t)
  | some ([], rest) =>
    if (rest.head?.map (endsAuthority special)).getD false then .error .emptyHost
    else .ok ([], [], rest)
  | some (info, rest) =>
    let (name, word) := (Text.cutAt? ':' info).getD (info, [])
    .ok (percentEncode encodedInUserinfo name, percentEncode encodedInUserinfo word, rest)

def cutHost (special : Bool) : Bool → Text → Text × Text
  | _, [] => ([], [])
  | bracketed, c :: t =>
    if (c == ':' && !bracketed) || endsAuthority special c then ([], c :: t)
    else
      let (h, rest) :=
        cutHost special (if c == '[' then true else if c == ']' then false else bracketed) t
      (c :: h, rest)

def parsePort (scheme : Text) (t : Text) : Except Error (Option Nat × Text) :=
  let ds := t.takeWhile Text.isDigit
  let rest := t.dropWhile Text.isDigit
  let n := Text.digitsValue 0 ds
  if n > 65535 then .error .invalidPort
  else if (rest.head?.map fun c => !endsAuthority true c).getD false then .error .invalidPort
  else .ok (if ds.isEmpty || defaultPort? scheme == some n then none else some n, rest)

def readPort (scheme : Text) (host : Option Host) (t : Text) : Except Error (Option Nat × Text) :=
  match t with
  | ':' :: rest => if host.isNone then .error .emptyHost else parsePort scheme rest
  | _ => .ok (none, t)

def parseAfterSlashes (scheme : Text) (t : Text) : Except Error Url := do
  let special := isSpecialScheme scheme
  let (username, password, t) ← parseUserinfo special t
  let (name, t) := cutHost special false t
  if special && name.isEmpty then throw .emptyHost
  let host ← readHost special name
  let (port, t) ← readPort scheme host t
  if host.isNone && !(username.isEmpty && password.isEmpty) then throw .emptyHost
  let (segments, tail) := parsePathStart scheme true t
  pure (assemble scheme (some ⟨username, password, host, port⟩) (.segments segments) tail)

def parseGeneral (scheme : Text) (t : Text) : Except Error Url :=
  match t with
  | '/' :: '/' :: rest => parseAfterSlashes scheme rest
  | '/' :: rest =>
    let (segments, tail) := parseSegments scheme true [] rest
    .ok (assemble scheme none (.segments segments) tail)
  | _ =>
    let (path, tail) := parseVerbatimPath t
    .ok (assemble scheme none (.verbatim path) tail)

def copyBase (base : Url) (keepQuery : Bool) (tail : Text) : Url :=
  let (query, fragment) := parseTail base.scheme tail
  ⟨base.scheme, base.authority, base.shielded, base.path,
    if keepQuery then base.query else query, fragment⟩

def baseSegments (base : Url) : List Text :=
  match base.path with
  | .segments l => l
  | .verbatim _ => []

def parseRelative (base : Url) (t : Text) : Except Error Url :=
  let below (done : List Text) (rest : Text) : Url :=
    let (segments, tail) := parseSegments base.scheme true done rest
    assemble base.scheme base.authority (.segments segments) tail
  match t with
  | [] => .ok (copyBase base true [])
  | '?' :: _ => .ok (copyBase base false t)
  | '#' :: _ => .ok (copyBase base true t)
  | '/' :: '/' :: rest => parseAfterSlashes base.scheme rest
  | c :: rest =>
    if isSlash true c then
      if (rest.head?.map (isSlash true)).getD false then
        parseAfterSlashes base.scheme (rest.dropWhile (isSlash true))
      else .ok (below [] rest)
    else .ok (below base.baseSegments.dropLast t)

def fileAuthority (host : Option Host) : Authority := ⟨[], [], host, none⟩

/-- The host of a file URL; a drive letter is none, and `localhost` is the empty one. -/
def parseFileHost (t : Text) : Except Error (Option Host × Text) := do
  let ends (c : Char) : Bool := isSlash true c || c == '?' || c == '#'
  let name := t.takeWhile fun c => !ends c
  if isDriveLetter name then pure (none, t)
  else if name.isEmpty then pure (none, t)
  else
    let host ← parseHost name
    let rest := t.dropWhile fun c => !ends c
    pure (if host == .domain "localhost".toList then none else some host, rest)

def parseFile (base : Option Url) (t : Text) : Except Error Url := do
  let scheme := "file".toList
  let below (host : Option Host) (done : List Text) (rest : Text) : Url :=
    let (segments, tail) := parseSegments scheme true done rest
    assemble scheme (some (fileAuthority host)) (.segments segments) tail
  match t with
  | c :: rest =>
    if isSlash true c then
      match rest with
      | d :: after =>
        if isSlash true d then
          let (host, after) ← parseFileHost after
          let (segments, tail) := parsePathStart scheme true after
          let drive := segments.any isNormalizedDriveLetter
          return assemble scheme (some (fileAuthority (if drive then none else host)))
            (.segments segments) tail
      | [] => pure ()
      match base with
      | some b =>
        if startsWithDriveLetter rest then return below none [] rest
        match b.baseSegments with
        | s :: _ =>
          if isNormalizedDriveLetter s then return below none [s] rest
          else return below b.host [] rest
        | [] => return below b.host [] rest
      | none => return below none [] rest
    else match base with
      | some b =>
        if c == '?' then return copyBase b false t
        else if c == '#' then return copyBase b true t
        else if startsWithDriveLetter t then return below none [] t
        else return below b.host (popSegment b.baseSegments.reverse).reverse t
      | none => return below none [] t
  | [] =>
    match base with
    | some b => return copyBase b true []
    | none => return below none [] []

def isSchemeChar (c : Char) : Bool :=
  Text.isAlphanumeric c || c == '+' || c == '-' || c == '.'

def lowerLetter (c : Char) : Char :=
  if 'A' ≤ c && c ≤ 'Z' then Char.ofNat (c.toNat + 32) else c

def cutScheme? (t : Text) : Option (Text × Text) :=
  if (t.head?.map Text.isLetter).getD false then
    match t.dropWhile isSchemeChar with
    | ':' :: rest => some ((t.takeWhile isSchemeChar).map lowerLetter, rest)
    | _ => none
  else none

/-- Control characters and blanks around the text do not count, nor do tabs and line
breaks inside it. -/
def tidy (t : Text) : Text :=
  (Text.trimWhile (fun c => c.toNat ≤ 0x20) t).filter fun c =>
    !(c == '\t' || c == '\n' || c == '\r')

def resolve (base : Option Url) (input : Text) : Except Error Url :=
  let t := tidy input
  match cutScheme? t with
  | some (scheme, rest) =>
    if isFileScheme scheme then
      parseFile (base.filter fun b => isFileScheme b.scheme) rest
    else if isSpecialScheme scheme then
      let slashes := (rest.takeWhile (isSlash true)).length
      match base with
      | some b =>
        if slashes < 2 && b.scheme == scheme then parseRelative b rest
        else parseAfterSlashes scheme (rest.dropWhile (isSlash true))
      | none => parseAfterSlashes scheme (rest.dropWhile (isSlash true))
    else parseGeneral scheme rest
  | none =>
    match base with
    | none => .error .relativeWithoutBase
    | some b =>
      if t.head? == some '#' then .ok (copyBase b true t)
      else if b.isVerbatim then .error .relativeToVerbatim
      else if isFileScheme b.scheme then parseFile (some b) t
      else parseRelative b t

def parse (input : Text) : Except Error Url := resolve none input

def parse? (input : Text) : Option Url := (parse input).toOption

def join (u : Url) (reference : Text) : Except Error Url := resolve (some u) reference

end EndpointScout.Url
