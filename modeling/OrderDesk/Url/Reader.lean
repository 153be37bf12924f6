import OrderDesk.Url.Host

/-!
Reading urls. A text is read as a url of its own or, when it lacks the first parts of one, relative
to a base that supplies them.
-/
namespace OrderDesk.Url
open Text

/-- What is left of a text of a url: nothing of the control characters and blanks at its ends, and
nothing of its tabs and line ends. -/
def cleaned (raw : String) : List Char :=
  (strip (fun c => c.toNat ≤ 0x20) raw.toList).filter fun c => !(c ∈ ['\t', '\n', '\r'])

/-- The scheme that a text starts with and what follows its colon. -/
def splitScheme? (s : List Char) : Option (String × List Char) :=
  if s.head?.any Char.isAlpha then do
    let (scheme, rest) ← splitFirst? ':' s
    if scheme.all fun c => c.isAlphanum || c ∈ ['+', '-', '.'] then
      some (lowerAscii (String.ofList scheme), rest)
    else none
  else none

/-- Whether a sign parts the names of a path. -/
def isStroke (special : Bool) (c : Char) : Bool :=
  c == '/' || (special && c == '\\')

/-- Whether a sign ends a path. -/
def endsPath (c : Char) : Bool :=
  c == '?' || c == '#'

/-- The query and fragment of the text after a path. -/
def readTail (special : Bool) (s : List Char) : Option (List Char) × Option (List Char) :=
  let fragment (s : List Char) : Option (List Char) :=
    match s with
    | '#' :: rest => some (Percent.encode isFragmentCoded rest)
    | _ => none
  match s with
  | '?' :: rest =>
    (some (Percent.encode (isQueryCoded special) (rest.takeWhile (· != '#'))),
      fragment (rest.dropWhile (· != '#')))
  | s => (none, fragment s)

/-- The text with every coded point decoded. -/
def decodedPoints : List Char → List Char
  | '%' :: '2' :: e :: rest =>
    if e = 'e' ∨ e = 'E' then '.' :: decodedPoints rest
    else '%' :: '2' :: decodedPoints (e :: rest)
  | c :: rest => c :: decodedPoints rest
  | [] => []

/-- Whether a name stands for the directory itself. -/
def isHere (name : List Char) : Bool :=
  decodedPoints name == ['.']

/-- Whether a name stands for the directory above. -/
def isAbove (name : List Char) : Bool :=
  decodedPoints name == ['.', '.']

/-- Whether a name is a letter and a colon, or a bar in its place: the name of a drive. -/
def isDrive (name : List Char) : Bool :=
  match name with
  | [c, d] => c.isAlpha && (d == ':' || d == '|')
  | _ => false

/-- Whether a name is that of a drive as it is kept. -/
def isKeptDrive (name : List Char) : Bool :=
  isDrive name && name.getLast? == some ':'

/-- Whether a text starts with a drive that ends there or before the end of a name. -/
def startsWithDrive (s : List Char) : Bool :=
  isDrive (s.take 2) && (s.drop 2).head?.all fun c => isStroke true c || endsPath c

/-- A path while it is read: the names that a stroke ends, what stands after the last stroke, and
whether the first name was read as a drive. -/
structure Trail where
  done : List (List Char) := []
  start : List Char := []
  onDrive : Bool := false
  deriving DecidableEq, Repr

namespace Trail

/-- The trail after a stroke. -/
def ended (t : Trail) : Trail :=
  { t with done := t.done ++ [t.start], start := [] }

/-- The trail with a stroke at its end. -/
def closed (t : Trail) : Trail :=
  if t.start.isEmpty then t else t.ended

/-- The trail to the directory above. No step leads above a drive. -/
def above (t : Trail) : Trail :=
  if t.start.isEmpty && !t.done.getLast?.any fun name => startsWithDrive (name ++ ['/']) then
    { t with done := t.done.dropLast }
  else t

/-- The trail with a name, which may be a drive at the start of a file's path. -/
def add (file : Bool) (t : Trail) (name : List Char) : Trail :=
  let plain := { t with start := t.start ++ Percent.encode isPathCoded name }
  if file && t.done.isEmpty && t.start.isEmpty then
    if isDrive name then { t with start := name.take 1 ++ [':'], onDrive := true }
    else if isKeptDrive (name.take 2) then
      { t with done := [name.take 2], start := Percent.encode isPathCoded (name.drop 2) }
    else plain
  else plain

/-- The trail along further names. One that ends with a step to the same or the upper directory
ends with a stroke. -/
def follow (file : Bool) (t : Trail) : List (List Char) → Trail
  | [] => t
  | [name] => if isAbove name then t.above else if isHere name then t.closed else t.add file name
  | name :: rest =>
    let next :=
      if isAbove name then t.above.closed
      else if isHere name then t.closed
      else (t.add file name).ended
    follow file next rest

/-- The names of a trail. -/
def names (t : Trail) : List (List Char) :=
  t.done ++ [t.start]

end Trail

/-- The names without empty ones at the start, of which the last one stays. -/
def dropEmpty : List (List Char) → List (List Char)
  | [] :: n :: ns => dropEmpty (n :: ns)
  | ns => ns

/-- The trail along the names of a text. -/
def readTrail (scheme : String) (t : Trail) (s : List Char) : Trail :=
  let special := kindOf scheme != .other
  let strokes := s.map fun c => if isStroke special c then '/' else c
  t.follow (kindOf scheme == .file) (pieces '/' strokes)

/-- A url from its first parts and the text that holds its path, query and fragment. The path goes
on from a trail. -/
def withRest (scheme : String) (authority : Option Authority) (t : Trail) (s : List Char) : Url :=
  let t := readTrail scheme t (s.takeWhile fun c => !endsPath c)
  let (query, fragment) := readTail (kindOf scheme != .other) (s.dropWhile fun c => !endsPath c)
  let ns := if kindOf scheme = .file then dropEmpty t.names else t.names
  ⟨scheme, authority, .names ns, query, fragment⟩

/-- A url from its scheme and authority and the text after them. -/
def afterAuthority (scheme : String) (a : Authority) (s : List Char) : Url :=
  let special := kindOf scheme != .other
  if s.head?.any (isStroke special) then withRest scheme (some a) {} (s.drop 1)
  else if !special && s.head?.all endsPath then
    let (query, fragment) := readTail false s
    ⟨scheme, some a, .names [], query, fragment⟩
  else withRest scheme (some a) {} s

/-- The user and password of the text before the last at sign, and the text after it. -/
def readUser (special : Bool) (s : List Char) :
    Except UrlError (List Char × List Char × List Char) :=
  let ends (c : Char) : Bool := isStroke special c || endsPath c
  let part := s.takeWhile fun c => !ends c
  if !part.contains '@' then .ok ([], [], s)
  else
    let host := (part.reverse.takeWhile (· != '@')).reverse
    let user := part.take (part.length - host.length - 1)
    let rest := host ++ s.dropWhile fun c => !ends c
    if user.isEmpty && rest.head?.any ends then .error .emptyHost
    else
      let coded (t : List Char) : List Char := Percent.encode isUserCoded t
      match splitFirst? ':' user with
      | none => .ok (coded user, [], rest)
      | some (name, password) => .ok (coded name, coded password, rest)

/-- The text of a host up to the number or path after it. A colon between brackets belongs to the
host. -/
def hostPart (special : Bool) : Bool → List Char → List Char
  | _, [] => []
  | inside, c :: rest =>
    if isStroke special c || endsPath c || (c == ':' && !inside) then []
    else c :: hostPart special (if c = '[' then true else if c = ']' then false else inside) rest

/-- The greatest number after a host. -/
def maxPortNumber : Nat := 65535

/-- The number after a colon, if one is given that is not the usual one, and the text after it. -/
def readPortNumber (scheme : String) : List Char → Except UrlError (Option Nat × List Char)
  | ':' :: s =>
    let ds := s.takeWhile Char.isDigit
    let rest := s.dropWhile Char.isDigit
    let portNumber := (digitsValue? 10 ds).getD 0
    if maxPortNumber < portNumber || rest.head?.any fun c => !(isStroke true c || endsPath c) then
      .error .invalidPortNumber
    else if ds.isEmpty || usualPortNumber? scheme = some portNumber then .ok (none, rest)
    else .ok (some portNumber, rest)
  | s => .ok (none, s)

/-- A url from its scheme and the text after the two strokes. -/
def readAuthority (scheme : String) (s : List Char) : Except UrlError Url := do
  let special := kindOf scheme != .other
  let (user, password, s) ← readUser special s
  let part := hostPart special false s
  if special && part.isEmpty then throw .emptyHost
  let host ← if special then host? part else plainHost? part
  let rest := s.drop part.length
  if host.isEmpty && (rest.head? = some ':' || !user.isEmpty || !password.isEmpty) then
    throw .emptyHost
  let (portNumber, rest) ← readPortNumber scheme rest
  return afterAuthority scheme ⟨user, password, host, portNumber⟩ rest

/-- The names of a base, and none of a fixed path. -/
def names (u : Url) : List (List Char) :=
  match u.path with
  | .names ns => ns
  | .fixed _ => []

/-- The url with another fragment. -/
def withFragment (base : Url) (s : List Char) : Url :=
  { base with fragment := (readTail false s).2 }

/-- The url with another query and fragment. -/
def withTail (base : Url) (s : List Char) : Url :=
  let (query, fragment) := readTail (kindOf base.scheme != .other) s
  { base with query := query, fragment := fragment }

/-- A url relative to a base that is no file. -/
def readRelative (base : Url) (s : List Char) : Except UrlError Url :=
  match s with
  | [] => .ok { base with fragment := none }
  | '?' :: _ => .ok (base.withTail s)
  | '#' :: _ => .ok (base.withFragment s)
  | c :: rest =>
    if isStroke true c then
      match s with
      | '/' :: '/' :: rest => readAuthority base.scheme rest
      | _ =>
        if rest.head?.any (isStroke true) then
          readAuthority base.scheme (s.dropWhile (isStroke true))
        else .ok (withRest base.scheme base.authority {} rest)
    else .ok (withRest base.scheme base.authority { done := base.names.dropLast } s)

/-- An authority that names nothing. -/
def noHost : Authority := { host := [] }

/-- A file without a host. -/
def fileAt (t : Trail) (s : List Char) : Url :=
  withRest "file" (some noHost) t s

/-- A file after two strokes: its host and its path. A drive that stands for the first name of the
path leaves no host, whether it follows a host or stands in its place. -/
def readFileHost (s : List Char) : Except UrlError Url := do
  let part := s.takeWhile fun c => !(isStroke true c || endsPath c)
  if isDrive part then return fileAt {} s
  let rest := s.drop part.length
  let host ← if part.isEmpty then pure [] else host? part
  if host.isEmpty || host == "localhost".toList then return fileAt {} rest
  let path := if rest.head?.any (isStroke true) then rest.drop 1 else rest
  let trail := readTrail "file" {} (path.takeWhile fun c => !endsPath c)
  return withRest "file" (some { host := if trail.onDrive then [] else host }) {} path

/-- Where a path relative to a file starts. A drive at the end of the file's path stays. -/
def fileTrail (base : Url) : Trail :=
  match base.names.getLast?.filter isKeptDrive with
  | none => { done := base.names.dropLast }
  | some drive =>
    if base.names.length = 1 then { done := [drive] }
    else { done := base.names.dropLast, start := drive }

/-- A file, perhaps relative to another one. -/
def readFile (base : Option Url) (s : List Char) : Except UrlError Url :=
  match s with
  | c :: rest =>
    if isStroke true c then
      if rest.head?.any (isStroke true) then readFileHost (rest.drop 1)
      else
        match base.filter fun _ => !startsWithDrive rest with
        | none => .ok (fileAt {} rest)
        | some b =>
          match b.names.head?.filter isKeptDrive with
          | some drive => .ok (fileAt { done := [drive] } rest)
          | none => .ok (withRest "file" b.authority {} rest)
    else
      match base with
      | none => .ok (fileAt {} s)
      | some b =>
        if c = '?' then .ok (b.withTail s)
        else if c = '#' then .ok (b.withFragment s)
        else if startsWithDrive s then .ok (fileAt {} s)
        else .ok (withRest "file" b.authority (fileTrail b) s)
  | [] =>
    match base with
    | none => .ok (fileAt {} [])
    | some b => .ok { b with fragment := none }

/-- A url of a scheme that is neither special nor a file. -/
def readOther (scheme : String) (s : List Char) : Except UrlError Url :=
  match s with
  | '/' :: '/' :: rest => readAuthority scheme rest
  | '/' :: rest => .ok (withRest scheme none {} rest)
  | s =>
    let path := s.takeWhile fun c => !endsPath c
    let (query, fragment) := readTail false (s.dropWhile fun c => !endsPath c)
    .ok ⟨scheme, none, .fixed (Percent.encode isControl path), query, fragment⟩

/-- A url of a special scheme. One with fewer than two strokes is relative to a base of the same
scheme. -/
def readSpecial (base : Option Url) (scheme : String) (s : List Char) : Except UrlError Url :=
  let own := readAuthority scheme (s.dropWhile (isStroke true))
  match base with
  | none => own
  | some b =>
    if (s.takeWhile (isStroke true)).length < 2 && b.scheme == scheme then readRelative b s else own

/-- The url that a text writes, relative to a base if there is one. -/
def read (base : Option Url) (raw : String) : Except UrlError Url :=
  let s := cleaned raw
  match splitScheme? s with
  | some (scheme, rest) =>
    match kindOf scheme with
    | .file => readFile (base.filter (·.scheme == "file")) rest
    | .special => readSpecial base scheme rest
    | .other => readOther scheme rest
  | none =>
    match base with
    | none => .error .noBase
    | some b =>
      if s.head? = some '#' then .ok (b.withFragment s)
      else if b.isFixed then .error .fixedBase
      else if kindOf b.scheme = .file then readFile (some b) s
      else readRelative b s

end OrderDesk.Url
