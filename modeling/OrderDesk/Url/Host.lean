import OrderDesk.Url.Domain

/-!
Hosts of a url: domain names, addresses of four numbers, and addresses of eight between brackets.
A host is kept in one form, so that two spellings of the same address become equal.
-/
namespace OrderDesk.Url
open Text

/-- The number that digits of a base write, if all are digits of it. -/
def digitsValue? (base : Nat) (s : List Char) : Option Nat :=
  s.foldlM (fun n c => do
    let d ← hexDigit? c
    if d < base then some (base * n + d) else none) 0

/-- A number of an address: hexadecimal after `0x`, octal after a zero, and else decimal. -/
def addressNumber? : List Char → Option Nat
  | [] => none
  | '0' :: 'x' :: s => digitsValue? 16 s
  | '0' :: 'X' :: s => digitsValue? 16 s
  | '0' :: c :: s => digitsValue? 8 (c :: s)
  | s => digitsValue? 10 s

/-- The parts of a domain without an empty one at the end. -/
def domainParts (s : List Char) : List (List Char) :=
  let ps := pieces '.' s
  if ps.getLast? = some [] then ps.dropLast else ps

/-- Whether a domain reads as an address because its last part is a number. -/
def endsInNumber (s : List Char) : Bool :=
  match (domainParts s).getLast? with
  | none => false
  | some p => (!p.isEmpty && p.all Char.isDigit) || (addressNumber? p).isSome

/-- The numbers before the last one, each of which fills one of the places, and the last one, which
fills all that are left. -/
def placed? : Nat → List Nat → Option Nat
  | _, [] => none
  | places, [n] => if n < Nat.pow 256 places then some n else none
  | places, n :: ns => do
    let rest ← placed? (places - 1) ns
    if n < 256 then some (n * Nat.pow 256 (places - 1) + rest) else none

/-- The address of four numbers that a domain writes. -/
def ipv4? (s : List Char) : Option Nat := do
  let ps := domainParts s
  if 4 < ps.length then none
  else placed? 4 (← ps.mapM addressNumber?)

/-- The text of an address of four numbers. -/
def ipv4Text (n : Nat) : List Char :=
  ['.'].intercalate ([n / 16777216, n / 65536 % 256, n / 256 % 256, n % 256].map (Nat.toDigits 10))

/-- A decimal number of one byte that is written without needless zeros. -/
def byte? (s : List Char) : Option Nat :=
  if s.isEmpty || (1 < s.length && s.head? == some '0') then none
  else (digitsValue? 10 s).filter (· < 256)

/-- The one or two pieces of an address that a group of signs writes. Two are written as four bytes,
which may only stand at the end. -/
def group? (isLast : Bool) (s : List Char) : Option (List Nat) :=
  if isLast && s.contains '.' then
    match (pieces '.' s).mapM byte? with
    | some [a, b, c, d] => some [256 * a + b, 256 * c + d]
    | _ => none
  else if s.isEmpty || 4 < s.length then none
  else (digitsValue? 16 s).map ([·])

/-- The pieces that groups write. The flag tells whether the last group is the last of the whole
address. -/
def groups? (isLast : Bool) : List (List Char) → Option (List Nat)
  | [] => some []
  | [g] => group? isLast g
  | g :: gs => do
    let first ← group? false g
    let rest ← groups? isLast gs
    some (first ++ rest)

/-- The text before the first pair of colons and the text after it. -/
def splitGap? : List Char → Option (List Char × List Char)
  | ':' :: ':' :: rest => some ([], rest)
  | c :: rest => (splitGap? rest).map fun (before, after) => (c :: before, after)
  | [] => none

/-- The groups between the colons, of which an empty text has none. -/
def splitGroups (s : List Char) : List (List Char) :=
  if s.isEmpty then [] else pieces ':' s

/-- The eight pieces of an address. A pair of colons stands for as many zeros as are missing, which
must be at least one. -/
def ipv6? (s : List Char) : Option (List Nat) :=
  match splitGap? s with
  | none => (groups? true (splitGroups s)).filter (·.length = 8)
  | some (before, after) => do
    let high ← groups? false (splitGroups before)
    let low ← groups? true (splitGroups after)
    if high.length + low.length < 8 then
      some (high ++ List.replicate (8 - high.length - low.length) 0 ++ low)
    else none

/-- The start and length of the first longest row of zeros. -/
def zeroRow (ps : List Nat) : Nat × Nat :=
  let rows := (List.range ps.length).map fun i => (i, ((ps.drop i).takeWhile (· == 0)).length)
  rows.foldl (fun best row => if best.2 < row.2 then row else best) (0, 0)

/-- Pieces with a colon between each two. -/
def piecesText (ps : List Nat) : List Char :=
  [':'].intercalate (ps.map (Nat.toDigits 16))

/-- The text of an address of eight pieces, in which the first longest row of at least two zeros is
left out. -/
def ipv6Text (ps : List Nat) : List Char :=
  let (start, length) := zeroRow ps
  if length < 2 then '[' :: piecesText ps ++ [']']
  else
    '[' :: piecesText (ps.take start) ++ [':', ':'] ++ piecesText (ps.drop (start + length)) ++
      [']']

/-- The address that stands between brackets. -/
def bracketed? (s : List Char) : Except UrlError (List Char) :=
  if s.getLast? = some ']' then
    match ipv6? (s.drop 1).dropLast with
    | some ps => .ok (ipv6Text ps)
    | none => .error .invalidIpv6
  else .error .invalidIpv6

/-- A host of a scheme that knows domains and addresses. -/
def host? (s : List Char) : Except UrlError (List Char) :=
  if s.head? = some '[' then bracketed? s
  else
    match Domain.read? s with
    | none => .error .invalidDomain
    | some d =>
      if d.isEmpty then .error .emptyHost
      else if endsInNumber d then
        match ipv4? d with
        | some n => .ok (ipv4Text n)
        | none => .error .invalidIpv4
      else .ok d

/-- A host of a scheme that knows nothing of domains. -/
def plainHost? (s : List Char) : Except UrlError (List Char) :=
  if s.head? = some '[' then bracketed? s
  else if s.any isForbidden then .error .invalidHostSign
  else .ok (Percent.encode isControl s)

end OrderDesk.Url
