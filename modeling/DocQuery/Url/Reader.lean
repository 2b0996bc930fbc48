import DocQuery.Url.Path
/-! Reading addresses, by themselves or relative to another. -/

namespace DocQuery.Url

/-- The text without control characters and spaces at its ends. -/
def trimEdges (text : String) : List Char :=
  let edge (c : Char) : Bool := c.toNat ≤ 0x20
  ((text.toList.dropWhile edge).reverse.dropWhile edge).reverse

/-- The scheme at the start of a text, and the text after its colon. -/
def readScheme? (cs : List Char) : Option (String × List Char) :=
  let isPart (c : Char) : Bool := c.isAlphanum || c == '+' || c == '-' || c == '.' || isIgnored c
  let name := visible (cs.takeWhile isPart)
  if name.head?.any Char.isAlpha then
    match cs.dropWhile isPart with
    | ':' :: rest => some ((String.ofList name).toLower, rest)
    | _ => none
  else none

/-! ### Authorities -/

/-- The user of an address: the name, and after a colon the password if there is one. -/
def readUser (cs : List Char) : String :=
  let name := cs.takeWhile (· != ':')
  match cs.dropWhile (· != ':') with
  | ':' :: c :: password =>
    encodeText userSet name ++ ":" ++ encodeText userSet (c :: password)
  | _ => encodeText userSet name

/-- The text of a host at the start of a text, and the text after it. -/
def splitHost (special inBrackets : Bool) : List Char → List Char × List Char
  | [] => ([], [])
  | c :: cs =>
    if (c == ':' && !inBrackets) || isSlash special c || endsPath c then ([], c :: cs)
    else
      let (host, rest) :=
        splitHost special (if c == '[' then true else if c == ']' then false else inBrackets) cs
      (c :: host, rest)

/-- Reads a port after its colon, if the text starts with one. -/
def readPort (scheme : String) (cs : List Char) : Except UrlError (Option Nat × List Char) :=
  match cs with
  | ':' :: cs =>
    let digits := cs.takeWhile Char.isDigit
    let rest := cs.dropWhile Char.isDigit
    let port := digits.foldl (fun n c => min (10 * n + (c.toNat - 48)) 65536) 0
    if 65535 < port then .error .badPort
    else if rest.head?.any fun c => !(isSlash true c || endsPath c) then .error .badPort
    else .ok (if digits.isEmpty || usualPort scheme == some port then none else some port, rest)
  | cs => .ok (none, cs)

/-- The texts before and after the last at sign of an authority. -/
def splitUser (special : Bool) (cs : List Char) : Option (List Char × List Char) :=
  let inside := cs.takeWhile fun c => !(isSlash special c || endsPath c)
  if inside.contains '@' then
    let host := (inside.reverse.takeWhile (· != '@')).reverse
    let user := inside.take (inside.length - host.length - 1)
    some (user, cs.drop (user.length + 1))
  else none

/-- Reads an address after the slashes before its authority. -/
def readAuthority (scheme : String) (cs : List Char) : Except UrlError Url := do
  let special := isSpecial scheme
  let (user, rest) := (splitUser special cs).getD ([], cs)
  let endsHere := rest.head?.any fun c => isSlash special c || endsPath c
  if (splitUser special cs).isSome && user.isEmpty && endsHere then throw .emptyHost
  let (hostText, rest) := splitHost special false rest
  if special && hostText.isEmpty then throw .emptyHost
  let host ← if special then Host.ofChars hostText else Host.ofOpaque hostText
  let user := readUser user
  if host = .name "" ∧ (rest.head? = some ':' ∨ !user.isEmpty) then throw .emptyHost
  let (port, rest) ← readPort scheme rest
  return withPath scheme (some { user, host, port }) rest

/-! ### Files -/

/-- The authority of a file on this machine. -/
def thisHost : Authority := { host := .name "" }

/-- Reads the address of a file after two slashes.  A drive in the place of the host starts the
path, and a path that starts with a drive has no host. -/
def readFileHost (cs : List Char) : Except UrlError Url := do
  let isHostChar (c : Char) : Bool := !(isSlash true c || endsPath c)
  let hostText := visible (cs.takeWhile isHostChar)
  let rest := cs.dropWhile isHostChar
  if isDrive hostText then return withSegments "file" (some thisHost) [] cs
  if hostText.isEmpty then return withSegments "file" (some thisHost) [] rest
  let host ← Host.ofChars hostText
  if host = .name "localhost" then return withSegments "file" (some thisHost) [] rest
  let path := if rest.head?.any (isSlash true) then rest.drop 1 else rest
  let (url, hasDrive) := withReading "file" (some { host }) { segments := [] } path
  return if hasDrive then { url with authority := some thisHost } else url

/-- Reads the address of a file after one slash.  Without a drive of its own it is on the drive of
the base, if the base is on one, or on the host of the base. -/
def readFilePath (authority : Authority) (base : List String) (cs : List Char) : Url :=
  if startsWithDrive (visible cs) then withSegments "file" (some thisHost) [] cs
  else
    match base.head?.filter fun s => isPlainDrive s.toList with
    | some drive => withSegments "file" (some thisHost) [drive] cs
    | none => withSegments "file" (some authority) [] cs

/-- What is read of a path before a text that is relative to the segments of a file.  The last
segment goes, unless it is a drive, and what is read is added to that one if others stand before
it. -/
def relativeReading (segments : List String) : PathReading :=
  match segments.getLast? with
  | some s =>
    if !isPlainDrive s.toList then { segments := segments.dropLast }
    else if segments.length = 1 then { segments }
    else { segments := segments.dropLast, stem := s }
  | none => { segments := [] }

/-- Reads the address of a file, relative to another if there is one. -/
def readFile (base : Option Url) (cs : List Char) : Except UrlError Url :=
  let authority := (base.bind (·.authority)).getD thisHost
  let segments := match base with
    | some { path := .segments segments, .. } => segments
    | _ => []
  match skipIgnored cs, base with
  | [], none => .ok (withSegments "file" (some thisHost) [] [])
  | [], some b => .ok { b with fragment := none }
  | c :: rest, _ =>
    if isSlash true c then
      match skipIgnored rest with
      | d :: rest' =>
        if isSlash true d then readFileHost rest' else .ok (readFilePath authority segments rest)
      | [] => .ok (readFilePath authority segments rest)
    else
      match base with
      | none => .ok (withSegments "file" (some thisHost) [] cs)
      | some b =>
        if c = '?' then
          let (query, fragment) := readEnd true cs
          .ok { b with query, fragment }
        else if c = '#' then .ok { b with fragment := (readEnd true cs).2 }
        else if startsWithDrive (visible cs) then .ok (withSegments "file" (some thisHost) [] cs)
        else .ok (withReading "file" (some authority) (relativeReading segments) cs).1

/-! ### Addresses -/

/-- Reads a text without scheme relative to an address that is no file. -/
def readRelative (base : Url) (cs : List Char) : Except UrlError Url :=
  let special := isSpecial base.scheme
  let segments := match base.path with
    | .segments segments => segments
    | .text _ => []
  match cs with
  | [] => .ok { base with fragment := none }
  | c :: rest =>
    if c = '?' then
      let (query, fragment) := readEnd special cs
      .ok { base with query, fragment }
    else if c = '#' then .ok { base with fragment := (readEnd special cs).2 }
    else if isSlash true c then
      match rest with
      | d :: rest' =>
        if c = '/' ∧ d = '/' then readAuthority base.scheme rest'
        else if isSlash true d then readAuthority base.scheme (cs.dropWhile (isSlash true))
        else .ok (withSegments base.scheme base.authority [] rest)
      | [] => .ok (withSegments base.scheme base.authority [] rest)
    else .ok (withSegments base.scheme base.authority segments.dropLast cs)

/-- Reads an address after its scheme. -/
def readAfterScheme (base : Option Url) (scheme : String) (rest : List Char) :
    Except UrlError Url :=
  let cs := visible rest
  if scheme = "file" then readFile (base.filter (·.scheme == "file")) rest
  else if isSpecial scheme then
    let slashes := cs.takeWhile (isSlash true)
    match base.filter fun b => slashes.length < 2 && b.scheme == scheme with
    | some b => readRelative b cs
    | none => readAuthority scheme (cs.drop slashes.length)
  else
    match cs with
    | '/' :: '/' :: rest => readAuthority scheme rest
    | '/' :: rest => .ok (withSegments scheme none [] rest)
    | cs =>
      let (query, fragment) := readEnd false (cs.dropWhile (!endsPath ·))
      .ok { scheme, authority := none, query, fragment
            path := .text (encodeText "" (cs.takeWhile (!endsPath ·))) }

/-- Reads an address, relative to another if there is one. -/
def read (base : Option Url) (text : String) : Except UrlError Url :=
  let trimmed := trimEdges text
  let cs := visible trimmed
  match readScheme? trimmed with
  | some (scheme, rest) => readAfterScheme base scheme rest
  | none =>
    match base with
    | none => .error .noBase
    | some b =>
      if cs.head? = some '#' then .ok { b with fragment := (readEnd false cs).2 }
      else if b.isOpaque then .error .opaqueBase
      else if b.scheme = "file" then readFile (some b) trimmed
      else readRelative b cs

/-- Reads an address. -/
def ofText (text : String) : Except UrlError Url := read none text

/-- Reads an address relative to another. -/
def join (base : Url) (text : String) : Except UrlError Url := read (some base) text

/-! ### Relative bases -/

/-- Whether two addresses belong together.  Addresses whose scheme does not say who they belong to
belong to nobody else; of an address of data in memory the address inside counts. -/
def sameOrigin (a b : Url) : Bool :=
  let origin? (u : Url) : Option Origin :=
    match u.scheme, u.path with
    | "blob", .text text => (ofText text).toOption.bind Url.origin?
    | _, _ => u.origin?
  (origin? a).isSome && origin? a == origin? b

/-- The origin that stands in for the one that a base without scheme does not name. -/
def placeholder : Url :=
  { scheme := "http", authority := some { host := .name "relative.invalid" }
    path := .segments [""] }

/-- Resolves a reference against a base.  A base without scheme gives a result without origin,
unless the reference or the base names one. -/
def resolve (base reference : String) : Except UrlError String :=
  match ofText base with
  | .ok b => source <$> b.join reference
  | .error .noBase => do
    let b ← placeholder.join base
    let u ← b.join reference
    return if sameOrigin u placeholder then u.fromPath else u.source
  | .error e => .error e

end DocQuery.Url
