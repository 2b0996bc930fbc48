import DocQuery.Url.Basic
/-! Reading the path of an address and what stands behind it.  A path is read by segments; two dots
take the last segment away and one dot means nothing.  A segment that is the letter of a drive is
never taken away. -/

namespace DocQuery.Url

/-- Characters that are encoded in fragments. -/
def fragmentSet : String := " \"<>\x60"

/-- Characters that are encoded in paths. -/
def pathSet : String := fragmentSet ++ "#?\x7b\x7d"

/-- Characters that are encoded in names and passwords. -/
def userSet : String := pathSet ++ "/:;=@[\\]^|"

/-- Characters that are encoded in queries. -/
def querySet (special : Bool) : String := " \"#<>" ++ if special then "\x27" else ""

/-- Text with characters of a set encoded. -/
def encodeText (set : String) (cs : List Char) : String :=
  String.ofList (cs.flatMap (encodeChar set))

/-- Tabs and line ends, which mean nothing in an address. -/
def isIgnored (c : Char) : Bool := c == '\t' || c == '\n' || c == '\r'

/-- The characters that mean something. -/
def visible (cs : List Char) : List Char := cs.filter (!isIgnored ·)

/-- A text from its first character on that means something. -/
def skipIgnored (cs : List Char) : List Char := cs.dropWhile isIgnored

def isSlash (special : Bool) (c : Char) : Bool := c == '/' || (special && c == '\\')

/-- Characters that end a path. -/
def endsPath (c : Char) : Bool := c == '?' || c == '#'

/-! ### Segments -/

/-- Whether a segment means the segment before. -/
def isDoubleDot (segment : String) : Bool :=
  ["..", ".%2e", "%2e.", "%2e%2e"].contains segment.toLower

/-- Whether a segment means nothing. -/
def isSingleDot (segment : String) : Bool :=
  [".", "%2e"].contains segment.toLower

/-- Whether a text is the letter of a drive with a mark after it. -/
def isDrive (cs : List Char) : Bool :=
  match cs with
  | [c, ':'] | [c, '|'] => c.isAlpha
  | _ => false

/-- Whether a text is the letter of a drive with a colon after it. -/
def isPlainDrive (cs : List Char) : Bool := isDrive cs && cs.contains ':'

/-- Whether a text starts with a segment that is a drive. -/
def startsWithDrive (cs : List Char) : Bool :=
  isDrive (cs.take 2) && (cs[2]?).all fun c => c == '/' || c == '\\' || endsPath c

/-- Segments without the last; a drive stays. -/
def shorten (segments : List String) : List String :=
  if segments.getLast?.any fun s => isDrive s.toList then segments else segments.dropLast

/-- What was read of a path. -/
structure PathReading where
  /-- Segments with a slash after them. -/
  segments : List String
  /-- What the open segment starts with, whatever is read. -/
  stem : String := ""
  /-- Whether dots are plain characters of the open segment. -/
  plain : Bool := false
  /-- Whether the path was found to start with a drive. -/
  hasDrive : Bool := false
  deriving Repr

namespace PathReading

/-- The open segment ends; `closed` tells whether a slash follows. -/
def add (r : PathReading) (file closed : Bool) (segment : String) : PathReading :=
  let kept := if r.stem.isEmpty then r.segments else r.segments ++ [r.stem]
  let opened (segments : List String) : List String :=
    if closed then segments else segments ++ [""]
  if !r.plain && isDoubleDot segment then
    { segments := if r.stem.isEmpty then opened (shorten kept) else kept, hasDrive := r.hasDrive }
  else if !r.plain && isSingleDot segment then { segments := opened kept, hasDrive := r.hasDrive }
  else if file && !r.plain && kept.isEmpty && isDrive segment.toList then
    { segments := [String.ofList (segment.toList.take 1 ++ [':'])], hasDrive := true }
  else { segments := r.segments ++ [r.stem ++ segment], hasDrive := r.hasDrive }

/-- Whether a file's path is so far a drive, without a slash after it, whose last character stands
before an ignored one. -/
def endsInDrive (r : PathReading) (file ignored : Bool) (segment : List Char) : Bool :=
  file && ignored && !r.plain && r.segments.isEmpty && isPlainDrive segment.reverse

end PathReading

/-- Reads segments up to the end of the path.  `segment` holds in reverse the characters of the open
one, and `ignored` tells whether the last character means nothing; such a one parts a drive from
what follows. -/
def readSegments (scheme : String) (r : PathReading) (segment : List Char) (ignored : Bool) :
    List Char → PathReading × List Char
  | [] => (r.add (scheme == "file") false (encodeText pathSet segment.reverse), [])
  | c :: cs =>
    if isIgnored c then readSegments scheme r segment true cs
    else if isSlash (isSpecial scheme) c then
      readSegments scheme (r.add (scheme == "file") true (encodeText pathSet segment.reverse)) []
        false cs
    else if endsPath c then
      (r.add (scheme == "file") false (encodeText pathSet segment.reverse), c :: cs)
    else if r.endsInDrive (scheme == "file") ignored segment then
      readSegments scheme { segments := [String.ofList segment.reverse], plain := true } [c] false
        cs
    else readSegments scheme r (c :: segment) false cs

/-- Segments of a file without empty ones at the start. -/
def dropEmpty : List String → List String
  | "" :: s :: rest => dropEmpty (s :: rest)
  | segments => segments

/-! ### Query and fragment -/

/-- The query and the fragment at the end of an address. -/
def readEnd (special : Bool) (cs : List Char) : Option String × Option String :=
  let fragment (cs : List Char) : Option String :=
    match cs with
    | '#' :: rest => some (encodeText fragmentSet rest)
    | _ => none
  match visible cs with
  | '?' :: rest =>
    (some (encodeText (querySet special) (rest.takeWhile (· != '#'))),
      fragment (rest.dropWhile (· != '#')))
  | cs => (none, fragment cs)

/-! ### Addresses from their path on -/

/-- An address whose path goes on with a text, and whether the path was found to start with a
drive. -/
def withReading (scheme : String) (authority : Option Authority) (r : PathReading)
    (cs : List Char) : Url × Bool :=
  let (r, rest) := readSegments scheme r [] false cs
  let segments := if scheme == "file" then dropEmpty r.segments else r.segments
  let (query, fragment) := readEnd (isSpecial scheme) rest
  ({ scheme, authority, path := .segments segments, query, fragment }, r.hasDrive)

/-- An address whose path goes on from the given segments. -/
def withSegments (scheme : String) (authority : Option Authority) (segments : List String)
    (cs : List Char) : Url :=
  (withReading scheme authority { segments } cs).1

/-- An address whose path starts after its authority. -/
def withPath (scheme : String) (authority : Option Authority) (cs : List Char) : Url :=
  match cs with
  | [] =>
    { scheme, authority, path := .segments (if isSpecial scheme then [""] else []) }
  | c :: rest =>
    if isSlash (isSpecial scheme) c then withSegments scheme authority [] rest
    else if endsPath c && !isSpecial scheme then
      let (query, fragment) := readEnd false cs
      { scheme, authority, path := .segments [], query, fragment }
    else withSegments scheme authority [] cs

end DocQuery.Url
