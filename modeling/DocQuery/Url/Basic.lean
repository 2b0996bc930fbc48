import DocQuery.Url.Host
/-! Addresses: scheme, host, path, query and fragment, each as it is written in the end. -/

namespace DocQuery

namespace Url

/-- What stands between the slashes of an address and its path. -/
structure Authority where
  /-- Name and password of a user. -/
  user : String := ""
  host : Host
  /-- A port that is not the usual one of the scheme. -/
  port : Option Nat := none
  deriving DecidableEq, Repr, Inhabited

/-- A path. -/
inductive Path where
  /-- A path that nothing can be relative to. -/
  | text (text : String)
  /-- Segments, each after a slash. -/
  | segments (segments : List String)
  deriving DecidableEq, Repr, Inhabited

/-- Schemes with a usual port. -/
def usualPort : String → Option Nat
  | "http" | "ws" => some 80
  | "https" | "wss" => some 443
  | "ftp" => some 21
  | _ => none

/-- Schemes with a meaning of their own for host and path. -/
def isSpecial (scheme : String) : Bool := scheme == "file" || (usualPort scheme).isSome

/-- Whether a path without a host could be taken for a host. -/
def Path.looksLikeHost : Path → Bool
  | segments ("" :: _ :: _) => true
  | _ => false

/-- A path as addresses write it. -/
def Path.source : Path → String
  | text t => t
  | segments parts => String.join (parts.map ("/" ++ ·))

/-- An authority as addresses write it. -/
def Authority.source (a : Authority) : String :=
  "//" ++ (if a.user.isEmpty then "" else a.user ++ "@") ++ a.host.source ++
    match a.port with
    | some port => s!":{port}"
    | none => ""

end Url

/-- An address. -/
structure Url where
  scheme : String
  authority : Option Url.Authority
  path : Url.Path
  query : Option String := none
  fragment : Option String := none
  deriving DecidableEq, Repr, Inhabited

namespace Url

/-- The address from its path on. -/
def fromPath (u : Url) : String :=
  u.path.source ++ (u.query.map ("?" ++ ·)).getD "" ++ (u.fragment.map ("#" ++ ·)).getD ""

/-- The address as text. -/
def source (u : Url) : String :=
  let authority := match u.authority with
    | some a => a.source
    | none => if u.path.looksLikeHost then "/." else ""
  u.scheme ++ ":" ++ authority ++ u.fromPath

/-- Whether nothing but a fragment can be relative to an address. -/
def isOpaque (u : Url) : Bool :=
  match u.path with
  | .text _ => true
  | .segments _ => false

/-- Who an address belongs to. -/
structure Origin where
  scheme : String
  host : Host
  port : Option Nat
  deriving DecidableEq, Repr

/-- Who an address belongs to, if its scheme says so. -/
def origin? (u : Url) : Option Origin :=
  match usualPort u.scheme, u.authority with
  | some usual, some a => some ⟨u.scheme, a.host, some (a.port.getD usual)⟩
  | _, _ => none

end Url

end DocQuery
