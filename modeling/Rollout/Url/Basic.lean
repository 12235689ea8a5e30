import Rollout.Url.Host
/-!
# Locations

A location (a URL) has a scheme, possibly a user name and password, a host and a port, a path,
and possibly a query and a fragment. The schemes `http`, `https`, `ws`, `wss`, `ftp` and
`file` are special: their paths are lists of segments and their hosts are domain names or
addresses. A port equal to the scheme's default port is not kept.

Written out, a location is its scheme and a colon, then `//` and the host when there is one
(after the user name and password, before the port), then the path, `?` and the query, `#` and
the fragment. A location without host whose path starts with an empty segment writes `/.`
before it, so that it is not read back with a host.

* `render_http`: a location of scheme `http` at `example.com` with path `/a` is written
  `http://example.com/a`.
-/

namespace Rollout.Url

/-- Whether a scheme is special. -/
def isSpecialScheme (scheme : String) : Bool :=
  ["http", "https", "ws", "wss", "ftp", "file"].contains scheme

/-- The default port of a scheme, if it has one. -/
def defaultPort : String → Option Nat
  | "http" | "ws" => some 80
  | "https" | "wss" => some 443
  | "ftp" => some 21
  | _ => none

/-- The path of a location: text taken whole, or segments each written after a slash. -/
inductive UrlPath where
  | whole (text : String)
  | segments (list : List String)
deriving DecidableEq, Inhabited

/-- A location. -/
structure Location where
  scheme : String
  username : String := ""
  password : String := ""
  host : Option Host := none
  port : Option Nat := none
  path : UrlPath
  query : Option String := none
  fragment : Option String := none
deriving DecidableEq, Inhabited

namespace Location

/-- Whether a location names a host: an empty host does not count. -/
def hasHost (l : Location) : Bool :=
  match l.host with
  | some .empty | none => false
  | some _ => true

/-- The location without user name and password. -/
def withoutCredentials (l : Location) : Location :=
  { l with username := "", password := "" }

/-- Appends a `name=value` pair to the query, after a `&` when the query is not empty. -/
def withPair (l : Location) (name value : String) : Location :=
  let pair := name ++ "=" ++ value
  { l with query := some (match l.query with
      | none | some "" => pair
      | some q => q ++ "&" ++ pair) }

/-- The user name and password as written before the host. -/
def userinfo (l : Location) : String :=
  if l.username.isEmpty && l.password.isEmpty then ""
  else l.username ++ (if l.password.isEmpty then "" else ":" ++ l.password) ++ "@"

/-- The path as written. -/
def pathText : UrlPath → String
  | .whole text => text
  | .segments list => String.join (list.map ("/" ++ ·))

/-- The location as text. -/
def render (l : Location) : String :=
  let authority := match l.host with
    | some h => "//" ++ l.userinfo ++ h.render ++
        (match l.port with | some p => ":" ++ toString p | none => "")
    | none =>
      match l.path with
      | .segments ("" :: _ :: _) => "/."
      | _ => ""
  l.scheme ++ ":" ++ authority ++ pathText l.path ++
    (match l.query with | some q => "?" ++ q | none => "") ++
    (match l.fragment with | some f => "#" ++ f | none => "")

theorem render_http :
    render { scheme := "http", host := some (.domain "example.com"), path := .segments ["a"] } =
      "http://example.com/a" := by
  decide

end Location

end Rollout.Url
