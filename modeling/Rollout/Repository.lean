import Rollout.Package
import Rollout.Url.Parse
import Rollout.Fault
/-!
# Package repositories

The packagecloud actors list the package versions of a repository and delete single versions.
They reach the repositories of one account in one of two ways:

* **In memory.** The repositories are lists of packages held here. Listing a repository that
  does not exist is refused as a missing page (`404 Not Found`); a listing or a deletion may be
  scripted to fail with a given fault. A deletion removes the first equal version and is
  recorded as `repo/distribution/file`; listings are counted. A request is carried out at once
  and its answer takes the store's latency to arrive; the listing with a given number may be
  scripted to cancel the run.
* **Unreachable.** The service is named by an endpoint but cannot be reached: every request
  fails, an operational fault. A listing goes to `{endpoint}repos/{account}/{repo}/packages.json`
  with the page size as query parameter, a deletion to
  `{endpoint}repos/{account}/{repo}/{distribution}/{file}`. The request cannot be made when
  that text does not read as a location, names no host or has a scheme other than `http` and
  `https`; otherwise it cannot be sent. Either way the fault names the location as read, when
  it reads (`SendFailure`).

The operations are named `list packages in {repo}` and `delete {repo}/{distribution}/{file}`.

* `Store.list_missing`: listing a repository that does not exist is refused.
-/

namespace Rollout

/-- The name of the listing of a repository. -/
def listOperation (repo : String) : String := "list packages in " ++ repo

/-- Where a version lives in its repository: `repo/distribution/file`. -/
def Package.target (p : Package) (repo : String) : String :=
  repo ++ "/" ++ p.distroVersion ++ "/" ++ p.filename

/-- The name of the deletion of a version. -/
def deleteOperation (repo : String) (p : Package) : String := "delete " ++ p.target repo

/-- Repositories held in memory, with scripted failures and a record of what was done. -/
structure Store where
  repos : List (String × List Package) := []
  /-- Faults that every listing of a repository fails with. -/
  listFaults : List (String × Fault) := []
  /-- Faults that the deletion of a `repo/distribution/file` fails with. -/
  deleteFaults : List (String × Fault) := []
  /-- Deleted versions as `repo/distribution/file`, in order. -/
  deleted : Array String := #[]
  /-- Listings asked for so far. -/
  listings : Nat := 0
  /-- The number of the listing that cancels the run when it is asked for, if any. -/
  cancelAt : Option Nat := none
  /-- Milliseconds the answer to a request takes to arrive. -/
  latency : Nat := 0
deriving Inhabited

namespace Store

/-- Removes the first version equal to a package. -/
def removeFirst (p : Package) : List Package → List Package
  | [] => []
  | q :: rest => if q = p then rest else q :: removeFirst p rest

/-- Lists a repository, counting the listing. -/
def list (s : Store) (repo : String) : Store × Except Fault (List Package) :=
  let s := { s with listings := s.listings + 1 }
  match Keyed.get? repo s.listFaults with
  | some f => (s, .error f)
  | none =>
    match Keyed.get? repo s.repos with
    | some ps => (s, .ok ps)
    | none => (s, .error (.unrecoverable (listOperation repo ++ " was rejected with 404 Not Found")))

theorem list_missing (s : Store) (repo : String) (h1 : Keyed.get? repo s.listFaults = none)
    (h2 : Keyed.get? repo s.repos = none) :
    (s.list repo).2 = .error (.unrecoverable (listOperation repo ++ " was rejected with 404 Not Found")) := by
  simp [list, h1, h2]

/-- Deletes a version from a repository. -/
def delete (s : Store) (repo : String) (p : Package) : Store × Except Fault Unit :=
  let target := p.target repo
  match Keyed.get? target s.deleteFaults with
  | some f => (s, .error f)
  | none =>
    let repos := s.repos.map fun (name, ps) => if name = repo then (name, removeFirst p ps) else (name, ps)
    ({ s with repos, deleted := s.deleted.push target }, .ok ())

/-- Adds a version to the end of a repository, creating it if needed. -/
def add (s : Store) (repo : String) (p : Package) : Store :=
  match Keyed.get? repo s.repos with
  | some ps => { s with repos := s.repos.map fun (name, qs) => if name = repo then (name, ps ++ [p]) else (name, qs) }
  | none => { s with repos := s.repos ++ [(repo, [p])] }

end Store

/-- How a request to a service that cannot be reached fails. -/
inductive SendFailure where
  /-- The request cannot be made: its location does not read, names no host, or has a scheme
  other than `http` and `https`; the location is known when it reads. -/
  | builder (location : Option Url.Location)
  /-- The request is made but cannot be sent. -/
  | sending (location : Url.Location)
deriving Inhabited

namespace SendFailure

/-- The client's words for the failure. -/
def message : SendFailure → String
  | .builder none => "builder error"
  | .builder (some l) => "builder error for url (" ++ l.render ++ ")"
  | .sending l => "error sending request for url (" ++ l.render ++ ")"

/-- A request to a location given as text, with a query pair when there is one. A location
without host fails as it reads; otherwise the user name and password go into a header and
leave the location, and the pair is appended to the query before the scheme is checked. -/
def ofRequest (text : String) (pair : Option (String × String)) : SendFailure :=
  match Url.parse text with
  | .error _ => .builder none
  | .ok l =>
    if !l.hasHost then .builder (some l)
    else
      let l := l.withoutCredentials
      let l := match pair with
        | some (name, value) => l.withPair name value
        | none => l
      if l.scheme == "http" || l.scheme == "https" then .sending l else .builder (some l)

end SendFailure

/-- An endpoint that cannot be reached, as text ending with a slash, and the account whose
repositories are asked for. -/
structure Unreachable where
  endpoint : String
  account : String

namespace Unreachable

/-- The page size asked for in a listing: all versions at once. -/
def pageSize : Nat := 9223372036854775807

/-- The location of a request for a path below the account, as text. -/
def location (u : Unreachable) (path : String) : String :=
  u.endpoint ++ "repos/" ++ u.account ++ "/" ++ path

/-- A listing, which fails. -/
def list (u : Unreachable) (repo : String) : Fault :=
  .operational (listOperation repo)
    (SendFailure.ofRequest (u.location (repo ++ "/packages.json"))
      (some ("per_page", toString pageSize))).message

/-- A deletion, which fails. -/
def delete (u : Unreachable) (repo : String) (p : Package) : Fault :=
  .operational (deleteOperation repo p)
    (SendFailure.ofRequest (u.location (repo ++ "/" ++ p.distroVersion ++ "/" ++ p.filename))
      none).message

end Unreachable

/-- The repositories the packagecloud actors reach. -/
inductive Repository where
  | memory (store : Store)
  | unreachable (endpoint : Unreachable)
deriving Inhabited

end Rollout
