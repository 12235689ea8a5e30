import Rollout.Fault
import Rollout.Text.Blank
/-!
# Credentials

Actors that talk to AWS need an access key pair; actors that talk to the package repository
service need an account and a token, and know the service's endpoint. Each credential may be
missing. `require` trims each value of blanks and asks for a non-empty one, naming the first
that is missing by its environment variable.

The debugging forms never show a secret: the AWS secret key is written `"***"` in the keys,
and a repository token as `Some("***")`. (The AWS login as configured, before `require`, is
shown in full, secret included.)

* `require_fields`: keys that pass `require` are the trimmed, non-empty values.
-/

namespace Rollout

/-- Quoted `Some(...)` or `None`, as debugging output writes an optional text. -/
def debugOption : Option String → String
  | some s => "Some(" ++ Text.quote s ++ ")"
  | none => "None"

/-- A credential that must be set: trimmed, and not empty. -/
def required (value : Option String) (service envVar : String) : Except Fault String :=
  match value.map Text.trim with
  | some v => if v.isEmpty then .error (.missingCredentials service envVar) else .ok v
  | none => .error (.missingCredentials service envVar)

/-- The AWS access key pair as configured. -/
structure AwsLogin where
  accessKeyId : Option String := none
  secretAccessKey : Option String := none
deriving DecidableEq, Inhabited

/-- An AWS access key pair that is present. -/
structure AwsKeys where
  accessKeyId : String
  secretAccessKey : String
deriving DecidableEq, Inhabited

namespace AwsLogin

/-- The keys, or the first missing one. -/
def require (l : AwsLogin) : Except Fault AwsKeys := do
  let id ← required l.accessKeyId "AWS" "AWS_ACCESS_KEY_ID"
  let secret ← required l.secretAccessKey "AWS" "AWS_SECRET_ACCESS_KEY"
  pure ⟨id, secret⟩

/-- The debugging form, both values shown. -/
def debug (l : AwsLogin) : String :=
  "AwsCredentials \x7b access_key_id: " ++ debugOption l.accessKeyId ++
    ", secret_access_key: " ++ debugOption l.secretAccessKey ++ " \x7d"

end AwsLogin

/-- The debugging form of keys, the secret hidden. -/
def AwsKeys.debug (k : AwsKeys) : String :=
  "AwsKeys \x7b access_key_id: " ++ Text.quote k.accessKeyId ++
    ", secret_access_key: \"***\" \x7d"

/-- The package repository service's endpoint unless another is configured. -/
def defaultEndpoint : String := "https://packagecloud.io/api/v1/"

/-- The package repository login as configured. -/
structure RepoLogin where
  account : Option String := none
  token : Option String := none
  endpoint : String := defaultEndpoint
deriving DecidableEq, Inhabited

/-- A package repository login that is present. -/
structure RepoKeys where
  account : String
  token : String
  endpoint : String
deriving DecidableEq, Inhabited

namespace RepoLogin

/-- Sets the endpoint, adding a final `/` if it has none. -/
def withEndpoint (l : RepoLogin) (endpoint : String) : RepoLogin :=
  { l with endpoint := if endpoint.endsWith "/" then endpoint else endpoint ++ "/" }

/-- The keys, or the first missing one. -/
def require (l : RepoLogin) : Except Fault RepoKeys := do
  let account ← required l.account "packagecloud" "PACKAGECLOUD_ACCOUNT"
  let token ← required l.token "packagecloud" "PACKAGECLOUD_TOKEN"
  pure ⟨account, token, l.endpoint⟩

/-- The debugging form, the token hidden. -/
def debug (l : RepoLogin) : String :=
  "PackagecloudSettings \x7b account: " ++ debugOption l.account ++
    ", token: " ++ debugOption (l.token.map fun _ => "***") ++
    ", endpoint: " ++ Text.quote l.endpoint ++ " \x7d"

end RepoLogin

/-- All credentials. -/
structure Settings where
  aws : AwsLogin := {}
  repo : RepoLogin := {}
deriving DecidableEq, Inhabited

/-- The debugging form of all credentials. -/
def Settings.debug (s : Settings) : String :=
  "Settings \x7b aws: " ++ s.aws.debug ++ ", packagecloud: " ++ s.repo.debug ++ " \x7d"

theorem required_ok {value : Option String} {service envVar v : String}
    (h : required value service envVar = .ok v) :
    value.map Text.trim = some v ∧ v.isEmpty = false := by
  unfold required at h
  split at h
  · next w hw =>
    by_cases he : w.isEmpty
    · simp [he] at h
    · simp [he] at h
      subst h
      simp_all
  · simp at h

/-- **Keys that pass `require` are the trimmed, non-empty values.** -/
theorem require_fields {l : AwsLogin} {k : AwsKeys} (h : l.require = .ok k) :
    l.accessKeyId.map Text.trim = some k.accessKeyId ∧
    l.secretAccessKey.map Text.trim = some k.secretAccessKey := by
  unfold AwsLogin.require at h
  cases h1 : required l.accessKeyId "AWS" "AWS_ACCESS_KEY_ID" with
  | error e => simp [h1] at h; cases h
  | ok id =>
    cases h2 : required l.secretAccessKey "AWS" "AWS_SECRET_ACCESS_KEY" with
    | error e => simp [h1, h2] at h; cases h
    | ok secret =>
      simp [h1, h2] at h
      cases h
      exact ⟨(required_ok h1).1, (required_ok h2).1⟩

end Rollout
