/-!
# Routes

The addresses of the gateway and what may be done with each. A path is a list of parts
between slashes; some parts of an address are open and must not be empty. An address that
exists does not admit every method, and a path that only has slashes too many at its end
is sent to the address without them.
-/

namespace ChartScript.Gateway

/-- What can be asked of the gateway. -/
inductive Endpoint where
  /-- How the service is. -/
  | health
  /-- A script is run for an instance. -/
  | run (instanceId : String)
  /-- The last script of an instance is run again. -/
  | rerun (instanceId : String)
  /-- The artifacts of an instance. -/
  | artifacts (instanceId : String)
  /-- The console of an instance. -/
  | logs (instanceId : String)
  /-- An instance is removed. -/
  | remove (instanceId : String)
  /-- The names of the attachments. -/
  | attachments
  /-- The manifest of an attachment. -/
  | manifest (name : String)
  /-- An attachment is stored. -/
  | upload (name : String)
  /-- A built-in indicator. -/
  | builtin (kind : String)
  /-- A page of documentation. -/
  | documentation
  deriving Repr, DecidableEq

/-- The pages of documentation. -/
def documentationPages : List (List String) :=
  [["openapi.json"], ["docs"], ["docs", "oauth2-redirect"], ["redoc"]]

/-- What the methods of an address ask for; an address that does not exist has none. -/
def methodsAt (path : List String) : List (String × Endpoint) :=
  if path.any String.isEmpty then []
  else if documentationPages.contains path then [("GET", .documentation), ("HEAD", .documentation)]
  else
    match path with
    | ["health"] => [("GET", .health)]
    | ["indicators", i] => [("DELETE", .remove i)]
    | ["indicators", i, "run"] => [("POST", .run i)]
    | ["indicators", i, "rerun"] => [("POST", .rerun i)]
    | ["indicators", i, "artifacts"] => [("GET", .artifacts i)]
    | ["indicators", i, "logs"] => [("GET", .logs i)]
    | ["attachments"] => [("GET", .attachments)]
    | ["attachments", name] => [("GET", .manifest name), ("POST", .upload name)]
    | ["builtin", kind] => [("GET", .builtin kind)]
    | _ => []

/-- What becomes of a path and a method. -/
inductive Routing where
  /-- It asks for something. -/
  | found (endpoint : Endpoint)
  /-- The address exists, but not for this method. -/
  | otherMethod
  /-- The address without the slashes at the end exists. -/
  | redirected
  /-- There is no such address. -/
  | unknown
  deriving Repr, DecidableEq

/-- The parts of a path; nothing if it does not begin with a slash. -/
def partsOf (path : String) : Option (List String) :=
  match path.splitOn "/" with
  | "" :: parts => some parts
  | _ => none

/-- A list without the empty texts at its end. -/
def dropEmptyEnd (parts : List String) : List String :=
  (parts.reverse.dropWhile String.isEmpty).reverse

/-- What becomes of a path and a method. -/
def route (method path : String) : Routing :=
  match partsOf path with
  | none => .unknown
  | some parts =>
    match methodsAt parts with
    | [] =>
      if parts.getLast? = some "" && !(methodsAt (dropEmptyEnd parts)).isEmpty then .redirected
      else .unknown
    | methods =>
      match methods.lookup method with
      | some endpoint => .found endpoint
      | none => .otherMethod

end ChartScript.Gateway
