import SchemaDrift.Fix.Validation
import SchemaDrift.Json.Reader

namespace SchemaDrift.Http

/-- A request: its target is the path with the parameters, and `isJson` says that the body is
declared to be JSON. -/
structure Request where
  method : String
  target : String
  isJson : Bool
  body : List Char
  deriving DecidableEq, Inhabited

/-- What an operator asks for. -/
inductive Call where
  | health
  | status
  | issues (all : Bool)
  | scan
  | executions
  | preview (issue : String)
  | apply (issue : String) (approval : Approval)
  | autoApply (enabled : Bool)
  | resume
  deriving DecidableEq, Inhabited

/-- Why a request asks for nothing. -/
inductive Refusal where
  | badRequest
  | notFound
  | methodNotAllowed
  | unsupportedMedia
  | unprocessable
  deriving DecidableEq, Inhabited

def Refusal.status : Refusal → Nat
  | badRequest => 400
  | notFound => 404
  | methodNotAllowed => 405
  | unsupportedMedia => 415
  | unprocessable => 422

/-- The bytes of a text in which a percent sign and two hexadecimal digits stand for a byte; the
first `skip` characters belong to such a byte already read. -/
def decodeFrom (skip : Nat) : List Char → List Nat
  | [] => []
  | c :: rest =>
    match skip with
    | more + 1 => decodeFrom more rest
    | 0 =>
      match c, rest with
      | '%', high :: low :: _ =>
        match Text.hexDigit? high, Text.hexDigit? low with
        | some high, some low => (high * 16 + low) :: decodeFrom 2 rest
        | _, _ => Text.utf8Bytes c ++ decodeFrom 0 rest
      | _, _ => Text.utf8Bytes c ++ decodeFrom 0 rest

/-- The bytes that a text with percent signs stands for. -/
def decodeBytes (written : List Char) : List Nat := decodeFrom 0 written

/-- The name and the value of a parameter; a plus sign in them stands for a blank. -/
def decodeParameter (written : List Char) : List Char × List Char :=
  let blank (text : List Char) := text.map fun c => if c == '+' then ' ' else c
  let decode (text : List Char) := Text.decodeUtf8 (decodeBytes (blank text))
  match Text.splitOnce '=' written with
  | some (name, value) => (decode name, decode value)
  | none => (decode written, [])

def parameters (written : List Char) : List (List Char × List Char) :=
  ((Text.splitOn '&' written).filter fun part => !part.isEmpty).map decodeParameter

/-- The request for issues: whether all are asked for may be said once, and other parameters are
passed over. -/
def issuesCall (written : List Char) : Except Refusal Call :=
  match (parameters written).filter fun parameter => parameter.1 == "all".toList with
  | [] => .ok (.issues false)
  | [(_, value)] =>
    if value == "true".toList then .ok (.issues true)
    else if value == "false".toList then .ok (.issues false)
    else .error .badRequest
  | _ => .error .badRequest

/-- A switch in a JSON value: the member of its name, or the only element of an array. -/
def switch? (name : String) (absent : Option Bool) : Json → Option Bool
  | .object members =>
    match Json.valuesOf name members with
    | [] => absent
    | [value] => value.bool?
    | _ => none
  | .array [] => absent
  | .array [value] => value.bool?
  | _ => none

/-- What the body of a request for a fix says about approval; a body that cannot be read says
nothing. -/
def approvalOf (request : Request) : Approval :=
  let approved :=
    if request.isJson then (Json.read? request.body).bind (switch? "approved" (some false))
    else none
  if approved == some true then .manual else .automatic

/-- The request for automatic fixes to be switched. -/
def autoApplyCall (request : Request) : Except Refusal Call :=
  if !request.isJson then .error .unsupportedMedia
  else
    match Json.read? request.body with
    | none => .error .badRequest
    | some value =>
      match switch? "enabled" none value with
      | some enabled => .ok (.autoApply enabled)
      | none => .error .unprocessable

def issueName (written : List Char) : Except Refusal String :=
  match Text.decodeUtf8? (decodeBytes written) with
  | some name => .ok (String.ofList name)
  | none => .error .badRequest

/-- What a path asks for under the one method that it allows. -/
structure Route where
  method : String
  call : Except Refusal Call

def route? (request : Request) (path parameters : List Char) : Option Route :=
  match (Text.splitOn '/' path).map String.ofList with
  | ["", "health"] => some ⟨"GET", .ok .health⟩
  | ["", "status"] => some ⟨"GET", .ok .status⟩
  | ["", "issues"] => some ⟨"GET", issuesCall parameters⟩
  | ["", "scan"] => some ⟨"POST", .ok .scan⟩
  | ["", "fixes", "executions"] => some ⟨"GET", .ok .executions⟩
  | ["", "monitoring", "auto-apply"] => some ⟨"POST", autoApplyCall request⟩
  | ["", "monitoring", "resume"] => some ⟨"POST", .ok .resume⟩
  | ["", "fixes", issue, "preview"] =>
    if issue.isEmpty then none
    else some ⟨"POST", (issueName issue.toList).map .preview⟩
  | ["", "fixes", issue, "apply"] =>
    if issue.isEmpty then none
    else some ⟨"POST", (issueName issue.toList).map fun name => .apply name (approvalOf request)⟩
  | _ => none

/-- The path of a request and the parameters behind it. -/
def targetParts (target : String) : List Char × List Char :=
  match Text.splitOnce '?' target.toList with
  | some (path, parameters) => (path, parameters)
  | none => (target.toList, [])

/-- A method is allowed where another is: a request for the head of an answer counts as one for the
answer. -/
def allows (allowed method : String) : Bool :=
  method == allowed || (allowed == "GET" && method == "HEAD")

def Request.call (request : Request) : Except Refusal Call :=
  let (path, parameters) := targetParts request.target
  match route? request path parameters with
  | none => .error .notFound
  | some route =>
    if allows route.method request.method then route.call else .error .methodNotAllowed

end SchemaDrift.Http
