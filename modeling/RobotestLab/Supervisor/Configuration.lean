import RobotestLab.Library.Fields
import RobotestLab.Library.Tokens

/-!
# The configuration file

The supervisor reads its configuration from one strict JSON document. `Configuration.load` is the
reading of the payload of the file: the bound on its size, the walk over its tokens that refuses
duplicate keys, the decoding into `Configuration.Config`, and the validation of every setting with
the paths and addresses it rests on.
-/

namespace RobotestLab

namespace Supervisor

namespace Configuration

open Json (Record Token)

/-! ### Errors -/

/-- A part of a message. A quoted part is printed in quotes. -/
inductive Piece where
  | text (s : String)
  | quoted (s : String)
deriving DecidableEq

/-- The message of an error of validation. -/
abbrev Problem := List Piece

def problem {α : Type} (message : String) : Except Problem α := .error [.text message]

/-- The problem in its context. -/
def within {α : Type} (context : List Piece) : Except Problem α → Except Problem α
  | .error pieces => .error (context ++ pieces)
  | .ok x => .ok x

/-! ### Settings -/

def maxChildren : Nat := 32

def maxArguments : Nat := 64

def maxEnvironment : Nat := 64

def maxStringBytes : Nat := 4096

def maxEventEntries : Int := 16384

def maxEventFileBytes : Int := 8 * 2 ^ 20

def maxConfigFileBytes : Nat := 2 ^ 20

def packagedStackExecutable : String := "/usr/libexec/robotest-supervisor/start-robotest-stack"

def runtimeStateDirectoryEnv : String := "ROBOTEST_RUNTIME_STATE_DIRECTORY"

def packagedStackHeartbeatFileName : String := "robotest-stack.heartbeat"

structure RestartPolicy where
  initialBackoffMS : Int := 0
  maximumBackoffMS : Int := 0
  maximumAttempts : Int := 0
  windowMS : Int := 0
  stableResetMS : Int := 0
deriving DecidableEq

structure Child where
  name : String := ""
  argv : List String := []
  workingDirectory : String := ""
  environment : Dict String String := ⟨[], List.nodup_nil⟩
  required : Bool := false
  heartbeatFile : String := ""

structure Config where
  schemaVersion : Int := 0
  listenAddress : String := ""
  stateDirectory : String := ""
  heartbeatPollMS : Int := 0
  heartbeatStaleMS : Int := 0
  heartbeatStartupTimeoutMS : Int := 0
  terminationGraceMS : Int := 0
  shutdownTimeoutMS : Int := 0
  maximumEventEntries : Int := 0
  maximumEventBytes : Int := 0
  restart : RestartPolicy := {}
  children : List Child := []

def restartPolicyRecord : Record RestartPolicy where
  fields :=
    [ .int "initial_backoff_ms" (·.initialBackoffMS) (fun x s => { s with initialBackoffMS := x })
        (fun _ _ => rfl),
      .int "maximum_backoff_ms" (·.maximumBackoffMS) (fun x s => { s with maximumBackoffMS := x })
        (fun _ _ => rfl),
      .int "maximum_attempts" (·.maximumAttempts) (fun x s => { s with maximumAttempts := x })
        (fun _ _ => rfl),
      .int "window_ms" (·.windowMS) (fun x s => { s with windowMS := x }) (fun _ _ => rfl),
      .int "stable_reset_ms" (·.stableResetMS) (fun x s => { s with stableResetMS := x })
        (fun _ _ => rfl) ]
  zero := {}
  folds_nodup := by
    decide +kernel
  apart := by
    simp [Json.Field.Apart, Json.Field.int]

def childRecord : Record Child where
  fields :=
    [ .string "name" (·.name) (fun x s => { s with name := x }) (fun _ _ => rfl),
      .slice "argv" Json.decodeString "" (·.argv) (fun x s => { s with argv := x })
        (fun _ _ => rfl),
      .string "working_directory" (·.workingDirectory) (fun x s => { s with workingDirectory := x })
        (fun _ _ => rfl),
      .map "environment" Json.decodeString "" (·.environment)
        (fun x s => { s with environment := x }) (fun _ _ => rfl),
      .bool "required" (·.required) (fun x s => { s with required := x }) (fun _ _ => rfl),
      .string "heartbeat_file" (·.heartbeatFile) (fun x s => { s with heartbeatFile := x })
        (fun _ _ => rfl) ]
  zero := {}
  folds_nodup := by
    decide +kernel
  apart := by
    simp [Json.Field.Apart, Json.Field.string, Json.Field.slice, Json.Field.map, Json.Field.bool]

def restartField : Json.Field Config :=
  .record "restart" restartPolicyRecord (·.restart) (fun x s => { s with restart := x })
    (fun _ _ => rfl)

def childrenField : Json.Field Config :=
  .slice "children" childRecord.decode {} (·.children) (fun x s => { s with children := x })
    (fun _ _ => rfl)

def configRecord : Record Config where
  fields :=
    [ .int "schema_version" (·.schemaVersion) (fun x s => { s with schemaVersion := x })
        (fun _ _ => rfl),
      .string "listen_address" (·.listenAddress) (fun x s => { s with listenAddress := x })
        (fun _ _ => rfl),
      .string "state_directory" (·.stateDirectory) (fun x s => { s with stateDirectory := x })
        (fun _ _ => rfl),
      .int "heartbeat_poll_ms" (·.heartbeatPollMS) (fun x s => { s with heartbeatPollMS := x })
        (fun _ _ => rfl),
      .int "heartbeat_stale_ms" (·.heartbeatStaleMS) (fun x s => { s with heartbeatStaleMS := x })
        (fun _ _ => rfl),
      .int "heartbeat_startup_timeout_ms" (·.heartbeatStartupTimeoutMS)
        (fun x s => { s with heartbeatStartupTimeoutMS := x }) (fun _ _ => rfl),
      .int "termination_grace_ms" (·.terminationGraceMS)
        (fun x s => { s with terminationGraceMS := x }) (fun _ _ => rfl),
      .int "shutdown_timeout_ms" (·.shutdownTimeoutMS)
        (fun x s => { s with shutdownTimeoutMS := x }) (fun _ _ => rfl),
      .int "maximum_event_entries" (·.maximumEventEntries)
        (fun x s => { s with maximumEventEntries := x }) (fun _ _ => rfl),
      .int "maximum_event_bytes" (·.maximumEventBytes)
        (fun x s => { s with maximumEventBytes := x }) (fun _ _ => rfl),
      restartField,
      childrenField ]
  zero := {}
  folds_nodup := by
    decide +kernel
  apart := by
    simp [Json.Field.Apart, Json.Field.int, Json.Field.string, restartField, Json.Field.record,
      childrenField, Json.Field.slice]

/-! ### Paths -/

/-- One more element of a path, over the elements before it, the last one first. -/
def pushElement (rooted : Bool) (out : List (List Char)) (element : List Char) :
    List (List Char) :=
  if element = [] ∨ element = ['.'] then out
  else if element = ['.', '.'] then
    match out with
    | [] => if rooted then [] else [element]
    | last :: before => if last = ['.', '.'] then element :: out else before
  else element :: out

/-- The elements of a path after its lexical simplification. -/
def elements (path : String) : List (List Char) :=
  ((path.toList.splitOn '/').foldl (pushElement (path.toList.head? = some '/')) []).reverse

def joinElements (elements : List (List Char)) : List Char :=
  List.intercalate ['/'] elements

/-- `filepath.IsAbs`. -/
def isAbs (path : String) : Bool := path.toList.head? = some '/'

/-- `filepath.Clean`. -/
def clean (path : String) : String :=
  if isAbs path then String.ofList ('/' :: joinElements (elements path))
  else if elements path = [] then "."
  else String.ofList (joinElements (elements path))

/-- `filepath.Join` of two elements. -/
def join (directory name : String) : String :=
  if directory ≠ "" then clean (directory ++ "/" ++ name)
  else if name ≠ "" then clean name
  else ""

/-- The two lists without their common beginning. -/
def dropCommon : List (List Char) → List (List Char) → List (List Char) × List (List Char)
  | x :: xs, y :: ys => if x = y then dropCommon xs ys else (x :: xs, y :: ys)
  | xs, ys => (xs, ys)

/-- `filepath.Rel`, where there is one. -/
def rel (base target : String) : Option String :=
  if clean base = clean target then some "."
  else if isAbs base ≠ isAbs target then none
  else
    let (up, down) := dropCommon (elements base) (elements target)
    if up.head? = some ['.', '.'] then none
    else some (String.ofList (joinElements (up.map (fun _ => ['.', '.']) ++ down)))

/-! ### Addresses -/

/-- `net.SplitHostPort`, with the reason why there is none. -/
def splitHostPort (address : String) : Except String (List Char × List Char) :=
  let cs := address.toList
  if ':' ∉ cs then .error "missing port in address"
  else
    let port := (cs.reverse.takeWhile (· ≠ ':')).reverse
    let before := cs.take (cs.length - port.length - 1)
    if cs.head? = some '[' then
      let host := cs.tail.takeWhile (· ≠ ']')
      let rest := cs.tail.dropWhile (· ≠ ']')
      if ']' ∉ cs then .error "missing ']' in address"
      else if rest = [']'] then .error "missing port in address"
      else if before.length = host.length + 2 then
        if '[' ∈ cs.tail then .error "unexpected '[' in address"
        else if ']' ∈ rest.tail then .error "unexpected ']' in address"
        else .ok (host, port)
      else if rest.tail.head? = some ':' then .error "too many colons in address"
      else .error "missing port in address"
    else if ':' ∈ before then .error "too many colons in address"
    else if '[' ∈ cs then .error "unexpected '[' in address"
    else if ']' ∈ cs then .error "unexpected ']' in address"
    else .ok (before, port)

/-- `strconv.Atoi`, where it succeeds. -/
def atoi (cs : List Char) : Option Int :=
  let negative := cs.head? = some '-'
  let digits := if negative ∨ cs.head? = some '+' then cs.tail else cs
  if digits = [] ∨ digits.any (fun c => !c.isDigit) then none
  else
    let n : Int := Json.magnitude digits
    let n := if negative then -n else n
    if -(2 ^ 63) ≤ n ∧ n < 2 ^ 63 then some n else none

def hasNul (s : String) : Bool := s.toList.any fun c => c.toNat = 0

/-! ### Validation -/

def validateString (value : String) : Except Problem Unit :=
  if maxStringBytes < value.utf8ByteSize ∨ hasNul value then
    problem "value exceeds the string bound or contains NUL"
  else .ok ()

def requireAbsoluteDirectory (name value : String) : Except Problem Unit :=
  if ¬ isAbs value ∨ clean value ≠ value ∨ value = "/" ∨ maxStringBytes < value.utf8ByteSize ∨
      hasNul value then
    problem s!"{name} must be a bounded canonical absolute non-root path"
  else .ok ()

def validateListen (address : String) : Except Problem Unit :=
  if address.utf8ByteSize = 0 ∨ maxStringBytes < address.utf8ByteSize ∨ hasNul address then
    problem "listen_address is invalid"
  else
    match splitHostPort address with
    | .error why => problem s!"listen_address: address {address}: {why}"
    | .ok (host, port) =>
        if host ≠ "127.0.0.1".toList then
          problem "listen_address must bind exactly to 127.0.0.1"
        else if port = [] then problem "listen_address port is empty"
        else
          match atoi port with
          | none => problem "listen_address port must be an integer in [1,65535]"
          | some number =>
              if number < 1 ∨ 65535 < number then
                problem "listen_address port must be an integer in [1,65535]"
              else .ok ()

def RestartPolicy.validate (policy : RestartPolicy) : Except Problem Unit :=
  if policy.initialBackoffMS ≠ 1000 ∨ policy.maximumBackoffMS ≠ 8000 then
    problem "restart backoff must be exactly 1000ms initial and 8000ms maximum"
  else if policy.maximumAttempts ≠ 4 then
    problem "restart maximum_attempts must be exactly 4"
  else if policy.windowMS ≠ 60000 ∨ policy.stableResetMS ≠ 60000 then
    problem "restart window_ms and stable_reset_ms must be exactly 60000"
  else .ok ()

/-- `childNamePattern`. -/
def isChildName (name : String) : Bool :=
  match name.toList with
  | [] => false
  | c :: cs =>
      c.isLower && cs.length ≤ 63 &&
        cs.all fun c => c.isLower || c.isDigit || c = '_' || c = '-'

/-- `environmentNamePattern`. -/
def isEnvironmentName (name : String) : Bool :=
  match name.toList with
  | [] => false
  | c :: cs => (c.isAlpha || c = '_') && cs.all fun c => c.isAlphanum || c = '_'

def validateArguments : Nat → List String → Except Problem Unit
  | _, [] => .ok ()
  | index, value :: values => do
      within [.text s!"argv[{index}]: "] (validateString value)
      validateArguments (index + 1) values

/-- The entries are visited in an arbitrary order, which decides only which problem is reported. -/
def validateEnvironment : List (String × String) → Except Problem Unit
  | [] => .ok ()
  | (key, value) :: entries => do
      if maxStringBytes < key.utf8ByteSize ∨ ¬ isEnvironmentName key then
        throw [.text "environment key ", .quoted key, .text " is invalid"]
      within [.text "environment ", .quoted key, .text ": "] (validateString value)
      validateEnvironment entries

def Child.validate (child : Child) : Except Problem Unit := do
  if ¬ isChildName child.name then
    problem "name must match ^[a-z][a-z0-9_-]\x7b0,63\x7d$"
  if child.argv.length = 0 ∨ maxArguments < child.argv.length then
    problem s!"argv must contain between 1 and {maxArguments} entries"
  validateArguments 0 child.argv
  let executable := child.argv.headD ""
  if executable = "" then problem "argv[0] must not be empty"
  if ¬ isAbs executable then problem "argv[0] must be an absolute executable path"
  if clean executable ≠ executable then
    problem "argv[0] must be a canonical executable path"
  requireAbsoluteDirectory "working_directory" child.workingDirectory
  if maxEnvironment < child.environment.items.length then
    problem s!"environment must contain at most {maxEnvironment} entries"
  validateEnvironment child.environment.items
  if child.heartbeatFile ≠ "" then
    if ¬ isAbs child.heartbeatFile ∨ clean child.heartbeatFile ≠ child.heartbeatFile ∨
        maxStringBytes < child.heartbeatFile.utf8ByteSize ∨ hasNul child.heartbeatFile then
      problem "heartbeat_file must be a bounded canonical absolute path"

def Child.validatePackagedStackContract (child : Child) (stateDirectory : String) :
    Except Problem Unit :=
  if child.environment.get? runtimeStateDirectoryEnv ≠ some stateDirectory then
    problem (s!"environment {runtimeStateDirectoryEnv} must be present and exactly match " ++
      "state_directory")
  else
    let expectedHeartbeat := join stateDirectory packagedStackHeartbeatFileName
    if child.heartbeatFile ≠ expectedHeartbeat then
      .error [.text s!"heartbeat_file for {packagedStackExecutable} must be exactly ",
        .quoted expectedHeartbeat]
    else .ok ()

/-- The children from an index on, after children with the given names and heartbeat files. -/
def validateChildren (stateDirectory : String) :
    Nat → List String → Dict String String → List Child → Except Problem Unit
  | _, _, _, [] => .ok ()
  | index, names, heartbeats, child :: children => do
      within [.text s!"children[{index}]: "] child.validate
      if child.argv.headD "" = packagedStackExecutable then
        within [.text s!"children[{index}]: "] (child.validatePackagedStackContract stateDirectory)
      if child.name ∈ names then
        throw [.text "duplicate child name ", .quoted child.name]
      if child.heartbeatFile = "" then
        validateChildren stateDirectory (index + 1) (child.name :: names) heartbeats children
      else
        let canonicalHeartbeat := clean child.heartbeatFile
        match rel stateDirectory canonicalHeartbeat with
        | none =>
            throw [.text "heartbeat file ", .quoted canonicalHeartbeat,
              .text " must be a child of state_directory"]
        | some relativeHeartbeat =>
            if relativeHeartbeat = "." ∨ relativeHeartbeat = ".." ∨
                relativeHeartbeat.toList.take 3 = ['.', '.', '/'] then
              throw [.text "heartbeat file ", .quoted canonicalHeartbeat,
                .text " must be a child of state_directory"]
            match heartbeats.get? canonicalHeartbeat with
            | some owner =>
                throw [.text "heartbeat file ", .quoted canonicalHeartbeat,
                  .text " is shared by ", .quoted owner, .text " and ", .quoted child.name]
            | none =>
                validateChildren stateDirectory (index + 1) (child.name :: names)
                  (heartbeats.set canonicalHeartbeat child.name) children

def Config.validate (cfg : Config) : Except Problem Unit := do
  if cfg.schemaVersion ≠ 1 then problem "schema_version must be exactly 1"
  validateListen cfg.listenAddress
  requireAbsoluteDirectory "state_directory" cfg.stateDirectory
  if cfg.heartbeatPollMS ≠ 500 then problem "heartbeat_poll_ms must be exactly 500"
  if cfg.heartbeatStaleMS ≠ 2000 then problem "heartbeat_stale_ms must be exactly 2000"
  if cfg.heartbeatStartupTimeoutMS ≠ 110000 then
    problem "heartbeat_startup_timeout_ms must be exactly 110000"
  if cfg.terminationGraceMS ≠ 5000 then problem "termination_grace_ms must be exactly 5000"
  if cfg.shutdownTimeoutMS < 5000 ∨ 30000 < cfg.shutdownTimeoutMS then
    problem "shutdown_timeout_ms must be in [5000,30000]"
  if cfg.maximumEventEntries < 1 ∨ maxEventEntries < cfg.maximumEventEntries then
    problem s!"maximum_event_entries must be in [1,{maxEventEntries}]"
  if cfg.maximumEventBytes < 1024 ∨ maxEventFileBytes < cfg.maximumEventBytes then
    problem s!"maximum_event_bytes must be in [1024,{maxEventFileBytes}]"
  cfg.restart.validate
  if cfg.children.length = 0 ∨ maxChildren < cfg.children.length then
    problem s!"children must contain between 1 and {maxChildren} entries"
  validateChildren cfg.stateDirectory 0 [] ⟨[], List.nodup_nil⟩ cfg.children

/-! ### Keys -/

inductive KeyError where
  | malformed
  | keyNotString
  | duplicateKey (key : String)
  | objectNotTerminated
  | arrayNotTerminated
  | unexpectedDelimiter (c : Char)
deriving DecidableEq

/-- `decoder.More`. -/
def more : List Token → Bool
  | [] => false
  | t :: _ => t.opens

mutual

/-- The tokens after the value at the head. -/
def walkJSONValue : Nat → List Token → Except KeyError (List Token)
  | 0, _ => .error .malformed
  | _ + 1, [] => .error .malformed
  | fuel + 1, .delim c :: ts =>
      if c = '{' then walkMembers fuel [] ts
      else if c = '[' then walkElements fuel ts
      else .error (.unexpectedDelimiter c)
  | _ + 1, _ :: ts => .ok ts

/-- The loop over the members of an object, with the keys before. -/
def walkMembers : Nat → List String → List Token → Except KeyError (List Token)
  | 0, _, _ => .error .malformed
  | fuel + 1, keys, ts =>
      if more ts then
        match ts with
        | .str key :: ts =>
            if key ∈ keys then .error (.duplicateKey key)
            else
              match walkJSONValue fuel ts with
              | .error e => .error e
              | .ok ts => walkMembers fuel (key :: keys) ts
        | _ => .error .keyNotString
      else
        match ts with
        | .delim '}' :: ts => .ok ts
        | _ => .error .objectNotTerminated

/-- The loop over the elements of an array. -/
def walkElements : Nat → List Token → Except KeyError (List Token)
  | 0, _ => .error .malformed
  | fuel + 1, ts =>
      if more ts then
        match walkJSONValue fuel ts with
        | .error e => .error e
        | .ok ts => walkElements fuel ts
      else
        match ts with
        | .delim ']' :: ts => .ok ts
        | _ => .error .arrayNotTerminated

end

/-! ### Loading -/

inductive LoadError where
  | tooLarge
  | keys (e : KeyError)
  | trailing
  | decode
  | invalid (p : Problem)
deriving DecidableEq

/-- Nothing but white space follows the value. -/
def requireEOF (rest : List Char) : Except LoadError Unit :=
  if Json.skipSpace rest = [] then .ok () else .error .trailing

def rejectDuplicateKeys (payload : List UInt8) : Except LoadError Unit :=
  match Json.read payload with
  | none => .error (.keys .malformed)
  | some (v, rest) =>
      let ts := Json.tokens v
      match walkJSONValue (ts.length + 1) ts with
      | .error e => .error (.keys e)
      | .ok _ => requireEOF rest

/-- The value at the head of the payload in a configuration, and the text after it. -/
def decodeConfig (payload : List UInt8) : Except LoadError (Config × List Char) :=
  match Json.read payload with
  | none => .error .decode
  | some (v, rest) =>
      match configRecord.decode v configRecord.zero with
      | none => .error .decode
      | some cfg => .ok (cfg, rest)

/-- The configuration of a file with the given contents. -/
def load (contents : List UInt8) : Except LoadError Config :=
  let payload := contents.take (maxConfigFileBytes + 1)
  if maxConfigFileBytes < payload.length then .error .tooLarge
  else do
    rejectDuplicateKeys payload
    let (cfg, rest) ← decodeConfig payload
    requireEOF rest
    match cfg.validate with
    | .error p => .error (.invalid p)
    | .ok () => .ok cfg

end Configuration

end Supervisor

end RobotestLab
