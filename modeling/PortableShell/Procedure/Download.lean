import PortableShell.Procedure

/-!
# Fetching documents

A document is collected in a file of its own beside the target, which takes the place of the
target only when it is complete.

## Main definitions

* `Download.parse`: which document is asked for, and what it is to be saved as.
* `Download.fetch`: fetching it; `Download.Interruption` is what may get in the way.
* `Download.procedure`: the procedure.
-/

namespace PortableShell.Download

/-- A document to be fetched. -/
structure Request where
  /-- The address as it was written. -/
  address : Text
  /-- The pieces of the address. -/
  url : Url
  /-- What the document is to be saved as, if that was written. -/
  output : Option Text
  deriving DecidableEq, Repr

/-- How many seconds a server may take. -/
def timeout : Nat := 60

/-- The pieces of an address, which has to be one of the web. -/
def parseAddress (address : Text) : Except Failure Url := do
  let url ← (Url.parse address).mapError .badUrl
  if (url.scheme = "http".toList ∨ url.scheme = "https".toList) ∧ url.authority ≠ [] then
    return url
  else
    throw (.reported (.invalid ("Not an http(s) URL: " ++ address)))

/-- What an argument text asks for: an address, and a file if wanted. -/
def parse (raw : Text) : Except Failure Request :=
  match Argument.tokens raw with
  | [] => .error (.reported (.missing "wget" "a URL argument"))
  | [address] => do return ⟨address, ← parseAddress address, none⟩
  | [address, output] => do return ⟨address, ← parseAddress address, some output⟩
  | _ => .error (.reported (.tooMany "wget takes a URL and an optional output file"))

/-- What the document is saved as. -/
def Request.target (r : Request) : Text :=
  r.output.getD r.url.fileName

/-- What is to be fetched, and the path that it is saved at. -/
structure Input where
  request : Request
  path : Text

/-- Makes out what is to be fetched, and the path that it is saved at. -/
def prepare (s : Session) (raw : Text) : Except Failure Input := do
  let request ← parse raw
  let path ← ofReported (s.resolve request.target)
  return { request, path }

/-- What may get in the way of fetching a document. -/
inductive Interruption where
  | http (fault : HttpFault)
  | system (e : SystemError)

/-- The fault of a server, if there is one. -/
def check (fault : Option HttpFault) : ActionOf Interruption Unit :=
  match fault with
  | none => return ()
  | some fault => throw (.http fault)

/-- Asks for a document. -/
def ask (address : Text) : ActionOf Interruption HttpAnswer := do
  modify fun w => { w with requests := w.requests ++ [⟨address, true, timeout⟩] }
  let answer := (← get).http
  check answer.connectFault
  check answer.statusFault
  return answer

/-- Appends the pieces of a document to a file. -/
def appendAll (path : Text) : List Utf8.Bytes → ActionOf Interruption Unit
  | [] => return ()
  | chunk :: chunks => do
    (World.append path chunk).adapt .system
    appendAll path chunks

/-- Collects a document in a file, and puts that in the place of the target. -/
def collect (temporary target : Text) (answer : HttpAnswer) : ActionOf Interruption Unit := do
  appendAll temporary answer.chunks
  check answer.bodyFault
  (World.replaceFile temporary target).adapt .system

/-- Removes the file that a document was collected in.  That this may fail changes nothing. -/
def discard {ε : Type} (temporary : Text) : ActionOf ε Unit :=
  ExceptT.mk (do
    let _ ← (World.removeFile temporary).run
    return .ok ())

/-- The file that a document for `target` is collected in. -/
def temporaryFor (target : Text) : Text :=
  Path.join (Path.parent target) ".wget-TMP"

/-- Fetches a document.  If that fails once the file for it exists, the file is removed. -/
def fetch (address target : Text) : ActionOf Interruption Unit := do
  let answer ← ask address
  let temporary := temporaryFor target
  (World.createTemporary temporary).adapt .system
  tryCatch (collect temporary target answer) fun e => do
    discard temporary
    throw e

/-- What an interruption is reported as.  That no connection came about goes before everything but
what the server itself said. -/
def report (input : Input) : Interruption → Failure
  | .http fault =>
    .reported (.failed ("Download failed: " ++
      if fault.kind.isConnection then
        "cannot connect to " ++ input.request.url.authority
      else if fault.kind.isTimeout then
        "request timeout after " ++ Text.ofNat timeout ++ "s"
      else
        fault.text))
  | .system e =>
    .ofSystem (fun e =>
      .failed ("Download failed: cannot write " ++ input.path ++ ": " ++ e.reason)) e

/-- Fetches a document and saves it. -/
def perform (input : Input) : Action Answer := do
  (fetch input.request.address input.path).adapt (report input)
  return .notice ("Downloaded: " ++ input.request.address ++ " → " ++ Path.name input.path)

/-- Fetches a document and saves it. -/
def procedure : Procedure where
  Input := Input
  prepare s _ raw := prepare s raw
  perform _ := perform

end PortableShell.Download
