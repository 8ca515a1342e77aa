import AdaptiveForm.Service.Request
import AdaptiveForm.Service.Response

/-!
# The routes of the service

The service tells that it is there, transforms a payload that comes with a request or lies at a web
address, and transforms an uploaded file. It does not read files of its own machine.
-/

namespace AdaptiveForm.Service

structure Part where
  name : Option String
  fileName : Option String
  content : List UInt8

inductive Request where
  | plain (method path : String) (body : List UInt8)
  | upload (parts : List Part)

/-- The answer and what was reported on the way. -/
structure Answer where
  log : List Log.Entry
  response : Response

def Answer.silent (response : Response) : Answer := ⟨[], response⟩

def Answer.ofRun (jobId : String) (run : Run Failure Report) : Answer :=
  match run.result with
  | .ok report => ⟨run.log, .ofReport jobId report⟩
  | .error failure => ⟨run.log, .ofFailure jobId failure⟩

def health : Response where
  status := 200
  body := some [
    ("status", .string "ok"),
    ("service", .string "sheetform"),
    ("version", .string "0.1.0"),
    ("endpoints", .object [
      ("transform", .string "POST /api/transform"),
      ("upload", .string "POST /api/upload"),
      ("logs", .string "GET /api/logs (SSE)")])]

def TransformRequest.options (request : TransformRequest) : Options where
  sourceId := request.sourceId
  metadata := request.metadata
  validateRules := request.validateRules

def refuse {α : Type} (reason : String) : Run Failure α :=
  .ofExcept (.error (.badRequest reason))

def reporting {ε α : Type} (message : String) (run : Run ε α) : Run ε α :=
  (Run.say [Log.info message]).andThen fun () => run

/-- Carries out a request to transform a payload; `get` gets the bytes at a web address. -/
def transformSource {m : Type → Type} [Monad m]
    (get : String → m (Except SourceError (List UInt8))) (settings : Settings)
    (request : TransformRequest) : m (Run Failure Report) :=
  match request.source with
  | .string location =>
    if (Text.trim location).isEmpty then
      pure (.ofExcept (.error (.pipeline (.transform .missingSource))))
    else if !Location.isUrl location then
      pure (refuse "source must be an http(s) URL or a payload object")
    else do
      let run ← Pipeline.ofLocation get settings request.options location
      return reporting ("📄 Transform request: " ++ location) (run.mapError .pipeline)
  | .object entries =>
    let run := Pipeline.ofPayload settings request.options (.object entries) none
    pure (reporting "📄 Transform request: inline payload" (run.mapError .pipeline))
  | _ => pure (refuse "source must be a location string or a payload object")

structure UploadedFile where
  name : Option String
  content : List UInt8

/-- What the parts of an upload say: the last file and the options. -/
structure Upload where
  file : Option UploadedFile := none
  options : Options := {}

def Part.text (part : Part) : String :=
  String.ofList (Byte.decodeMarked Byte.decodeUtf8 part.content)

/-- Takes up a part of an upload. A later part of the same name counts. -/
def Upload.add (upload : Upload) (part : Part) : Upload :=
  match part.name.getD "" with
  | "file" => { upload with file := some ⟨part.fileName, part.content⟩ }
  | "sourceId" =>
    let sourceId := if part.text.isEmpty then none else some part.text
    { upload with options := { upload.options with sourceId := sourceId } }
  | "validateRules" =>
    { upload with options := { upload.options with validateRules := part.text == "true" } }
  | _ => upload

def namelessFile : String := "upload.json"

def transformUpload (settings : Settings) (parts : List Part) : Run Failure Report :=
  let upload := parts.foldl Upload.add {}
  match upload.file with
  | none => refuse "No file provided"
  | some file =>
    let name := file.name.getD namelessFile
    let run := Pipeline.ofBytes settings upload.options file.content name
    reporting ("📄 Upload: " ++ name ++ " (" ++ toString file.content.length ++ " bytes)")
      (run.mapError .pipeline)

inductive Route where
  | health
  | transform
  | upload
  | logs
  deriving DecidableEq, Repr

/-- The route of a path; its query does not matter. -/
def Route.ofPath? (path : String) : Option Route :=
  match String.ofList (path.toList.takeWhile (· != '?')) with
  | "/" => some .health
  | "/health" => some .health
  | "/api/transform" => some .transform
  | "/api/upload" => some .upload
  | "/api/logs" => some .logs
  | _ => none

def BodyFault.status : BodyFault → Nat
  | .notJson => 400
  | .notRequest => 422

def answerRoute {m : Type → Type} [Monad m] (get : String → m (Except SourceError (List UInt8)))
    (settings : Settings) (jobId method : String) (body : List UInt8) : Route → m Answer
  | .health =>
    pure <| .silent <| match method with
      | "GET" => health
      | "HEAD" => .bare 200
      | _ => .bare 405
  | .transform =>
    if method = "POST" then
      match TransformRequest.ofBytes body with
      | .error fault => pure (.silent (.bare fault.status))
      | .ok request => do
        let run ← transformSource get settings request
        return .ofRun jobId run
    else pure (.silent (.bare 405))
  | .upload => pure (.silent (.bare (if method = "POST" then 400 else 405)))
  | .logs => pure (.silent (.bare (if method = "GET" || method = "HEAD" then 200 else 405)))

/-- Answers a request; `get` gets the bytes at a web address, and `jobId` identifies the job. -/
def answer {m : Type → Type} [Monad m] (get : String → m (Except SourceError (List UInt8)))
    (settings : Settings) (jobId : String) : Request → m Answer
  | .upload parts => pure (.ofRun jobId (transformUpload settings parts))
  | .plain method path body =>
    if method = "OPTIONS" then pure (.silent (.bare 200))
    else
      match Route.ofPath? path with
      | none => pure (.silent (.bare 404))
      | some route => answerRoute get settings jobId method body route

end AdaptiveForm.Service
