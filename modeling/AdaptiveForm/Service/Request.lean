import AdaptiveForm.Json.Reader

/-!
# Requests to transform a payload

The body of a request is read in one go: the first thing wrong with it decides whether it is refused
as no JSON or as JSON that is no request. A request is an object with the payload or its address
under `source`, or an array of its fields in order; keys that it does not know are passed over,
whatever they hold.
-/

namespace AdaptiveForm.Service

open Json (Lexeme LexemeKind)

structure TransformRequest where
  /-- A payload, or the address to get it from. -/
  source : Json
  sourceId : Option String
  metadata : Option Entries
  validateRules : Bool

inductive BodyFault where
  | notJson
  | notRequest
  deriving DecidableEq, Repr

/-- How deep the containers of a field may lie, the request itself being one. -/
def fieldDepth : Nat := Json.depthLimit - 1

def readAny (limit : Nat) (lexemes : List Lexeme) : Except BodyFault (Json × List Lexeme) :=
  (Json.readValue limit 0 lexemes).mapError fun _ => .notJson

def wrongStart : LexemeKind → BodyFault
  | .text (.ok _) => .notRequest
  | .scalar (.ok _) => .notRequest
  | .leftBracket => .notRequest
  | .leftBrace => .notRequest
  | _ => .notJson

def readOptionalText : List Lexeme → Except BodyFault (Option String × List Lexeme)
  | [] => .error .notJson
  | ⟨_, .text (.ok s)⟩ :: rest => .ok (some s, rest)
  | ⟨_, .scalar (.ok .null)⟩ :: rest => .ok (none, rest)
  | lexeme :: _ => .error (wrongStart lexeme.kind)

def readFlag : List Lexeme → Except BodyFault (Bool × List Lexeme)
  | [] => .error .notJson
  | ⟨_, .scalar (.ok (.bool value))⟩ :: rest => .ok (value, rest)
  | lexeme :: _ => .error (wrongStart lexeme.kind)

def readOptionalEntries : List Lexeme → Except BodyFault (Option Entries × List Lexeme)
  | [] => .error .notJson
  | ⟨_, .scalar (.ok .null)⟩ :: rest => .ok (none, rest)
  | ⟨start, .leftBrace⟩ :: rest => do
    let (value, rest) ← readAny fieldDepth (⟨start, .leftBrace⟩ :: rest)
    return (value.asObject?, rest)
  | lexeme :: _ => .error (wrongStart lexeme.kind)

/-- A lexeme whose faults do not matter, since its value is not wanted. -/
def forgive (lexeme : Lexeme) : Lexeme :=
  match lexeme.kind with
  | .text (.error _) => { lexeme with kind := .text (.ok "") }
  | .scalar (.error _) => { lexeme with kind := .scalar (.ok .null) }
  | _ => lexeme

/-- Passes over a value, however deep it is. -/
def skipValue (lexemes : List Lexeme) : Except BodyFault (Unit × List Lexeme) := do
  let (_, rest) ← readAny (lexemes.length + 2) (lexemes.map forgive)
  return ((), lexemes.drop (lexemes.length - rest.length))

structure Draft where
  source : Option Json := none
  sourceId : Option (Option String) := none
  metadata : Option (Option Entries) := none
  validateRules : Option Bool := none

def Draft.finish (draft : Draft) : Except BodyFault TransformRequest :=
  match draft.source with
  | none => .error .notRequest
  | some source =>
    .ok ⟨source, draft.sourceId.join, draft.metadata.join, draft.validateRules.getD false⟩

def Draft.has (draft : Draft) : String → Bool
  | "source" => draft.source.isSome
  | "sourceId" => draft.sourceId.isSome
  | "metadata" => draft.metadata.isSome
  | "validateRules" => draft.validateRules.isSome
  | _ => false

def Draft.readField (draft : Draft) (key : String) (lexemes : List Lexeme) :
    Except BodyFault (Draft × List Lexeme) := do
  match key with
  | "source" =>
    let (value, rest) ← readAny fieldDepth lexemes
    return ({ draft with source := some value }, rest)
  | "sourceId" =>
    let (value, rest) ← readOptionalText lexemes
    return ({ draft with sourceId := some value }, rest)
  | "metadata" =>
    let (value, rest) ← readOptionalEntries lexemes
    return ({ draft with metadata := some value }, rest)
  | "validateRules" =>
    let (value, rest) ← readFlag lexemes
    return ({ draft with validateRules := some value }, rest)
  | _ =>
    let ((), rest) ← skipValue lexemes
    return (draft, rest)

/-- Reads an entry of the body. A field that is there twice is refused when its key is read. -/
def Draft.readEntry (draft : Draft) : List Lexeme → Except BodyFault (Draft × List Lexeme)
  | ⟨_, .text (.ok key)⟩ :: rest =>
    if draft.has key then .error .notRequest
    else
      match rest with
      | ⟨_, .colon⟩ :: rest => draft.readField key rest
      | _ => .error .notJson
  | _ => .error .notJson

/-- Reads the entries of the body through its closing brace. Every entry takes lexemes, so `fuel`
need not exceed their number. -/
def Draft.readEntries (draft : Draft) : Nat → List Lexeme →
    Except BodyFault (TransformRequest × List Lexeme)
  | 0, _ => .error .notJson
  | fuel + 1, lexemes => do
    let (next, rest) ← draft.readEntry lexemes
    match rest with
    | ⟨_, .comma⟩ :: rest => next.readEntries fuel rest
    | ⟨_, .rightBrace⟩ :: rest => return (← next.finish, rest)
    | _ => .error .notJson

/-- Reads the items of a body that is an array, one for each of the given fields; the first item has
no comma before it. An item may be missing only if all those after it are, and only that of
`validateRules`. -/
def Draft.readItems (draft : Draft) (isFirst : Bool) : List String → List Lexeme →
    Except BodyFault (TransformRequest × List Lexeme)
  | [], ⟨_, .rightBracket⟩ :: rest => do return (← draft.finish, rest)
  | [], _ => .error .notJson
  | field :: _, ⟨_, .rightBracket⟩ :: rest =>
    if field = "validateRules" then do return (← draft.finish, rest) else .error .notRequest
  | field :: fields, lexemes => do
    let lexemes ← match isFirst, lexemes with
      | true, lexemes => Except.ok lexemes
      | false, ⟨_, .comma⟩ :: rest => .ok rest
      | false, _ => .error .notJson
    let (next, rest) ← draft.readField field lexemes
    next.readItems false fields rest

def requestFields : List String := ["source", "sourceId", "metadata", "validateRules"]

def readRequest : List Lexeme → Except BodyFault (TransformRequest × List Lexeme)
  | [] => .error .notJson
  | ⟨_, .leftBrace⟩ :: ⟨_, .rightBrace⟩ :: _ => .error .notRequest
  | ⟨_, .leftBrace⟩ :: rest => Draft.readEntries {} rest.length rest
  | ⟨_, .leftBracket⟩ :: rest => Draft.readItems {} true requestFields rest
  | lexeme :: _ => .error (wrongStart lexeme.kind)

def TransformRequest.ofBytes (body : List UInt8) : Except BodyFault TransformRequest :=
  match readRequest (Json.lexemes body) with
  | .error fault => .error fault
  | .ok (request, []) => .ok request
  | .ok (_, _ :: _) => .error .notJson

end AdaptiveForm.Service
