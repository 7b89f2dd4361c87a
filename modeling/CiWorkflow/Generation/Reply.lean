import CiWorkflow.Config.Field
import CiWorkflow.Generation.Fence
import CiWorkflow.Json
import CiWorkflow.Log

set_option autoImplicit false

namespace CiWorkflow.Generation

inductive Reply where
  | response (status : Int) (body : String)
  /-- There was no response. The failure may still tell of a status. -/
  | failure (kind message : String) (status : Option Int)

inductive Fault where
  | noKey
  | busy
  | failed
  /-- A failure that has nothing to do with the exchange and is handed on. -/
  | other (kind message : String)
  | notIterable (v : Value)
  | notRecord (v : Value)
  | notText (index : Nat) (v : Value)

def typeName : Value → String
  | .null => "NoneType"
  | .bool _ => "bool"
  | .int _ => "int"
  | .float _ => "float"
  | .text _ => "str"
  | .bytes _ => "bytes"
  | .date _ => "datetime.date"
  | .moment _ => "datetime.datetime"
  | .list _ | .endless => "list"
  | .tuple _ => "tuple"
  | .set _ => "set"
  | .map _ => "dict"

def Fault.message : Fault → String
  | .noKey => "Gemini API key is missing. Set GEMINI_API_KEY or pass --api-key."
  | .busy => "A Dockerfile generation request is already running."
  | .failed => "Failed to generate Dockerfile. Please try again."
  | .other kind message => if kind == "KeyError" then Text.quoted message else message
  | .notIterable v => "'" ++ typeName v ++ "' object is not iterable"
  | .notRecord v => "'" ++ typeName v ++ "' object has no attribute 'get'"
  | .notText index v =>
    "sequence item " ++ toString index ++ ": expected str instance, " ++ typeName v ++ " found"

def exchangeKinds : List String := [
  "RequestException", "InvalidJSONError", "JSONDecodeError", "HTTPError", "ConnectionError",
  "ProxyError", "SSLError", "Timeout", "ConnectTimeout", "ReadTimeout", "URLRequired",
  "TooManyRedirects", "MissingSchema", "InvalidSchema", "InvalidURL", "InvalidHeader",
  "InvalidProxyURL", "ChunkedEncodingError", "ContentDecodingError", "StreamConsumedError",
  "RetryError", "UnrewindableBodyError", "ValueError", "UnicodeError", "UnicodeDecodeError",
  "UnicodeEncodeError", "UnicodeTranslateError"]

/-- A failure of the exchange: its kind, and the status if there is one. -/
structure Trouble where
  kind : String
  status : Option Int
  deriving DecidableEq, Repr

def Trouble.text (t : Trouble) : String :=
  let status := match t.status with
    | some n => toString n
    | none => "None"
  "Generation API error: " ++ t.kind ++ " (status " ++ status ++ ")"

def surpriseText (data : Value) : String := "Unexpected generation response: " ++ data.quoted

structure Result where
  answer : Except Fault String
  log : List LogEntry

def Result.failed (text : String) : Result := ⟨.error .failed, [⟨.error, .generation, text⟩]⟩

/-- The first candidate's content, if it is where it should be. -/
def content? (data : Value) : Option Entries :=
  match data with
  | .map es => match Value.lookup "candidates" es with
    | some (.list (.map candidate :: _)) => match Value.lookup "content" candidate with
      | some (.map content) => some content
      | _ => none
    | _ => none
  | _ => none

/-- What is walked through as parts: items, the keys of a record, or the characters of a text. -/
def items : Value → Except Fault (List Value)
  | .list xs => .ok xs
  | .map es => .ok (es.map (·.1))
  | .text s => .ok (s.toList.map fun c => .text (String.singleton c))
  | v => .error (.notIterable v)

def partText : Value → Except Fault Value
  | .map es => .ok ((Value.lookup "text" es).getD (.text ""))
  | v => .error (.notRecord v)

/-- All texts one after the other; `index` counts the items before. -/
def joined : (index : Nat) → List Value → Except Fault String
  | _, [] => .ok ""
  | index, .text s :: rest => (joined (index + 1) rest).map (s ++ ·)
  | index, v :: _ => .error (.notText index v)

/-- All parts are looked at before the first text is. -/
def partsText (parts : Value) : Except Fault String := do
  joined 0 (← (← items parts).mapM partText)

def Result.ofData (data : Value) : Result :=
  match content? data with
  | none => .failed (surpriseText data)
  | some content =>
    let text := partsText ((Value.lookup "parts" content).getD (.list []))
    ⟨text.map fun t => String.ofList (stripFences t.toList), []⟩

/-- Reads the text in a reply. A status from 400 on is a failure, and so is a body that is no
JSON. -/
def Reply.result [Half] : Reply → Result
  | .response status body =>
    if 400 ≤ status ∧ status < 600 then .failed (Trouble.mk "HTTPError" (some status)).text
    else match Json.read body with
      | .ok data => .ofData data
      | .error .malformed => .failed (Trouble.mk "JSONDecodeError" none).text
      | .error .longInteger => .failed (Trouble.mk "ValueError" none).text
  | .failure kind message status =>
    if exchangeKinds.contains kind then .failed (Trouble.mk kind status).text
    else ⟨.error (.other kind message), []⟩

end CiWorkflow.Generation
