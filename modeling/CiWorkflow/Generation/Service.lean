import CiWorkflow.Generation.Reply

set_option autoImplicit false

namespace CiWorkflow.Generation

def promptText (description : String) : String :=
  "You are a DevOps expert. "
    ++ "Write a production-ready Multi-stage Dockerfile based on this description:\n"
    ++ "\"" ++ description ++ "\"\n\n"
    ++ "Requirements:\n"
    ++ "- Use alpine or slim images where possible for size.\n"
    ++ "- Follow best practices (layer caching, non-root user).\n"
    ++ "- Return ONLY the Dockerfile content. No markdown code fences, no explanation.\n"

structure Post where
  url : String
  headers : List (String × String)
  body : Value
  timeout : Value

abbrev Environment := List (String × String)

/-- The value of a variable, unless it is empty. -/
def Environment.value? (env : Environment) (name : String) : Option String :=
  (env.lookup name).filter (!·.isEmpty)

def keyVariables : List String := ["GEMINI_API_KEY", "API_KEY"]

def environmentKey (env : Environment) : Option String := keyVariables.findSome? env.value?

def modelVariable : String := "ACTIONFORGE_MODEL"

structure Service where
  key : Option String
  model : String
  timeout : Value
  /-- The request that is under way. -/
  pending : Option Post

namespace Service

/-- A key that is given counts even if it is empty; an empty name of a model does not. -/
def create (env : Environment) (key model : Option String) (timeout : Value) : Service := {
  key := key <|> environmentKey env
  model := (model.filter (!·.isEmpty) <|> env.value? modelVariable).getD "gemini-2.5-flash"
  timeout := timeout
  pending := none }

def defaultTimeout : Value := .int 120

def hasKey (s : Service) : Bool := s.key.any (!·.isEmpty)

def post (s : Service) (description : String) : Post := {
  url := "https://generativelanguage.googleapis.com/v1beta/models/" ++ s.model
    ++ ":generateContent"
  headers := [("x-goog-api-key", s.key.getD "")]
  body := .map [(.text "contents", .list [.map [(.text "parts", .list [
    .map [(.text "text", .text (promptText description))]])]])]
  timeout := s.timeout }

structure Begun where
  service : Service
  /-- The request that is sent. -/
  post : Except Fault Post
  log : List LogEntry

/-- Begins a call. It is refused without a key, and as long as another one is under way. -/
def begin (s : Service) (description : String) : Begun :=
  if !s.hasKey then ⟨s, .error .noKey, []⟩
  else if s.pending.isSome then ⟨s, .error .busy, []⟩
  else
    let post := s.post description
    ⟨{ s with pending := some post }, .ok post,
      [⟨.debug, .generation, "Requesting Dockerfile from model " ++ s.model⟩]⟩

structure Finished where
  service : Service
  result : Result

def finish [Half] (s : Service) (reply : Reply) : Finished :=
  ⟨{ s with pending := none }, reply.result⟩

structure Call where
  answer : Except Fault String
  /-- The call that was tried while this one was under way. -/
  inner : Option Begun
  posts : List Post
  log : List LogEntry
  service : Service

/-- Calls the model, and tries to call it with the description `inner` before it has replied. -/
def generate [Half] (s : Service) (description : String) (reply : Reply)
    (inner : Option String) : Call :=
  let begun := s.begin description
  match begun.post with
  | .error fault => ⟨.error fault, none, [], begun.log, begun.service⟩
  | .ok post =>
    let inner := inner.map begun.service.begin
    let finished := begun.service.finish reply
    { answer := finished.result.answer
      inner := inner
      posts := post :: (inner.bind (·.post.toOption)).toList
      log := begun.log ++ (inner.map (·.log)).getD [] ++ finished.result.log
      service := finished.service }

end Service

end CiWorkflow.Generation
