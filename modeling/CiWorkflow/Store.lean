import CiWorkflow.Log
import CiWorkflow.Workflow.Build
import CiWorkflow.Workflow.Deploy

set_option autoImplicit false

namespace CiWorkflow

inductive Mode where
  | docker
  | pages
  deriving DecidableEq, Repr

def Mode.text : Mode → String
  | docker => "DOCKER"
  | pages => "PAGES"

def Mode.all : List Mode := [docker, pages]

def Mode.ofValue? : Value → Option Mode
  | .text s => all.find? fun m => m.text == s
  | _ => none

theorem Mode.ofValue?_text (m : Mode) : ofValue? (.text m.text) = some m := by
  cases m <;> rfl

structure Listener where
  name : String
  /-- It ends a registration of its own when it is told something. -/
  once : Bool
  /-- It fails when it is told something. -/
  raises : Bool
  deriving DecidableEq, Repr

structure Store where
  mode : Mode
  container : Container
  pages : Pages
  /-- The registrations, the oldest first; a listener may be registered more than once. -/
  listeners : List Listener
  /-- The number of ids drawn so far. -/
  drawn : Nat

inductive Refusal where
  | invalid (record : String) (rejection : Rejection)
  | unknownMode (value : Value)
  | unknownOutput (value : Value)
  | listener (name : String)
  /-- A change under a name that stands for something else in the operation. -/
  | takenName (operation name : String)
  /-- A change whose name is no text. -/
  | namelessChange

def Refusal.message : Refusal → String
  | .invalid record rejection => rejection.message record
  | .unknownMode v => v.quoted ++ " is not a valid AppMode"
  | .unknownOutput v => v.quoted ++ " is not a valid OutputType"
  | .listener name => name
  | .takenName operation name =>
    "ConfigStore." ++ operation ++ "() got multiple values for argument " ++ Text.quoted name
  | .namelessChange => "keywords must be strings"

inductive Operation where
  | subscribe (l : Listener)
  | unsubscribe (l : Listener)
  | render
  | setMode (mode : Value)
  | updateContainer (changes : Entries)
  | togglePlatform (platform : Value)
  /-- A null key or value stands for the placeholder. -/
  | addArg (key value isDynamic : Value)
  | removeArg (id : Value)
  | updateArg (id : Value) (changes : Entries)
  | updatePages (changes : Entries)

inductive Answer where
  | none
  | document (text : String)
  | container (c : Container)
  | pages (p : Pages)
  | platforms (ps : List String)
  | arg (a : Option BuildArg)
  | removed (any : Bool)

inductive Ending where
  | refused (error : Refusal)
  /-- There is nothing to tell. -/
  | quiet (answer : Answer) (store : Store)
  | changed (answer : Answer) (store : Store)

structure Attempt where
  drawn : Nat
  log : List LogEntry
  ending : Ending

/-- Goes on with what was checked, or ends with why it was rejected. -/
def Attempt.ofChecked {α : Type} (record : String) (c : Checked α) (next : Nat → α → Attempt) :
    Attempt :=
  let log := c.warnings.map Warning.entry
  match c.result with
  | .ok a => let rest := next c.drawn a; { rest with log := log ++ rest.log }
  | .error e => ⟨c.drawn, log, .refused (.invalid record e)⟩

structure Told where
  /-- Who got which document. -/
  deliveries : List (Listener × String)
  /-- The registrations that are left. -/
  listeners : List Listener
  failed : Option Listener

/-- Tells one after the other. The first that fails ends it; what ends its registration in the
meantime does not change who is told. -/
def tell (document : String) : List Listener → List Listener → Told
  | [], left => ⟨[], left, none⟩
  | l :: rest, left =>
    if l.raises then ⟨[(l, document)], left, some l⟩
    else
      let told := tell document rest (if l.once then left.erase l else left)
      { told with deliveries := (l, document) :: told.deliveries }

theorem eq_of_mem_deliveries_tell {document : String} {told left : List Listener}
    {d : Listener × String} (h : d ∈ (tell document told left).deliveries) : d.2 = document := by
  fun_induction tell document told left with
  | case1 => simp at h
  | case2 l rest left hl => simp_all
  | case3 l rest left hl told ih =>
    rcases List.mem_cons.1 h with rfl | h
    · rfl
    · exact ih h

structure Outcome where
  store : Store
  answer : Except Refusal Answer
  deliveries : List (Listener × String)
  log : List LogEntry

def BuildArg.hasId (id : Value) (a : BuildArg) : Bool :=
  match id with
  | .text s => a.id == s
  | _ => false

/-- Changes the arguments with an id, up to the first one that is refused. -/
def updateArgs (id : Value) (changes : Entries) : List BuildArg → Check (List BuildArg)
  | [] => .ok []
  | a :: rest =>
    (if a.hasId id then a.update changes else .ok a).bind fun a' =>
      (updateArgs id changes rest).map (a' :: ·)

namespace Store

def start (mode : Mode) (container : Container) (pages : Pages) (drawn : Nat) : Store :=
  ⟨mode, container, pages, [], drawn⟩

def render (s : Store) : String :=
  match s.mode with
  | .docker => s.container.workflow
  | .pages => s.pages.workflow

def told (s : Store) : Told := tell s.render s.listeners s.listeners

def entry (text : String) : LogEntry := ⟨.debug, .store, text⟩

def changedNames (changes : Entries) : List String :=
  (changes.map (·.1.shown)).mergeSort fun a b => decide (a ≤ b)

def changeContainer (s : Store) (changes : Entries) (answer : Container → Answer) : Attempt :=
  .ofChecked Container.title (s.container.update changes s.drawn) fun drawn c =>
    ⟨drawn, [entry ("Updated container config: " ++ Text.quotedList (changedNames changes))],
      .changed (answer c) { s with container := c, drawn := drawn }⟩

def changePlatforms (s : Store) (platforms : List Value) : Attempt :=
  s.changeContainer [Container.platformsField.entry .name (.list platforms)] fun c =>
    .platforms c.platforms

def changeArgs (s : Store) (args : List BuildArg) (answer : Answer) : Attempt :=
  s.changeContainer
    [Container.buildArgsField.entry .name (.list (args.map fun a => .map (a.entries .name)))]
    fun _ => answer

def changePages (s : Store) (changes : Entries) : Attempt :=
  .ofChecked Pages.title (s.pages.update changes s.drawn) fun drawn p =>
    ⟨drawn, [entry ("Updated pages config: " ++ Text.quotedList (changedNames changes))],
      .changed (.pages p) { s with pages := p, drawn := drawn }⟩

/-- What is wrong with the names of changes, if anything: each is a text, and none is among the
names that the operation uses itself. -/
def refusal? (operation : String) (taken : List String) (changes : Entries) : Option Refusal :=
  let isText (v : Value) : Bool := match v with
    | .text _ => true
    | _ => false
  if changes.any fun e => !isText e.1 then some .namelessChange
  else (taken.find? fun name => (Value.lookup name changes).isSome).map (.takenName operation)

/-- Goes on unless there is something wrong with the names of changes. -/
def withNames (s : Store) (operation : String) (taken : List String) (changes : Entries)
    (attempt : Attempt) : Attempt :=
  match refusal? operation ("self" :: taken) changes with
  | some error => ⟨s.drawn, [], .refused error⟩
  | none => attempt

def quiet (s : Store) (log : List LogEntry) (answer : Answer) : Attempt :=
  ⟨s.drawn, log, .quiet answer s⟩

def noArg (id : Value) : List LogEntry := [entry ("No build argument with id " ++ id.shown)]

def toggled (platform : Value) (platforms : List String) : List Value :=
  match platform with
  | .text p =>
    if platforms.contains p then (platforms.erase p).map .text
    else platforms.map .text ++ [platform]
  | _ => platforms.map .text ++ [platform]

def given (f : Field) (v : Value) : Entries :=
  match v with
  | .null => []
  | _ => [f.entry .name v]

def addArg (s : Store) (key value isDynamic : Value) : Attempt :=
  let data :=
    BuildArg.dynamicField.entry .name isDynamic
      :: (given BuildArg.keyField key ++ given BuildArg.valueField value)
  .ofChecked BuildArg.title (BuildArg.ofEntries data s.drawn) fun drawn a =>
    { s with drawn := drawn }.changeArgs (s.container.buildArgs ++ [a]) (.arg (some a))

def removeArg (s : Store) (id : Value) : Attempt :=
  let args := s.container.buildArgs
  if args.any (BuildArg.hasId id) then
    s.changeArgs (args.filter fun a => !a.hasId id) (.removed true)
  else s.quiet (noArg id) (.removed false)

def updateArg (s : Store) (id : Value) (changes : Entries) : Attempt :=
  let args := s.container.buildArgs
  if args.any (BuildArg.hasId id) then
    let answer (updated : List BuildArg) : Answer :=
      .arg ((((args.zip updated).filter fun p => p.1.hasId id).getLast?).map Prod.snd)
    .ofChecked BuildArg.title (updateArgs id changes args s.drawn) fun drawn updated =>
      { s with drawn := drawn }.changeArgs updated (answer updated)
  else s.quiet (noArg id) (.arg none)

def attempt (s : Store) : Operation → Attempt
  | .subscribe l => { s with listeners := s.listeners ++ [l] }.quiet [] .none
  | .unsubscribe l => { s with listeners := s.listeners.erase l }.quiet [] .none
  | .render => s.quiet [] (.document s.render)
  | .setMode v => match Mode.ofValue? v with
    | some m =>
      ⟨s.drawn, [entry ("Switched mode to " ++ m.text)], .changed .none { s with mode := m }⟩
    | none => ⟨s.drawn, [], .refused (.unknownMode v)⟩
  | .updateContainer changes =>
    s.withNames "update_container" [] changes (s.changeContainer changes .container)
  | .togglePlatform p => s.changePlatforms (toggled p s.container.platforms)
  | .addArg key value isDynamic => s.addArg key value isDynamic
  | .removeArg id => s.removeArg id
  | .updateArg id changes =>
    s.withNames "update_build_arg" ["arg_id"] changes (s.updateArg id changes)
  | .updatePages changes => s.withNames "update_pages" [] changes (s.changePages changes)

/-- Carries an operation out. A refused one leaves all but the count of ids as it was. -/
def step (s : Store) (op : Operation) : Outcome :=
  let a := s.attempt op
  match a.ending with
  | .refused error => ⟨{ s with drawn := a.drawn }, .error error, [], a.log⟩
  | .quiet answer s' => ⟨s', .ok answer, [], a.log⟩
  | .changed answer s' =>
    let told := s'.told
    let result := match told.failed with
      | none => .ok answer
      | some l => .error (.listener l.name)
    ⟨{ s' with listeners := told.listeners }, result, told.deliveries, a.log⟩

end Store

end CiWorkflow
