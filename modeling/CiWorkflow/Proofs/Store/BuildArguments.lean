import CiWorkflow.Proofs.Store.Atomicity
import CiWorkflow.Proofs.Store.Revalidation
import CiWorkflow.Proofs.Store.Ending

/-! Operations on the arguments of a build. Each of them changes the list of arguments at its end or
at the places of one id. All other arguments keep their ids, their fields and their order, and
nothing else in the store changes. -/

set_option autoImplicit false

namespace CiWorkflow

namespace Check
variable {α β : Type} {x : Check α} {f : α → Check β} {n : Nat}

theorem bind_eq_ok_iff {b : β} :
    (x.bind f n).result = .ok b ↔
      ∃ a, (x n).result = .ok a ∧ (f a (x n).drawn).result = .ok b := by
  simp only [bind]
  cases (x n).result <;> simp

end Check

namespace BuildArg

structure Updated (a : BuildArg) (changes : Entries) (a' : BuildArg) : Prop where
  id : idField.Holds changes checkText a.id a'.id
  key : keyField.Holds changes checkText a.key a'.key
  value : valueField.Holds changes (checkWarnedText "value") a.value a'.value
  isDynamic : dynamicField.Holds changes checkFlag a.isDynamic a'.isDynamic

theorem still_ofEntries {data : Entries} (given : (idField.given data).isSome = true) :
    (ofEntries data).Still := by
  obtain ⟨p, hp⟩ := Option.isSome_iff_exists.1 given
  have id : (idField.check data .freshId checkText).Still := by
    simp only [Field.check, hp]
    exact (still_checkText _).under _
  have checked := (Check.still_ok mk).also id
    |>.also (keyField.still_check (Check.still_ok "NEW_ARG") still_checkText data)
    |>.also (valueField.still_check (Check.still_ok "value") (still_checkWarnedText "value") data)
    |>.also (dynamicField.still_check (Check.still_ok false) still_checkFlag data)
  exact (checked.map _).also (still_checkKeys fields data)

theorem still_update (a : BuildArg) (changes : Entries) : (a.update changes).Still := by
  have apart : (a.given.map (·.1)).Pairwise Field.Apart := fields_apart
  have found : idField.given (changed (a.entries .name) changes) =
      some (idField.name, (idField.change? changes).getD (.text a.id)) :=
    Field.given_changed apart (w := .text a.id) (by simp [given]) (.inl rfl)
  exact still_ofEntries (by rw [found]; rfl)

def changed? (a : BuildArg) (changes : Entries) : Option BuildArg :=
  (a.update changes 0).result.toOption

/-- Changes reach an argument only under its id. -/
def changedWhere (id : Value) (changes : Entries) (a : BuildArg) : BuildArg :=
  if a.hasId id then (a.changed? changes).getD a else a

section
variable {a a' : BuildArg} {changes : Entries} {n : Nat}

theorem update_eq_ok_iff : (a.update changes n).result = .ok a' ↔ a.changed? changes = some a' := by
  rw [changed?, (a.still_update changes).result n 0]
  cases (a.update changes 0).result <;> simp [Except.toOption]

theorem updated_of_changed? (h : a.changed? changes = some a') : a.Updated changes a' := by
  obtain ⟨_, _, checked, keys, rfl⟩ := Check.also_eq_ok_iff.1 (update_eq_ok_iff (n := 0).2 h)
  obtain ⟨a', h₄, rfl⟩ := Check.map_eq_ok_iff.1 checked
  obtain ⟨_, dynamic, h₃, isDynamic, rfl⟩ := Check.also_eq_ok_iff.1 h₄
  obtain ⟨_, text, h₂, value, rfl⟩ := Check.also_eq_ok_iff.1 h₃
  obtain ⟨_, name, h₁, key, rfl⟩ := Check.also_eq_ok_iff.1 h₂
  obtain ⟨_, label, h₀, id, rfl⟩ := Check.also_eq_ok_iff.1 h₁
  obtain rfl := Except.ok.inj h₀
  have apart : (a.given.map (·.1)).Pairwise Field.Apart := fields_apart
  have fine := Checked.isOk_iff.2 ⟨_, keys⟩
  exact {
    id := Field.holds_of_check apart fine (w := .text a.id) (by simp [given]) rfl still_checkText id
    key := Field.holds_of_check apart fine (w := .text a.key) (by simp [given]) rfl still_checkText
      key
    value := Field.holds_of_check apart fine (w := .text a.value) (by simp [given]) rfl
      (still_checkWarnedText _) value
    isDynamic := Field.holds_of_check apart fine (w := .bool a.isDynamic) (by simp [given]) rfl
      still_checkFlag isDynamic }

end

end BuildArg

section
open BuildArg

variable {id : Value} {changes : Entries} {a a' : BuildArg} {args updated : List BuildArg} {n : Nat}

theorem updateOne_eq_ok_iff :
    ((if a.hasId id then a.update changes else .ok a) n).result = .ok a' ↔
      (a.hasId id = true → (a.changed? changes).isSome = true) ∧
        a' = changedWhere id changes a := by
  by_cases h : a.hasId id = true
  · rw [if_pos h, update_eq_ok_iff, changedWhere, if_pos h]
    cases a.changed? changes with
    | none => simp [h]
    | some b => simpa [h] using eq_comm
  · rw [if_neg h, changedWhere, if_neg h]
    simpa [h, Check.ok] using eq_comm

/-- Where each argument of the id accepts the changes, they are all changed in place. -/
theorem updateArgs_eq_ok_iff :
    (updateArgs id changes args n).result = .ok updated ↔
      (∀ a ∈ args, a.hasId id = true → (a.changed? changes).isSome = true) ∧
        updated = args.map (changedWhere id changes) := by
  induction args generalizing updated n with
  | nil => simp [updateArgs, Check.ok]
  | cons a rest ih =>
    simp only [updateArgs, Check.bind_eq_ok_iff, updateOne_eq_ok_iff, Check.map_eq_ok_iff, ih,
      List.forall_mem_cons, List.map_cons]
    constructor
    · rintro ⟨a', ⟨here, rfl⟩, rest', ⟨others, rfl⟩, rfl⟩
      exact ⟨⟨here, others⟩, rfl⟩
    · rintro ⟨⟨here, others⟩, rfl⟩
      exact ⟨_, ⟨here, rfl⟩, _, ⟨others, rfl⟩, rfl⟩

theorem last_updated
    (accepted : ∀ a ∈ args, a.hasId id = true → (a.changed? changes).isSome = true) :
    ((args.zip (args.map (changedWhere id changes))).filter fun p => p.1.hasId id).getLast?.map
        Prod.snd =
      (args.filter (hasId id)).getLast?.bind fun a => a.changed? changes := by
  have pairs : args.zip (args.map (changedWhere id changes)) =
      args.map fun a => (a, changedWhere id changes a) := by
    simpa using List.zip_map' (f := fun a => a) (g := changedWhere id changes) (l := args)
  rw [pairs, List.filter_map, List.getLast?_map, Option.map_map]
  change (args.filter (hasId id)).getLast?.map (changedWhere id changes) = _
  cases last : (args.filter (hasId id)).getLast? with
  | none => rfl
  | some a =>
    obtain ⟨among, has⟩ := List.mem_filter.1 (List.mem_of_getLast? last)
    obtain ⟨b, changed⟩ := Option.isSome_iff_exists.1 (accepted a among has)
    simp [changedWhere, has, changed]

end

namespace Store

/-- The operation gives the build these arguments and changes nothing else. It gives this answer, if
no one who is told fails. -/
structure Edits (s : Store) (op : Operation) (args : List BuildArg) (answer : Answer) : Prop where
  container : (s.step op).store.container = { s.container with buildArgs := args }
  pages : (s.step op).store.pages = s.pages
  mode : (s.step op).store.mode = s.mode
  answered : (s.step op).answer = .ok answer ∨
    ∃ l ∈ s.listeners, l.raises = true ∧ (s.step op).answer = .error (.listener l.name)

def Refuses (s : Store) (op : Operation) : Prop :=
  (∃ error, (s.step op).answer = .error error ∧ error.isOwn = true) ∧
    ∃ drawn, (s.step op).store = { s with drawn := drawn }

section
variable {s s' : Store} {op : Operation} {args : List BuildArg} {answer : Answer}

theorem edits_of_quiet (h : (s.attempt op).ending = .quiet answer s) :
    s.Edits op s.container.buildArgs answer := by
  constructor <;> simp only [step, h, true_or]

/-- An operation that is not refused gives its answer, unless someone who is told fails. -/
theorem answered_of_changed (h : (s.attempt op).ending = .changed answer s')
    (registered : s'.listeners = s.listeners) :
    (s.step op).answer = .ok answer ∨
      ∃ l ∈ s.listeners, l.raises = true ∧ (s.step op).answer = .error (.listener l.name) := by
  simp only [step, h]
  split
  · exact .inl rfl
  · rename_i l failed
    obtain ⟨before, later, split, -, raises, -⟩ := tell_of_failed failed
    have among : l ∈ s.listeners := by
      rw [← registered, split]
      simp
    exact .inr ⟨l, among, raises, rfl⟩

theorem edits_of_changed (drawn : Nat) (h : (s.attempt op).ending = .changed answer
      { s with container := { s.container with buildArgs := args }, drawn := drawn }) :
    s.Edits op args answer where
  container := by simp only [step, h]
  pages := by simp only [step, h]
  mode := by simp only [step, h]
  answered := answered_of_changed h rfl

theorem refuses_of_refused (error : Refusal) (h : (s.attempt op).ending = .refused error)
    (own : error.isOwn = true) : s.Refuses op := by
  constructor
  · exact ⟨error, by simp only [step, h], own⟩
  · exact ⟨_, by simp only [step, h]; rfl⟩

end

/-- A list of arguments is taken over as it is, whatever ids are in it. -/
theorem ending_changeArgs {s : Store} (distinct : s.container.platforms.Nodup)
    (args : List BuildArg) (answer : Answer) :
    (s.changeArgs args answer).ending =
      .changed answer { s with container := { s.container with buildArgs := args } } :=
  ending_changeContainer distinct { buildArgs := some args } fun _ => answer

section
variable (s : Store)

def newArg (key value isDynamic : Value) : Checked BuildArg :=
  BuildArg.ofEntries (BuildArg.dynamicField.entry .name isDynamic
    :: (given BuildArg.keyField key ++ given BuildArg.valueField value)) s.drawn

theorem attempt_addArg (key value isDynamic : Value) :
    s.attempt (.addArg key value isDynamic) =
      .ofChecked BuildArg.title (s.newArg key value isDynamic) fun drawn a =>
        { s with drawn := drawn }.changeArgs (s.container.buildArgs ++ [a]) (.arg (some a)) := rfl

/-- Texts and flags always make one, and placeholders stand for what is not given. -/
theorem newArg_texts (key value : Option String) (isDynamic : Bool) :
    s.newArg (key.elim .null .text) (value.elim .null .text) (.bool isDynamic) =
      ⟨s.drawn + 1, [], .ok ⟨String.ofList (Text.hex 8 (s.drawn + 1)), key.getD "NEW_ARG",
        value.getD "value", isDynamic⟩⟩ := by
  cases key <;> cases value <;> rfl

end

section
variable {s : Store} {key value isDynamic : Value} {a : BuildArg} {args : List BuildArg}

theorem id_newArg (h : (s.newArg key value isDynamic).result = .ok a) :
    (Check.freshId s.drawn).result = .ok a.id := by
  obtain ⟨_, _, checked, -, rfl⟩ := Check.also_eq_ok_iff.1 h
  obtain ⟨a, h₄, rfl⟩ := Check.map_eq_ok_iff.1 checked
  obtain ⟨_, dynamic, h₃, -, rfl⟩ := Check.also_eq_ok_iff.1 h₄
  obtain ⟨_, text, h₂, -, rfl⟩ := Check.also_eq_ok_iff.1 h₃
  obtain ⟨_, name, h₁, -, rfl⟩ := Check.also_eq_ok_iff.1 h₂
  obtain ⟨_, label, h₀, id, rfl⟩ := Check.also_eq_ok_iff.1 h₁
  obtain rfl := Except.ok.inj h₀
  have none : BuildArg.idField.given (BuildArg.dynamicField.entry .name isDynamic
      :: (given BuildArg.keyField key ++ given BuildArg.valueField value)) = none := by
    cases key <;> cases value <;> rfl
  rw [Field.check, none] at id
  exact id

theorem ending_addArg (distinct : s.container.platforms.Nodup)
    (h : (s.newArg key value isDynamic).result = .ok a) :
    (s.attempt (.addArg key value isDynamic)).ending = .changed (.arg (some a)) { s with
      container := { s.container with buildArgs := s.container.buildArgs ++ [a] }
      drawn := (s.newArg key value isDynamic).drawn } := by
  rw [attempt_addArg]
  generalize s.newArg key value isDynamic = checked at h ⊢
  simp only [Attempt.ofChecked, h]
  exact ending_changeArgs (s := { s with drawn := checked.drawn }) distinct _ _

theorem addArg_edits_or_refuses (distinct : s.container.platforms.Nodup)
    (key value isDynamic : Value) :
    (∃ a, (s.newArg key value isDynamic).result = .ok a ∧
      s.Edits (.addArg key value isDynamic) (s.container.buildArgs ++ [a]) (.arg (some a))) ∨
    (∃ e, (s.newArg key value isDynamic).result = .error e ∧
      s.Refuses (.addArg key value isDynamic)) := by
  cases h : (s.newArg key value isDynamic).result with
  | ok a => exact .inl ⟨a, rfl, edits_of_changed _ (ending_addArg distinct h)⟩
  | error e =>
    refine .inr ⟨e, rfl, refuses_of_refused (.invalid BuildArg.title e) ?_ rfl⟩
    rw [attempt_addArg]
    simp only [Attempt.ofChecked, h]

theorem removeArg_edits (distinct : s.container.platforms.Nodup) (id : Value) :
    s.Edits (.removeArg id) (s.container.buildArgs.filter fun a => !a.hasId id)
      (.removed (s.container.buildArgs.any (BuildArg.hasId id))) := by
  by_cases h : s.container.buildArgs.any (BuildArg.hasId id) = true
  · rw [h]
    refine edits_of_changed s.drawn ?_
    rw [attempt, removeArg, if_pos h]
    exact ending_changeArgs distinct _ _
  · have all : s.container.buildArgs.filter (fun a => !a.hasId id) = s.container.buildArgs := by
      simpa [List.filter_eq_self] using h
    rw [all, Bool.not_eq_true _ |>.mp h]
    refine edits_of_quiet ?_
    rw [attempt, removeArg, if_neg h]
    rfl

/-- An argument that was added is the only one of its id, if there was none before. -/
theorem Edits.restored (distinct : s.container.platforms.Nodup) {op : Operation} {answer : Answer}
    (edits : s.Edits op (s.container.buildArgs ++ [a]) answer)
    (fresh : ∀ b ∈ s.container.buildArgs, b.id ≠ a.id) :
    let added := (s.step op).store
    added.Edits (.removeArg (.text a.id)) s.container.buildArgs (.removed true) ∧
      (added.step (.removeArg (.text a.id))).store.container = s.container := by
  intro added
  have container : added.container = { s.container with
    buildArgs := s.container.buildArgs ++ [a] } := edits.container
  have others : (s.container.buildArgs ++ [a]).filter (fun b => !b.hasId (.text a.id)) =
      s.container.buildArgs := by
    have kept (b) (hb : b ∈ s.container.buildArgs) : (!b.hasId (.text a.id)) = true := by
      simpa [BuildArg.hasId] using fresh b hb
    rw [List.filter_append, List.filter_eq_self.2 kept]
    simp [BuildArg.hasId]
  have removed := removeArg_edits (s := added) (by rw [container]; exact distinct) (.text a.id)
  rw [container] at removed
  simp only [others] at removed
  have any : (s.container.buildArgs ++ [a]).any (BuildArg.hasId (.text a.id)) = true := by
    simp [BuildArg.hasId]
  rw [any] at removed
  exact ⟨removed, by rw [removed.container, container]⟩

end

section
variable {s : Store} {id : Value} {changes : Entries}

theorem attempt_updateArg (names : refusal? "update_build_arg" ["self", "arg_id"] changes = none)
    (h : s.container.buildArgs.any (BuildArg.hasId id) = true) :
    s.attempt (.updateArg id changes) = .ofChecked BuildArg.title
      (updateArgs id changes s.container.buildArgs s.drawn) fun drawn updated =>
        let both := s.container.buildArgs.zip updated
        let named := both.filter fun p : BuildArg × BuildArg => p.1.hasId id
        { s with drawn := drawn }.changeArgs updated (.arg (named.getLast?.map Prod.snd)) := by
  simp only [attempt, withNames, names, updateArg, if_pos h]

theorem updateArg_edits (distinct : s.container.platforms.Nodup)
    (names : refusal? "update_build_arg" ["self", "arg_id"] changes = none)
    (accepted : ∀ a ∈ s.container.buildArgs, a.hasId id = true →
      (a.changed? changes).isSome = true) :
    s.Edits (.updateArg id changes) (s.container.buildArgs.map (.changedWhere id changes))
      (.arg ((s.container.buildArgs.filter (BuildArg.hasId id)).getLast?.bind
        (·.changed? changes))) := by
  by_cases h : s.container.buildArgs.any (BuildArg.hasId id) = true
  · have updated := (updateArgs_eq_ok_iff (n := s.drawn)).2 ⟨accepted, rfl⟩
    rw [← last_updated accepted]
    refine edits_of_changed (updateArgs id changes s.container.buildArgs s.drawn).drawn ?_
    rw [attempt_updateArg names h]
    generalize updateArgs id changes s.container.buildArgs s.drawn = checked at updated ⊢
    simp only [Attempt.ofChecked, updated]
    exact ending_changeArgs (s := { s with drawn := checked.drawn }) distinct _ _
  · have none : ∀ a ∈ s.container.buildArgs, a.hasId id = false := by simpa using h
    have same : s.container.buildArgs.map (.changedWhere id changes) = s.container.buildArgs := by
      have each (a) (ha : a ∈ s.container.buildArgs) : a.changedWhere id changes = a := by
        rw [BuildArg.changedWhere, none a ha]
        rfl
      exact (List.map_congr_left each).trans (List.map_id' _)
    have empty : s.container.buildArgs.filter (BuildArg.hasId id) = [] :=
      List.filter_eq_nil_iff.2 fun a ha => by simp [none a ha]
    rw [same, empty]
    refine edits_of_quiet ?_
    simp only [attempt, withNames, names, updateArg, if_neg h]
    rfl

theorem updateArg_refuses
    (refused : refusal? "update_build_arg" ["self", "arg_id"] changes ≠ none ∨
      ∃ a ∈ s.container.buildArgs, a.hasId id = true ∧ a.changed? changes = none) :
    s.Refuses (.updateArg id changes) := by
  cases names : refusal? "update_build_arg" ["self", "arg_id"] changes with
  | some error =>
    refine refuses_of_refused error ?_ (isOwn_of_refusal? names)
    simp only [attempt, withNames, names]
  | none =>
    obtain ⟨a, among, has, bad⟩ := refused.resolve_left (· names)
    have h : s.container.buildArgs.any (BuildArg.hasId id) = true :=
      List.any_eq_true.2 ⟨a, among, has⟩
    cases updated : (updateArgs id changes s.container.buildArgs s.drawn).result with
    | ok args =>
      have accepted := (updateArgs_eq_ok_iff.1 updated).1 a among has
      rw [bad] at accepted
      exact absurd accepted (by simp)
    | error e =>
      refine refuses_of_refused (.invalid BuildArg.title e) ?_ rfl
      simp only [attempt_updateArg names h, Attempt.ofChecked, updated]

end

/-- A new argument goes last, and those of an id are removed together or changed together, in place.
All others stay as they are, and so does all else in the store. Where the id of a new argument is
new, removing it restores the build. -/
theorem argument_edits {start : Store} (h : start.container.Valid) (ops : List Operation) :
    let s := start.after ops
    let args := s.container.buildArgs
    (∀ key value isDynamic, let add : Operation := .addArg key value isDynamic
      (∃ a, (s.newArg key value isDynamic).result = .ok a ∧
        (Check.freshId s.drawn).result = .ok a.id ∧ s.Edits add (args ++ [a]) (.arg (some a)) ∧
        ((∀ b ∈ args, b.id ≠ a.id) → let added := (s.step add).store
          added.Edits (.removeArg (.text a.id)) args (.removed true) ∧
          (added.step (.removeArg (.text a.id))).store.container = s.container)) ∨
      ∃ e, (s.newArg key value isDynamic).result = .error e ∧ s.Refuses add) ∧
    (∀ (key value : Option String) (isDynamic : Bool), ∃ id,
      (s.newArg (key.elim .null .text) (value.elim .null .text) (.bool isDynamic)).result =
        .ok ⟨id, key.getD "NEW_ARG", value.getD "value", isDynamic⟩) ∧
    (∀ id, s.Edits (.removeArg id) (args.filter fun a => !a.hasId id)
      (.removed (args.any (BuildArg.hasId id)))) ∧
    ∀ id changes, let named := args.filter (BuildArg.hasId id)
      ((∀ a ∈ named, ∃ a', a.changed? changes = some a' ∧ a.Updated changes a') ∧
        s.Edits (.updateArg id changes) (args.map (.changedWhere id changes))
          (.arg (named.getLast?.bind (·.changed? changes)))) ∨
      ((refusal? "update_build_arg" ["self", "arg_id"] changes ≠ none ∨
          ∃ a ∈ named, a.changed? changes = none) ∧
        s.Refuses (.updateArg id changes)) := by
  intro s args
  have distinct : s.container.platforms.Nodup := Container.valid_iff_nodup.1 (valid_after h ops)
  refine ⟨fun key value isDynamic => ?_, fun key value isDynamic => ?_, removeArg_edits distinct,
    fun id changes => ?_⟩
  · rcases addArg_edits_or_refuses distinct key value isDynamic with ⟨a, made, edits⟩ | refused
    · exact .inl ⟨a, made, id_newArg made, edits, edits.restored distinct⟩
    · exact .inr refused
  · exact ⟨_, by rw [newArg_texts]⟩
  · by_cases names : refusal? "update_build_arg" ["self", "arg_id"] changes = none
    · by_cases accepted : ∃ a ∈ args.filter (BuildArg.hasId id), a.changed? changes = none
      · obtain ⟨a, among, bad⟩ := accepted
        obtain ⟨there, has⟩ := List.mem_filter.1 among
        exact .inr ⟨.inr ⟨a, among, bad⟩, updateArg_refuses (.inr ⟨a, there, has, bad⟩)⟩
      · have each (a) (ha : a ∈ args.filter (BuildArg.hasId id)) :
            ∃ a', a.changed? changes = some a' := by
          refine Option.ne_none_iff_exists'.1 fun bad => accepted ⟨a, ha, bad⟩
        refine .inl ⟨fun a ha => ?_, updateArg_edits distinct names fun a ha has => ?_⟩
        · obtain ⟨a', changed⟩ := each a ha
          exact ⟨a', changed, BuildArg.updated_of_changed? changed⟩
        · exact Option.isSome_iff_exists.2 (each a (List.mem_filter.2 ⟨ha, has⟩))
    · exact .inr ⟨.inl names, updateArg_refuses (.inl names)⟩

/-- Two arguments come to have one id, whoever fails to be told of it, and both are removed. A new
argument that is removed again leaves nothing. -/
theorem argument_edits_repeated :
    let start := Store.start .docker .sample .initial 7
    let ops : List Operation := [.subscribe ⟨"deaf", false, true⟩,
      .updateArg (.text "2") [(.text "id", .text "1")]]
    let s := start.after ops
    let add : Operation := .addArg (.text "COMMIT_SHA") .null (.bool true)
    let added := (s.step add).store
    start.container.Valid ∧
      (s.step (.removeArg (.text "1"))).store.container.buildArgs.map (·.id) = ["3", "4"] ∧
      (∀ b ∈ s.container.buildArgs, b.id ≠ "00000008") ∧
      (added.step (.removeArg (.text "00000008"))).store.container = s.container := by
  intro start ops s add added
  have valid : start.container.Valid := Container.valid_iff_nodup.2 (by decide)
  have ids : s.container.buildArgs.map (·.id) = ["1", "1", "3", "4"] := by decide +kernel
  have left : (s.container.buildArgs.filter fun a => !a.hasId (.text "1")).map (·.id) =
      ["3", "4"] := by decide +kernel
  have fresh : ∀ b ∈ s.container.buildArgs, b.id ≠ "00000008" := by
    intro b hb same
    have among : b.id ∈ s.container.buildArgs.map (·.id) := List.mem_map_of_mem hb
    rw [ids, same] at among
    exact absurd among (by decide)
  have made : (s.newArg (.text "COMMIT_SHA") .null (.bool true)).result =
      .ok ⟨"00000008", "COMMIT_SHA", "value", true⟩ := by decide +kernel
  obtain ⟨adds, -, removes, -⟩ := argument_edits valid ops
  refine ⟨valid, by rw [(removes (.text "1")).container, left], fresh, ?_⟩
  obtain ⟨a, ok, -, -, restored⟩ | ⟨e, refused, -⟩ :=
    adds (.text "COMMIT_SHA") .null (.bool true)
  · have id : a.id = "00000008" := congrArg BuildArg.id (Except.ok.inj (ok.symm.trans made))
    rw [id] at restored
    dsimp only [added, add, s]
    exact (restored fresh).2
  · exact absurd (refused.symm.trans made) (by simp)

end Store

end CiWorkflow
