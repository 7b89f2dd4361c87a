import CiWorkflow.Config.File
import CiWorkflow.Proofs.Config.LongNumbers
import CiWorkflow.Proofs.Yaml.MeaningFault

/-! How the loading of a configuration ends: with a configuration, with a refusal, at a scalar that
is not what it is to be, or at a number that is too long for a text. -/

set_option autoImplicit false

namespace CiWorkflow

/-- The text of a file, with line feeds at the ends of all its lines. -/
def FileContent.text? : FileContent → Option (List Char)
  | .bytes content => (String.fromUTF8? content).map fun text => unifyNewlines text.toList
  | .absent | .directory => none

def FileContent.Stops (content : FileContent) (f : Yaml.Fault) : Prop :=
  ∃ cs, content.text? = some cs ∧ Yaml.read cs = .error f ∧ Yaml.Misfit cs f

def Pages.Valid (p : Pages) : Prop := ∃ data n, (ofEntries data n).result = .ok p

def LoadError.path : LoadError → String
  | .notFound path | .unreadable path | .malformed path | .notMapping path | .invalid path _ _ =>
    path

/-- Either there is a configuration that the checks may give, or a refusal that names the path. -/
def Loaded.IsForeseen {α : Type} (valid : α → Prop) (path : String) (l : Loaded α) : Prop :=
  match l.result with
  | .ok config => valid config
  | .error (.refused e) => e.path = path
  | .error (.scalar _) | .error .longNumber => False

inductive Reads (path : String) (content : FileContent) : Except LoadFailure Entries → Prop
  | notFound (h : content = .absent) : Reads path content (.error (.refused (.notFound path)))
  | unreadable (h : content.text? = none) :
      Reads path content (.error (.refused (.unreadable path)))
  | malformed {cs : List Char} (text : content.text? = some cs)
      (h : Yaml.read cs = .error .malformed) :
      Reads path content (.error (.refused (.malformed path)))
  | scalar {f : Yaml.Fault} (h : content.Stops f) : Reads path content (.error (.scalar f))
  | notMapping {cs : List Char} {v : Value} (text : content.text? = some cs)
      (h : Yaml.read cs = .ok v) : Reads path content (.error (.refused (.notMapping path)))
  | entries {cs : List Char} {v : Value} (text : content.text? = some cs)
      (h : Yaml.read cs = .ok v) (data : Entries) : Reads path content (.ok data)

theorem reads_readEntries (path : String) (content : FileContent) :
    Reads path content (readEntries path content) := by
  cases content with
  | absent => exact .notFound rfl
  | directory => exact .unreadable rfl
  | bytes content =>
    rw [readEntries]
    cases hu : String.fromUTF8? content with
    | none => exact .unreadable (by rw [FileContent.text?, hu]; rfl)
    | some s =>
      have text : (FileContent.bytes content).text? = some (unifyNewlines s.toList) := by
        rw [FileContent.text?, hu]
        rfl
      cases hr : Yaml.read (unifyNewlines s.toList) with
      | error f =>
        by_cases hf : f = .malformed
        · subst hf
          simp only [hr]
          exact .malformed text hr
        · simp only [hr]
          exact .scalar ⟨_, text, hr, Yaml.misfit_of_read hr hf⟩
      | ok v =>
        simp only [hr]
        cases v with
        | null => exact .entries text hr []
        | map data => exact .entries text hr data
        | _ => exact .notMapping text hr

section Ending
variable {path : String} {content : FileContent}

theorem readEntries_eq_scalar_iff {f : Yaml.Fault} :
    readEntries path content = .error (.scalar f) ↔ content.Stops f := by
  have reads := reads_readEntries path content
  constructor
  · intro h
    rw [h] at reads
    cases reads with
    | scalar h => exact h
  · rintro ⟨cs, text, hr, misfit⟩
    have same {cs'} (h : content.text? = some cs') : cs' = cs :=
      Option.some.inj (h.symm.trans text)
    generalize readEntries path content = result at reads
    cases reads with
    | notFound h =>
      subst h
      cases text
    | unreadable h => exact nomatch h.symm.trans text
    | malformed text h =>
      obtain rfl := same text
      exact absurd (Except.error.inj (hr.symm.trans h)) misfit.ne_malformed
    | scalar h =>
      obtain ⟨_, text, h, -⟩ := h
      obtain rfl := same text
      rw [Except.error.inj (h.symm.trans hr)]
    | notMapping text h | entries text h data =>
      obtain rfl := same text
      exact nomatch hr.symm.trans h

theorem path_of_readEntries {e : LoadError} (h : readEntries path content = .error (.refused e)) :
    e.path = path := by
  have reads := reads_readEntries path content
  rw [h] at reads
  cases reads <;> rfl

variable {α : Type} {valid : α → Prop} {title : String} {check : Entries → Check α}
  {texts : Entries → List Value}

theorem loadWith_of_stops {f : Yaml.Fault} (h : content.Stops f) (drawn : Nat) :
    loadWith title check path content drawn = ⟨drawn, [], .error (.scalar f)⟩ := by
  rw [loadWith, readEntries_eq_scalar_iff.2 h]

theorem loadWith_of_isCut {data : Entries} (h : readEntries path content = .ok data) {drawn : Nat}
    (cut : (check data drawn).isCut = true) :
    (loadWith title check path content drawn).result = .error .longNumber := by
  simp only [loadWith, h, Checked.isCut_iff.1 cut]

theorem loadWith_isForeseen
    (checked : ∀ data n config, (check data n).result = .ok config → valid config)
    (h : ∀ f, ¬ content.Stops f) {drawn : Nat}
    (whole : ∀ data, readEntries path content = .ok data → (check data drawn).isCut = false) :
    (loadWith title check path content drawn).IsForeseen valid path := by
  rw [loadWith]
  cases hr : readEntries path content with
  | error failure =>
    cases failure with
    | refused e => exact path_of_readEntries hr
    | scalar f => exact absurd (readEntries_eq_scalar_iff.1 hr) (h f)
    | longNumber =>
      have reads := reads_readEntries path content
      rw [hr] at reads
      cases reads
  | ok data =>
    have notCut := whole data hr
    simp only
    rcases hc : (check data drawn).result with (found | _) | config
    · rfl
    · exact absurd (Checked.isCut_iff.2 hc) (by simp [notCut])
    · exact checked data drawn config hc

/-- Nothing stops the loading of a configuration but what keeps its text from being read, and a
number that is too long in the place of a text, whatever the file holds. -/
theorem loadWith_isForeseen_iff
    (checked : ∀ data n config, (check data n).result = .ok config → valid config)
    (cuts : ∀ data, (check data).CutBy (texts data)) (drawn : Nat) :
    (loadWith title check path content drawn).IsForeseen valid path ↔
      (∀ f, ¬ content.Stops f) ∧
        ∀ data, readEntries path content = .ok data → ∀ v ∈ texts data, v.isLong = false := by
  have cut_iff (data : Entries) :
      (check data drawn).isCut = false ↔ ∀ v ∈ texts data, v.isLong = false := by
    rw [cuts data drawn, List.any_eq_false]
    simp only [Bool.not_eq_true]
  simp only [← cut_iff]
  constructor
  · intro foreseen
    refine ⟨fun f stops => ?_, fun data read => Bool.eq_false_iff.2 fun cut => ?_⟩
    · rw [loadWith_of_stops stops] at foreseen
      exact foreseen
    · rw [Loaded.IsForeseen, loadWith_of_isCut read cut] at foreseen
      exact foreseen
  · rintro ⟨h, whole⟩
    exact loadWith_isForeseen checked h whole

end Ending

end CiWorkflow
