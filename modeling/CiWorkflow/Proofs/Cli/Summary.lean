import CiWorkflow.Proofs.Cli.OneShot
import CiWorkflow.Proofs.Cli.Output
import CiWorkflow.Proofs.Config.RoundTrip
import CiWorkflow.Proofs.Table.Reading

/-! The summary of a build. Its table of arguments has a row for each argument and three cells in
each row, but numbers are written anew in a column that holds nothing but numbers. -/

set_option autoImplicit false

namespace CiWorkflow

open Table Text

namespace Table.Column
variable {α : Type}

/-- The column shows every cell as it is: it is no column of decimals, or one where nothing changes
by being written anew. -/
def Kept (c : Column α) (items : List α) : Prop :=
  c.kind items = .decimal → ∀ a ∈ items, rewritten (c.cell a) = c.cell a

theorem kept_iff {c : Column α} {items : List α} :
    c.Kept items ↔ ∀ a ∈ items, c.shown items a = c.cell a := by
  by_cases decimal : c.kind items = .decimal
  · simp only [Kept, shown, decimal, Kind.shows, true_implies]
  · exact iff_of_true (absurd · decimal) fun a _ => Kind.shows_of_ne decimal (c.cell a)

theorem kept_of_word {c : Column α} {items : List α} {a : α} (ha : a ∈ items)
    (printed : IsPrinted (c.cell a).toList) (word : kindOfText (c.cell a).toList = .text) :
    c.Kept items := by
  intro decimal
  have text : c.kind items = .text :=
    columnKind_of_text (List.mem_map_of_mem ha) ((kind_text printed).trans word)
  rw [text] at decimal
  cases decimal

end Table.Column

namespace BuildArg

def keyColumn : Column BuildArg := ⟨"Build Arg", BuildArg.key⟩

def valueColumn : Column BuildArg := ⟨"Value", BuildArg.value⟩

def kindText (a : BuildArg) : String := if a.isDynamic then "dynamic" else "static"

def kindColumn : Column BuildArg := ⟨"Kind", kindText⟩

def columns : List (Column BuildArg) := [keyColumn, valueColumn, kindColumn]

end BuildArg

namespace Container
variable {c : Container}

/-- Keys and values of printable ASCII with no white space around them, none of them empty. -/
def NeatArgs (c : Container) : Prop :=
  ∀ a ∈ c.buildArgs, IsNeat a.key.toList ∧ IsNeat a.value.toList

instance (c : Container) : Decidable c.NeatArgs := by
  unfold NeatArgs
  infer_instance

theorem isNeat_columns (h : c.NeatArgs) :
    ∀ column ∈ BuildArg.columns, column.IsNeat c.buildArgs := by
  have kind (a : BuildArg) : IsNeat a.kindText.toList := by
    rw [BuildArg.kindText]
    split <;> decide
  simp only [BuildArg.columns, List.forall_mem_cons]
  refine ⟨⟨by decide, fun a ha => (h a ha).1⟩, ⟨by decide, fun a ha => (h a ha).2⟩,
    ⟨by decide, fun a _ => kind a⟩, ?_⟩
  exact fun _ none => absurd none List.not_mem_nil

theorem argTable_eq_render (c : Container) : c.argTable = render .simple
    (BuildArg.columns.map (·.header)) (Column.rows BuildArg.columns c.buildArgs) := by
  rw [argTable, Summary.table, List.map_map]
  rfl

def shownRow (c : Container) (a : BuildArg) : List String :=
  [BuildArg.keyColumn.shown c.buildArgs a, BuildArg.valueColumn.shown c.buildArgs a, a.kindText]

/-- The kinds of arguments are words, so they are shown as they are. -/
theorem kindColumn_kept (args : List BuildArg) : BuildArg.kindColumn.Kept args := by
  intro decimal a ha
  have word : IsPrinted a.kindText.toList ∧ kindOfText a.kindText.toList = .text := by
    rw [BuildArg.kindText]
    split <;> decide +kernel
  have kept : BuildArg.kindColumn.Kept args := Column.kept_of_word ha word.1 word.2
  exact kept decimal a ha

/-- There is a table of the arguments, and it shows each of them in its row. -/
theorem exists_argTable (some : c.buildArgs ≠ []) (neat : c.NeatArgs) :
    ∃ table, c.argTable = .ok table ∧ escapeChar ∉ table.toList ∧
      cellsOf table = c.buildArgs.map c.shownRow := by
  have columns := isNeat_columns neat
  have nonempty : BuildArg.columns ≠ [] := List.cons_ne_nil _ _
  have table := Column.render_rows nonempty some columns
  rw [← argTable_eq_render] at table
  refine ⟨_, table, ?_, ?_⟩
  · rw [String.toList_ofList]
    exact Column.escape_not_mem_unlines columns
  · rw [Column.cellsOf_lines columns]
    refine List.map_congr_left fun a ha => ?_
    have kindCell := Column.kept_iff.1 (kindColumn_kept c.buildArgs) a ha
    simp only [BuildArg.columns, List.map_cons, List.map_nil, kindCell]
    rfl

/-- The rows are those of the configuration if and only if both columns keep their texts. -/
theorem map_shownRow_eq_iff (c : Container) :
    c.buildArgs.map c.shownRow = c.buildArgs.map argRow ↔
      BuildArg.keyColumn.Kept c.buildArgs ∧ BuildArg.valueColumn.Kept c.buildArgs := by
  rw [List.map_inj_left, Column.kept_iff, Column.kept_iff, ← forall₂_and]
  refine forall₂_congr fun a _ => ?_
  have kindCell : a.kindText = if a.isDynamic then "dynamic" else "static" := rfl
  simp only [shownRow, argRow, kindCell, List.cons.injEq, and_true]
  rfl

theorem exists_settingTable (c : Container) : ∃ table, c.settingTable = .ok table := by
  refine exists_render _ fun row hrow v hv => ?_
  obtain ⟨texts, -, rfl⟩ := List.mem_map.1 hrow
  obtain ⟨s, -, rfl⟩ := List.mem_map.1 hv
  exact ⟨s, rfl⟩

end Container

namespace Cli

open Session

section
variable {w : World} {a : Arguments} {c : Container} {p : Progress}

def Progress.print (p : Progress) (s : String) : Progress := { p with printed := p.printed ++ s }

theorem outcome_print (s : String) (p : Progress) :
    (print s).outcome p = (.ok (), p.print (plainly s)) := rfl

theorem outcome_printTable {table : Except Fault String} {text : String} (h : table = .ok text)
    (p : Progress) : (printTable table).outcome p = (.ok (), p.print (plainly (text ++ "\n"))) := by
  subst h
  rfl

theorem outcome_runShow (docker : isPagesKind a = false)
    (config : Configures p.files (a.value? Show.config) c) (some : c.buildArgs ≠ [])
    (neat : c.NeatArgs) :
    ∃ settings table told, c.settingTable = .ok settings ∧ c.argTable = .ok table ∧
      cellsOf table = c.buildArgs.map c.shownRow ∧
      (runShow a).outcome p = (.ok (), (p.tell told).print
        (plainly (settings ++ "\n") ++ "\n" ++ table ++ "\n")) := by
  obtain ⟨settings, first⟩ := c.exists_settingTable
  obtain ⟨table, second, quiet, read⟩ := c.exists_argTable some neat
  obtain ⟨drawn, told₁, configured⟩ := config.gives
  obtain ⟨told₂, warned⟩ := gives_warnShadowed c (((((p.tell told₁).print
    (plainly (settings ++ "\n"))).print (plainly "\n"))).print (plainly (table ++ "\n")))
  have nonempty : c.buildArgs.isEmpty = false := by simpa using some
  refine ⟨settings, table, told₁ ++ told₂, first, second, read, ?_⟩
  rw [runShow]
  simp only [docker, Bool.false_eq_true, if_false]
  rw [outcome_bind configured]
  dsimp only
  rw [outcome_bind (outcome_printTable first _), outcome_bind (outcome_print _ _), nonempty]
  simp only [Bool.false_eq_true, if_false]
  rw [outcome_bind (outcome_printTable second _), warned]
  have line : plainly (table ++ "\n") = table ++ "\n" :=
    plainly_of_no_escape (by simpa [escapeChar] using quiet)
  have newline : plainly "\n" = "\n" := by decide +kernel
  simp only [Progress.tell, Progress.print, line, newline, List.append_assoc, String.append_assoc]

/-- A run that ends well, with two tables printed one below the other. -/
def Run.Summarizes (r : Run) (settings table : String) : Prop :=
  r.code = 0 ∧ r.crash = none ∧
    r.progress.printed = plainly (settings ++ "\n") ++ "\n" ++ table ++ "\n"

theorem exists_summary {arguments rest : List String} {verbose : Bool}
    (h : Invoked arguments verbose .summary rest)
    (request : Show.command.request w.files.isDirectory rest = .ok (.work a))
    (docker : isPagesKind a = false) (config : Configures w.files (a.value? Show.config) c)
    (some : c.buildArgs ≠ []) (neat : c.NeatArgs) :
    ∃ settings table, c.settingTable = .ok settings ∧ c.argTable = .ok table ∧
      (run w arguments).Summarizes settings table ∧ cellsOf table = c.buildArgs.map c.shownRow := by
  obtain ⟨settings, table, told, first, second, read, shown⟩ :=
    outcome_runShow (p := started w verbose) docker config some neat
  have session : (runTask w .summary rest).outcome (started w verbose) =
      (runShow a).outcome (started w verbose) := by
    have request : Task.summary.command.request w.files.isDirectory rest = .ok (.work a) := request
    rw [runTask, request]
    rfl
  refine ⟨settings, table, first, second, ?_, read⟩
  rw [h.run_eq w, session, shown]
  exact ⟨rfl, rfl, String.empty_append⟩

end

def versioned : Container :=
  { Container.initial with buildArgs := [⟨"a", "VERSION", "1.10", false⟩] }

theorem kindOfText_version : kindOfText "1.10".toList = .decimal := by
  have grouped : isGrouped "1.10".toList = true := by decide +kernel
  have whole : (isWhole "1.10".toList ||
      (isGrouped "1.10".toList && !"1.10".toList.contains '.')) = false := by decide +kernel
  have word : "1.10".toList.isEmpty = false ∧
      ("1.10".toList == "True".toList || "1.10".toList == "False".toList) = false := by
    decide +kernel
  rw [kindOfText, whole, word.1, word.2, grouped, Bool.or_true]
  rfl

theorem rewritten_version : rewritten "1.10" ≠ "1.10" := by
  obtain ⟨x, read⟩ : ∃ x, Number.readFloat? ("1.10".toList.filter (· != ',')) = some x :=
    Option.isSome_iff_exists.1 (by decide +kernel)
  rw [rewritten, read]
  exact Number.general_ne x

theorem not_kept_versioned : ¬ BuildArg.valueColumn.Kept versioned.buildArgs := by
  have column : BuildArg.valueColumn.kind versioned.buildArgs = .decimal := by
    have value := (kind_text (s := "1.10") (by decide)).trans kindOfText_version
    have single : BuildArg.valueColumn.kind versioned.buildArgs =
      [kind (.text "1.10")].foldl Kind.max .flag := rfl
    rw [single, value]
    rfl
  exact fun kept => rewritten_version (kept column ⟨"a", "VERSION", "1.10", false⟩
    List.mem_cons_self)

/-- A file that was written from a configuration configures what it was written from. -/
theorem configures_dump {files : Files} {text : String} {c : Container} (valid : c.Valid)
    (found : files.find (Path.ofText text) = .ok (.bytes c.dump.toUTF8)) :
    Configures files (some text) c := by
  have checked : Container.ofEntries (Yaml.fieldValues c.members) = .ok c := by
    rw [c.values_members]
    exact Container.ofEntries_entries .camel (Container.valid_iff_nodup.1 valid)
  have written : c.members ≠ [] := List.cons_ne_nil _ _
  refine .loaded found ?_
  exact congrArg Loaded.result (loadWith_write written c.keyed_members c.depth_members checked 0)

end Cli

end CiWorkflow
