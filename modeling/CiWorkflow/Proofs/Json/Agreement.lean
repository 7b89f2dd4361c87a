import CiWorkflow.Proofs.Json.Decode

set_option autoImplicit false

namespace CiWorkflow.Json

theorem isShort_of_isKept {s : Sign} (kept : s.IsKept) : s.IsShort := by
  cases s with
  | literal lit =>
    cases lit with
    | number n =>
      intro whole
      rw [Sign.IsKept, Literal.IsKept, Numeral.IsKept, if_pos whole] at kept
      exact kept
    | null | flag => trivial
  | _ => trivial

/-- A JSON object with no two members of one name denotes what the JSON reader makes of it, unless
a whole number is too long. A configuration file gives the members that it denotes just if its text
is taken for what it is, and then the JSON reader takes it for that, too. -/
theorem readEntries_json_iff (path : String) (d : Document) (distinct : d.Distinct) :
    (read d.text = .ok (.map d.entries) ↔ ∀ p ∈ d.signs, p.1.IsShort) ∧
    (readEntries path (.bytes d.text.toUTF8) = .ok d.entries ↔ d.IsKept) ∧
    (d.IsKept → read d.text = .ok (.map d.entries)) := by
  have denoted : read d.text = .ok (.map d.entries) ↔ ∀ p ∈ d.signs, p.1.IsShort := by
    rw [read_text d distinct]
    split
    next short => exact iff_of_true rfl short
    next long => exact iff_of_false nofun long
  refine ⟨denoted, ?_, fun kept => denoted.2 fun p hp => isShort_of_isKept (kept.kept p hp)⟩
  rw [← d.read_lines_iff distinct, readEntries]
  simp only [fromUTF8?_toUTF8, d.unifyNewlines_text]
  cases read : Yaml.read d.lines with
  | error f => cases f <;> simp
  | ok v =>
    obtain ⟨entries, rfl⟩ := d.exists_of_read read
    simp

/-- A number without a fraction and with an exponent. -/
def power : Numeral where
  negative := false
  whole := ['1']
  fraction := []
  exponent := some ⟨'e', none, ['5'], isMark_small, fun _ h => absurd h (Option.not_mem_none _),
    List.cons_ne_nil _ _, List.all_eq_true.1 rfl⟩
  nonempty := List.cons_ne_nil _ _
  leading := fun h => by cases h
  decimal := List.all_eq_true.1 rfl

def real : Numeral where
  negative := true
  whole := ['0']
  fraction := ['2', '5']
  exponent := some ⟨'E', some '-', ['1'], .inr rfl, fun _ h => .inr (Option.some.inj h).symm,
    List.cons_ne_nil _ _, List.all_eq_true.1 rfl⟩
  nonempty := List.cons_ne_nil _ _
  leading := fun _ => rfl
  decimal := List.all_eq_true.1 rfl

def spaced : Document where
  members := [([.raw 'a' (by decide), .short 'n' '\n' rfl], .array [.literal (.number real),
    .text [.code '0' '0' 'e' '9' 'é' rfl, .raw ' ' (by decide)], .object []])]
  lead := ['\r', '\n']
  signs := [(.openObject, ['\n', ' ']), (.name [.raw 'a' (by decide), .short 'n' '\n' rfl], [' ']),
    (.colon, ['\n']), (.openArray, []), (.literal (.number real), ['\r']), (.comma, [' ']),
    (.text [.code '0' '0' 'e' '9' 'é' rfl, .raw ' ' (by decide)], []), (.comma, []),
    (.openObject, ['\n']), (.closeObject, []), (.closeArray, []), (.closeObject, ['\n'])]
  spelled := rfl
  blank := by simp [isBlank]

theorem readEntries_json_iff_spaced : spaced.Distinct ∧
    readEntries "ci.json" (.bytes
        "\r\n\x7b\n \"a\\n\" :\n[-0.25E-1\r, \"\\u00e9 \",\x7b\n\x7d]\x7d\n".toUTF8) =
      .ok [(.text "a\n", .list [.float (-Number.nearest 25 (-3)), .text "é ", .map []])] ∧
    read "\r\n\x7b\n \"a\\n\" :\n[-0.25E-1\r, \"\\u00e9 \",\x7b\n\x7d]\x7d\n" = .ok (.map
      [(.text "a\n", .list [.float (-Number.nearest 25 (-3)), .text "é ", .map []])]) := by
  have distinct : spaced.Distinct :=
    ⟨by decide, ⟨trivial, trivial, ⟨List.Pairwise.nil, trivial⟩, trivial⟩, trivial⟩
  have text : spaced.text =
      "\r\n\x7b\n \"a\\n\" :\n[-0.25E-1\r, \"\\u00e9 \",\x7b\n\x7d]\x7d\n" := by decide +kernel
  rw [← text]
  obtain ⟨-, file, reply⟩ := readEntries_json_iff "ci.json" spaced distinct
  have kept : spaced.IsKept := by decide
  exact ⟨distinct, file.2 kept, reply kept⟩

/-- A surrogate pair is not read as its character. -/
example : ¬ (Sign.text [.pair 'd' '8' '3' 'd' 'd' 'e' '0' '0' '😀' ⟨rfl, rfl⟩ rfl]).IsKept := by
  decide

def exponential : Document where
  members := [([.raw 'a' (by decide)], .literal (.number power))]
  lead := []
  signs := [(.openObject, []), (.name [.raw 'a' (by decide)], []), (.colon, [' ']),
    (.literal (.number power), []), (.closeObject, [])]
  spelled := rfl
  blank := by simp [isBlank]

/-- A number with a bare exponent is read as a text. -/
theorem not_readEntries_json_exponential : exponential.text = "\x7b\"a\": 1e5\x7d" ∧
    exponential.Distinct ∧
    readEntries "ci.json" (.bytes exponential.text.toUTF8) = .ok [(.text "a", .text "1e5")] ∧
    readEntries "ci.json" (.bytes exponential.text.toUTF8) ≠ .ok exponential.entries := by
  have text : exponential.text = "\x7b\"a\": 1e5\x7d" := by decide +kernel
  have value : Yaml.Node.Document.value ⟨(Tree.object exponential.members).node, []⟩ =
      .ok (.map [(.text "a", .text "1e5")]) := rfl
  have scanned := exponential.read_ok_iff.2 ⟨⟨by decide, by decide, by decide⟩, value⟩
  have read : readEntries "ci.json" (.bytes exponential.text.toUTF8) =
      .ok [(.text "a", .text "1e5")] := by
    simp only [readEntries, fromUTF8?_toUTF8, exponential.unifyNewlines_text, scanned]
  refine ⟨text, ⟨by decide, trivial, trivial⟩, read, ?_⟩
  rw [read]
  intro same
  cases Except.ok.inj same

end CiWorkflow.Json
