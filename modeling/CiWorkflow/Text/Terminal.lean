import CiWorkflow.Text.Lines
import CiWorkflow.Text.Word

/-! What a text tells a terminal besides its characters: control sequences, and links around a
label. Main statements: what follows them is shorter, so that taking them out ends, and a text
without escape characters is kept. -/

set_option autoImplicit false

namespace CiWorkflow.Text

def escapeChar : Char := '\x1b'

def isParameter (c : Char) : Bool := '0' ≤ c && c ≤ '?'

def isIntermediate (c : Char) : Bool := ' ' ≤ c && c ≤ '/'

def isFinal (c : Char) : Bool := '@' ≤ c && c ≤ '~'

/-- What follows a control sequence: `ESC [`, parameters, intermediates and one final character. -/
def control? : List Char → Option (List Char)
  | '\x1b' :: '[' :: r =>
    match (r.dropWhile isParameter).dropWhile isIntermediate with
    | c :: rest => if isFinal c then some rest else none
    | [] => none
  | _ => none

theorem control?_cons_of_ne {c : Char} (h : c ≠ escapeChar) (r : List Char) :
    control? (c :: r) = none := by
  unfold control?
  split
  · rename_i heq
    exact absurd (List.cons.inj heq).1 h
  · rfl

theorem length_lt_of_control? {cs rest : List Char} (h : control? cs = some rest) :
    rest.length < cs.length := by
  unfold control? at h
  split at h
  · rename_i r
    have short := (List.dropWhile_suffix (l := r.dropWhile isParameter) isIntermediate).length_le
    have shorter := (List.dropWhile_suffix (l := r) isParameter).length_le
    split at h
    · rename_i c t ht
      split at h
      · obtain rfl := Option.some.inj h
        simp only [ht, List.length_cons] at short ⊢
        omega
      · exact absurd h (by simp)
    · exact absurd h (by simp)
  · exact absurd h (by simp)

def withoutControls : List Char → List Char
  | [] => []
  | c :: r =>
    match _ : control? (c :: r) with
    | some rest => withoutControls rest
    | none => c :: withoutControls r
termination_by cs => cs.length
decreasing_by
  · exact length_lt_of_control? (by assumption)
  · simp

theorem withoutControls_of_no_escape {cs : List Char} (h : escapeChar ∉ cs) :
    withoutControls cs = cs := by
  induction cs with
  | nil => simp [withoutControls]
  | cons c r ih =>
    have hc : c ≠ escapeChar := fun hc => h (by simp [hc])
    have hr : escapeChar ∉ r := fun hr => h (by simp [hr])
    rw [withoutControls]
    split
    · rename_i hcontrol
      exact absurd hcontrol (by simp [control?_cons_of_ne hc])
    · rw [ih hr]

theorem length_withoutControls_le (cs : List Char) :
    (withoutControls cs).length ≤ cs.length := by
  fun_induction withoutControls cs with
  | case1 => exact Nat.le_refl 0
  | case2 c r rest control ih =>
    exact Nat.le_trans ih (Nat.le_of_lt (length_lt_of_control? control))
  | case3 c r control ih => exact Nat.succ_le_succ ih

theorem control?_of_withoutControls_eq {cs s : List Char} (h : withoutControls cs = cs)
    (suffix : s <:+ cs) : control? s = none := by
  induction cs with
  | nil =>
    rw [List.suffix_nil] at suffix
    rw [suffix, control?]
    nofun
  | cons c r ih =>
    rw [withoutControls] at h
    split at h
    next rest control =>
      have short := length_withoutControls_le rest
      have shorter := length_lt_of_control? control
      rw [h] at short
      omega
    next none =>
      rcases List.suffix_cons_iff.1 suffix with rfl | suffix
      · exact none
      · exact ih (List.cons.inj h).2 suffix

def plainly (s : String) : String := String.ofList (withoutControls s.toList)

theorem plainly_of_no_escape {s : String} (h : escapeChar ∉ s.toList) : plainly s = s := by
  rw [plainly, withoutControls_of_no_escape h, String.ofList_toList]

theorem plainly_ne {s : String} {cs : List Char} (suffix : cs <:+ s.toList)
    (control : control? cs ≠ none) : plainly s ≠ s := by
  intro same
  have kept := congrArg String.toList same
  rw [plainly, String.toList_ofList] at kept
  exact control (control?_of_withoutControls_eq kept suffix)

def skip? (start cs : List Char) : Option (List Char) :=
  if start.isPrefixOf cs then some (cs.drop start.length) else none

theorem length_of_skip? {start cs rest : List Char} (h : skip? start cs = some rest) :
    cs.length = start.length + rest.length := by
  unfold skip? at h
  split at h
  · rename_i hp
    obtain ⟨t, rfl⟩ := List.isPrefixOf_iff_prefix.1 hp
    obtain rfl := Option.some.inj h
    simp
  · exact absurd h (by simp)

/-- Settings in a row, each `name=value`, where the next name may follow a value at once. -/
def isSettings (cs : List Char) : Bool :=
  let pieces := splitAt (· == '=') cs
  let inner := (pieces.drop 1).dropLast
  2 ≤ pieces.length && pieces.all (fun p => !p.isEmpty && p.all isWord)
    && inner.all (2 ≤ ·.length)

/-- Settings with colons between them. One more colon may end them. -/
def isSettingList (cs : List Char) : Bool :=
  match (splitAt (· == ':') cs).reverse with
  | last :: before => (last.isEmpty || isSettings last) && before.all isSettings
  | [] => true

def stringEnd : List Char := [escapeChar, '\\']

def linkStart : List Char := [escapeChar, ']', '8', ';']

def linkEnd : List Char := linkStart ++ ';' :: stringEnd

def link? (cs : List Char) : Option (List Char × List Char) := do
  let r ← skip? linkStart cs
  let settings := r.takeWhile (· != ';')
  let r ← skip? [';'] (r.drop settings.length)
  let address := r.takeWhile (· != escapeChar)
  let r ← skip? stringEnd (r.drop address.length)
  let label := r.takeWhile (· != escapeChar)
  let rest ← skip? linkEnd (r.drop label.length)
  if isSettingList settings && !address.isEmpty && !label.isEmpty then some (label, rest)
  else none

theorem link?_cons_of_ne {c : Char} (h : c ≠ escapeChar) (r : List Char) :
    link? (c :: r) = none := by
  have hc : escapeChar ≠ c := fun hc => h hc.symm
  simp [link?, skip?, linkStart, hc]

theorem length_lt_of_link? {cs label rest : List Char} (h : link? cs = some (label, rest)) :
    rest.length < cs.length := by
  simp only [link?, Option.bind_eq_bind, Option.bind_eq_some_iff] at h
  obtain ⟨a, ha, b, hb, c, hc, d, hd, h⟩ := h
  split at h
  · simp only [Option.some.injEq, Prod.mk.injEq] at h
    obtain ⟨-, rfl⟩ := h
    have ha := length_of_skip? ha
    have hb := length_of_skip? hb
    have hc := length_of_skip? hc
    have hd := length_of_skip? hd
    simp only [List.length_drop, linkStart, List.length_cons, List.length_nil] at ha hb hc hd
    omega
  · exact absurd h (by simp)

/-- The text as a terminal shows it: without control sequences, and of links only the labels. -/
def visible : List Char → List Char
  | [] => []
  | c :: r =>
    match _ : control? (c :: r), _ : link? (c :: r) with
    | some rest, _ => visible rest
    | none, some (label, rest) => label ++ visible rest
    | none, none => c :: visible r
termination_by cs => cs.length
decreasing_by
  · exact length_lt_of_control? (by assumption)
  · exact length_lt_of_link? (by assumption)
  · simp

theorem visible_of_no_escape {cs : List Char} (h : escapeChar ∉ cs) : visible cs = cs := by
  induction cs with
  | nil => simp [visible]
  | cons c r ih =>
    have hc : c ≠ escapeChar := fun hc => h (by simp [hc])
    have hr : escapeChar ∉ r := fun hr => h (by simp [hr])
    rw [visible]
    split
    · rename_i hcontrol
      exact absurd hcontrol (by simp [control?_cons_of_ne hc])
    · rename_i hlink
      exact absurd hlink (by simp [link?_cons_of_ne hc])
    · rw [ih hr]

def hasInvisible (cs : List Char) : Bool := (visible cs).length != cs.length

end CiWorkflow.Text
