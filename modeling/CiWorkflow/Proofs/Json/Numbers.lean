import CiWorkflow.Proofs.Json.Tokens
import CiWorkflow.Proofs.Text.Printed
import CiWorkflow.Proofs.Yaml.Read

/-! JSON literals as plain scalars. A number with an exponent is a float only if it has a fraction
and its exponent a sign, and a whole number can be too long. -/

set_option autoImplicit false

namespace CiWorkflow.Json

open Yaml (Tag scalarValue readInteger readFloat)

/-- Dropping stops in front of the first character that is not to be dropped. -/
theorem dropWhile_append_of_head {p : Char → Bool} {b r : List Char} (all : ∀ c ∈ b, p c = true)
    (stop : ∀ c ∈ r.head?, p c = false) : (b ++ r).dropWhile p = r := by
  rw [List.dropWhile_append_of_pos all]
  cases r with
  | nil => rfl
  | cons c r => exact List.dropWhile_cons_of_neg (by simp [stop c rfl])

section Digits
variable {c : Char} {ds r : List Char}

def decimals : List Char := ['0', '1', '2', '3', '4', '5', '6', '7', '8', '9']

theorem mem_decimals_of_isDigit (h : c.isDigit = true) : c ∈ decimals := by
  have all : ∀ n < 58, 48 ≤ n → Char.ofNat n ∈ decimals := by decide
  have code : 48 ≤ c.toNat ∧ c.toNat ≤ 57 := by
    simpa [Char.isDigit, UInt32.le_iff_toNat_le] using h
  have found := all c.toNat (by omega) code.1
  rwa [Char.ofNat_toNat] at found

theorem digit_of_all {p : Char → Prop} [DecidablePred p]
    (all : decimals.all (fun c => decide (p c)) = true) (h : c.isDigit = true) : p c :=
  of_decide_eq_true (List.all_eq_true.1 all c (mem_decimals_of_isDigit h))

theorem baseDigit?_of_isDigit (h : c.isDigit = true) :
    Number.baseDigit? c = some (c.toNat - 48) ∧ c.toNat - 48 < 10 ∧ c ≠ '_' :=
  digit_of_all (p := fun c => Number.baseDigit? c = some (c.toNat - 48) ∧ c.toNat - 48 < 10 ∧
    c ≠ '_') (by decide) h

theorem digitValue?_of_isDigit (h : c.isDigit = true) :
    Text.digitValue? c = some (c.toNat - 48) ∧ c ≠ '_' :=
  digit_of_all (p := fun c => Text.digitValue? c = some (c.toNat - 48) ∧ c ≠ '_') (by decide) h

theorem ne_of_isDigit (h : c.isDigit = true) : c ≠ '+' ∧ c ≠ '-' ∧ c ≠ '.' :=
  digit_of_all (p := fun c => c ≠ '+' ∧ c ≠ '-' ∧ c ≠ '.') (by decide) h

theorem toLower_of_isDigit (h : c.isDigit = true) : c.toLower = c :=
  digit_of_all (p := fun c => c.toLower = c) (by decide) h

def valueFrom (n : Nat) (ds : List Char) : Nat := ds.foldl (fun n c => n * 10 + (c.toNat - 48)) n

theorem digitsFrom_digits (digits : ∀ d ∈ ds, d.isDigit = true) (ready : Bool) (n : Nat)
    (start : ready = true ∨ ds ≠ []) :
    Number.digitsFrom 10 ready n ds = some (valueFrom n ds) := by
  induction ds generalizing ready n with
  | nil =>
    obtain rfl := start.resolve_right fun h => h rfl
    rfl
  | cons d ds ih =>
    obtain ⟨first, others⟩ := List.forall_mem_cons.1 digits
    obtain ⟨value, small, other⟩ := baseDigit?_of_isDigit first
    have more := ih others true (n * 10 + (d.toNat - 48)) (.inl rfl)
    rw [Number.digitsFrom]
    · refine Eq.trans ?_ more
      simp [value, small]
    · exact other

theorem takeDigits_stop (n k : Nat) (ends : ∀ c ∈ r.head?, c = '.' ∨ c = 'e') :
    Number.takeDigits n k r = (n, k, r) := by
  cases r with
  | nil => rfl
  | cons c r =>
    rcases ends c rfl with rfl | rfl <;> rfl

theorem takeDigits_append (digits : ∀ d ∈ ds, d.isDigit = true) (n k : Nat)
    (ends : ∀ c ∈ r.head?, c = '.' ∨ c = 'e') :
    Number.takeDigits n k (ds ++ r) = (valueFrom n ds, k + ds.length, r) := by
  induction ds generalizing n k with
  | nil => exact takeDigits_stop n k ends
  | cons d ds ih =>
    obtain ⟨first, others⟩ := List.forall_mem_cons.1 digits
    obtain ⟨value, other⟩ := digitValue?_of_isDigit first
    rw [List.cons_append, Number.takeDigits]
    · simp only [value]
      rw [ih others, List.length_cons]
      simp [valueFrom, Nat.add_comm, Nat.add_left_comm]
    · exact fun _ _ e => absurd e other

end Digits

namespace Numeral
variable (n : Numeral)

def behind : List Char := n.point ++ n.tail

theorem head_tail : ∀ c ∈ n.tail.head?, ∃ e ∈ n.exponent, e.mark = c := by
  intro c hc
  rw [tail] at hc
  cases exponent : n.exponent with
  | none => simp [exponent] at hc
  | some e => exact ⟨e, rfl, by simpa [exponent, Exponent.spelling] using hc⟩

theorem isMark_of_head_tail {c : Char} (h : c ∈ n.tail.head?) : c = 'e' ∨ c = 'E' := by
  obtain ⟨e, -, rfl⟩ := n.head_tail c h
  exact e.isMark

theorem head_behind : ∀ c ∈ n.behind.head?, c = '.' ∨ c = 'e' ∨ c = 'E' := by
  intro c hc
  rw [behind, point] at hc
  split at hc
  · exact .inr (n.isMark_of_head_tail hc)
  · exact .inl (Option.some.inj hc).symm

theorem size_eq : ∃ d w, n.whole = d :: w ∧ n.size = d :: (w ++ n.behind) ∧
    d.isDigit = true ∧ ∀ c ∈ w, c.isDigit = true := by
  obtain ⟨d, w, whole, digits⟩ := n.whole_eq
  obtain ⟨first, others⟩ := List.forall_mem_cons.1 digits
  exact ⟨d, w, whole, by rw [size, whole]; rfl, first, others⟩

theorem eq_nil_of_zero {w : List Char} (whole : n.whole = '0' :: w) : w = [] := by
  have alone := n.leading (by rw [whole]; rfl)
  rw [whole] at alone
  exact (List.cons.inj alone).2

theorem dropSign_spelling : Tag.dropSign n.spelling = n.size := by
  obtain ⟨d, w, -, size, digit, -⟩ := n.size_eq
  rw [spelling]
  split
  · rfl
  · simp [size, Tag.dropSign, ne_of_isDigit digit]

theorem isDigitOrLow_of_isDigit {c : Char} (h : c.isDigit = true) : Tag.isDigitOrLow c = true := by
  simp [Tag.isDigitOrLow, h]

theorem dropWhile_digits {ds r : List Char} (digits : ∀ d ∈ ds, d.isDigit = true)
    (ends : ∀ c ∈ r.head?, c = '.' ∨ c = 'e' ∨ c = 'E') :
    (ds ++ r).dropWhile Tag.isDigitOrLow = r := by
  refine dropWhile_append_of_head (fun d hd => isDigitOrLow_of_isDigit (digits d hd)) ?_
  intro c hc
  rcases ends c hc with rfl | rfl | rfl <;> decide

def IsSigned : Prop := ∀ e ∈ n.exponent, e.sign.isSome = true

instance : Decidable n.IsSigned := by
  unfold IsSigned
  infer_instance

theorem isExponent_tail : Tag.isExponent n.tail = decide n.IsSigned := by
  rw [tail, Bool.eq_iff_iff, decide_eq_true_iff, IsSigned]
  cases n.exponent with
  | none => simp [Tag.isExponent]
  | some e =>
    have digits : e.digits.all Char.isDigit = true := by simpa using e.decimal
    obtain ⟨d, ds, some⟩ := List.exists_cons_of_ne_nil e.nonempty
    have mark : (e.mark == 'e' || e.mark == 'E') = true := by simpa using e.isMark
    cases sign : e.sign with
    | none =>
      have first := e.decimal d (some ▸ List.mem_cons_self)
      simp [Exponent.spelling, sign, some, Tag.isExponent, ne_of_isDigit first]
    | some c =>
      have isSign : (c == '+' || c == '-') = true := by simpa using e.isSign c sign
      simp [Exponent.spelling, sign, Tag.isExponent, mark, isSign, digits, e.nonempty]

theorem dropPlaces_behind : Tag.dropPlaces n.behind = none := by
  cases behind : n.behind with
  | nil => rfl
  | cons c r =>
    have colon : c ≠ ':' := by
      rcases n.head_behind c (by rw [behind]; rfl) with rfl | rfl | rfl <;> decide
    unfold Tag.dropPlaces
    split <;> simp_all

theorem isFloat_spelling :
    Tag.isFloat n.spelling = decide (n.fraction ≠ [] ∧ n.IsSigned) := by
  obtain ⟨d, w, -, size, digit, digits⟩ := n.size_eq
  have point := (ne_of_isDigit digit).2.2
  have dropped := dropWhile_digits digits n.head_behind
  rw [Tag.isFloat, dropSign_spelling, size]
  simp only [digit, dropped, Bool.true_and]
  rw [behind, Numeral.point]
  by_cases fraction : n.fraction = []
  · rw [if_pos fraction, List.nil_append]
    have none := n.dropPlaces_behind
    rw [behind, Numeral.point, if_pos fraction, List.nil_append] at none
    have noPoint (t : List Char) : n.tail ≠ '.' :: t := fun e => by
      rcases n.isMark_of_head_tail (c := '.') (by rw [e]; rfl) with e | e <;> cases e
    split
    next t e => exact absurd e (noPoint t)
    next => simp [none, fraction]
  · have exponent : Tag.isFraction (n.fraction ++ n.tail) = decide n.IsSigned := by
      rw [Tag.isFraction, dropWhile_digits (fun c hc => n.decimal c (List.mem_append_right _ hc))
        fun c hc => .inr (n.isMark_of_head_tail hc), isExponent_tail]
    simp [fraction, exponent]

theorem isInt_of_isWhole (h : n.IsWhole) : Tag.isInt n.spelling = true := by
  obtain ⟨d, w, whole, size, digit, digits⟩ := n.size_eq
  have behind : n.behind = [] := by
    rw [behind, Numeral.point, if_pos h.1, tail, h.2]
    rfl
  have dropped := dropWhile_digits digits (r := []) (by simp)
  rw [behind] at size
  rw [List.append_nil] at size dropped
  rw [Tag.isInt, dropSign_spelling, size]
  by_cases zero : d = '0'
  · subst zero
    rw [n.eq_nil_of_zero whole]
    rfl
  · split
    case h_5 e =>
      obtain ⟨rfl, rfl⟩ := List.cons.inj e
      rw [digit, dropped]
      rfl
    all_goals simp_all

theorem head_spelling : ∀ c ∈ n.spelling.head?, c.isDigit = true ∨ c = '-' := by
  obtain ⟨d, w, -, size, digit, -⟩ := n.size_eq
  intro c hc
  rw [spelling] at hc
  split at hc
  · exact .inr (Option.some.inj hc).symm
  · rw [size] at hc
    exact .inl (Option.some.inj hc ▸ digit)

theorem not_boolWord : String.ofList n.spelling ∉ Tag.boolWords := by
  have letters : Tag.boolWords.all (·.toList.head?.all fun c => !c.isDigit && c != '-') = true := by
    decide
  intro word
  obtain ⟨c, r, first⟩ : ∃ c r, n.spelling = c :: r := by
    obtain ⟨-, c, r, first, -⟩ := n.bare
    exact ⟨c, r, first⟩
  have hc : c ∈ n.spelling.head? := by rw [first]; rfl
  have letter := List.all_eq_true.1 letters _ word
  rw [String.toList_ofList, Option.all_eq_true] at letter
  rcases n.head_spelling c hc with h | h
  · exact absurd (letter c hc) (by simp [h])
  · exact absurd (letter c hc) (by simp [h])

theorem ofScalar_spelling : Tag.ofScalar n.spelling = Tag.ofPlain n.spelling := by
  refine Yaml.ofScalar_of_getLast? fun last => ?_
  exact absurd (n.bare.all _ (List.mem_of_getLast? last)) (by decide)

/-- A number is taken for a float just if it has a fraction and no exponent without a sign. -/
theorem ofScalar_eq_float_iff :
    Tag.ofScalar n.spelling = .float ↔ n.fraction ≠ [] ∧ n.IsSigned := by
  rw [ofScalar_spelling, Tag.ofPlain, if_neg (by simpa using n.not_boolWord), isFloat_spelling]
  simp only [decide_eq_true_iff]
  split
  next h => simp [h]
  next h =>
    refine iff_of_false ?_ h
    split_ifs <;> exact nofun

theorem ofScalar_of_isWhole (h : n.IsWhole) : Tag.ofScalar n.spelling = .int := by
  have float : Tag.isFloat n.spelling = false := by
    rw [isFloat_spelling, decide_eq_false_iff_not]
    exact fun both => both.1 h.1
  rw [ofScalar_spelling, Tag.ofPlain, if_neg (by simpa using n.not_boolWord),
    if_neg (by simp [float]), if_pos (n.isInt_of_isWhole h)]

theorem spelling_ne {c : Char} (other : Yaml.Scanner.IsBare c = false) : c ∉ n.spelling :=
  fun mem => absurd (n.bare.all c mem) (by simp [other])

theorem dropLow_spelling : Yaml.dropLow n.spelling = n.spelling := by
  rw [Yaml.dropLow, List.filter_eq_self]
  intro c hc
  simpa using ne_of_mem_of_not_mem hc (n.spelling_ne (c := '_') rfl)

end Numeral

section Bare
variable {cs : List Char} (bare : ∀ c ∈ cs, Yaml.Scanner.IsBare c = true)
include bare

theorem trim_of_bare : Text.trim cs = cs := by
  have solid (c : Char) (h : Yaml.Scanner.IsBare c = true) : Text.isBlank c = false := by
    simp only [Yaml.Scanner.IsBare, Bool.or_eq_true, beq_iff_eq] at h
    rcases h with ((alphanum | rfl) | rfl) | rfl
    · obtain ⟨plain, space, -⟩ := Yaml.isPlainAscii_of_isAlphanum alphanum
      exact Bool.eq_false_iff.2 fun blank => space ((Text.isBlank_of_printed plain).1 blank)
    all_goals rfl
  exact Text.IsBare.trim_eq ⟨fun c hc => solid c (bare c (List.mem_of_mem_head? hc)),
    fun c hc => solid c (bare c (List.mem_of_getLast? hc))⟩

theorem not_contains_colon : cs.contains ':' = false := by
  rw [List.contains_eq_mem, decide_eq_false_iff_not]
  exact fun mem => absurd (bare _ mem) (by decide)

end Bare

section Whole
variable {d : Char} {w : List Char} (digits : ∀ c ∈ d :: w, c.isDigit = true)
include digits

theorem bare_of_digits : ∀ c ∈ d :: w, Yaml.Scanner.IsBare c = true :=
  fun c hc => isBare_of_isDigit (digits c hc)

theorem digitCount_digits : Number.digitCount (d :: w) = (d :: w).length := by
  rw [Number.digitCount, List.countP_eq_length]
  intro c hc
  simp [(digitValue?_of_isDigit (digits c hc)).1]

theorem splitSign_digits (r : List Char) :
    Number.splitSign (d :: r) = (false, d :: r) := by
  have sign := ne_of_isDigit (digits d List.mem_cons_self)
  unfold Number.splitSign
  split <;> simp_all

theorem readInt?_digits : Number.readInt? 10 (d :: w) = some (digitsValue (d :: w) : Int) := by
  have marker : Number.dropMarker 10 (d :: w) = d :: w := by
    unfold Number.dropMarker
    split <;> simp_all
  rw [Number.readInt?, trim_of_bare (bare_of_digits digits), splitSign_digits digits]
  simp only [marker, digitsFrom_digits digits false 0 (.inr (List.cons_ne_nil _ _))]
  rfl

theorem readMagnitude_digits (leading : d = '0' → w = []) : Yaml.readMagnitude (d :: w) =
    if Number.digitLimit < (d :: w).length then .error (.longInteger (d :: w).length)
    else .ok (digitsValue (d :: w) : Int) := by
  by_cases zero : d = '0'
  · obtain rfl := leading zero
    rw [zero]
    rfl
  · rw [Yaml.readMagnitude]
    · rw [not_contains_colon (bare_of_digits digits), Yaml.readWhole, readInt?_digits digits,
        digitCount_digits digits]
      simp
    all_goals simp [zero]

end Whole

section Real

theorem isMark_small : 'e' = 'e' ∨ 'e' = 'E' := .inl rfl

def Exponent.lower (e : Exponent) : Exponent := { e with mark := 'e', isMark := isMark_small }

def Numeral.lower (n : Numeral) : Numeral := { n with exponent := n.exponent.map Exponent.lower }

theorem asciiLower_digits {ds : List Char} (digits : ∀ c ∈ ds, c.isDigit = true) :
    Number.asciiLower ds = ds := by
  have same : ∀ c ∈ ds, c.toLower = id c := fun c hc => toLower_of_isDigit (digits c hc)
  rw [Number.asciiLower, List.map_congr_left same, List.map_id]

theorem asciiLower_append (a b : List Char) :
    Number.asciiLower (a ++ b) = Number.asciiLower a ++ Number.asciiLower b := List.map_append

theorem asciiLower_cons (c : Char) (r : List Char) :
    Number.asciiLower (c :: r) = c.toLower :: Number.asciiLower r := rfl

theorem Exponent.asciiLower_spelling (e : Exponent) :
    Number.asciiLower e.spelling = e.lower.spelling := by
  have mark : e.mark.toLower = 'e' := by rcases e.isMark with h | h <;> rw [h] <;> rfl
  have sign : Number.asciiLower e.sign.toList = e.sign.toList := by
    cases h : e.sign with
    | none => rfl
    | some c => rcases e.isSign c h with rfl | rfl <;> rfl
  rw [spelling, asciiLower_cons, asciiLower_append, mark, sign, asciiLower_digits e.decimal]
  rfl

theorem Numeral.asciiLower_size (n : Numeral) : Number.asciiLower n.size = n.lower.size := by
  obtain ⟨whole, fraction⟩ := List.forall_mem_append.1 n.decimal
  have point : Number.asciiLower n.point = n.point := by
    rw [Numeral.point]
    split
    · rfl
    · rw [asciiLower_cons, asciiLower_digits fraction]
      rfl
  have tail : Number.asciiLower n.tail = n.lower.tail := by
    rw [Numeral.tail, Numeral.tail, lower]
    cases n.exponent with
    | none => rfl
    | some e => exact e.asciiLower_spelling
  rw [size, asciiLower_append, asciiLower_append, asciiLower_digits whole, point, tail]
  rfl

theorem Numeral.readExponent?_tail (n : Numeral) (marks : ∀ e ∈ n.exponent, e.mark = 'e') :
    Number.readExponent? n.tail = some ((n.exponent.map Exponent.value).getD 0) := by
  rw [tail]
  cases exponent : n.exponent with
  | none => rfl
  | some e =>
    have mark : e.mark = 'e' := marks e exponent
    obtain ⟨d, ds, some⟩ := List.exists_cons_of_ne_nil e.nonempty
    have taken : Number.takeDigits 0 0 e.digits = (digitsValue e.digits, ds.length + 1, []) := by
      have all := takeDigits_append e.decimal 0 0 (r := []) (by simp)
      rw [List.append_nil, Nat.zero_add] at all
      rw [all, some]
      rfl
    have split : Number.splitSign (e.sign.toList ++ e.digits) =
        (decide (e.sign = Option.some '-'), e.digits) := by
      cases sign : e.sign with
      | none =>
        have digits := e.decimal
        rw [some] at digits
        rw [some]
        exact splitSign_digits digits ds
      | some c => rcases e.isSign c sign with rfl | rfl <;> rfl
    simp only [Option.map_some, Option.getD_some, Exponent.spelling, mark, Number.readExponent?,
      split, taken, Exponent.value]
    simp

theorem digitsValue_append (a b : List Char) : digitsValue (a ++ b) = valueFrom (digitsValue a) b :=
  List.foldl_append

/-- A number with a fraction is read as the float nearest to it. -/
theorem Numeral.readReal_size (n : Numeral) (fraction : n.fraction ≠ [])
    (marks : ∀ e ∈ n.exponent, e.mark = 'e') :
    Yaml.readReal n.size = .ok (Number.nearest (digitsValue (n.whole ++ n.fraction))
      ((n.exponent.map Exponent.value).getD 0 - n.fraction.length)) := by
  obtain ⟨d, w, whole, size, digit, digits⟩ := n.size_eq
  obtain ⟨before, after⟩ := List.forall_mem_append.1 n.decimal
  have split : Number.splitSign n.size = (false, n.size) := by
    rw [size]
    exact splitSign_digits (w := []) (by simpa using digit) _
  have word (s : String) (letter : s.toList.head?.all (!·.isDigit) = true) :
      (String.ofList (Number.asciiLower n.size) == s) = false := by
    rw [beq_eq_false_iff_ne]
    rintro rfl
    rw [String.toList_ofList, size, asciiLower_cons, toLower_of_isDigit digit] at letter
    exact absurd digit (by simpa using letter)
  have point : n.point = '.' :: n.fraction := if_neg fraction
  have first : Number.takeDigits 0 0 n.size =
      (digitsValue n.whole, n.whole.length, '.' :: (n.fraction ++ n.tail)) := by
    rw [Numeral.size, point, takeDigits_append before 0 0 (by simp), Nat.zero_add]
    rfl
  have second : Number.takeDigits (digitsValue n.whole) 0 (n.fraction ++ n.tail) =
      (digitsValue (n.whole ++ n.fraction), n.fraction.length, n.tail) := by
    rw [takeDigits_append after _ 0, Nat.zero_add, digitsValue_append]
    intro c hc
    obtain ⟨e, exponent, rfl⟩ := n.head_tail c hc
    exact .inr (marks e exponent)
  rw [Yaml.readReal, Number.readFloat?, trim_of_bare n.bare_size, split]
  simp only [Number.readMagnitude?, word "inf" (by decide), word "infinity" (by decide),
    word "nan" (by decide), first, second, n.readExponent?_tail marks]
  simp [n.nonempty]

end Real

namespace Numeral
variable (n : Numeral)

/-- A number of the same kind to the reader: a fraction, or no exponent and not too many digits. -/
def IsKept : Prop :=
  if n.IsWhole then n.whole.length ≤ Number.digitLimit else n.fraction ≠ [] ∧ n.IsSigned

instance : Decidable n.IsKept := by
  unfold IsKept
  infer_instance

theorem size_of_isWhole (h : n.IsWhole) : n.size = n.whole := by
  rw [size, Numeral.point, if_pos h.1, tail, h.2]
  exact List.append_nil _

theorem readInteger_spelling (whole : n.IsWhole) : readInteger n.spelling =
    if Number.digitLimit < n.whole.length then .error (.longInteger n.whole.length)
    else .ok (if n.negative then -(digitsValue n.whole : Int) else digitsValue n.whole) := by
  obtain ⟨d, w, digits, decimal⟩ := n.whole_eq
  have magnitude := readMagnitude_digits decimal fun zero => n.eq_nil_of_zero (zero ▸ digits)
  have sign := ne_of_isDigit (decimal d List.mem_cons_self)
  rw [readInteger, dropLow_spelling, spelling, n.size_of_isWhole whole, digits]
  cases n.negative with
  | true =>
    simp only [if_true, magnitude]
    split <;> rfl
  | false =>
    simp only [Bool.false_eq_true, if_false]
    split <;> simp_all

theorem readUnsigned_size : Yaml.readUnsigned n.size = Yaml.readReal n.size := by
  obtain ⟨d, w, -, size, digit, -⟩ := n.size_eq
  rw [Yaml.readUnsigned, not_contains_colon n.bare_size, size]
  simp [ne_of_isDigit digit]

theorem readFloat_spelling (fraction : n.fraction ≠ []) :
    (readFloat n.spelling).map .float = .ok n.value := by
  have float : ¬ n.IsWhole := fun whole => fraction whole.1
  have marks : ∀ e ∈ n.lower.exponent, e.mark = 'e' := by
    intro e he
    obtain ⟨e, -, rfl⟩ := Option.map_eq_some_iff.1 he
    rfl
  have exponent : n.lower.exponent.map Exponent.value = n.exponent.map Exponent.value := by
    rw [lower, Option.map_map]
    rfl
  have read : Yaml.readUnsigned n.lower.size =
      .ok (Number.nearest (digitsValue (n.whole ++ n.fraction))
        ((n.exponent.map Exponent.value).getD 0 - n.fraction.length)) := by
    rw [readUnsigned_size, ← exponent]
    exact n.lower.readReal_size fraction marks
  obtain ⟨d, w, -, size, digit, -⟩ := n.lower.size_eq
  have sign := ne_of_isDigit digit
  rw [readFloat, dropLow_spelling, spelling, value, if_neg float]
  cases n.negative with
  | true =>
    have minus : '-'.toLower = '-' := rfl
    simp only [if_true, asciiLower_cons, asciiLower_size, minus, read]
    rfl
  | false =>
    simp only [Bool.false_eq_true, if_false, asciiLower_size]
    rw [size] at read ⊢
    split <;> simp_all [Except.map]

theorem float_of_scalarValue {tag : Tag} {text : String} {x : Float}
    (h : scalarValue tag text = .ok (.float x)) : tag = .float := by
  cases tag with
  | float => rfl
  | timestamp =>
    rw [scalarValue, Yaml.readMoment] at h
    split at h
    · cases h
    · split at h <;> split at h <;> cases h
  | bool | int | binary =>
    simp only [scalarValue, Except.map] at h
    split at h <;> cases h
  | _ => cases h

theorem scalarValue_eq_iff :
    scalarValue (Tag.ofScalar n.spelling) (String.ofList n.spelling) = .ok n.value ↔ n.IsKept := by
  by_cases whole : n.IsWhole
  · have digits : n.whole ++ n.fraction = n.whole := by rw [whole.1, List.append_nil]
    rw [n.ofScalar_of_isWhole whole, scalarValue, String.toList_ofList,
      n.readInteger_spelling whole, value, if_pos whole, digits, IsKept, if_pos whole]
    split
    next long => exact iff_of_false nofun (Nat.not_le.2 long)
    next short => exact iff_of_true rfl (Nat.not_lt.1 short)
  · rw [IsKept, if_neg whole, ← ofScalar_eq_float_iff]
    constructor
    · intro read
      rw [value, if_neg whole] at read
      exact float_of_scalarValue read
    · intro float
      rw [float, scalarValue, String.toList_ofList]
      exact n.readFloat_spelling (n.ofScalar_eq_float_iff.1 float).1

end Numeral

namespace Literal

def IsKept : Literal → Prop
  | number n => n.IsKept
  | _ => True

instance : (l : Literal) → Decidable l.IsKept
  | number n => inferInstanceAs (Decidable n.IsKept)
  | null | flag _ => inferInstanceAs (Decidable True)

theorem scalarValue_eq_iff (l : Literal) :
    scalarValue (Tag.ofScalar l.spelling) (String.ofList l.spelling) = .ok l.value ↔ l.IsKept := by
  match l with
  | null => exact iff_of_true rfl trivial
  | flag b =>
    have word : String.ofList (flag b).spelling = Yaml.flagWord b := by cases b <;> rfl
    have tag : Tag.ofScalar (flag b).spelling = .bool := by cases b <;> decide
    rw [tag, word, scalarValue, Yaml.readBool_flagWord]
    exact iff_of_true rfl trivial
  | number n => exact n.scalarValue_eq_iff

end Literal

end CiWorkflow.Json
