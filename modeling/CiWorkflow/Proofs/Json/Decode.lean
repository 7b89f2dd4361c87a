import CiWorkflow.Proofs.Json.Read

set_option autoImplicit false

namespace CiWorkflow.Json

section Strings
variable {r : List Char}

theorem readString_letter (l : Letter) : readString none (l.spelling ++ r) =
    (readString none r).map fun q => (l.char :: q.1, q.2) := by
  cases l with
  | raw c free =>
    obtain ⟨low, quote, backslash⟩ := free
    change readString none (c :: r) = _
    rw [readString]
    · simp [quote, backslash, Nat.not_lt.2 low]
      cases readString none r <;> rfl
    · exact fun _ _ _ _ _ e _ => backslash e
    · exact fun _ _ e _ => backslash e
  | short e c known =>
    change readString none ('\\' :: e :: r) = _
    rw [readString, known]
    · cases readString none r <;> rfl
    · rintro _ _ _ _ _ rfl -
      cases known
  | code p q x s c known =>
    change readString none ('\\' :: 'u' :: p :: q :: x :: s :: r) = _
    have valid : c.toNat < 0xD800 ∨ (0xDFFF < c.toNat ∧ c.toNat < 0x110000) := c.valid
    have whole : Text.isFirstHalf c.toNat = false := by
      simp only [Text.isFirstHalf, Bool.and_eq_false_iff, decide_eq_false_iff_not]
      omega
    rw [readString, known]
    simp only [Option.bind_eq_bind, Option.bind_some, unitText, whole, Option.bind_none,
      Bool.false_eq_true, if_false, Option.map_none, Option.toList_none, List.nil_append,
      Text.charOfCode_toNat]
    cases readString none r <;> rfl
  | @pair p q x s p' q' x' s' c first second units known =>
    change readString none ('\\' :: 'u' :: p :: q :: x :: s :: ('\\' :: 'u' :: p' :: q' :: x' ::
      s' :: r)) = _
    obtain ⟨isFirst, isSecond, -⟩ := Text.halves_of_pairChar? known
    have last := Text.isFirstHalf_of_isSecondHalf isSecond
    rw [readString, units.1]
    simp only [Option.bind_eq_bind, Option.bind_some, unitText, isFirst, Option.bind_none, if_true,
      Option.map_none, Option.toList_none, List.nil_append]
    rw [readString, units.2]
    simp only [Option.bind_eq_bind, Option.bind_some, unitText, last, known, Bool.false_eq_true,
      if_false]
    cases readString none r <;> rfl

theorem readString_unquoted (ls : List Letter) :
    readString none (unquoted ls ++ r) = some (ls.map Letter.char, r) := by
  induction ls with
  | nil => rfl
  | cons l ls ih =>
    rw [unquoted_cons, List.append_assoc, readString_letter, ih]
    rfl

end Strings

def Blanks (b : List Char) : Prop := ∀ c ∈ b, isBlank c = true

/-- What can stand behind a value. -/
def Ends (rest : List Char) : Prop :=
  ∀ c ∈ rest.head?, isBlank c = true ∨ c = ',' ∨ c = ']' ∨ c = '\x7d'

section Blanks
variable {b r rest : List Char} {c : Char}

theorem skipBlanks_append (blank : Blanks b) (solid : ∀ c ∈ r.head?, isBlank c = false) :
    skipBlanks (b ++ r) = r := dropWhile_append_of_head blank solid

theorem skipBlanks_cons (blank : Blanks b) (solid : isBlank c = false) :
    skipBlanks (b ++ c :: r) = c :: r :=
  skipBlanks_append blank fun _ hd => Option.some.inj hd ▸ solid

theorem Ends.behind (blank : Blanks b) (ends : Ends rest) : Ends (b ++ rest) := by
  intro c hc
  cases b with
  | nil => exact ends c hc
  | cons d b =>
    obtain rfl := Option.some.inj hc
    exact .inl (blank d List.mem_cons_self)

theorem Ends.other (ends : Ends rest) (hc : c ∈ rest.head?) :
    c.isDigit = false ∧ c ≠ '.' ∧ c ≠ 'e' ∧ c ≠ 'E' := by
  have stop := ends c hc
  simp only [isBlank, Bool.or_eq_true, beq_iff_eq] at stop
  rcases stop with (((rfl | rfl) | rfl) | rfl) | rfl | rfl | rfl <;> decide

end Blanks

section Numbers
variable {ds r rest : List Char}

theorem takeDigits_digits (digits : ∀ c ∈ ds, c.isDigit = true)
    (ends : ∀ c ∈ r.head?, c.isDigit = false) : takeDigits (ds ++ r) = (ds, r) := by
  have dropped := dropWhile_append_of_head digits ends
  have parts := List.takeWhile_append_dropWhile (p := Char.isDigit) (l := ds ++ r)
  rw [dropped, List.append_left_inj] at parts
  rw [takeDigits, parts, dropped]

theorem Numeral.readExponent_tail (n : Numeral) (ends : Ends rest) :
    readExponent (n.tail ++ rest) = n.exponent.map fun e => (e.value, rest) := by
  rw [Numeral.tail]
  cases exponent : n.exponent with
  | none =>
    cases rest with
    | nil => rfl
    | cons c rest =>
      have other := (ends.other rfl).2.2
      simp [readExponent, other]
  | some e =>
    have mark : (e.mark == 'e' || e.mark == 'E') = true := by simpa using e.isMark
    have taken : takeDigits (e.digits ++ rest) = (e.digits, rest) :=
      takeDigits_digits e.decimal fun c hc => (ends.other hc).1
    have split : Number.splitSign (e.sign.toList ++ (e.digits ++ rest)) =
        (decide (e.sign = some '-'), e.digits ++ rest) := by
      cases sign : e.sign with
      | none =>
        obtain ⟨d, ds, some⟩ := List.exists_cons_of_ne_nil e.nonempty
        rw [some]
        exact splitSign_digits (some ▸ e.decimal) (ds ++ rest)
      | some c => rcases e.isSign c sign with rfl | rfl <;> rfl
    simp [Exponent.spelling, readExponent, mark, split, taken, e.nonempty, Exponent.value]

def Numeral.IsShort (n : Numeral) : Prop := n.IsWhole → n.whole.length ≤ Number.digitLimit

instance (n : Numeral) : Decidable n.IsShort := by
  unfold Numeral.IsShort
  infer_instance

theorem Numeral.head_behind_append (n : Numeral) (ends : Ends rest) :
    ∀ c ∈ (n.behind ++ rest).head?, c.isDigit = false := by
  intro c hc
  cases behind : n.behind with
  | nil => exact (ends.other (by simpa [behind] using hc)).1
  | cons d r =>
    obtain rfl : d = c := by simpa [behind] using hc
    rcases n.head_behind d (by rw [behind]; rfl) with rfl | rfl | rfl <;> rfl

theorem Numeral.head_tail_append (n : Numeral) (ends : Ends rest) :
    ∀ c ∈ (n.tail ++ rest).head?, c.isDigit = false ∧ c ≠ '.' := by
  intro c hc
  cases tail : n.tail with
  | nil =>
    obtain ⟨digit, point, -⟩ := ends.other (by simpa [tail] using hc)
    exact ⟨digit, point⟩
  | cons d r =>
    obtain rfl : d = c := by simpa [tail] using hc
    rcases n.isMark_of_head_tail (c := d) (by rw [tail]; rfl) with rfl | rfl <;> decide

def takeWhole (cs : List Char) : List Char × List Char :=
  match cs with
  | '0' :: r => (['0'], r)
  | _ => takeDigits cs

def takeFraction (cs : List Char) : List Char × List Char :=
  match cs with
  | '.' :: r => match takeDigits r with
    | ([], _) => ([], cs)
    | (ds, rest) => (ds, rest)
  | _ => ([], cs)

def readScaled (negative : Bool) (whole fraction r : List Char) :
    Except Fault (Value × List Char) :=
  let n := digitsValue (whole ++ fraction)
  let real (e : Int) : Value :=
    let x := Number.nearest n (e - fraction.length)
    .float (if negative then -x else x)
  match readExponent r with
  | some (e, rest) => .ok (real e, rest)
  | none =>
    if !fraction.isEmpty then .ok (real 0, r)
    else if Number.digitLimit < whole.length then .error .longInteger
    else .ok (.int (if negative then -(n : Int) else n), r)

theorem readNumber_eq (negative : Bool) {cs whole fraction : List Char}
    (first : takeWhole cs = (whole, r)) (second : takeFraction r = (fraction, rest))
    (nonempty : whole ≠ []) :
    readNumber negative cs = readScaled negative whole fraction rest := by
  have parts : readNumber negative cs = if (takeWhole cs).1.isEmpty then .error .malformed
      else readScaled negative (takeWhole cs).1 (takeFraction (takeWhole cs).2).1
        (takeFraction (takeWhole cs).2).2 := rfl
  rw [parts, first, second, if_neg (by simpa using nonempty)]

theorem Numeral.takeWhole_size (n : Numeral) (ends : Ends rest) :
    takeWhole (n.size ++ rest) = (n.whole, n.behind ++ rest) := by
  obtain ⟨d, w, whole, digits⟩ := n.whole_eq
  have size : n.size ++ rest = n.whole ++ (n.behind ++ rest) := by simp [Numeral.size, behind]
  rw [size]
  by_cases zero : d = '0'
  · subst zero
    rw [whole, n.eq_nil_of_zero whole]
    rfl
  · have taken := takeDigits_digits (whole ▸ digits) (n.head_behind_append ends)
    rw [whole] at taken ⊢
    rw [List.cons_append, takeWhole]
    · exact taken
    · exact fun _ e => zero (List.cons.inj e).1

theorem Numeral.takeFraction_behind (n : Numeral) (ends : Ends rest) :
    takeFraction (n.behind ++ rest) = (n.fraction, n.tail ++ rest) := by
  have fraction := takeDigits_digits (fun c hc => n.decimal c (List.mem_append_right _ hc))
    fun c hc => (n.head_tail_append ends c hc).1
  rw [behind, Numeral.point]
  by_cases none : n.fraction = []
  · rw [if_pos none, none, List.nil_append, takeFraction]
    exact fun r e => (n.head_tail_append ends '.' (by rw [e]; rfl)).2 rfl
  · rw [if_neg none, List.cons_append, List.cons_append, List.append_assoc, takeFraction, fraction]
    simp

theorem Numeral.readNumber_size (n : Numeral) (ends : Ends rest) :
    readNumber n.negative (n.size ++ rest) =
      if n.IsShort then .ok (n.value, rest) else .error .longInteger := by
  rw [readNumber_eq n.negative (n.takeWhole_size ends) (n.takeFraction_behind ends) n.nonempty]
  rw [readScaled, n.readExponent_tail ends]
  cases exponent : n.exponent with
  | some e =>
    have float : ¬ n.IsWhole := fun whole => by simp [whole.2] at exponent
    have short : n.IsShort := fun whole => absurd whole float
    rw [if_pos short, value, if_neg float, exponent]
    rfl
  | none =>
    have tail : n.tail = [] := by rw [Numeral.tail, exponent]; rfl
    by_cases none : n.fraction = []
    · have whole : n.IsWhole := ⟨none, exponent⟩
      by_cases long : Number.digitLimit < n.whole.length
      · have refused : ¬ n.IsShort := fun short => absurd (short whole) (Nat.not_le.2 long)
        simp [refused, none, long]
      · have short : n.IsShort := fun _ => Nat.not_lt.1 long
        simp [short, value, whole, none, tail, long]
    · have float : ¬ n.IsWhole := fun whole => none whole.1
      have short : n.IsShort := fun whole => absurd whole float
      simp [if_pos short, value, if_neg float, exponent, none, tail]

end Numbers

section Words
variable {rest : List Char}

theorem readWord_number (n : Numeral) : readWord (n.spelling ++ rest) = none := by
  obtain ⟨d, w, -, size, digit, -⟩ := n.size_eq
  have sign := ne_of_isDigit digit
  have letter : d ≠ 'n' ∧ d ≠ 't' ∧ d ≠ 'f' ∧ d ≠ 'N' ∧ d ≠ 'I' :=
    digit_of_all (p := fun d => d ≠ 'n' ∧ d ≠ 't' ∧ d ≠ 'f' ∧ d ≠ 'N' ∧ d ≠ 'I') (by decide) digit
  rw [Numeral.spelling, size]
  cases n.negative <;> simp [readWord, words, stripStart, sign.2.1.symm, letter.1.symm,
    letter.2.1.symm, letter.2.2.1.symm, letter.2.2.2.1.symm, letter.2.2.2.2.symm]

def Sign.IsShort : Sign → Prop
  | literal (.number n) => n.IsShort
  | _ => True

instance : (s : Sign) → Decidable s.IsShort
  | .literal (.number n) => inferInstanceAs (Decidable n.IsShort)
  | .literal .null | .literal (.flag _) | .openObject | .closeObject | .openArray | .closeArray
  | .comma | .colon | .name _ | .text _ => inferInstanceAs (Decidable True)

theorem readValue_number (n : Numeral) (fuel : Nat) :
    readValue (fuel + 1) (n.spelling ++ rest) = readNumber n.negative (n.size ++ rest) := by
  obtain ⟨d, w, -, size, digit, -⟩ := n.size_eq
  have other {e : Char} (he : e.isDigit = false) : d ≠ e := by
    rintro rfl
    exact absurd digit (by simp [he])
  have word : readWord (n.spelling ++ rest) = none := readWord_number n
  rw [Numeral.spelling] at word ⊢
  cases negative : n.negative with
  | true =>
    rw [negative, if_pos rfl, List.cons_append] at word
    rw [if_pos rfl, List.cons_append, readValue, word]
  | false =>
    rw [negative, if_neg Bool.false_ne_true, size, List.cons_append] at word
    rw [if_neg Bool.false_ne_true, size, List.cons_append, readValue, word]
    all_goals exact fun _ e => other rfl (List.cons.inj e).1

theorem readValue_literal (l : Literal) (ends : Ends rest) (fuel : Nat) :
    readValue (fuel + 1) (l.spelling ++ rest) =
      if (Sign.literal l).IsShort then .ok (l.value, rest) else .error .longInteger := by
  match l with
  | .null => rfl
  | .flag true => rfl
  | .flag false => rfl
  | .number n => exact (readValue_number n fuel).trans (n.readNumber_size ends)

end Words

section Collections
variable {l l' : List (Sign × List Char)} {b r rest ts : List Char} {c : Char} {fuel : Nat}

def readMoreItems (fuel : Nat) (cs : List Char) : Except Fault (List Value × List Char) :=
  match skipBlanks cs with
  | ',' :: r => readItems fuel (skipBlanks r)
  | ']' :: rest => .ok ([], rest)
  | _ => .error .malformed

theorem readItems_succ (fuel : Nat) (cs : List Char) : readItems (fuel + 1) cs =
    (readValue fuel cs).bind fun q => (readMoreItems fuel q.2).bind fun q' =>
      .ok (q.1 :: q'.1, q'.2) := by
  rw [readItems]
  refine congrArg (readValue fuel cs).bind (funext fun ⟨v, r⟩ => ?_)
  simp only [readMoreItems]
  cases skipBlanks r with
  | nil => rfl
  | cons c x =>
    by_cases comma : c = ','
    · rw [comma]
      rfl
    by_cases close : c = ']'
    · rw [close]
      rfl
    simp [comma, close]
    rfl

def readMoreMembers (fuel : Nat) (cs : List Char) :
    Except Fault (List (Value × Value) × List Char) :=
  match skipBlanks cs with
  | ',' :: r => readMembers fuel (skipBlanks r)
  | '\x7d' :: rest => .ok ([], rest)
  | _ => .error .malformed

theorem readMembers_succ (fuel : Nat) (ls : List Letter) {b' : List Char} (blank : Blanks b)
    (blank' : Blanks b') (solid : ∀ c ∈ r.head?, isBlank c = false) :
    readMembers (fuel + 1) ('"' :: (unquoted ls ++ (b ++ ':' :: (b' ++ r)))) =
      (readValue fuel r).bind fun q => (readMoreMembers fuel q.2).bind fun q' =>
        .ok ((.text (content ls), q.1) :: q'.1, q'.2) := by
  have colon : skipBlanks (b ++ ':' :: (b' ++ r)) = ':' :: (b' ++ r) := skipBlanks_cons blank rfl
  have value : skipBlanks (b' ++ r) = r := skipBlanks_append blank' solid
  rw [readMembers, readString_unquoted]
  simp only [Fault.ofOption, bind, Except.bind, colon, value]
  refine congrArg (readValue fuel r).bind (funext fun ⟨v, r⟩ => ?_)
  simp only [readMoreMembers]
  cases skipBlanks r with
  | nil => rfl
  | cons c x =>
    by_cases comma : c = ','
    · rw [comma]
      rfl
    by_cases close : c = '\x7d'
    · rw [close]
      rfl
    simp [comma, close]
    rfl

theorem laid_append (l l' : List (Sign × List Char)) : laid (l ++ l') = laid l ++ laid l' :=
  List.flatMap_append

theorem laid_bracketed (a z : Sign) (b b' : List Char) :
    laid ((a, b) :: (l ++ [(z, b')])) ++ rest =
      a.spelling ++ (b ++ (laid l ++ (z.spelling ++ (b' ++ rest)))) := by
  simp [laid]

/-- A value starts neither with white space nor with what ends a collection. -/
theorem Tree.begins (t : Tree) {more : List Sign} (spelled : l.map (·.1) = t.signs ++ more)
    (x : List Char) : ∃ c y, laid l ++ x = c :: y ∧ isBlank c = false ∧ c ≠ ']' := by
  cases t with
  | literal lit =>
    obtain ⟨⟨_, b⟩, l, rfl, rfl, -⟩ := List.map_eq_cons_iff.1 spelled
    obtain ⟨all, c, r, first, -⟩ := lit.bare
    have bare : Yaml.Scanner.IsBare c = true := all c (first ▸ List.mem_cons_self)
    have other {d : Char} (hd : Yaml.Scanner.IsBare d = false) : c ≠ d :=
      Yaml.Scanner.isBare_ne bare hd
    refine ⟨c, r ++ (b ++ (laid l ++ x)), by simp [laid, Sign.spelling, first], ?_, other rfl⟩
    simp [isBlank, other (d := ' ') rfl, other (d := '\t') rfl, other (d := '\n') rfl,
      other (d := '\r') rfl]
  | text | array | object =>
    obtain ⟨⟨_, b⟩, l, rfl, rfl, -⟩ := List.map_eq_cons_iff.1 spelled
    exact ⟨_, _, rfl, rfl, by decide⟩

theorem Tree.solid (t : Tree) {more : List Sign} (spelled : l.map (·.1) = t.signs ++ more)
    (x : List Char) : ∀ c ∈ (laid l ++ x).head?, isBlank c = false := by
  obtain ⟨c, y, first, blank, -⟩ := t.begins spelled x
  rw [first]
  exact fun _ hd => Option.some.inj hd ▸ blank

theorem ends_items {items : List Tree} (spelled : l.map (·.1) = itemSigns false items) :
    Ends (laid l ++ ']' :: rest) := by
  intro c hc
  cases items with
  | nil =>
    obtain rfl := List.map_eq_nil_iff.1 spelled
    obtain rfl := Option.some.inj hc
    simp
  | cons t items =>
    obtain ⟨⟨_, b⟩, l, rfl, rfl, -⟩ := List.map_eq_cons_iff.1 spelled
    obtain rfl := Option.some.inj hc
    simp

theorem ends_members {members : List (List Letter × Tree)}
    (spelled : l.map (·.1) = memberSigns false members) : Ends (laid l ++ '\x7d' :: rest) := by
  intro c hc
  cases members with
  | nil =>
    obtain rfl := List.map_eq_nil_iff.1 spelled
    obtain rfl := Option.some.inj hc
    simp
  | cons m members =>
    obtain ⟨⟨_, b⟩, l, rfl, rfl, -⟩ := List.map_eq_cons_iff.1 spelled
    obtain rfl := Option.some.inj hc
    simp

theorem readMoreItems_signs {items : List Tree} (spelled : l.map (·.1) = itemSigns false items)
    (white : Blanks b) (blank : ∀ p ∈ l, Blanks p.2)
    (next : ∀ l' : List (Sign × List Char), l'.map (·.1) = itemSigns true items → items ≠ [] →
      (∀ p ∈ l', Blanks p.2) → l'.length < l.length →
      readItems fuel (laid l' ++ ']' :: rest) =
        provided (·.1.IsShort) .longInteger l' (itemValues items, rest)) :
    readMoreItems fuel (b ++ (laid l ++ ']' :: rest)) =
      provided (·.1.IsShort) .longInteger l (itemValues items, rest) := by
  cases items with
  | nil =>
    obtain rfl := List.map_eq_nil_iff.1 spelled
    rw [readMoreItems, laid, List.flatMap_nil, List.nil_append, skipBlanks_cons white rfl]
    exact (provided_of_good (List.forall_mem_nil _) _).symm
  | cons t items =>
    obtain ⟨⟨_, w⟩, l, rfl, rfl, behind⟩ := List.map_eq_cons_iff.1 spelled
    obtain ⟨comma, blank⟩ := List.forall_mem_cons.1 blank
    rw [laid_cons, List.append_assoc, List.append_assoc, Sign.spelling, List.singleton_append,
      readMoreItems, skipBlanks_cons white rfl, provided_cons (p := (.comma, w)) trivial,
      ← next l behind (List.cons_ne_nil t items) blank (Nat.lt_succ_self _)]
    exact congrArg (readItems fuel) (skipBlanks_append comma (t.solid behind _))

theorem readMoreMembers_signs {members : List (List Letter × Tree)}
    (spelled : l.map (·.1) = memberSigns false members) (white : Blanks b)
    (blank : ∀ p ∈ l, Blanks p.2)
    (next : ∀ l' : List (Sign × List Char), l'.map (·.1) = memberSigns true members →
      members ≠ [] → (∀ p ∈ l', Blanks p.2) → l'.length < l.length →
      readMembers fuel (laid l' ++ '\x7d' :: rest) =
        provided (·.1.IsShort) .longInteger l' (memberValues members, rest)) :
    readMoreMembers fuel (b ++ (laid l ++ '\x7d' :: rest)) =
      provided (·.1.IsShort) .longInteger l (memberValues members, rest) := by
  cases members with
  | nil =>
    obtain rfl := List.map_eq_nil_iff.1 spelled
    rw [readMoreMembers, laid, List.flatMap_nil, List.nil_append, skipBlanks_cons white rfl]
    exact (provided_of_good (List.forall_mem_nil _) _).symm
  | cons m members =>
    obtain ⟨⟨_, w⟩, l, rfl, rfl, behind⟩ := List.map_eq_cons_iff.1 spelled
    obtain ⟨comma, blank⟩ := List.forall_mem_cons.1 blank
    have solid : ∀ c ∈ (laid l ++ '\x7d' :: rest).head?, isBlank c = false := by
      obtain ⟨⟨_, _⟩, _, rfl, rfl, -⟩ := List.map_eq_cons_iff.1 behind
      exact fun _ hd => Option.some.inj hd ▸ rfl
    rw [laid_cons, List.append_assoc, List.append_assoc, Sign.spelling, List.singleton_append,
      readMoreMembers, skipBlanks_cons white rfl, provided_cons (p := (.comma, w)) trivial,
      ← next l behind (List.cons_ne_nil m members) blank (Nat.lt_succ_self _)]
    exact congrArg (readMembers fuel) (skipBlanks_append comma solid)

theorem readValue_text (ls : List Letter) (fuel : Nat) :
    readValue (fuel + 1) ('"' :: (unquoted ls ++ rest)) = .ok (.text (content ls), rest) := by
  rw [readValue, readString_unquoted]
  rfl

theorem readValue_openArray (white : Blanks b) (solid : isBlank c = false) (other : c ≠ ']')
    (fuel : Nat) : readValue (fuel + 1) ('[' :: (b ++ c :: r)) =
      (readItems fuel (c :: r)).bind fun q => .ok (.list q.1, q.2) := by
  rw [readValue, skipBlanks_cons white solid]
  simp only
  split
  next e => exact absurd (List.cons.inj e).1 other
  next => rfl

theorem readValue_array {items : List Tree} (spelled : l.map (·.1) = itemSigns true items)
    (white : Blanks b)
    (read : items ≠ [] → readItems fuel (laid l ++ ']' :: rest) =
      provided (·.1.IsShort) .longInteger l (itemValues items, rest)) :
    readValue (fuel + 1) ('[' :: (b ++ (laid l ++ ']' :: rest))) =
      provided (·.1.IsShort) .longInteger l ((Tree.array items).value, rest) := by
  cases items with
  | nil =>
    obtain rfl := List.map_eq_nil_iff.1 spelled
    rw [provided_of_good (List.forall_mem_nil _), laid, List.flatMap_nil, List.nil_append,
      readValue, skipBlanks_cons white rfl]
    rfl
  | cons t items =>
    obtain ⟨c, y, first, solid, other⟩ := t.begins spelled (']' :: rest)
    have read := read (List.cons_ne_nil t items)
    rw [first] at read ⊢
    rw [readValue_openArray white solid other]
    exact provided_map read fun q => (Value.list q.1, q.2)

theorem readValue_object {members : List (List Letter × Tree)}
    (spelled : l.map (·.1) = memberSigns true members) (white : Blanks b)
    (distinct : (members.map fun m => content m.1).Pairwise (· ≠ ·))
    (read : members ≠ [] → readMembers fuel (laid l ++ '\x7d' :: rest) =
      provided (·.1.IsShort) .longInteger l (memberValues members, rest)) :
    readValue (fuel + 1) ('\x7b' :: (b ++ (laid l ++ '\x7d' :: rest))) =
      provided (·.1.IsShort) .longInteger l ((Tree.object members).value, rest) := by
  cases members with
  | nil =>
    obtain rfl := List.map_eq_nil_iff.1 spelled
    rw [provided_of_good (List.forall_mem_nil _), laid, List.flatMap_nil, List.nil_append,
      readValue, skipBlanks_cons white rfl]
    rfl
  | cons m members =>
    have apart : Value.ofPairs (memberValues (m :: members)) = memberValues (m :: members) := by
      rw [memberValues_eq_map]
      exact Yaml.ofPairs_of_apart (apart_names distinct fun m => m.2.value)
    have object := provided_map (read (List.cons_ne_nil m members))
      fun q => (Value.map (Value.ofPairs q.1), q.2)
    rw [apart] at object
    refine Eq.trans ?_ object
    obtain ⟨⟨_, w⟩, l, rfl, rfl, -⟩ := List.map_eq_cons_iff.1 spelled
    rw [laid_cons, Sign.spelling, List.append_assoc, List.cons_append, readValue,
      skipBlanks_cons white rfl]
    rfl

mutual

/-- The reader takes a value, and leaves the white space of its last sign. -/
theorem readValue_signs (t : Tree) (l : List (Sign × List Char)) (fuel : Nat) (rest : List Char)
    (spelled : l.map (·.1) = t.signs) (blank : ∀ p ∈ l, Blanks p.2) (distinct : t.Distinct)
    (ends : Ends rest) (enough : l.length ≤ fuel) :
    ∃ b, Blanks b ∧ readValue fuel (laid l ++ rest) =
      provided (·.1.IsShort) .longInteger l (t.value, b ++ rest) := by
  match t with
  | .literal lit =>
    obtain ⟨⟨_, b⟩, rfl, rfl⟩ := List.map_eq_singleton_iff.1 spelled
    obtain ⟨fuel, rfl⟩ := Nat.exists_eq_add_one.2 enough
    have white : Blanks b := blank _ List.mem_cons_self
    have read := readValue_literal lit (ends.behind white) fuel
    exact ⟨b, white, by simpa [laid, Sign.spelling, provided, Tree.value] using read⟩
  | .text ls =>
    obtain ⟨⟨_, b⟩, rfl, rfl⟩ := List.map_eq_singleton_iff.1 spelled
    obtain ⟨fuel, rfl⟩ := Nat.exists_eq_add_one.2 enough
    refine ⟨b, blank _ List.mem_cons_self, ?_⟩
    simp [laid, Sign.spelling, provided, Sign.IsShort, Tree.value, readValue_text]
  | .array items =>
    obtain ⟨b, l, b', rfl, inside⟩ := exists_bracketed spelled
    simp only [List.length_cons, List.length_append, List.length_nil] at enough
    obtain ⟨fuel, rfl⟩ : ∃ m, fuel = m + 1 := ⟨fuel - 1, by omega⟩
    simp only [List.forall_mem_cons, List.forall_mem_append] at blank
    obtain ⟨white, blank, white', -⟩ := blank
    refine ⟨b', white', ?_⟩
    rw [laid_bracketed, provided_bracketed (p := (.openArray, b)) (q := (.closeArray, b')) trivial
      trivial]
    exact readValue_array inside white fun nonempty =>
      readItems_signs items l fuel (b' ++ rest) inside nonempty blank distinct (by omega)
  | .object members =>
    obtain ⟨b, l, b', rfl, inside⟩ := exists_bracketed spelled
    simp only [List.length_cons, List.length_append, List.length_nil] at enough
    obtain ⟨fuel, rfl⟩ : ∃ m, fuel = m + 1 := ⟨fuel - 1, by omega⟩
    simp only [List.forall_mem_cons, List.forall_mem_append] at blank
    obtain ⟨white, blank, white', -⟩ := blank
    refine ⟨b', white', ?_⟩
    rw [laid_bracketed, provided_bracketed (p := (.openObject, b)) (q := (.closeObject, b')) trivial
      trivial]
    exact readValue_object inside white distinct.1 fun nonempty =>
      readMembers_signs members l fuel (b' ++ rest) inside nonempty blank distinct.2 (by omega)

theorem readItems_signs (items : List Tree) (l : List (Sign × List Char)) (fuel : Nat)
    (rest : List Char) (spelled : l.map (·.1) = itemSigns true items) (nonempty : items ≠ [])
    (blank : ∀ p ∈ l, Blanks p.2) (distinct : ItemsDistinct items) (enough : l.length < fuel) :
    readItems fuel (laid l ++ ']' :: rest) =
      provided (·.1.IsShort) .longInteger l (itemValues items, rest) := by
  match items with
  | [] => exact absurd rfl nonempty
  | t :: items =>
    have spelled : l.map (·.1) = t.signs ++ itemSigns false items := spelled
    obtain ⟨l, l', rfl, one, others⟩ := List.map_eq_append_iff.1 spelled
    obtain ⟨blank, blank'⟩ := List.forall_mem_append.1 blank
    rw [List.length_append] at enough
    obtain ⟨fuel, rfl⟩ : ∃ m, fuel = m + 1 := ⟨fuel - 1, by omega⟩
    obtain ⟨b, white, first⟩ := readValue_signs t l fuel (laid l' ++ ']' :: rest) one blank
      distinct.1 (ends_items others) (by omega)
    have more : readMoreItems fuel (b ++ (laid l' ++ ']' :: rest)) =
        provided (·.1.IsShort) .longInteger l' (itemValues items, rest) :=
      readMoreItems_signs others white blank' fun l spelled nonempty blank shorter =>
        readItems_signs items l fuel rest spelled nonempty blank distinct.2 (by omega)
    rw [laid_append, List.append_assoc, readItems_succ]
    exact provided_bind first (provided_map more fun q => (t.value :: q.1, q.2))

theorem readMembers_signs (members : List (List Letter × Tree)) (l : List (Sign × List Char))
    (fuel : Nat) (rest : List Char) (spelled : l.map (·.1) = memberSigns true members)
    (nonempty : members ≠ []) (blank : ∀ p ∈ l, Blanks p.2) (distinct : MembersDistinct members)
    (enough : l.length < fuel) :
    readMembers fuel (laid l ++ '\x7d' :: rest) =
      provided (·.1.IsShort) .longInteger l (memberValues members, rest) := by
  match members with
  | [] => exact absurd rfl nonempty
  | (ls, t) :: members =>
    have spelled : l.map (·.1) = .name ls :: .colon :: (t.signs ++ memberSigns false members) :=
      spelled
    obtain ⟨⟨_, w⟩, l, rfl, rfl, colon⟩ := List.map_eq_cons_iff.1 spelled
    obtain ⟨⟨_, w'⟩, l, rfl, rfl, behind⟩ := List.map_eq_cons_iff.1 colon
    have solid := t.solid behind ('\x7d' :: rest)
    obtain ⟨l, l', rfl, one, others⟩ := List.map_eq_append_iff.1 behind
    simp only [List.length_cons, List.length_append] at enough
    obtain ⟨fuel, rfl⟩ : ∃ m, fuel = m + 1 := ⟨fuel - 1, by omega⟩
    simp only [List.forall_mem_cons, List.forall_mem_append] at blank
    obtain ⟨white, white', blank, blank'⟩ := blank
    obtain ⟨b, held, first⟩ := readValue_signs t l fuel (laid l' ++ '\x7d' :: rest) one blank
      distinct.1 (ends_members others) (by omega)
    have more : readMoreMembers fuel (b ++ (laid l' ++ '\x7d' :: rest)) =
        provided (·.1.IsShort) .longInteger l' (memberValues members, rest) :=
      readMoreMembers_signs others held blank' fun l spelled nonempty blank shorter =>
        readMembers_signs members l fuel rest spelled nonempty blank distinct.2 (by omega)
    rw [laid_append, List.append_assoc] at solid
    rw [provided_cons (p := (.name ls, w)) trivial, provided_cons (p := (.colon, w')) trivial]
    have member := readMembers_succ fuel ls white white' solid
    refine Eq.trans ?_ (member.trans (provided_bind first
      (provided_map more fun q => ((Value.text (content ls), t.value) :: q.1, q.2))))
    simp [laid, Sign.spelling]

end

end Collections

theorem length_le_laid (l : List (Sign × List Char)) : l.length ≤ (laid l).length := by
  induction l with
  | nil => exact Nat.le_refl _
  | cons p l ih =>
    have sign := List.length_pos_iff.2 p.1.spelling_ne_nil
    rw [laid_cons, List.length_append, List.length_append, List.length_cons]
    omega

/-- An object is read as what it denotes, unless it has a whole number that is too long. -/
theorem read_text (d : Document) (distinct : d.Distinct) :
    read d.text =
      if ∀ p ∈ d.signs, p.1.IsShort then .ok (.map d.entries) else .error .longInteger := by
  obtain ⟨lead, blank⟩ := List.forall_mem_cons.1 d.blank
  rw [List.forall_mem_map] at blank
  have solid := (Tree.object d.members).solid (by rw [d.spelled, List.append_nil]) []
  have enough := length_le_laid d.signs
  obtain ⟨b, white, value⟩ := readValue_signs (.object d.members) d.signs
    ((d.lead ++ laid d.signs).length + 1) [] d.spelled blank distinct nofun
    (by rw [List.length_append]; omega)
  rw [List.append_nil] at solid value
  have rest : skipBlanks (b ++ []) = [] := skipBlanks_append white nofun
  rw [read, Document.text, String.toList_ofList, skipBlanks_append lead solid, value, provided]
  split
  · simp only [bind, Except.bind, rest]
    rfl
  · rfl

end CiWorkflow.Json
