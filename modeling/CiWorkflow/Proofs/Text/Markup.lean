import CiWorkflow.Text.Markup

set_option autoImplicit false

namespace CiWorkflow.Text.Markup

theorem drop_length_takeWhile {α : Type} (p : α → Bool) (xs : List α) :
    xs.drop (xs.takeWhile p).length = xs.dropWhile p := by
  have parts := List.prefix_iff_eq_append.1 (List.takeWhile_prefix (l := xs) p)
  exact List.append_cancel_left (parts.trans List.takeWhile_append_dropWhile.symm)

section Brackets

def isBracket (c : Char) : Bool := c == '[' || c == ']'

def firstBracket (cs : List Char) : Option Char := (cs.dropWhile fun c => !isBracket c).head?

theorem firstBracket_cons (c : Char) (cs : List Char) :
    firstBracket (c :: cs) = if isBracket c then some c else firstBracket cs := by
  cases hc : isBracket c <;> simp [firstBracket, hc]

theorem firstBracket_backslashes (n : Nat) (cs : List Char) :
    firstBracket (backslashes n ++ cs) = firstBracket cs := by
  induction n with
  | zero => rfl
  | succ n ih => exact (firstBracket_cons '\\' (backslashes n ++ cs)).trans ih

theorem firstBracket_opening (n : Nat) (cs : List Char) :
    firstBracket (backslashes n ++ '[' :: cs) = some '[' :=
  (firstBracket_backslashes n _).trans (firstBracket_cons '[' cs)

theorem head?_of_backslashes {n : Nat} {cs : List Char} {c : Char} (hc : beginsTag c)
    (h : (backslashes n ++ cs).head? = some c) : n = 0 ∧ cs.head? = some c := by
  cases n with
  | zero => exact ⟨rfl, h⟩
  | succ n =>
    obtain rfl := Option.some.inj h
    exact absurd hc (by decide)

theorem not_isBracket_of_beginsTag {c : Char} (h : beginsTag c) : isBracket c = false := by
  rw [isBracket, Bool.or_eq_false_iff]
  constructor <;> refine beq_false_of_ne fun e => ?_ <;> subst e <;> exact absurd h (by decide)

def IsBody (body : List Char) : Prop :=
  ∃ c run, body = c :: run ∧ beginsTag c ∧ ∀ d ∈ run, isBracket d = false

/-- A tag is a character that begins tags, and goes on to the first bracket. -/
theorem readTag?_cons {c : Char} {r : List Char} (hc : beginsTag c) :
    readTag? (c :: r) = if firstBracket r = some ']' then
      some (c :: r.takeWhile fun d => !isBracket d, (r.dropWhile fun d => !isBracket d).tail)
    else none := by
  have same : (fun d => d != '[' && d != ']') = fun d => !isBracket d := by
    funext d
    simp [isBracket, bne]
  simp only [readTag?, hc, if_true, same, drop_length_takeWhile]
  split
  · rename_i t found
    have closed : firstBracket r = some ']' := congrArg List.head? found
    rw [if_pos closed, found]
    rfl
  · rename_i other
    refine (if_neg fun closed => ?_).symm
    obtain ⟨t, found⟩ := List.head?_eq_some_iff.1 closed
    exact other t found

theorem readTag?_body {body : List Char} (h : IsBody body) (t : List Char) :
    readTag? (body ++ ']' :: t) = some (body, t) := by
  obtain ⟨c, run, rfl, hc, inner⟩ := h
  have inner : ∀ d ∈ run, (!isBracket d) = true := fun d hd => by simp [inner d hd]
  rw [List.cons_append, readTag?_cons hc, firstBracket, List.dropWhile_append_of_pos inner,
    List.takeWhile_append_of_pos inner]
  simp [isBracket]

theorem isBody_of_readTag? {cs body t : List Char} (h : readTag? cs = some (body, t)) :
    IsBody body := by
  cases cs with
  | nil => cases h
  | cons c r =>
    by_cases hc : beginsTag c
    · rw [readTag?_cons hc] at h
      split at h
      · obtain ⟨rfl, -⟩ := Prod.mk.inj (Option.some.inj h)
        exact ⟨c, _, rfl, hc, fun d hd => by
          simpa using List.all_eq_true.1 List.all_takeWhile d hd⟩
      · cases h
    · simp [readTag?, hc] at h

theorem readTag?_eq_none_iff {cs : List Char} : readTag? cs = none ↔
    ∀ c, cs.head? = some c → beginsTag c → firstBracket cs ≠ some ']' := by
  cases cs with
  | nil => simp [readTag?]
  | cons c r =>
    by_cases hc : beginsTag c
    · simp [readTag?_cons hc, firstBracket_cons, not_isBracket_of_beginsTag hc, hc]
    · simp [readTag?, hc]

end Brackets

section Cutting

inductive Cuts : List Char → Token → List Char → Prop
  | tag (n : Nat) {r body t : List Char} (h : readTag? r = some (body, t)) :
      Cuts (backslashes n ++ '[' :: r) (.tag n body) t
  | bracket (n : Nat) {r : List Char} (h : readTag? r = none) :
      Cuts (backslashes n ++ '[' :: r) (.text (backslashes n ++ ['['])) r
  | char (n : Nat) {c : Char} {r : List Char} (hs : c ≠ '\\') (hb : c ≠ '[') :
      Cuts (backslashes n ++ c :: r) (.text (backslashes n ++ [c])) r

theorem takeWhile_backslashes (n : Nat) {c : Char} (hc : c ≠ '\\') (r : List Char) :
    (backslashes n ++ c :: r).takeWhile (· == '\\') = backslashes n := by
  induction n with
  | zero => simp [backslashes, hc]
  | succ n ih => simpa [backslashes, List.replicate_succ] using ih

theorem drop_backslashes (n : Nat) (cs : List Char) :
    (backslashes n ++ cs).drop (backslashes n).length = cs := List.drop_left

theorem Cuts.backslash {cs rest : List Char} {t : Token} (h : Cuts cs t rest) :
    ∃ t, Cuts ('\\' :: cs) t rest := by
  cases h with
  | tag n h => exact ⟨_, .tag (n + 1) h⟩
  | bracket n h => exact ⟨_, .bracket (n + 1) h⟩
  | char n hs hb => exact ⟨_, .char (n + 1) hs hb⟩

/-- A token can be cut off, unless there is nothing but backslashes. -/
theorem backslashes_or_cuts (cs : List Char) :
    (∃ n, cs = backslashes n) ∨ ∃ t rest, Cuts cs t rest := by
  induction cs with
  | nil => exact .inl ⟨0, rfl⟩
  | cons c r ih =>
    by_cases hs : c = '\\'
    · subst hs
      rcases ih with ⟨n, rfl⟩ | ⟨t, rest, h⟩
      · exact .inl ⟨n + 1, rfl⟩
      · obtain ⟨t, h⟩ := h.backslash
        exact .inr ⟨t, rest, h⟩
    · by_cases hb : c = '['
      · subst hb
        cases h : readTag? r with
        | none => exact .inr ⟨_, _, .bracket 0 h⟩
        | some p => exact .inr ⟨_, _, .tag 0 h⟩
      · exact .inr ⟨_, _, .char 0 hs hb⟩

theorem Cuts.tokensWithin {cs rest : List Char} {t : Token} (h : Cuts cs t rest) (fuel : Nat) :
    tokensWithin (fuel + 1) cs = t :: tokensWithin fuel rest := by
  cases h with
  | tag n h =>
    rw [Markup.tokensWithin, takeWhile_backslashes n (by decide), drop_backslashes]
    simp [h, backslashes]
  | bracket n h =>
    rw [Markup.tokensWithin, takeWhile_backslashes n (by decide), drop_backslashes]
    simp [h]
  | char n hs hb =>
    rw [Markup.tokensWithin, takeWhile_backslashes n hs, drop_backslashes]
    simp

theorem tokensWithin_backslashes (fuel n : Nat) :
    tokensWithin (fuel + 1) (backslashes n) = if n = 0 then [] else [.text (backslashes n)] := by
  have all : (backslashes n).takeWhile (· == '\\') = backslashes n := by
    simp [backslashes]
  have none : (backslashes n).drop (backslashes n).length = [] := List.drop_length
  rw [tokensWithin, all, none]
  cases n <;> rfl

def escapeWithin (fuel : Nat) (cs : List Char) : List Char :=
  (tokensWithin fuel cs).flatMap escapeToken

theorem Cuts.escapeWithin {cs rest : List Char} {t : Token} (h : Cuts cs t rest) (fuel : Nat) :
    escapeWithin (fuel + 1) cs = escapeToken t ++ escapeWithin fuel rest := by
  rw [Markup.escapeWithin, h.tokensWithin]
  rfl

theorem escapeWithin_backslashes (fuel n : Nat) :
    escapeWithin (fuel + 1) (backslashes n) = backslashes n := by
  rw [escapeWithin, tokensWithin_backslashes]
  cases n <;> simp [escapeToken, backslashes]

theorem backslashes_append (m n : Nat) (cs : List Char) :
    backslashes m ++ (backslashes n ++ cs) = backslashes (m + n) ++ cs := by
  simp only [backslashes, ← List.append_assoc, List.replicate_append_replicate]

/-- The escaped text ends in backslashes of its own, one at most. -/
theorem exists_escape_eq (cs : List Char) :
    ∃ k, escape cs = escapeWithin (cs.length + 1) cs ++ backslashes k := by
  rw [escape]
  split
  · exact ⟨0, (List.append_nil _).symm⟩
  · exact ⟨1, rfl⟩
  · exact ⟨0, (List.append_nil _).symm⟩

/-- Escaping leaves a token that is no tag as it is, and gives the others one backslash more than
twice as many. -/
theorem Cuts.exists_escaped {cs rest : List Char} {t : Token} (h : Cuts cs t rest) (fuel : Nat)
    (tail : List Char) :
    (∃ n body, IsBody body ∧
      Markup.escapeWithin (fuel + 1) cs ++ tail =
        backslashes (2 * n + 1) ++
          '[' :: (body ++ ']' :: (Markup.escapeWithin fuel rest ++ tail))) ∨
    (∃ n c, c ≠ '\\' ∧ (c = '[' → readTag? rest = none) ∧ cs = backslashes n ++ c :: rest ∧
      Markup.escapeWithin (fuel + 1) cs ++ tail =
        backslashes n ++ c :: (Markup.escapeWithin fuel rest ++ tail)) := by
  rw [h.escapeWithin]
  cases h with
  | tag n h =>
    exact .inl ⟨n, _, isBody_of_readTag? h, by simp [escapeToken, bracketed]⟩
  | bracket n h => exact .inr ⟨n, '[', by decide, fun _ => h, rfl, by simp [escapeToken]⟩
  | char n hs hb => exact .inr ⟨n, _, hs, fun e => absurd e hb, rfl, by simp [escapeToken]⟩

section Escaping
variable {fuel k : Nat} {cs tail : List Char}

theorem firstBracket_of_escapeWithin
    (h : firstBracket (escapeWithin fuel cs ++ (backslashes k ++ '[' :: tail)) = some ']') :
    firstBracket cs = some ']' := by
  have opening {n : Nat} {r : List Char} (h : firstBracket (backslashes n ++ '[' :: r) = some ']') :
      False := by
    rw [firstBracket_opening] at h
    exact absurd h (by decide)
  induction fuel generalizing cs with
  | zero => exact (opening h).elim
  | succ fuel ih =>
    rcases backslashes_or_cuts cs with ⟨n, rfl⟩ | ⟨t, rest, hc⟩
    · rw [escapeWithin_backslashes, backslashes_append] at h
      exact (opening h).elim
    · rcases hc.exists_escaped fuel (backslashes k ++ '[' :: tail) with
        ⟨n, body, -, e⟩ | ⟨n, c, -, -, rfl, e⟩
      · rw [e] at h
        exact (opening h).elim
      · rw [e, firstBracket_backslashes, firstBracket_cons] at h
        rw [firstBracket_backslashes, firstBracket_cons]
        cases hb : isBracket c with
        | true => simpa [hb] using h
        | false => exact ih (by simpa [hb] using h)

theorem head?_of_escapeWithin {c : Char} (hc : beginsTag c)
    (h : (escapeWithin fuel cs ++ (backslashes k ++ '[' :: tail)).head? = some c) :
    cs.head? = some c := by
  have opening {n : Nat} {r : List Char} (h : (backslashes n ++ '[' :: r).head? = some c) :
      False := by
    obtain rfl := Option.some.inj (head?_of_backslashes hc h).2
    exact absurd hc (by decide)
  cases fuel with
  | zero => exact (opening h).elim
  | succ fuel =>
    rcases backslashes_or_cuts cs with ⟨n, rfl⟩ | ⟨t, rest, cut⟩
    · rw [escapeWithin_backslashes, backslashes_append] at h
      exact (opening h).elim
    · rcases cut.exists_escaped fuel (backslashes k ++ '[' :: tail) with
        ⟨n, body, -, e⟩ | ⟨n, d, -, -, rfl, e⟩
      · rw [e] at h
        exact (opening h).elim
      · rw [e] at h
        obtain ⟨rfl, hd⟩ := head?_of_backslashes hc h
        exact hd

/-- What was no tag is none after escaping, if an opening bracket follows. -/
theorem readTag?_escapeWithin (h : readTag? cs = none) (fuel k : Nat) (tail : List Char) :
    readTag? (escapeWithin fuel cs ++ (backslashes k ++ '[' :: tail)) = none :=
  readTag?_eq_none_iff.2 fun _ hd hc closed =>
    readTag?_eq_none_iff.1 h _ (head?_of_escapeWithin hc hd) hc
      (firstBracket_of_escapeWithin closed)

end Escaping

inductive Quiet (closing : List Char) : List Token → Prop
  | nil : Quiet closing []
  | close (n : Nat) : Quiet closing [.tag n closing]
  | text (cs : List Char) {ts : List Token} (h : Quiet closing ts) : Quiet closing (.text cs :: ts)
  | plain (n : Nat) (body : List Char) {ts : List Token} (h : Quiet closing ts) :
      Quiet closing (.tag (2 * n + 1) body :: ts)

theorem mergeText_tag (n : Nat) (body : List Char) (ts : List Token) :
    mergeText (.tag n body :: ts) = .tag n body :: mergeText ts := rfl

theorem Quiet.mergeText {closing : List Char} {ts : List Token} (h : Quiet closing ts) :
    Quiet closing (mergeText ts) := by
  induction h with
  | nil => exact .nil
  | close n => exact .close n
  | plain n body _ ih => exact .plain n body ih
  | text cs _ ih =>
    rw [Markup.mergeText]
    split
    · rename_i more rest e
      rw [e] at ih
      cases ih with
      | text _ h => exact .text _ h
    · exact ih.text cs

/-- Escaping makes all tags plain, and a tag that follows ends the text. -/
theorem quiet_tokensWithin {closing : List Char} (hc : IsBody closing) (steps fuel k : Nat)
    (cs : List Char) : Quiet closing
      (tokensWithin steps (escapeWithin fuel cs ++ (backslashes k ++ bracketed closing))) := by
  have closes (steps n : Nat) :
      Quiet closing (tokensWithin steps (backslashes n ++ bracketed closing)) := by
    cases steps with
    | zero => exact .nil
    | succ steps =>
      have cut : Cuts (backslashes n ++ bracketed closing) (.tag n closing) [] :=
        .tag n (readTag?_body hc [])
      rw [cut.tokensWithin]
      cases steps with
      | zero => exact .close n
      | succ steps => exact .close n
  induction steps generalizing fuel cs with
  | zero => exact .nil
  | succ steps ih =>
    cases fuel with
    | zero => exact closes (steps + 1) k
    | succ fuel =>
      rcases backslashes_or_cuts cs with ⟨n, rfl⟩ | ⟨t, rest, cut⟩
      · rw [escapeWithin_backslashes, backslashes_append]
        exact closes (steps + 1) (n + k)
      · rcases cut.exists_escaped fuel (backslashes k ++ bracketed closing) with
          ⟨n, body, hb, e⟩ | ⟨n, c, hs, hn, -, e⟩
        · rw [e, (Cuts.tag (2 * n + 1) (readTag?_body hb _)).tokensWithin]
          exact .plain n body (ih fuel rest)
        · by_cases hb : c = '['
          · subst hb
            have plain : readTag? (escapeWithin fuel rest ++ (backslashes k ++ bracketed closing)) =
              none := readTag?_escapeWithin (hn rfl) fuel k _
            rw [e, (Cuts.bracket n plain).tokensWithin]
            exact .text _ (ih fuel rest)
          · rw [e, (Cuts.char n hs hb).tokensWithin]
            exact .text _ (ih fuel rest)

structure Untagged (cs : List Char) : Prop where
  nonempty : cs ≠ []
  noBracket : '[' ∉ cs
  noColon : ':' ∉ cs
  /-- A tag that follows is not made plain. -/
  ending : cs.getLast? ≠ some '\\'

theorem Untagged.tail {cs rest : List Char} (h : Untagged (cs ++ rest)) (nonempty : rest ≠ []) :
    Untagged rest where
  nonempty := nonempty
  noBracket := fun mem => h.noBracket (List.mem_append_right cs mem)
  noColon := fun mem => h.noColon (List.mem_append_right cs mem)
  ending := by
    intro last
    exact h.ending (by rw [List.getLast?_append, last, Option.some_or])

theorem not_untagged_backslashes (n : Nat) : ¬ Untagged (backslashes n) := by
  intro h
  cases n with
  | zero => exact h.nonempty rfl
  | succ n => exact h.ending (by simp [backslashes, List.getLast?_replicate])

theorem mergeText_tokensWithin {closing : List Char} (hc : IsBody closing) {cs : List Char}
    (h : Untagged cs) {fuel : Nat} (enough : cs.length + 2 ≤ fuel) :
    mergeText (tokensWithin fuel (cs ++ bracketed closing)) = [.text cs, .tag 0 closing] := by
  have closes (fuel : Nat) : tokensWithin (fuel + 2) (bracketed closing) = [.tag 0 closing] := by
    have cut : Cuts (bracketed closing) (.tag 0 closing) [] := .tag 0 (readTag?_body hc [])
    rw [cut.tokensWithin]
    exact congrArg _ (tokensWithin_backslashes fuel 0)
  induction fuel generalizing cs with
  | zero => exact absurd enough (by omega)
  | succ fuel ih =>
    rcases backslashes_or_cuts cs with ⟨n, rfl⟩ | ⟨t, rest, cut⟩
    · exact absurd h (not_untagged_backslashes n)
    · cases cut with
      | tag | bracket => exact absurd (by simp) h.noBracket
      | char n hs hb =>
        rename_i c
        have next : Cuts (backslashes n ++ c :: (rest ++ bracketed closing))
            (.text (backslashes n ++ [c])) (rest ++ bracketed closing) := .char n hs hb
        have short : rest.length + 2 ≤ fuel := by
          simp only [List.length_append, List.length_cons] at enough
          omega
        rw [List.append_assoc, List.cons_append, next.tokensWithin, mergeText]
        by_cases last : rest = []
        · subst last
          obtain ⟨fuel, rfl⟩ := Nat.exists_eq_add_of_le short
          rw [List.nil_append, List.length_nil, Nat.zero_add, Nat.add_comm, closes]
          rfl
        · have later : Untagged rest := by
            rw [← List.singleton_append, ← List.append_assoc] at h
            exact h.tail last
          rw [ih later short]
          simp

end Cutting

section Showing

structure IsPlainStyle (word : String) : Prop where
  body : IsBody word.toList
  opening : word.toList.head? ≠ some '/'
  named : nameOf word.toList = word.toList
  trimmed : trim word.toList = word.toList
  alone : wordsOf word.toList = [word]
  low : lowerText word = word
  plain : word ∉ ["on", "not", "link", "none"]
  noAttribute : attribute? word = none
  unmixed : bracketed? "rgb(" word.toList = none

variable {word : String}

theorem exists_colour? (h : IsPlainStyle word) :
    ∃ isColour : Bool, colour? word = .ok (if isColour then some word else none) := by
  rw [colour?, h.low, h.unmixed]
  exact ⟨_, rfl⟩

theorem read_word (h : IsPlainStyle word) {colour : Option String} (hc : colour? word = .ok colour)
    (s : Style) : s.read [word] = .ok (colour.map fun name => { s with colour := some name }) := by
  have plain := h.plain
  simp only [List.mem_cons, List.not_mem_nil, or_false, not_or] at plain
  obtain ⟨notOn, notNot, notLink, -⟩ := plain
  rw [Style.read.eq_def]
  simp only [h.low]
  split
  · exact absurd rfl notOn
  · exact absurd rfl notNot
  · exact absurd rfl notLink
  · exact absurd rfl notOn
  · exact absurd rfl notNot
  · exact absurd rfl notLink
  · simp only [h.noAttribute, hc]
    cases colour <;> rfl

theorem text_colour (word : String) : (Style.mk [] (some word) none none).text = word := by
  have words : (Style.mk [] (some word) none none).words = [word] := by
    simp [Style.words]
  simp [Style.text, words]

theorem normalize_word (h : IsPlainStyle word) : Style.normalize word.toList = .ok word := by
  have other : ([word] == ["none"]) = false := by
    have ne : word ≠ "none" := fun e => h.plain (by simp [e])
    simp [ne]
  obtain ⟨isColour, hc⟩ := exists_colour? h
  rw [Style.normalize, h.alone, h.trimmed, String.ofList_toList, h.low]
  simp only [other, read_word h hc]
  cases isColour with
  | true => exact congrArg Except.ok (text_colour word)
  | false => rfl

theorem closeTag_eq (h : IsPlainStyle word) (position : Nat) (opened : List Opened) :
    closeTag ('/' :: word.toList) position opened =
      (opened.find? (·.name == word)).elim (.error (.unmatched ('/' :: word.toList) position))
        fun o => o.close.map fun _ => opened.erase o := by
  have name : trim (nameOf (('/' :: word.toList).drop 1)) = word.toList := by
    rw [List.drop_one, List.tail_cons, h.named, h.trimmed]
  obtain ⟨c, run, letters, -⟩ := h.body
  rw [closeTag.eq_def]
  split
  · rename_i e
    rw [name, letters] at e
    cases e
  · simp only [name, normalize_word h]
    cases opened.find? (·.name == word) with
    | none => rfl
    | some o => rfl

theorem closeTag_word (h : IsPlainStyle word) (position : Nat) :
    closeTag ('/' :: word.toList) position [⟨word, none⟩] = .ok [] := by
  have closed : Opened.close ⟨word, none⟩ = .ok () := by
    rw [Opened.close]
    split
    · rename_i e
      cases e
    · rfl
  rw [closeTag_eq h]
  simp [closed, Except.map]

theorem openTag_word (h : IsPlainStyle word) : Opened.ofBody word.toList = .ok ⟨word, none⟩ := by
  have rest : word.toList.dropWhile (· != '=') = [] := by
    have whole := List.takeWhile_append_dropWhile (p := (· != '=')) (l := word.toList)
    have named : word.toList.takeWhile (· != '=') = word.toList := h.named
    rw [named] at whole
    simpa using whole
  rw [Opened.ofBody, h.named, normalize_word h, rest]
  rfl

theorem addTag_plain (s : Shown) (n : Nat) (body : List Char) :
    ∃ s', s.addTag (2 * n + 1) body = .ok s' ∧ s'.opened = s.opened ∧ s'.seen = s.seen := by
  have odd : (2 * n + 1) % 2 = 1 := by omega
  rw [Shown.addTag]
  simp only [odd]
  exact ⟨_, rfl, rfl, rfl⟩

theorem addTag_close (h : IsPlainStyle word) {s : Shown} (opened : s.opened = [⟨word, none⟩])
    (n : Nat) : ∃ s', s.addTag n ('/' :: word.toList) = .ok s' ∧ s'.seen = s.seen ∧
      (n = 0 → s'.chars = s.chars) := by
  rw [Shown.addTag]
  split
  · rename_i odd
    exact ⟨_, rfl, rfl, by rintro rfl; cases odd⟩
  · simp only [opened, closeTag_word h]
    exact ⟨_, rfl, rfl, by rintro rfl; exact List.append_nil _⟩

/-- A tag that closes another style than the open one is a fault. -/
theorem addTag_other {other : String} (h : IsPlainStyle other) (ne : word ≠ other) {s : Shown}
    (opened : s.opened = [⟨word, none⟩]) :
    ∃ f, s.addTag 0 ('/' :: other.toList) = .error f := by
  have none : [(⟨word, none⟩ : Opened)].find? (·.name == other) = none := by simp [ne]
  rw [Shown.addTag]
  simp only [opened, closeTag_eq h, none]
  exact ⟨_, rfl⟩

theorem exists_foldlM_of_quiet (h : IsPlainStyle word) {ts : List Token}
    (hq : Quiet ('/' :: word.toList) ts) {s : Shown} (opened : s.opened = [⟨word, none⟩]) :
    ∃ s', ts.foldlM Shown.step s = .ok s' ∧ s'.seen = s.seen := by
  induction hq generalizing s with
  | nil => exact ⟨s, rfl, rfl⟩
  | close n =>
    obtain ⟨s', added, seen, -⟩ := addTag_close h opened n
    exact ⟨s', by rw [List.foldlM_cons, Shown.step, added]; rfl, seen⟩
  | text cs _ ih => exact ih (s := s.add cs.length (plainChars cs)) opened
  | plain n body _ ih =>
    obtain ⟨s', added, opened', seen⟩ := addTag_plain s n body
    obtain ⟨last, folded, seen'⟩ := ih (opened'.trans opened)
    exact ⟨last, by rw [List.foldlM_cons, Shown.step, added]; exact folded, seen'.trans seen⟩

theorem addTag_open (h : IsPlainStyle word) : ∃ s',
    Shown.addTag ⟨[], [], [], 0⟩ 0 word.toList = .ok s' ∧ s'.chars = [] ∧
      s'.opened = [⟨word, none⟩] ∧ s'.seen = [⟨word, none⟩] := by
  rw [Shown.addTag]
  simp only [openTag_word h]
  split
  · rename_i odd
    exact absurd odd (by decide)
  · split
    · rename_i e
      exact absurd (congrArg List.head? e) h.opening
    · exact ⟨_, rfl, rfl, rfl, rfl⟩

theorem shown_of_foldlM (h : IsPlainStyle word) {cs : List Char} {s : Shown}
    (folded : (mergeText (tokens cs)).foldlM Shown.step ⟨[], [], [], 0⟩ = .ok s)
    (seen : s.seen = [⟨word, none⟩]) : shown cs = .ok s.chars := by
  have style : Style.normalize (Opened.style ⟨word, none⟩) = .ok word := by
    rw [Opened.style, List.append_nil, normalize_word h]
  have styles : (s.seen.reverse.mapM fun o => Style.normalize o.style) = .ok [word] := by
    rw [seen, List.reverse_singleton, List.mapM_cons, style]
    rfl
  rw [shown, folded]
  dsimp only [bind, Except.bind]
  rw [styles]
  rfl

theorem IsPlainStyle.closing (h : IsPlainStyle word) : IsBody ('/' :: word.toList) := by
  obtain ⟨c, run, letters, begins, inner⟩ := h.body
  refine ⟨'/', word.toList, rfl, by decide, ?_⟩
  rw [letters]
  exact List.forall_mem_cons.2 ⟨not_isBracket_of_beginsTag begins, inner⟩

theorem IsPlainStyle.cuts (h : IsPlainStyle word) (rest : List Char) :
    Cuts (bracketed word.toList ++ rest) (.tag 0 word.toList) rest := by
  have tag := Cuts.tag 0 (readTag?_body h.body rest)
  simpa [bracketed, backslashes] using tag

/-- An escaped text is shown in any style of one word, whatever the text is. -/
theorem exists_shown_escape (h : IsPlainStyle word) (cs : List Char) :
    ∃ out, shown (bracketed word.toList ++ (escape cs ++ bracketed ('/' :: word.toList))) =
      .ok out := by
  obtain ⟨k, escaped⟩ := exists_escape_eq cs
  obtain ⟨first, added, -, opened, seen⟩ := addTag_open h
  have quiet (steps : Nat) :=
    (quiet_tokensWithin h.closing steps (cs.length + 1) k cs).mergeText
  rw [escaped, List.append_assoc]
  obtain ⟨last, folded, seen'⟩ := exists_foldlM_of_quiet h (quiet _) opened
  refine ⟨last.chars, shown_of_foldlM h ?_ (seen'.trans seen)⟩
  rw [tokens, (h.cuts _).tokensWithin, mergeText_tag, List.foldlM_cons, Shown.step, added]
  exact folded

theorem plainChars_of_noBracket {cs : List Char} (h : '[' ∉ cs) : plainChars cs = cs := by
  induction cs with
  | nil => rfl
  | cons c cs ih =>
    have rest := ih fun mem => h (List.mem_cons_of_mem c mem)
    rw [plainChars]
    · rw [rest]
    · rintro r - rfl
      exact h (by simp)

/-- A text that is one token between its style's tags is shown as it is, if it names no pictures. -/
theorem shown_of_tokens (h : IsPlainStyle word) {cs : List Char} (noBracket : '[' ∉ cs)
    (noPicture : Emoji.replace cs = cs)
    (cut : mergeText (tokens (bracketed word.toList ++ (cs ++ bracketed ('/' :: word.toList)))) =
      [.tag 0 word.toList, .text cs, .tag 0 ('/' :: word.toList)]) :
    shown (bracketed word.toList ++ (cs ++ bracketed ('/' :: word.toList))) = .ok cs := by
  obtain ⟨first, opens, nothing, opened, seen⟩ := addTag_open h
  have text : (first.add cs.length (plainChars cs)).chars = cs := by
    rw [Shown.add, nothing, plainChars_of_noBracket noBracket, noPicture, List.nil_append]
  obtain ⟨last, closes, seen', chars⟩ :=
    addTag_close h (s := first.add cs.length (plainChars cs)) opened 0
  refine (shown_of_foldlM h (s := last) ?_ (seen'.trans seen)).trans
    (congrArg Except.ok ((chars rfl).trans text))
  rw [cut]
  simp only [List.foldlM_cons, List.foldlM_nil, Shown.step, opens, bind, Except.bind, pure,
    Except.pure, closes]

theorem shown_untagged (h : IsPlainStyle word) {cs : List Char} (untagged : Untagged cs) :
    shown (bracketed word.toList ++ (cs ++ bracketed ('/' :: word.toList))) = .ok cs := by
  have enough : cs.length + 2 ≤
      (bracketed word.toList ++ (cs ++ bracketed ('/' :: word.toList))).length := by
    simp only [bracketed, List.length_append, List.length_cons]
    omega
  refine shown_of_tokens h untagged.noBracket (Emoji.replace_of_no_colon untagged.noColon) ?_
  rw [tokens, (h.cuts _).tokensWithin, mergeText_tag,
    mergeText_tokensWithin h.closing untagged enough]

def messageStyles : List String := ["red", "yellow", "green", "cyan"]

theorem isPlainStyle_of_mem (word : String) (h : word ∈ messageStyles) : IsPlainStyle word := by
  have tag : ∀ w ∈ messageStyles, readTag? (w.toList ++ [']']) = some (w.toList, []) := by
    decide +kernel
  have opening : ∀ w ∈ messageStyles, w.toList.head? ≠ some '/' := by decide +kernel
  have named : ∀ w ∈ messageStyles, nameOf w.toList = w.toList := by decide +kernel
  have trimmed : ∀ w ∈ messageStyles, trim w.toList = w.toList := by decide +kernel
  have alone : ∀ w ∈ messageStyles, wordsOf w.toList = [w] := by decide +kernel
  have low : ∀ w ∈ messageStyles, lowerText w = w := by decide +kernel
  have plain : ∀ w ∈ messageStyles, w ∉ ["on", "not", "link", "none"] := by decide +kernel
  have noAttribute : ∀ w ∈ messageStyles, attribute? w = none := by decide +kernel
  have unmixed : ∀ w ∈ messageStyles, bracketed? "rgb(" w.toList = none := by decide +kernel
  exact {
    body := isBody_of_readTag? (tag word h)
    opening := opening word h
    named := named word h
    trimmed := trimmed word h
    alone := alone word h
    low := low word h
    plain := plain word h
    noAttribute := noAttribute word h
    unmixed := unmixed word h }

end Showing

end CiWorkflow.Text.Markup
