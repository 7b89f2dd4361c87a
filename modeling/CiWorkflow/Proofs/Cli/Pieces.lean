import CiWorkflow.Cli.Command
import Mathlib.Data.List.Basic

/-! The options of a command line one by one, and what is read from them: how often, with what and
in which order each option is given, and not how different options follow each other. -/

set_option autoImplicit false

namespace CiWorkflow.Cli

def SameOrder (gs gs' : List Given) : Prop :=
  ∀ name : String, (gs.filter fun g => g.option.name == name) =
    gs'.filter fun g => g.option.name == name

namespace Arguments
variable {a b : Arguments}

theorem values_eq_filter (a : Arguments) (o : Opt) : a.values o =
    (a.given.filter fun g => g.option.name == o.name).filterMap fun g => match g.setting with
      | .value v => some v
      | _ => none := by
  rw [values, List.filterMap_filter]
  refine List.filterMap_congr fun g _ => ?_
  cases g.setting <;> simp

theorem values_congr (h : SameOrder a.given b.given) (o : Opt) : a.values o = b.values o := by
  rw [values_eq_filter, values_eq_filter, h]

theorem value?_congr (h : SameOrder a.given b.given) (o : Opt) : a.value? o = b.value? o := by
  rw [value?, value?, values_congr h]

theorem switch?_congr (h : SameOrder a.given b.given) (o : Opt) : a.switch? o = b.switch? o := by
  have filtered (a : Arguments) : a.switch? o =
      ((a.given.filter fun g => g.option.name == o.name).map (·.setting != .off)).getLast? := by
    rw [switch?, ← List.filterMap_eq_map, List.filterMap_filter]
    rfl
  rw [filtered, filtered, h]

theorem has_congr (h : SameOrder a.given b.given) (o : Opt) : a.has o = b.has o := by
  have filtered (a : Arguments) : a.has o =
      (a.given.filter fun g => g.option.name == o.name).any fun _ => true := by
    rw [List.any_filter, has]
    simp
  rw [filtered, filtered, h]

theorem obstacle?_congr (h : SameOrder a.given b.given) (isDirectory : String → Bool) (o : Opt) :
    a.obstacle? isDirectory o = b.obstacle? isDirectory o := by
  rw [obstacle?, obstacle?, value?_congr h, values_congr h]

theorem mem_of_sameOrder {gs gs' : List Given} (h : SameOrder gs gs') {g : Given} (hg : g ∈ gs) :
    g ∈ gs' := by
  have among : g ∈ gs.filter fun g' => g'.option.name == g.option.name :=
    List.mem_filter.2 ⟨hg, beq_self_eq_true _⟩
  rw [h] at among
  exact (List.mem_filter.1 among).1

theorem check_congr {c : Command} {isDirectory : String → Bool} (h : SameOrder a.given b.given)
    (others : a.others = b.others) (ok : c.check isDirectory a = .ok ()) :
    c.check isDirectory b = .ok () := by
  have same : a.obstacle? isDirectory = b.obstacle? isDirectory :=
    funext (obstacle?_congr h isDirectory)
  have none : (b.given.findSome? fun g => b.obstacle? isDirectory g.option) = none := by
    rw [List.findSome?_eq_none_iff]
    intro g hg
    rw [Command.check] at ok
    split at ok
    · cases ok
    · rename_i fine
      rw [← same]
      exact List.findSome?_eq_none_iff.1 fine g (mem_of_sameOrder (fun name => (h name).symm) hg)
  rw [Command.check] at ok ⊢
  rw [none, ← others]
  split at ok
  · cases ok
  · exact ok

end Arguments

structure Piece where
  words : List String
  given : Given

/-- How the words of an option can be: one word, or a name and a value. -/
inductive Piece.Written (options : List Opt) : Piece → Prop where
  | alone {argument : String} {g : Given} (option : looksLikeOption argument = true)
    (more : argument ≠ "--") (read : readOption options argument = .ok ⟨[g], none⟩) :
    Written options ⟨[argument], g⟩
  | spaced {argument value name : String} {o : Opt} (option : looksLikeOption argument = true)
    (more : argument ≠ "--") (read : readOption options argument = .ok ⟨[], some (o, name)⟩) :
    Written options ⟨[argument, value], ⟨o, .value value⟩⟩

def wordsOf (pieces : List Piece) : List String := pieces.flatMap Piece.words

/-- Arguments are options one by one, perhaps with the mark that ends them. -/
structure Spells (options : List Opt) (arguments : List String) (pieces : List Piece) : Prop where
  written : ∀ piece ∈ pieces, piece.Written options
  ending : ∃ ends, (ends = [] ∨ ends = ["--"]) ∧ arguments = wordsOf pieces ++ ends

section
variable {options : List Opt}

theorem Piece.Written.read {piece : Piece} (h : piece.Written options) (rest : List String) :
    Arguments.read true options (piece.words ++ rest) =
      (Arguments.read true options rest).map (Arguments.give [piece.given]) := by
  cases h with
  | alone option more read =>
    have other : (_ == "--") = false := beq_false_of_ne more
    simp only [List.cons_append, List.nil_append, Arguments.read, other, option, read,
      Bool.false_eq_true, if_false, if_true]
  | spaced option more read =>
    have other : (_ == "--") = false := beq_false_of_ne more
    simp only [List.cons_append, List.nil_append, Arguments.read, other, option, read,
      Bool.false_eq_true, if_false, if_true]

theorem Spells.cons {arguments : List String} {piece : Piece} {pieces : List Piece}
    (h : piece.Written options) (more : Spells options arguments pieces) :
    Spells options (piece.words ++ arguments) (piece :: pieces) where
  written := List.forall_mem_cons.2 ⟨h, more.written⟩
  ending := by
    obtain ⟨written, ends, mark, rfl⟩ := more
    exact ⟨ends, mark, (List.append_assoc _ _ _).symm⟩

theorem Spells.read {arguments : List String} {pieces : List Piece}
    (h : Spells options arguments pieces) :
    Arguments.read true options arguments = .ok ⟨pieces.map Piece.given, []⟩ := by
  obtain ⟨written, ends, mark, rfl⟩ := h
  induction pieces with
  | nil => rcases mark with rfl | rfl <;> simp [wordsOf, Arguments.read]
  | cons piece pieces ih =>
    have more := ih fun q hq => written q (List.mem_cons_of_mem _ hq)
    have first := (written piece List.mem_cons_self).read (wordsOf pieces ++ ends)
    rw [wordsOf, List.flatMap_cons, List.append_assoc, ← wordsOf, first, more]
    rfl

theorem mem_of_findLong? {name : String} {o : Opt} {setting : Setting}
    (h : findLong? options name = some (o, setting)) : o ∈ options := by
  obtain ⟨o', among, found⟩ := List.exists_of_findSome?_eq_some h
  split at found
  · obtain ⟨rfl, -⟩ := Prod.mk.inj (Option.some.inj found)
    exact among
  · split at found
    · obtain ⟨rfl, -⟩ := Prod.mk.inj (Option.some.inj found)
      exact among
    · cases found

structure Reading.Among (options : List Opt) (r : Reading) : Prop where
  given : ∀ g ∈ r.given, g.option ∈ options
  waiting : ∀ o name, r.waiting = some (o, name) → o ∈ options

theorem among_readLong {argument : String} {r : Reading}
    (h : readLong options argument = .ok r) : r.Among options := by
  rw [readLong] at h
  split at h
  · cases h
  · rename_i o setting found
    have among := mem_of_findLong? found
    split at h
    · obtain rfl := Except.ok.inj h
      exact ⟨by simpa using among, by simp⟩
    · obtain rfl := Except.ok.inj h
      exact ⟨by simp, by simp [among]⟩
    · cases h
    · obtain rfl := Except.ok.inj h
      exact ⟨by simpa using among, by simp⟩

theorem among_readShort {cs : List Char} {r : Reading} (h : readShort options cs = .ok r) :
    r.Among options := by
  induction cs generalizing r with
  | nil =>
    obtain rfl := Except.ok.inj h
    exact ⟨by simp, by simp⟩
  | cons c rest ih =>
    rw [readShort] at h
    split at h
    · cases h
    · rename_i o found
      have among := List.mem_of_find?_eq_some found
      split at h
      · split at h
        · obtain rfl := Except.ok.inj h
          exact ⟨by simp, by simp [among]⟩
        · obtain rfl := Except.ok.inj h
          exact ⟨by simpa using among, by simp⟩
      · cases more : readShort options rest with
        | error e => rw [more] at h; cases h
        | ok r' =>
          rw [more] at h
          obtain rfl := Except.ok.inj h
          exact ⟨List.forall_mem_cons.2 ⟨among, (ih more).given⟩, (ih more).waiting⟩

theorem among_readOption {argument : String} {r : Reading}
    (h : readOption options argument = .ok r) : r.Among options := by
  rw [readOption] at h
  split at h
  · exact among_readLong h
  · exact among_readShort h
  · obtain rfl := Except.ok.inj h
    exact ⟨by simp, by simp⟩

theorem Piece.Written.among {piece : Piece} (h : piece.Written options) :
    piece.given.option ∈ options := by
  cases h with
  | alone _ _ read => exact (among_readOption read).given _ List.mem_cons_self
  | spaced _ _ read => exact (among_readOption read).waiting _ _ rfl

/-- Of options in a row each but the last is a flag of one letter. -/
theorem readOption_cases {flag : String}
    (letters : ∀ o ∈ options, o.short.isSome = true → o.takesValue = true ∨ o.name = flag)
    {argument : String} {r : Reading} (option : looksLikeOption argument = true)
    (read : readOption options argument = .ok r) (others : ∀ g ∈ r.given, g.option.name ≠ flag) :
    (∃ g, r = ⟨[g], none⟩) ∨ ∃ o name, r = ⟨[], some (o, name)⟩ := by
  rw [readOption] at read
  split at read
  · rw [readLong] at read
    split at read
    · cases read
    · split at read
      · exact .inl ⟨_, (Except.ok.inj read).symm⟩
      · exact .inr ⟨_, _, (Except.ok.inj read).symm⟩
      · cases read
      · exact .inl ⟨_, (Except.ok.inj read).symm⟩
  · rename_i c rest _ chars
    cases rest with
    | nil => simp [looksLikeOption, chars] at option
    | cons d rest =>
      rw [readShort] at read
      split at read
      · cases read
      · rename_i o found
        split at read
        · split at read
          · exact .inr ⟨_, _, (Except.ok.inj read).symm⟩
          · exact .inl ⟨_, (Except.ok.inj read).symm⟩
        · rename_i valueless
          -- A letter with others behind it is the flag, which was not read.
          have short : o.short.isSome = true := by
            have named := List.find?_some found
            exact Option.isSome_of_eq_some (by simpa using named)
          have name := (letters o (List.mem_of_find?_eq_some found) short).resolve_left valueless
          cases more : readShort options rest with
          | error e => rw [more] at read; cases read
          | ok r' =>
            rw [more] at read
            obtain rfl := Except.ok.inj read
            exact absurd name (others _ List.mem_cons_self)
  · rename_i chars
    simp [looksLikeOption, chars] at option

theorem exists_of_map_give {gs given : List Given} {x : Except UsageError Arguments}
    (h : x.map (Arguments.give gs) = .ok ⟨given, []⟩) :
    ∃ more, x = .ok ⟨more, []⟩ ∧ given = gs ++ more := by
  cases x with
  | error e => cases h
  | ok a =>
    obtain ⟨more, others⟩ := a
    obtain ⟨rfl, rfl⟩ := Arguments.mk.inj (Except.ok.inj h)
    exact ⟨more, rfl, rfl⟩

/-- Where nothing but options is read, each of them can be told by its words. -/
theorem exists_spells {flag : String}
    (letters : ∀ o ∈ options, o.short.isSome = true → o.takesValue = true ∨ o.name = flag)
    {arguments : List String} {given : List Given}
    (read : Arguments.read true options arguments = .ok ⟨given, []⟩)
    (others : ∀ g ∈ given, g.option.name ≠ flag) :
    ∃ pieces, Spells options arguments pieces ∧ pieces.map Piece.given = given := by
  fun_induction Arguments.read true options arguments generalizing given with
  | case1 =>
    obtain ⟨rfl, -⟩ := Arguments.mk.inj (Except.ok.inj read)
    exact ⟨[], ⟨fun _ h => absurd h List.not_mem_nil, [], .inl rfl, rfl⟩, rfl⟩
  | case2 argument rest mark =>
    obtain ⟨rfl, rfl⟩ := Arguments.mk.inj (Except.ok.inj read)
    obtain rfl := beq_iff_eq.1 mark
    exact ⟨[], ⟨fun _ h => absurd h List.not_mem_nil, ["--"], .inr rfl, rfl⟩, rfl⟩
  | case4 argument rest more option gs single ih =>
    obtain ⟨later, next, rfl⟩ := exists_of_map_give read
    obtain ⟨pieces, spells, rfl⟩ := ih next fun g hg => others g (List.mem_append_right _ hg)
    have first := readOption_cases letters option single fun g hg =>
      others g (List.mem_append_left _ hg)
    rcases first with ⟨g, same⟩ | ⟨o, name, same⟩
    · obtain ⟨rfl, -⟩ := Reading.mk.inj same
      have written : Piece.Written options ⟨[argument], g⟩ :=
        .alone option (by simpa using more) single
      exact ⟨_, .cons written spells, rfl⟩
    · cases same
  | case6 argument more option gs o name single value rest ih =>
    obtain ⟨later, next, rfl⟩ := exists_of_map_give read
    obtain ⟨pieces, spells, rfl⟩ := ih next fun g hg => others g (List.mem_append_right _ hg)
    have first := readOption_cases letters option single fun g hg =>
      others g (List.mem_append_left _ (List.mem_append_left _ hg))
    rcases first with ⟨g, same⟩ | ⟨o', name', same⟩
    · cases same
    · obtain ⟨rfl, -⟩ := Reading.mk.inj same
      have written : Piece.Written options ⟨[argument, value], ⟨o, .value value⟩⟩ :=
        .spaced option (by simpa using more) single
      exact ⟨_, .cons written spells, rfl⟩
  | case7 argument rest more option throughout ih =>
    cases later : Arguments.read true options rest with
    | error e => rw [later] at read; cases read
    | ok a => rw [later] at read; cases read
  | case3 | case5 | case8 => cases read

end

end CiWorkflow.Cli
