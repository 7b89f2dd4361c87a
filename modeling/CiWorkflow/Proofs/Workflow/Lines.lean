import CiWorkflow.Workflow.Step

/-! Lines read back: texts without a line break make a text that gives them back, and steps make
lines that give the lines of each step back. -/

set_option autoImplicit false

namespace CiWorkflow.Workflow

section Split
variable {α : Type} {d : α}

theorem append_cons_inj {a b x y : List α} (ha : d ∉ a) (hb : d ∉ b)
    (h : a ++ d :: x = b ++ d :: y) : a = b ∧ x = y := by
  induction a generalizing b with
  | nil =>
    cases b with
    | nil => exact ⟨rfl, (List.cons.inj h).2⟩
    | cons c b =>
      have hc : d = c := (List.cons.inj h).1
      exact absurd (hc ▸ List.mem_cons_self) hb
  | cons c a ih =>
    cases b with
    | nil =>
      have hc : c = d := (List.cons.inj h).1
      exact absurd (hc ▸ List.mem_cons_self) ha
    | cons c' b =>
      obtain ⟨rfl, tail⟩ := List.cons.inj h
      obtain ⟨rfl, rest⟩ := ih (fun m => ha (List.mem_cons_of_mem _ m))
        (fun m => hb (List.mem_cons_of_mem _ m)) tail
      exact ⟨rfl, rest⟩

/-- Pieces that are each ended by a mark of which they are free. -/
theorem ended_inj {xs ys : List (List α)} (hx : ∀ l ∈ xs, d ∉ l) (hy : ∀ l ∈ ys, d ∉ l)
    (h : xs.flatMap (· ++ [d]) = ys.flatMap (· ++ [d])) : xs = ys := by
  induction xs generalizing ys with
  | nil =>
    cases ys with
    | nil => rfl
    | cons y ys => simp at h
  | cons x xs ih =>
    cases ys with
    | nil => simp at h
    | cons y ys =>
      simp only [List.flatMap_cons, List.append_assoc, List.singleton_append] at h
      obtain ⟨rfl, rest⟩ := append_cons_inj (hx x (by simp)) (hy y (by simp)) h
      rw [ih (fun l hl => hx l (by simp [hl])) (fun l hl => hy l (by simp [hl])) rest]

/-- Pieces that are each begun by a mark of which they are free. -/
theorem begun_inj {xs ys : List (List α)} (hx : ∀ l ∈ xs, d ∉ l) (hy : ∀ l ∈ ys, d ∉ l)
    (h : xs.flatMap (d :: ·) = ys.flatMap (d :: ·)) : xs = ys := by
  have turn (xs : List (List α)) : xs.flatMap (d :: ·) ++ [d] = d :: xs.flatMap (· ++ [d]) := by
    induction xs with
    | nil => rfl
    | cons x xs ih => simp [List.flatMap_cons, ih]
  have ended := congrArg (· ++ [d]) h
  simp only [turn, List.cons.injEq, true_and] at ended
  exact ended_inj hx hy ended

end Split

def OneLine (s : String) : Prop := '\n' ∉ s.toList

theorem OneLine.lit {cs : List Char} (h : cs.all (· != '\n') = true) :
    OneLine (String.ofList cs) := by
  rw [OneLine, String.toList_ofList]
  intro mem
  simpa using List.all_eq_true.1 h _ mem

theorem oneLine_append {s t : String} : OneLine (s ++ t) ↔ OneLine s ∧ OneLine t := by
  simp [OneLine]

theorem OneLine.append {s t : String} (hs : OneLine s) (ht : OneLine t) : OneLine (s ++ t) :=
  oneLine_append.2 ⟨hs, ht⟩

theorem oneLine_intercalate {s : String} {ts : List String} (hs : OneLine s)
    (ht : ∀ t ∈ ts, OneLine t) : OneLine (s.intercalate ts) := by
  induction ts with
  | nil => simp [OneLine]
  | cons t ts ih =>
    have first := ht t (by simp)
    have others := ih fun u hu => ht u (by simp [hu])
    by_cases h : ts = []
    · simpa [h] using first
    · rw [String.intercalate_cons_of_ne_nil h]
      exact (first.append hs).append others

theorem toList_unlines_cons (l : String) (ls : List String) :
    (unlines (l :: ls)).toList = l.toList ++ '\n' :: (unlines ls).toList := by
  simp [unlines, String.join_cons]

theorem exists_split_unlines {l : String} {ls : List String} (h : l ∈ ls) :
    ∃ pre post, (unlines ls).toList = pre ++ (l.toList ++ '\n' :: post) := by
  obtain ⟨before, after, rfl⟩ := List.append_of_mem h
  refine ⟨(unlines before).toList, (unlines after).toList, ?_⟩
  rw [unlines_append, String.toList_append, toList_unlines_cons]

def below (ls : List String) : List Char := ls.flatMap fun l => '\n' :: l.toList

theorem below_cons (l : String) (ls : List String) :
    below (l :: ls) = '\n' :: (l.toList ++ below ls) := rfl

theorem below_append (a b : List String) : below (a ++ b) = below a ++ below b := by
  simp [below]

theorem toList_unlines (l : String) (ls : List String) :
    (unlines (l :: ls)).toList = l.toList ++ below ls ++ ['\n'] := by
  induction ls generalizing l with
  | nil => simp [below, unlines, String.join]
  | cons m ls ih =>
    rw [toList_unlines_cons, ih, below_cons]
    simp

theorem unlines_inj {a b : List String} (ha : ∀ l ∈ a, OneLine l) (hb : ∀ l ∈ b, OneLine l)
    (h : unlines a = unlines b) : a = b := by
  have chars (ls : List String) :
      (unlines ls).toList = (ls.map String.toList).flatMap (· ++ ['\n']) := by
    simp [unlines, String.toList_join, List.flatMap_map]
  have pieces {ls : List String} (hl : ∀ l ∈ ls, OneLine l) :
      ∀ cs ∈ ls.map String.toList, '\n' ∉ cs := by
    intro cs hcs
    obtain ⟨l, hm, rfl⟩ := List.mem_map.1 hcs
    exact hl l hm
  have same := congrArg String.toList h
  rw [chars, chars] at same
  exact (List.map_inj_right fun _ _ => String.toList_inj.1).1
    (ended_inj (pieces ha) (pieces hb) same)

def Input.OneLined : Input → Prop
  | .pair key value => OneLine key ∧ OneLine value
  | .block key lines => OneLine key ∧ ∀ l ∈ lines, OneLine l

def Action.OneLined : Action → Prop
  | .uses text | .run text => OneLine text

structure Step.OneLined (s : Step) : Prop where
  name : OneLine s.name
  id : ∀ t ∈ s.id, OneLine t
  condition : ∀ t ∈ s.condition, OneLine t
  action : s.action.OneLined
  inputs : ∀ i ∈ s.inputs, i.OneLined

theorem oneLine_pairLine {key value : String} (hk : OneLine key) (hv : OneLine value) :
    OneLine (Step.pairLine (key, value)) := by
  exact ((OneLine.append (.lit rfl) hk).append (.lit rfl)).append hv

theorem Input.OneLined.lines {i : Input} (h : i.OneLined) :
    ∀ l ∈ Step.inputLines i, OneLine l := by
  cases i with
  | pair key value =>
    intro l hl
    rw [List.mem_singleton.1 hl]
    exact oneLine_pairLine h.1 h.2
  | block key ls =>
    intro l hl
    rw [Step.inputLines] at hl
    split at hl
    · simp at hl
    · rcases List.mem_cons.1 hl with rfl | hl
      · exact oneLine_pairLine h.1 (.lit rfl)
      · obtain ⟨t, ht, rfl⟩ := List.mem_map.1 hl
        exact OneLine.append (.lit rfl) (h.2 t ht)

theorem Step.OneLined.lines {s : Step} (h : s.OneLined) : ∀ l ∈ s.lines, OneLine l := by
  have action : OneLine (actionLine s.action) := by
    have text := h.action
    cases ha : s.action <;> rw [ha] at text <;>
      exact OneLine.append (.lit rfl) text
  intro l hl
  simp only [Step.lines, List.mem_append, List.mem_singleton, Option.mem_toList,
    Option.map_eq_some_iff] at hl
  rcases hl with (((rfl | ⟨t, ht, rfl⟩) | ⟨t, ht, rfl⟩) | rfl) | hl
  · exact OneLine.append (.lit rfl) h.name
  · exact OneLine.append (.lit rfl) (h.id t ht)
  · exact OneLine.append (.lit rfl) (h.condition t ht)
  · exact action
  · split at hl
    · simp at hl
    · rcases List.mem_cons.1 hl with rfl | hl
      · exact .lit rfl
      · obtain ⟨i, hi, hl⟩ := List.mem_flatMap.1 hl
        exact (h.inputs i hi).lines l hl

theorem oneLine_expr {e : String} (h : OneLine e) : OneLine (expr e) :=
  (OneLine.append (.lit rfl) h).append (.lit rfl)

theorem oneLine_envRef {name : String} (h : OneLine name) : OneLine (envRef name) :=
  oneLine_expr (OneLine.append (.lit rfl) h)

/-- Of a step that uses an action there is the name, the action and the inputs. -/
theorem oneLine_uses {name action : String} {inputs : List Input} (hn : OneLine name)
    (ha : OneLine action) (hi : ∀ i ∈ inputs, i.OneLined) :
    (Step.uses name action inputs).OneLined :=
  ⟨hn, by simp [Step.uses], by simp [Step.uses], ha, hi⟩

theorem oneLine_run {name command : String} (hn : OneLine name) (hc : OneLine command) :
    (Step.run name command).OneLined :=
  ⟨hn, by simp [Step.run], by simp [Step.run], hc, by simp [Step.run]⟩

theorem Step.empty_not_mem_lines (s : Step) : "" ∉ s.lines := by
  have action : actionLine s.action ≠ "" := by cases s.action <;> simp [actionLine]
  have input (i : Input) : "" ∉ inputLines i := by
    cases i with
    | pair key value => simp [inputLines, pairLine]
    | block key ls =>
      rw [inputLines]
      split <;> simp [pairLine]
  simp only [lines, List.mem_append, not_or]
  refine ⟨⟨⟨⟨by simp, by simp⟩, by simp⟩, by simpa using action.symm⟩, ?_⟩
  split
  · simp
  · simpa using fun i _ => input i

theorem Step.inputLines_block_inj {key : String} {xs ys : List String}
    (h : inputLines (.block key xs) = inputLines (.block key ys)) : xs = ys := by
  cases xs with
  | nil =>
    cases ys with
    | nil => rfl
    | cons y ys => simp [inputLines] at h
  | cons x xs =>
    cases ys with
    | nil => simp [inputLines] at h
    | cons y ys =>
      have lines := (List.cons.inj h).2
      exact (List.map_inj_right fun _ _ => (String.append_right_inj _).1).1 lines

theorem Step.blocks_inj {xs ys : List Step} (h : blocks xs = blocks ys) :
    xs.map lines = ys.map lines := by
  have pieces (ss : List Step) : ∀ ls ∈ ss.map lines, "" ∉ ls := by
    intro ls hls
    obtain ⟨s, -, rfl⟩ := List.mem_map.1 hls
    exact s.empty_not_mem_lines
  refine begun_inj (pieces xs) (pieces ys) ?_
  rw [List.flatMap_map, List.flatMap_map]
  exact h

end CiWorkflow.Workflow
