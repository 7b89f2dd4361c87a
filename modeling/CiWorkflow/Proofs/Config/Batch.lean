import CiWorkflow.Proofs.Config.Chosen

/-! Several fields of a build changed at once, and one after the other. Each field is checked by
itself, and the arguments are the only one with ids to draw, so it comes to the same. -/

set_option autoImplicit false

namespace CiWorkflow

namespace Rejection
variable {α β κ : Type} {key : α → κ} {g : α → Rejection} {xs : List α} {x : α}

theorem all_eq_nil (h : ∀ y ∈ xs, g y = .issues []) : all (xs.map g) = .issues [] := by
  induction xs with
  | nil => rfl
  | cons y rest ih =>
    obtain ⟨here, later⟩ := List.forall_mem_cons.1 h
    rw [List.map_cons, all, here, nil_and, ih later]

/-- Of rejections with different keys, the only one that is not empty. -/
theorem all_eq_of_key (distinct : (xs.map key).Nodup) (hx : x ∈ xs)
    (others : ∀ y ∈ xs, key y ≠ key x → g y = .issues []) : all (xs.map g) = g x := by
  obtain ⟨before, later, rfl⟩ := List.append_of_mem hx
  have differ : key x ∉ (before ++ later).map key := by
    rw [List.map_append, List.map_cons, List.nodup_middle] at distinct
    simpa using (List.nodup_cons.1 distinct).1
  have empty (y) (hy : y ∈ before ++ later) : g y = .issues [] := by
    refine others y ?_ fun same => differ (same ▸ List.mem_map_of_mem hy)
    simp only [List.mem_append, List.mem_cons] at hy ⊢
    exact hy.imp_right .inr
  have front := all_eq_nil fun y hy => empty y (List.mem_append_left _ hy)
  have back := all_eq_nil fun y hy => empty y (List.mem_append_right _ hy)
  rw [List.map_append, List.map_cons, all_append, all, front, back, nil_and, and_nil]

theorem all_filterMap (f : α → Option β) (g : β → Rejection) (xs : List α) :
    all ((xs.filterMap f).map g) = all (xs.map fun x => (f x).elim (.issues []) g) := by
  induction xs with
  | nil => rfl
  | cons x rest ih => cases h : f x <;> simp [h, all, ih]

end Rejection

namespace Container

/-- The check of each field, without what it gives. -/
def checks : List (Field × (Value → Check Unit)) := [
  (imageNameField, fun v => (checkText v).forget),
  (registryField, fun v => (checkText v).forget),
  (tagsField, fun v => (checkWarnedText "tags" v).forget),
  (dockerfileField, fun v => (checkText v).forget),
  (platformsField, fun v => (checkPlatforms v).forget),
  (outputField, fun v => (checkOutput v).forget),
  (provenanceField, fun v => (checkFlag v).forget),
  (rewriteField, fun v => (checkFlag v).forget),
  (buildArgsField, fun v => (checkList BuildArg.ofValue v).forget)]

def parts (c : Container) (changes : Entries) : Check Container :=
  (Check.ok mk).also (imageNameField.part changes checkText c.imageName)
    |>.also (registryField.part changes checkText c.registry)
    |>.also (tagsField.part changes (checkWarnedText "tags") c.tags)
    |>.also (dockerfileField.part changes checkText c.dockerfilePath)
    |>.also (platformsField.part changes checkPlatforms c.platforms)
    |>.also (outputField.part changes checkOutput c.output)
    |>.also (provenanceField.part changes checkFlag c.provenance)
    |>.also (rewriteField.part changes checkFlag c.rewriteTimestamp)
    |>.also (buildArgsField.part changes (checkList BuildArg.ofValue) c.buildArgs)

/-- What each field becomes by changes, where `n` ids were drawn before. -/
structure Updated (c : Container) (changes : Entries) (n : Nat) (c' : Container) : Prop where
  imageName : (imageNameField.part changes checkText c.imageName n).result = .ok c'.imageName
  registry : (registryField.part changes checkText c.registry n).result = .ok c'.registry
  tags : (tagsField.part changes (checkWarnedText "tags") c.tags n).result = .ok c'.tags
  dockerfilePath :
    (dockerfileField.part changes checkText c.dockerfilePath n).result = .ok c'.dockerfilePath
  platforms : (platformsField.part changes checkPlatforms c.platforms n).result = .ok c'.platforms
  output : (outputField.part changes checkOutput c.output n).result = .ok c'.output
  provenance : (provenanceField.part changes checkFlag c.provenance n).result = .ok c'.provenance
  rewriteTimestamp :
    (rewriteField.part changes checkFlag c.rewriteTimestamp n).result = .ok c'.rewriteTimestamp
  buildArgs : (buildArgsField.part changes (checkList BuildArg.ofValue) c.buildArgs n).result =
    .ok c'.buildArgs

section
variable {c c' : Container} {changes : Entries}

theorem update_eq_parts (h : c.platforms.Nodup) (named : Field.Named fields changes) :
    c.update changes = c.parts changes := by
  have apart : ((c.given .name).map (·.1)).Pairwise Field.Apart := fields_apart
  have keys : checkKeys fields (changed (Field.entriesOf .name (c.given .name)) changes) = .ok () :=
    checkKeys_changed apart named
  have part {α : Type} {f : Field} {w : Value} {check : Value → Check α} {old : α}
      (hm : (f, w) ∈ c.given .name) (own : check w = .ok old) (default : Check α) :
      f.check (changed (Field.entriesOf .name (c.given .name)) changes) default check =
        f.part changes check old := by
    have hf : f ∈ (c.given .name).map (·.1) := List.mem_map_of_mem hm
    exact Field.check_changed apart hm (named.byName fields_apart hf) own default
  have text (s : String) : checkText (.text s) = .ok s := rfl
  have tags (s : String) : checkWarnedText "tags" (.text s) = .ok s := rfl
  have flag (b : Bool) : checkFlag (.bool b) = .ok b := rfl
  have platforms := checkPlatforms_texts h
  have args : checkList BuildArg.ofValue
      (.list (c.buildArgs.map fun a => .map (a.entries .name))) = .ok c.buildArgs :=
    checkList_map (BuildArg.ofEntries_entries .name) c.buildArgs
  change ofEntries (changed (Field.entriesOf .name (c.given .name)) changes) = _
  rw [ofEntries, keys,
    part (f := imageNameField) (by simp [given]) (text c.imageName),
    part (f := registryField) (by simp [given]) (text c.registry),
    part (f := tagsField) (by simp [given]) (tags c.tags),
    part (f := dockerfileField) (by simp [given]) (text c.dockerfilePath),
    part (f := platformsField) (by simp [given]) platforms,
    part (f := outputField) (by simp [given]) (checkOutput_text c.output),
    part (f := provenanceField) (by simp [given]) (flag c.provenance),
    part (f := rewriteField) (by simp [given]) (flag c.rewriteTimestamp),
    part (f := buildArgsField) (by simp [given]) args]
  exact Check.also_ok_unit (c.parts changes)

/-- Only the arguments draw ids, so each field is checked as if it was the only one. -/
theorem rejection_update (h : c.platforms.Nodup) (named : Field.Named fields changes) (n : Nat) :
    (c.update changes n).rejection =
      .all (checks.map fun p => (p.1.part changes p.2 () n).rejection) := by
  rw [update_eq_parts h named]
  simp only [parts, Check.rejection_also, Check.rejection_ok, Check.drawn_also, Check.drawn_ok,
    Field.drawn_part, still_checkText, still_checkWarnedText, still_checkPlatforms,
    still_checkOutput, still_checkFlag, implies_true, ite_self]
  simp only [checks, List.map_cons, List.map_nil, Rejection.all, Rejection.nil_and,
    Rejection.and_nil, Rejection.and_assoc, Field.rejection_part, Check.rejection_forget]

theorem isOk_update (h : c.platforms.Nodup) (named : Field.Named fields changes) (n : Nat) :
    (c.update changes n).isOk = checks.all fun p => (p.1.part changes p.2 () n).isOk := by
  rw [update_eq_parts h named]
  simp only [parts, Check.isOk_also, Check.isOk_ok, Check.drawn_also, Check.drawn_ok,
    Field.drawn_part, still_checkText, still_checkWarnedText, still_checkPlatforms,
    still_checkOutput, still_checkFlag, implies_true, ite_self]
  simp only [checks, List.all_cons, List.all_nil, Bool.and_true, Bool.true_and, Bool.and_assoc,
    Field.isOk_part, Check.isOk_forget]

theorem drawn_update (h : c.platforms.Nodup) (named : Field.Named fields changes) {n : Nat}
    (ok : (c.update changes n).result = .ok c') :
    (c.update changes n).drawn =
      (buildArgsField.part changes (checkList BuildArg.ofValue) c.buildArgs n).drawn := by
  have ok : (c.update changes n).isOk = true := Checked.isOk_iff.2 ⟨c', ok⟩
  rw [update_eq_parts h named] at ok ⊢
  rw [parts, Check.drawn_also_of_isOk n ok]
  simp only [Check.drawn_also, Check.drawn_ok, Field.drawn_part, still_checkText,
    still_checkWarnedText, still_checkPlatforms, still_checkOutput, still_checkFlag, implies_true,
    ite_self]

theorem update_eq_ok_iff (h : c.platforms.Nodup) (named : Field.Named fields changes) {n : Nat} :
    (c.update changes n).result = .ok c' ↔ c.Updated changes n c' := by
  rw [update_eq_parts h named]
  simp only [parts, Check.also_eq_ok_iff, Check.drawn_also, Check.drawn_ok, Field.drawn_part,
    still_checkText, still_checkWarnedText, still_checkPlatforms, still_checkOutput,
    still_checkFlag, implies_true, ite_self]
  constructor
  · rintro ⟨_, args, h₈, buildArgs, rfl⟩
    obtain ⟨_, rewrite, h₇, rewriteTimestamp, rfl⟩ := h₈
    obtain ⟨_, signed, h₆, provenance, rfl⟩ := h₇
    obtain ⟨_, result, h₅, output, rfl⟩ := h₆
    obtain ⟨_, targets, h₄, platforms, rfl⟩ := h₅
    obtain ⟨_, path, h₃, dockerfilePath, rfl⟩ := h₄
    obtain ⟨_, labels, h₂, tags, rfl⟩ := h₃
    obtain ⟨_, host, h₁, registry, rfl⟩ := h₂
    obtain ⟨_, image, h₀, imageName, rfl⟩ := h₁
    obtain rfl := Except.ok.inj h₀
    exact ⟨imageName, registry, tags, dockerfilePath, platforms, output, provenance,
      rewriteTimestamp, buildArgs⟩
  · intro u
    exact ⟨_, _, ⟨_, _, ⟨_, _, ⟨_, _, ⟨_, _, ⟨_, _, ⟨_, _, ⟨_, _, ⟨_, _, rfl, u.imageName, rfl⟩,
      u.registry, rfl⟩, u.tags, rfl⟩, u.dockerfilePath, rfl⟩, u.platforms, rfl⟩, u.output, rfl⟩,
      u.provenance, rfl⟩, u.rewriteTimestamp, rfl⟩, u.buildArgs, rfl⟩

theorem Updated.mem_given {n : Nat} (u : c.Updated changes n c') {p : Field × Value}
    (hp : p ∈ c.given .name) (kept : p.1.change? changes = none) : p ∈ c'.given .name := by
  have same {α : Type} {f : Field} {check : Value → Check α} {old new : α} (hf : p.1 = f)
      (part : (f.part changes check old n).result = .ok new) : old = new := by
    rw [Field.part_of_none (hf ▸ kept)] at part
    exact Except.ok.inj part
  simp only [given, List.mem_cons, List.not_mem_nil, or_false] at hp ⊢
  rcases hp with rfl | rfl | rfl | rfl | rfl | rfl | rfl | rfl | rfl
  · simp [same rfl u.imageName]
  · simp [same rfl u.registry]
  · simp [same rfl u.tags]
  · simp [same rfl u.dockerfilePath]
  · simp [same rfl u.platforms]
  · simp [same rfl u.output]
  · simp [same rfl u.provenance]
  · simp [same rfl u.rewriteTimestamp]
  · simp [same rfl u.buildArgs]

theorem Updated.buildArgs_eq {n : Nat} (u : c.Updated changes n c')
    (kept : buildArgsField.change? changes = none) : c'.buildArgs = c.buildArgs := by
  have part := u.buildArgs
  rw [Field.part_of_none kept] at part
  exact (Except.ok.inj part).symm

end

section
variable {c c' : Container} {changes order rest : List (Field × Value)} {e : Field × Value}
  {n : Nat}

theorem update_perm (h : c.platforms.Nodup) (chosen : Field.Chosen fields changes)
    (perm : order.Perm changes) :
    c.update (Field.entriesOf .name order) = c.update (Field.entriesOf .name changes) := by
  have other := chosen.perm perm
  have same {α : Type} {f : Field} (hf : f ∈ fields) (check : Value → Check α) (old : α) :
      f.part (Field.entriesOf .name order) check old =
        f.part (Field.entriesOf .name changes) check old :=
    Field.part_congr (other.change?_congr chosen fields_apart hf fun v => perm.mem_iff)
  rw [update_eq_parts h other.named, update_eq_parts h chosen.named, parts, parts,
    same (f := imageNameField) (by decide), same (f := registryField) (by decide),
    same (f := tagsField) (by decide), same (f := dockerfileField) (by decide),
    same (f := platformsField) (by decide), same (f := outputField) (by decide),
    same (f := provenanceField) (by decide), same (f := rewriteField) (by decide),
    same (f := buildArgsField) (by decide)]

theorem known_of_checks {q : Field × (Value → Check Unit)} (hq : q ∈ checks) : q.1 ∈ fields :=
  List.mem_map_of_mem (f := Prod.fst) hq

theorem rejection_update_inOrder (h : c.platforms.Nodup) (chosen : Field.Chosen fields changes)
    (n : Nat) :
    (c.update (Field.entriesOf .name changes) n).rejection =
      .all ((Field.inOrder fields changes).map fun p =>
        (c.update (Field.entriesOf .name [p]) n).rejection) := by
  have distinct : (checks.map (·.1)).Nodup := by decide
  have single (p) (hp : p ∈ changes) (q) (hq : q ∈ checks) (same : p.1 = q.1) :
      (c.update (Field.entriesOf .name [p]) n).rejection =
        (q.1.part (Field.entriesOf .name changes) q.2 () n).rejection := by
    have others (r) (hr : r ∈ checks) (differ : r.1 ≠ q.1) :
        (r.1.part (Field.entriesOf .name [p]) r.2 () n).rejection = .issues [] := by
      rw [chosen.part_alone fields_apart (known_of_checks hr) hp, if_neg (same ▸ differ.symm),
        Check.rejection_ok]
    rw [rejection_update h (chosen.alone hp).named, Rejection.all_eq_of_key distinct hq others,
      chosen.part_alone fields_apart (known_of_checks hq) hp, if_pos same]
  have keys : fields = checks.map (·.1) := rfl
  rw [rejection_update h chosen.named, Field.inOrder, Rejection.all_filterMap, keys, List.map_map]
  refine congrArg Rejection.all (List.map_congr_left fun q hq => ?_)
  dsimp only [Function.comp_apply]
  cases hp : changes.find? fun p => p.1 = q.1 with
  | none =>
    have other : q.1 ∉ changes.map (·.1) := by
      intro named
      obtain ⟨p, hp', same⟩ := List.mem_map.1 named
      exact List.find?_eq_none.1 hp p hp' (by simpa using same)
    have none := chosen.change?_eq_none fields_apart (known_of_checks hq) other
    rw [Field.part_of_none none, Check.rejection_ok]
    rfl
  | some p =>
    have same : p.1 = q.1 := by simpa using List.find?_some hp
    exact (single p (List.mem_of_find?_eq_some hp) q hq same).symm

theorem isOk_update_iff (h : c.platforms.Nodup) (chosen : Field.Chosen fields changes) (n : Nat) :
    (c.update (Field.entriesOf .name changes) n).isOk = true ↔
      ∀ p ∈ changes, (c.update (Field.entriesOf .name [p]) n).isOk = true := by
  have single (p) (hp : p ∈ changes) :
      (c.update (Field.entriesOf .name [p]) n).isOk = checks.all fun q =>
        (q.1.part (Field.entriesOf .name [p]) q.2 () n).isOk :=
    isOk_update h (chosen.alone hp).named n
  rw [isOk_update h chosen.named, List.all_eq_true]
  constructor
  · intro ok p hp
    rw [single p hp, List.all_eq_true]
    intro q hq
    rw [chosen.part_alone fields_apart (known_of_checks hq) hp]
    split
    · exact ok q hq
    · exact Check.isOk_ok n ()
  · intro ok q hq
    cases hv : q.1.change? (Field.entriesOf .name changes) with
    | none => rw [Field.part_of_none hv, Check.isOk_ok]
    | some v =>
      have hp := (chosen.change?_eq_some_iff fields_apart (known_of_checks hq)).1 hv
      have one := ok (q.1, v) hp
      rw [single (q.1, v) hp, List.all_eq_true] at one
      have here := one q hq
      rw [chosen.part_alone fields_apart (known_of_checks hq) hp, if_pos rfl] at here
      exact here

/-- Changes at once are the first one, and then the others of what it led to. -/
theorem update_cons (h : c.platforms.Nodup) (chosen : Field.Chosen fields (e :: rest))
    (ok : (c.update (Field.entriesOf .name (e :: rest)) n).result = .ok c') :
    let first := c.update (Field.entriesOf .name [e]) n
    ∃ mid, first.result = .ok mid ∧
      (mid.update (Field.entriesOf .name rest) first.drawn).result = .ok c' ∧
      (mid.update (Field.entriesOf .name rest) first.drawn).drawn =
        (c.update (Field.entriesOf .name (e :: rest)) n).drawn := by
  have alone : Field.Chosen fields [e] := chosen.alone List.mem_cons_self
  have u := (update_eq_ok_iff h chosen.named).1 ok
  have twice {α : Type} {f : Field} {check : Value → Check α} {old new : α} (hf : f ∈ fields)
      (still : ∀ v, (check v).Still)
      (part : (f.part (Field.entriesOf .name (e :: rest)) check old n).result = .ok new) :
      ∃ mid, (f.part (Field.entriesOf .name [e]) check old n).result = .ok mid ∧
        ∀ m, (f.part (Field.entriesOf .name rest) check mid m).result = .ok new := by
    obtain ⟨mid, first, later, -⟩ := Field.part_cons chosen fields_apart hf part
    exact ⟨mid, first, fun m => later ▸ (f.still_part still _ mid).result m _⟩
  obtain ⟨image, image₁, image₂⟩ := twice (by decide) still_checkText u.imageName
  obtain ⟨host, host₁, host₂⟩ := twice (by decide) still_checkText u.registry
  obtain ⟨labels, labels₁, labels₂⟩ := twice (by decide) (still_checkWarnedText _) u.tags
  obtain ⟨path, path₁, path₂⟩ := twice (by decide) still_checkText u.dockerfilePath
  obtain ⟨targets, targets₁, targets₂⟩ := twice (by decide) still_checkPlatforms u.platforms
  obtain ⟨output, output₁, output₂⟩ := twice (by decide) still_checkOutput u.output
  obtain ⟨signed, signed₁, signed₂⟩ := twice (by decide) still_checkFlag u.provenance
  obtain ⟨rewrite, rewrite₁, rewrite₂⟩ := twice (by decide) still_checkFlag u.rewriteTimestamp
  obtain ⟨args, args₁, args₂, drawn⟩ :=
    Field.part_cons chosen fields_apart (by decide) u.buildArgs
  let mid : Container := ⟨image, host, labels, path, targets, output, signed, rewrite, args⟩
  have first : (c.update (Field.entriesOf .name [e]) n).result = .ok mid :=
    (update_eq_ok_iff h alone.named).2
      ⟨image₁, host₁, labels₁, path₁, targets₁, output₁, signed₁, rewrite₁, args₁⟩
  have valid : mid.platforms.Nodup := nodup_of_ofEntries first
  have count := drawn_update h alone.named first
  have others : (mid.update (Field.entriesOf .name rest)
      (c.update (Field.entriesOf .name [e]) n).drawn).result = .ok c' := by
    refine (update_eq_ok_iff valid chosen.tail.named).2
      ⟨image₂ _, host₂ _, labels₂ _, path₂ _, targets₂ _, output₂ _, signed₂ _, rewrite₂ _, ?_⟩
    exact count ▸ args₂
  refine ⟨mid, first, others, ?_⟩
  rw [drawn_update valid chosen.tail.named others, drawn_update h chosen.named ok, ← drawn, ← count]

end

end Container

end CiWorkflow
