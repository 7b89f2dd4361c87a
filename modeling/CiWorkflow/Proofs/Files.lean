import CiWorkflow.Files

set_option autoImplicit false

namespace CiWorkflow.Files

def bytesAt? (files : Files) (place : Location) : Option ByteArray :=
  match files.contentAt place with
  | .bytes bytes => some bytes
  | .absent | .directory => none

def Same (files files' : Files) : Prop := ∀ place, files'.bytesAt? place = files.bytesAt? place

section
variable {files files' : Files} {place q : Location} {content : FileContent} {p : Path}

theorem Same.refl (files : Files) : files.Same files := fun _ => rfl

theorem Same.trans {files'' : Files} (h : files.Same files') (h' : files'.Same files'') :
    files.Same files'' := fun place => (h' place).trans (h place)

theorem lookup_put (h : q ≠ place) :
    (files.put place content).entries.lookup q = files.entries.lookup q := by
  have kept (entries : List (Location × FileContent)) :
      (entries.filter fun e => e.1 != place).lookup q = entries.lookup q := by
    induction entries with
    | nil => rfl
    | cons e rest ih =>
      obtain ⟨k, c⟩ := e
      by_cases hk : k = place
      · subst hk
        have other : (q == k) = false := beq_false_of_ne h
        simp [List.lookup_cons, other, ih]
      · simp [hk, List.lookup_cons, ih]
  have other : (q == place) = false := beq_false_of_ne h
  rw [put, List.lookup_cons, other]
  exact kept files.entries

theorem bytesAt?_eq_some_iff {bytes : ByteArray} : files.bytesAt? q = some bytes ↔
    isTop q = false ∧ files.entries.lookup q = some (.bytes bytes) := by
  rw [bytesAt?, contentAt]
  cases isTop q with
  | true => simp
  | false =>
    cases files.entries.lookup q with
    | none =>
      cases files.entries.any fun e => q.isPrefixOf e.1 <;> simp
    | some content => cases content <;> simp

theorem bytesAt?_put_of_ne (h : q ≠ place) :
    (files.put place content).bytesAt? q = files.bytesAt? q := by
  refine Option.ext fun bytes => ?_
  rw [bytesAt?_eq_some_iff, bytesAt?_eq_some_iff, lookup_put h]

theorem contentAt_put_of_directory (h : q ≠ place) (directory : files.contentAt q = .directory) :
    (files.put place content).contentAt q = .directory := by
  rw [contentAt] at directory ⊢
  rw [lookup_put h]
  split
  · rfl
  · rename_i low
    rw [if_neg low] at directory
    cases found : files.entries.lookup q with
    | some there =>
      rw [found] at directory
      exact directory
    | none =>
      rw [found] at directory
      -- What lies below stays below, and what is put takes the place of what was there.
      obtain ⟨e, he, below⟩ : ∃ e ∈ files.entries, q.isPrefixOf e.1 = true := by
        simpa using directory
      have still : ((files.put place content).entries.any fun e => q.isPrefixOf e.1) = true := by
        by_cases same : e.1 = place
        · exact List.any_eq_true.2 ⟨_, List.mem_cons_self, same ▸ below⟩
        · have kept : e ∈ files.entries.filter fun e => e.1 != place :=
            List.mem_filter.2 ⟨he, by simpa using same⟩
          exact List.any_eq_true.2 ⟨e, List.mem_cons_of_mem _ kept, below⟩
      simp only [still, if_true]

theorem walk_put {path : String} {start : Location} {names : List String}
    (h : files.walk path start names = .ok place) (no : files.contentAt place ≠ .directory) :
    (files.put place content).walk path start names = .ok place := by
  induction names generalizing start with
  | nil => exact h
  | cons name rest ih =>
    rw [walk] at h ⊢
    cases here : files.contentAt start with
    | directory =>
      have other : start ≠ place := fun e => no (e ▸ here)
      rw [here] at h
      rw [contentAt_put_of_directory other here]
      dsimp only at h ⊢
      split at h
      · cases h
      · rename_i short
        rw [if_neg short]
        exact ih h
    | absent => rw [here] at h; cases h
    | bytes => rw [here] at h; cases h

theorem locate_put (h : files.locate p = .ok place) (no : files.contentAt place ≠ .directory) :
    (files.put place content).locate p = .ok place := by
  rw [locate] at h ⊢
  split at h
  · cases h
  · rename_i short
    rw [if_neg short]
    exact walk_put h no

theorem same_makeDirectory (h : files.makeDirectory p = .ok files') : files.Same files' := by
  rw [makeDirectory] at h
  cases found : files.locate p with
  | error e => rw [found] at h; cases h
  | ok place =>
    rw [found] at h
    simp only [bind, Except.bind] at h
    cases there : files.contentAt place with
    | directory | bytes => rw [there] at h; cases h
    | absent =>
      rw [there] at h
      obtain rfl := Except.ok.inj h
      intro q
      by_cases hq : q = place
      · subst hq
        have before : files.bytesAt? q = none := by rw [bytesAt?, there]
        rw [before, Option.eq_none_iff_forall_ne_some]
        intro bytes after
        obtain ⟨-, found⟩ := bytesAt?_eq_some_iff.1 after
        simp [put] at found
      · exact bytesAt?_put_of_ne hq

theorem same_settle {made : Except FileError Files}
    (same : ∀ {other}, made = .ok other → files.Same other) :
    files.Same (files.settle p made).2 := by
  unfold settle
  split
  · exact same rfl
  · exact Same.refl files
  · exact Same.refl files

/-- Whether all directories could be made or not, the files are the same. -/
theorem same_makeDirectories (files : Files) (root : String) (names : List String) :
    files.Same (files.makeDirectories root names).2 := by
  induction names with
  | nil => exact Same.refl files
  | cons name rest ih =>
    rw [makeDirectories]
    split
    · split
      next made before =>
        rw [before] at ih
        exact ih.trans (same_settle same_makeDirectory)
      next => exact ih
    · exact same_settle same_makeDirectory

theorem exists_of_write {text : String} (h : files.write p text = (.ok (), files')) :
    ∃ made place, files.Same made ∧ made.locate p = .ok place ∧
      made.contentAt place ≠ .directory ∧ files' = made.put place (.bytes text.toUTF8) := by
  have same := same_makeDirectories files p.root p.parent.names.reverse
  rw [write] at h
  split at h
  next made directories =>
    rw [directories] at same
    cases found : made.locate p with
    | error e =>
      rw [writeFile, found] at h
      cases h
    | ok place =>
      cases there : made.contentAt place with
      | directory =>
        simp only [writeFile, found, there, bind, Except.bind] at h
        cases h
      | absent | bytes =>
        simp only [writeFile, found, there, bind, Except.bind] at h
        exact ⟨made, place, same, found, by simp [there], (congrArg Prod.snd h).symm⟩
  next failed ok =>
    exact absurd h (ok files')

/-- A file that cannot be written is as it was, and so are all others. -/
theorem same_of_write {text : String} {e : FileError}
    (h : files.write p text = (.error e, files')) : files.Same files' := by
  have same := same_makeDirectories files p.root p.parent.names.reverse
  rw [write] at h
  split at h
  next made directories =>
    rw [directories] at same
    cases written : made.writeFile p text with
    | ok files =>
      rw [written] at h
      cases h
    | error e =>
      rw [written] at h
      obtain rfl : made = files' := congrArg Prod.snd h
      exact same
  next =>
    rw [h] at same
    exact same

/-- A path that was written holds what was written, and no other file has changed. -/
theorem find_of_write {text : String} (h : files.write p text = (.ok (), files')) :
    files'.find p = .ok (.bytes text.toUTF8) ∧ ∃ place, files'.locate p = .ok place ∧
      ∀ q ≠ place, files'.bytesAt? q = files.bytesAt? q := by
  obtain ⟨made, place, same, found, no, rfl⟩ := exists_of_write h
  have low : isTop place = false := by
    cases top : isTop place with
    | false => rfl
    | true => exact absurd (by rw [contentAt, if_pos top]) no
  have located : (made.put place (.bytes text.toUTF8)).locate p = .ok place := locate_put found no
  refine ⟨?_, place, located, fun q other => ?_⟩
  · rw [find, located]
    exact congrArg Except.ok (contentAt_put made low _)
  · rw [bytesAt?_put_of_ne other]
    exact same q

end

end CiWorkflow.Files
