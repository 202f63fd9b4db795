import Mathlib.Tactic.Common
import AnnotationQuery.File.Load
import AnnotationQuery.Proofs.Resolution

/-!
# Saved files

A file that was put where none or another one stood changes the way to no other place, so a path
leads where it led before. A text that was saved under a name is read back under that name, also
when the name is looked up in the working directory only once the file is there.

* `FileTree.locate_put`: what a new file changes for paths.
* `FileTree.read_save`: a saved text is read back.
* `FileTree.exists_save`: whether a text can be saved does not depend on the text.
-/

namespace AnnotationQuery.FileTree

variable {t : FileTree} {place : List String} {text : String}

/-! ## Places -/

theorem lookup_filter_ne {entries : List (List String × Option String)} {p : List String}
    (h : p ≠ place) : (entries.filter (·.1 != place)).lookup p = entries.lookup p := by
  induction entries with
  | nil => rfl
  | cons e entries ih =>
    by_cases he : e.1 = place
    · have hne : (p == e.1) = false := beq_eq_false_iff_ne.mpr (he ▸ h)
      rw [List.filter_cons_of_neg (by simp [he]), ih, List.lookup_cons, hne]
    · rw [List.filter_cons_of_pos (by simp [he]), List.lookup_cons, List.lookup_cons, ih]

theorem entry_put_self (h : t.entry place ≠ .directory) :
    (t.put place (some text)).entry place = .file text := by
  have hroot : place ≠ [] := by
    rintro rfl
    exact h rfl
  simp [entry, put, hroot]

theorem entry_put_ne {p : List String} (h : p ≠ place) (content : Option String) :
    (t.put place content).entry p = t.entry p := by
  have hlookup : (t.put place content).entries.lookup p = t.entries.lookup p := by
    have hne : (p == place) = false := beq_eq_false_iff_ne.mpr h
    rw [put, List.lookup_cons, hne, lookup_filter_ne h]
  unfold entry
  rw [hlookup]

theorem needDirectory_eq_ok {p : List String} :
    t.needDirectory p = .ok () ↔ t.entry p = .directory := by
  unfold needDirectory
  split <;> simp_all

/-! ## Paths -/

theorem follow_cons {p q : List String} {name : String} {names : List String} :
    t.follow p (name :: names) = .ok q ↔
      t.entry p = .directory ∧ ¬ name.utf8ByteSize > 255 ∧
        t.follow (if name = "." ∨ name = "" then p else if name = ".." then p.dropLast
          else p ++ [name]) names = .ok q := by
  rw [follow, ← needDirectory_eq_ok]
  cases t.needDirectory p with
  | error fault => simp [bind, Except.bind]
  | ok u =>
    by_cases hlong : name.utf8ByteSize > 255
    · simp [bind, Except.bind, hlong, throw, throwThe, MonadExceptOf.throw]
    · simp [bind, Except.bind, hlong]

/-- A file that is put where no directory stands changes no way. -/
theorem follow_put (h : t.entry place ≠ .directory) {p q : List String} {names : List String} :
    (t.put place (some text)).follow p names = .ok q ↔ t.follow p names = .ok q := by
  induction names generalizing p with
  | nil => rfl
  | cons name names ih =>
    have hdirectory : (t.put place (some text)).entry p = .directory ↔ t.entry p = .directory := by
      by_cases hp : p = place
      · rw [hp, entry_put_self h]
        simp [h]
      · rw [entry_put_ne hp]
    rw [follow_cons, follow_cons, hdirectory, ih]

/-- A path fails before any place is looked at, or it is a way from a place. -/
theorem locate_cases (t : FileTree) (path : String) :
    (∃ fault, ∀ u : FileTree, u.current = t.current → u.locate path = .error fault) ∨
      ∃ start names asks, ∀ u : FileTree, u.current = t.current →
        u.locate path = (u.follow start names).map (·, asks) := by
  by_cases hnul : path.toList.contains '\x00' = true
  · refine .inl ⟨.nulInName, fun u _ => ?_⟩
    rw [locate, if_pos hnul]
    rfl
  by_cases hlong : path.utf8ByteSize > 4095
  · refine .inl ⟨.nameTooLong, fun u _ => ?_⟩
    rw [locate, if_neg hnul, if_pos hlong]
    rfl
  simp only [locate, if_neg hnul, if_neg hlong]
  split
  · exact .inl ⟨.notFound, fun u _ => rfl⟩
  · exact .inl ⟨.notFound, fun u _ => rfl⟩
  · rename_i last before _ _
    refine .inr ⟨if path.startsWith "/" then [] else t.current,
      if last = "" then before.reverse else before.reverse ++ [last], last = "", fun u hu => ?_⟩
    rw [hu]
    rfl

/-- A file that is put where no directory stands leaves every path leading where it led. -/
theorem locate_put (h : t.entry place ≠ .directory) {path : String} {found : List String × Bool} :
    (t.put place (some text)).locate path = .ok found ↔ t.locate path = .ok found := by
  rcases t.locate_cases path with ⟨fault, hfault⟩ | ⟨start, names, asks, hway⟩
  · rw [hfault t rfl, hfault (t.put place (some text)) rfl]
  · rw [hway t rfl, hway (t.put place (some text)) rfl]
    have hmap : ∀ u : FileTree, (u.follow start names).map (·, asks) = .ok found ↔
        ∃ q, u.follow start names = .ok q ∧ (q, asks) = found := by
      intro u
      cases u.follow start names <;> simp [Except.map]
    simp only [hmap, follow_put h]

theorem hasFile_iff {path : String} :
    t.hasFile path = true ↔ ∃ p text, t.locate path = .ok (p, false) ∧ t.entry p = .file text := by
  unfold hasFile
  split
  · rename_i p hlocate
    cases hentry : t.entry p <;> simp_all
  · rename_i hlocate
    simp only [Bool.false_eq_true, false_iff, not_exists, not_and]
    exact fun p _ h => absurd h (hlocate p)

/-- A new file is found where its place is asked for. -/
theorem hasFile_put (h : t.entry place ≠ .directory) {path : String} :
    (t.put place (some text)).hasFile path = true ↔
      t.hasFile path = true ∨ t.locate path = .ok (place, false) := by
  have hself : (t.put place (some text)).entry place = .file text := entry_put_self h
  rw [hasFile_iff, hasFile_iff]
  constructor
  · rintro ⟨p, found, hlocate, hfile⟩
    have hlocate := (locate_put h).mp hlocate
    by_cases hp : p = place
    · exact .inr (hp ▸ hlocate)
    · rw [entry_put_ne hp] at hfile
      exact .inl ⟨p, found, hlocate, hfile⟩
  · rintro (⟨p, found, hlocate, hfile⟩ | hlocate)
    · by_cases hp : p = place
      · exact ⟨p, text, (locate_put h).mpr hlocate, hp ▸ hself⟩
      · exact ⟨p, found, (locate_put h).mpr hlocate, by rwa [entry_put_ne hp]⟩
    · exact ⟨place, text, (locate_put h).mpr hlocate, hself⟩

theorem read_eq_ok {path : String} {p : List String} (h : t.locate path = .ok (p, false))
    (hentry : t.entry p = .file text) : t.read path = .ok (some text) := by
  simp [read, h, hentry, bind, Except.bind, pure, Except.pure]

/-- A file that holds a text is decoded from the front of that text. -/
theorem load_of_read {α : Type} {decode : Decoder α} {workdir : Option String}
    {name context : String} (h : t.read (t.resolveName workdir name) = .ok (some text)) :
    t.load decode workdir name context =
      (Decoder.frontOfText decode text).mapError (.json · name context) := by
  simp only [load, h]
  rfl

/-! ## Saving -/

/-- A text is written where its path leads, unless a directory is there or asked for. -/
theorem write_eq_ok {u : FileTree} {path : String} :
    t.write path text = .ok u ↔
      ∃ place, t.locate path = .ok (place, false) ∧ t.entry place ≠ .directory ∧
        t.put place (some text) = u := by
  unfold write
  cases t.locate path with
  | error fault => simp [bind, Except.bind]
  | ok found =>
    obtain ⟨place, asks⟩ := found
    cases asks with
    | true => simp [bind, Except.bind, throw, throwThe, MonadExceptOf.throw]
    | false =>
      by_cases hentry : t.entry place = .directory
      · simp [bind, Except.bind, throw, throwThe, MonadExceptOf.throw, hentry]
      · simp [bind, Except.bind, pure, Except.pure, hentry]

theorem save_eq_ok {u : FileTree} {workdir : Option String} {name : String} :
    t.save workdir name text = .ok u ↔
      t.write (t.resolveName workdir name) text = .ok u :=
  mapError_eq_ok

/-- Whether a text can be saved does not depend on the text. -/
theorem exists_save {u : FileTree} {workdir : Option String} {name : String}
    (h : t.save workdir name text = .ok u) (other : String) :
    ∃ v, t.save workdir name other = .ok v := by
  obtain ⟨place, hlocate, hentry, -⟩ := write_eq_ok.mp (save_eq_ok.mp h)
  exact ⟨_, save_eq_ok.mpr (write_eq_ok.mpr ⟨place, hlocate, hentry, rfl⟩)⟩

/-- A saved text is read back under its name. -/
theorem read_save {u : FileTree} {workdir : Option String} {name : String}
    (h : t.save workdir name text = .ok u) :
    u.read (u.resolveName workdir name) = .ok (some text) := by
  obtain ⟨place, hlocate, hentry, rfl⟩ := write_eq_ok.mp (save_eq_ok.mp h)
  have hself : (t.put place (some text)).entry place = .file text := entry_put_self hentry
  -- The name leads to the new file by the path that it had before, or by one in the working
  -- directory that leads to a file only now.
  have hsame : ∀ path, t.locate path = .ok (place, false) →
      (t.put place (some text)).read path = .ok (some text) :=
    fun path hpath => read_eq_ok ((locate_put hentry).mpr hpath) hself
  by_cases habsolute : (stripScheme name).startsWith "/" = true
  · simp only [resolveName, if_pos habsolute] at hlocate ⊢
    exact hsame _ hlocate
  simp only [resolveName, if_neg habsolute] at hlocate ⊢
  cases workdir with
  | none => exact hsame _ hlocate
  | some directory =>
    simp only at hlocate ⊢
    generalize joinPath directory (stripScheme name) = candidate at hlocate ⊢
    by_cases hnew : (t.put place (some text)).hasFile candidate = true
    · rw [if_pos hnew]
      rcases (hasFile_put hentry).mp hnew with hold | hcandidate
      · rw [if_pos hold] at hlocate
        exact hsame _ hlocate
      · exact hsame _ hcandidate
    · have hold : ¬ t.hasFile candidate = true :=
        fun hold => hnew ((hasFile_put hentry).mpr (.inl hold))
      rw [if_neg hold] at hlocate
      rw [if_neg hnew]
      exact hsame _ hlocate

end AnnotationQuery.FileTree
