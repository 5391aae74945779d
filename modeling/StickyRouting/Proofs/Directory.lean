import StickyRouting.Directory
import StickyRouting.KeyMap.Lemmas

set_option autoImplicit false

namespace StickyRouting.Directory

variable {directory after : Directory} {text part : String} {path : Path} {place folder site : Place}
  {entry : DirectoryEntry} {file : Store.File}

section Placing

theorem entry?_eq_get? {named : Place} (inside : directory.entry? named ≠ some .folder) :
    directory.entry? named = directory.entries.get? named.shown := by
  unfold entry? at *
  split
  next top => exact absurd (if_pos top) inside
  next => rfl

theorem entry?_put_self (inside : directory.entry? site ≠ some .folder) :
    entry? (directory.put site entry) site = some entry := by
  unfold entry? at *
  split
  next top => exact absurd (if_pos top) inside
  next => exact KeyMap.get?_insert_self ..

theorem entry?_put_folder (fresh : directory.entry? site = none)
    (stands : directory.entry? place = some .folder) :
    entry? (directory.put site entry) place = some .folder := by
  unfold entry?
  split
  next => rfl
  next below =>
    have here : directory.entries.get? site.shown = none :=
      (entry?_eq_get? (by simp [fresh])).symm.trans fresh
    have there : directory.entries.get? place.shown = some .folder := by
      unfold entry? at stands
      rwa [if_neg below] at stands
    -- The new entry hides no folder: there was nothing at its place.
    have apart : place.shown ≠ site.shown := by
      intro same
      rw [same, here] at there
      contradiction
    rw [put, KeyMap.get?_insert, if_neg apart, there]

theorem bind_eq_ok_iff {ε α β : Type} {x : Except ε α} {f : α → Except ε β} {b : β} :
    x >>= f = .ok b ↔ ∃ a, x = .ok a ∧ f a = .ok b := by
  cases x <;> simp [bind, Except.bind]

theorem enter_eq_ok_iff : directory.enter place part = .ok folder ↔
    next place part = .ok folder ∧ directory.entry? folder = some .folder := by
  rw [enter, bind_eq_ok_iff]
  constructor
  · rintro ⟨there, named, stands⟩
    split at stands
    next here =>
      obtain rfl := Except.ok.inj stands
      exact ⟨named, here⟩
    all_goals contradiction
  · rintro ⟨named, stands⟩
    refine ⟨folder, named, ?_⟩
    rw [stands]
    rfl

theorem foldlM_enter_put (fresh : directory.entry? site = none) {parts : List String}
    (entered : parts.foldlM directory.enter place = .ok folder) :
    parts.foldlM (directory.put site entry).enter place = .ok folder := by
  induction parts generalizing place with
  | nil => exact entered
  | cons part parts ih =>
    rw [List.foldlM_cons] at entered ⊢
    obtain ⟨there, first, entered⟩ := bind_eq_ok_iff.1 entered
    obtain ⟨named, stands⟩ := enter_eq_ok_iff.1 first
    have again : (directory.put site entry).enter place part = .ok there :=
      enter_eq_ok_iff.2 ⟨named, entry?_put_folder fresh stands⟩
    exact bind_eq_ok_iff.2 ⟨there, again, ih entered⟩

theorem folderOf_put (fresh : directory.entry? site = none) (entered : directory.folderOf path = .ok folder) :
    (directory.put site entry).folderOf path = .ok folder :=
  foldlM_enter_put fresh entered

end Placing

section Writing

inductive EndsAt (directory : Directory) (text : String) (site : Place) : Prop where
  | intro {path : Path} {folder : Place} {part : String} (named : Path.ofText text = .ok path)
    (entered : directory.folderOf path = .ok folder) (last : path.parts.getLast? = some part)
    (unslashed : path.slashed = false) (reached : next folder part = .ok site)

theorem siteOf_eq_ok_iff : directory.siteOf text = .ok site ↔
    directory.EndsAt text site ∧ directory.entry? site ≠ some .folder := by
  simp only [siteOf, bind_eq_ok_iff]
  constructor
  · rintro ⟨path, named, folder, entered, made⟩
    split at made
    next => contradiction
    next part last =>
      split at made
      next => contradiction
      next unslashed =>
        obtain ⟨there, reached, made⟩ := bind_eq_ok_iff.1 made
        split at made
        next => contradiction
        next inside =>
          obtain rfl := Except.ok.inj made
          exact ⟨⟨named, entered, last, Bool.eq_false_iff.2 unslashed, reached⟩, inside⟩
  · rintro ⟨⟨named, entered, last, unslashed, reached⟩, inside⟩
    refine ⟨_, named, _, entered, ?_⟩
    simp only [last, unslashed, reached, bind, Except.bind, Bool.false_eq_true, if_false, if_neg inside]
    rfl

theorem EndsAt.find_eq (ends : directory.EndsAt text site) :
    directory.find text = match directory.entry? site with
      | none => .error .missing
      | some entry => .ok entry := by
  obtain ⟨named, entered, last, unslashed, reached⟩ := ends
  simp only [find, named, entered, last, unslashed, reached, bind, Except.bind]
  rcases directory.entry? site with _ | _ | _ | _ <;> rfl

theorem EndsAt.put (ends : directory.EndsAt text site) (fresh : directory.entry? site = none) :
    (directory.put site entry).EndsAt text site := by
  obtain ⟨named, entered, last, unslashed, reached⟩ := ends
  exact ⟨named, folderOf_put fresh entered, last, unslashed, reached⟩

theorem find_write (absent : directory.pathExists text = false)
    (written : directory.write text file = .ok after) : after.find text = .ok (.file file) := by
  obtain ⟨site, made, written⟩ := bind_eq_ok_iff.1 written
  obtain ⟨ends, inside⟩ := siteOf_eq_ok_iff.1 made
  have fresh : directory.entry? site = none := by
    rw [pathExists, ends.find_eq] at absent
    cases here : directory.entry? site with
    | none => rfl
    | some entry => simp [here] at absent
  have same : directory.put site (.file file) = after := by
    simpa [fresh, pure, Except.pure] using written
  rw [← same, (ends.put fresh).find_eq, entry?_put_self inside]

theorem readText_write {content : String} (absent : directory.pathExists text = false)
    (written : directory.write text (.bytes (Text.Utf8.encode content.toList)) = .ok after) :
    after.readText text = .ok content := by
  simp only [readText, find_write absent written, Text.Utf8.text?_encode, bind, Except.bind]
  rfl

end Writing

end StickyRouting.Directory
