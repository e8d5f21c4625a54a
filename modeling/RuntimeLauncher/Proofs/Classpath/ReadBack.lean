import RuntimeLauncher.Proofs.Classpath.Entry

/-!
# When the class path can be read back

The entries are handed over as one text, and the runtime cuts it at the list separator. Nothing
keeps that character out of an entry: directories are spelled as the settings have them, and files
have any names. An entry with the separator inside is read as several.

## Main Definitions

* `Classpath.cut` — the entries that are read from a text

## Main Statements

* `cut_text_eq_iff` — a class path is read back if no entry holds the separator
* `length_lt_cut_text_iff` — more entries are read from all others
* `not_mem_entries_iff` — a character that stands in no entry, by directories and archives
* `text_reads_back_iff` — which of the class paths that are built are read back, and what that asks
  of directories and files on this system

## Design Notes

The sentinel is an entry like the others. In a style with a dot for its list separator, no class
path is read back.
-/

namespace RuntimeLauncher.Classpath

/-- The entries that are read from a text. -/
def cut (separator : Char) (text : String) : List String :=
  (Text.splitBy (· == separator) text.toList).map String.ofList

theorem cut_eq_iff {separator : Char} {text : String} {entries : List String} :
    cut separator text = entries ↔
      Text.splitBy (· == separator) text.toList = entries.map String.toList := by
  constructor
  · rintro rfl
    simp [cut, Function.comp_def]
  · intro h
    simp [cut, h, Function.comp_def]

/-- **A class path is read back exactly if no entry holds the separator.** -/
theorem cut_text_eq_iff (classpath : Classpath) (hne : classpath.entries ≠ []) :
    cut classpath.style.listSeparator classpath.text = classpath.entries ↔
      ∀ entry ∈ classpath.entries, classpath.style.listSeparator ∉ entry.toList := by
  have hchars : classpath.entries.map String.toList ≠ [] := by simpa using hne
  rw [cut_eq_iff, text, String.toList_ofList, Text.splitBy_joinWith_eq_iff (by simp) hchars,
    List.forall_mem_map]
  refine forall₂_congr fun entry _ => ?_
  simpa using List.forall_mem_ne'

/-- **More entries are read from all others.** -/
theorem length_lt_cut_text_iff (classpath : Classpath) (hne : classpath.entries ≠ []) :
    classpath.entries.length < (cut classpath.style.listSeparator classpath.text).length ↔
      ∃ entry ∈ classpath.entries, classpath.style.listSeparator ∈ entry.toList := by
  have hchars : classpath.entries.map String.toList ≠ [] := by simpa using hne
  rw [cut, List.length_map, text, String.toList_ofList, ← List.length_map String.toList,
    Text.length_lt_splitBy_joinWith_iff (by simp) hchars]
  simp

/-- An entry holds what its directory and its name hold, and the separator between them. -/
theorem mem_entryText_iff {c : Char} {style : Path.Style} {dir name : String} :
    c ∈ (entryText style dir name).toList ↔
      c ∈ dir.toList ∨ c = style.dirSeparator ∨ c ∈ name.toList := by
  simp [entryText]

/-- A character that stands in no entry, by the directories and the archives found in them. -/
theorem not_mem_entries_iff (c : Char) (files : Files) (base extension : String)
    (style : Path.Style) (dirs : List String) :
    (∀ entry ∈ sentinel :: dirs.flatMap (found files base style extension), c ∉ entry.toList) ↔
      c ≠ '.' ∧ ∀ dir ∈ dirs, ∀ name, Finds files base style extension dir name →
        c ∉ dir.toList ∧ c ≠ style.dirSeparator ∧ c ∉ name.toList := by
  have hsentinel : c ∉ sentinel.toList ↔ c ≠ '.' := by simp [sentinel]
  rw [List.forall_mem_cons, hsentinel]
  refine and_congr_right fun _ => ?_
  constructor
  · intro h dir hdir name hfinds
    have hentry := h _ (List.mem_flatMap.2 ⟨dir, hdir, mem_found_iff.2 ⟨name, hfinds, rfl⟩⟩)
    simpa [mem_entryText_iff, not_or] using hentry
  · intro h entry hentry
    obtain ⟨dir, hdir, hfound⟩ := List.mem_flatMap.1 hentry
    obtain ⟨name, hfinds, rfl⟩ := mem_found_iff.1 hfound
    simpa [mem_entryText_iff, not_or] using h dir hdir name hfinds

/-- **Which class paths are read back.**  A class path that was built is read back as it is if none
of its entries holds the list separator, and with more entries than it has otherwise. On this system
it is read back exactly if there is no colon in a directory where archives are found, nor in the
name of an archive. -/
theorem text_reads_back_iff (files : Files) (base extension : String) (dirs : List String) :
    (∀ style : Path.Style, ∃ classpath events,
      (build files base style extension dirs).Yields classpath events ∧
        (cut style.listSeparator classpath.text = classpath.entries ↔
          ∀ entry ∈ classpath.entries, style.listSeparator ∉ entry.toList) ∧
        (classpath.entries.length < (cut style.listSeparator classpath.text).length ↔
          ∃ entry ∈ classpath.entries, style.listSeparator ∈ entry.toList)) ∧
    ∃ classpath events, (build files base .native extension dirs).Yields classpath events ∧
      (cut Path.Style.native.listSeparator classpath.text = classpath.entries ↔
        ∀ dir ∈ dirs, ∀ name, Finds files base .native extension dir name →
          ':' ∉ dir.toList ∧ ':' ∉ name.toList) := by
  constructor
  · intro style
    obtain ⟨events, hbuild⟩ := build_yields files base style extension dirs
    have hne : sentinel :: dirs.flatMap (found files base style extension) ≠ [] :=
      List.cons_ne_nil _ _
    exact ⟨_, events, hbuild, cut_text_eq_iff ⟨style, _⟩ hne, length_lt_cut_text_iff ⟨style, _⟩ hne⟩
  · obtain ⟨events, hbuild⟩ := build_yields files base .native extension dirs
    have hread := cut_text_eq_iff
      ⟨.native, sentinel :: dirs.flatMap (found files base .native extension)⟩
      (List.cons_ne_nil _ _)
    rw [not_mem_entries_iff] at hread
    refine ⟨_, events, hbuild, hread.trans ?_⟩
    simp [Path.Style.native, Path.Style.unix]

end RuntimeLauncher.Classpath
