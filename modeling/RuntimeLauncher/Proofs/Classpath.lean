import RuntimeLauncher.Classpath
import RuntimeLauncher.Proofs.Log

/-!
# The class path, scan by scan

The class path is built by adding the archives of one directory after another, and the log tells of
each. Without the log it is the sentinel followed by what the scans find, in the order of the
directories.

## Main Definitions

* `Classpath.found` — what the scan of a directory finds

## Main Statements

* `scan_yields`, `addFrom_yields`, `addAll_yields` — one scan, one addition, a row of them
* `build_yields` — the class path is the sentinel with the finds of all scans
-/

namespace RuntimeLauncher.Classpath

/-- The entries that the scan of a directory finds. There are none in one that cannot be listed. -/
def found (files : Files) (base : String) (style : Path.Style) (extension dir : String) :
    List String :=
  match files.list (style.resolve base dir) with
  | .ok listing => archives style dir extension listing
  | .error _ => []

theorem scan_yields (files : Files) (base : String) (style : Path.Style)
    (extension dir : String) :
    ∃ events, (scan files base style extension dir).Yields
      (found files base style extension dir) events := by
  unfold scan found
  cases files.list (style.resolve base dir) with
  | ok listing => exact ⟨_, .pure _⟩
  | error failure => exact ⟨_, (Logged.yields_emit _).bind (.pure _)⟩

/-- **Adding a directory appends what its scan finds, and says how much that is.** -/
theorem addFrom_yields (classpath : Classpath) (files : Files) (base extension dir : String) :
    ∃ events, (classpath.addFrom files base extension dir).Yields
      ((found files base classpath.style extension dir).length,
        { classpath with
          entries := classpath.entries ++ found files base classpath.style extension dir })
      events := by
  obtain ⟨events, hscan⟩ := scan_yields files base classpath.style extension dir
  refine hscan.exists_bind ?_
  -- The log tells only of a scan that found something.
  cases (found files base classpath.style extension dir).isEmpty with
  | true => exact ⟨_, .pure _⟩
  | false => exact ⟨_, (Logged.yields_emit _).bind (.pure _)⟩

/-- Adding a row of directories appends what their scans find, in their order. -/
theorem addAll_yields (files : Files) (base extension : String) (classpath : Classpath)
    (dirs : List String) :
    ∃ events, (addAll files base extension classpath dirs).Yields
      { classpath with
        entries := classpath.entries ++
          dirs.flatMap (found files base classpath.style extension) }
      events := by
  induction dirs generalizing classpath with
  | nil => exact ⟨[], by simpa [addAll] using Logged.Yields.pure classpath⟩
  | cons dir rest ih =>
    obtain ⟨events, hdir⟩ := addFrom_yields classpath files base extension dir
    obtain ⟨later, hrest⟩ := ih
      { classpath with
        entries := classpath.entries ++ found files base classpath.style extension dir }
    refine ⟨events ++ later, ?_⟩
    rw [addAll]
    have h := hdir.bind (f := fun added => addAll files base extension added.2 rest) hrest
    simpa [List.append_assoc] using h

/-- **The class path is the sentinel with the finds of all scans.** -/
theorem build_yields (files : Files) (base : String) (style : Path.Style) (extension : String)
    (dirs : List String) :
    ∃ events, (build files base style extension dirs).Yields
      ⟨style, sentinel :: dirs.flatMap (found files base style extension)⟩ events :=
  addAll_yields files base extension (start style) dirs

end RuntimeLauncher.Classpath
