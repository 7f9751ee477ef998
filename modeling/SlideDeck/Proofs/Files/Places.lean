import SlideDeck.Files.FileTree

/-!
# Places and paths while a file system changes

A path leads through directories.  While these stay, it leads to the same place, whatever else
comes and goes.

* `lookup_insert_self`, `lookup_insert_of_ne`, `lookup_erase_self` and `lookup_erase_of_ne` — what
  is at a place after a change at one place.
* `KeepsDirectories` — no directory is lost; `KeepsDirectories.resolve` says that paths then lead
  where they led.
* `lookup_freshName` — a temporary file takes a place that is free.
-/

set_option autoImplicit false

namespace SlideDeck.FileTree

variable {fs mid after : FileTree} {place q : Location} {e : Entry}

/-! ## One place changes -/

@[simp] theorem lookup_root (fs : FileTree) : fs.lookup [] = some .directory := by
  simp [lookup]

theorem ne_root_of_lookup (h : fs.lookup place ≠ some .directory) : place ≠ [] := by
  rintro rfl
  exact h fs.lookup_root

theorem lookup_filter_ne (h : q ≠ place) (entries : List (Location × Entry)) :
    (entries.filter fun x => x.1 != place).lookup q = entries.lookup q := by
  induction entries with
  | nil => rfl
  | cons x entries ih =>
    obtain ⟨p, x⟩ := x
    by_cases hp : p = place
    · subst hp
      have hq : (q == p) = false := by simpa using h
      simp [List.lookup_cons, hq, ih]
    · simp [hp, List.lookup_cons, ih]

theorem lookup_erase_self (h : place ≠ []) : (fs.erase place).lookup place = none := by
  have hnone : (fs.entries.filter fun x => x.1 != place).lookup place = none := by
    rw [List.lookup_eq_none_iff]
    intro x hx
    have hne : x.1 ≠ place := by simpa using (List.mem_filter.1 hx).2
    simpa using hne.symm
  simpa [lookup, erase, h] using hnone

theorem lookup_erase_of_ne (h : q ≠ place) : (fs.erase place).lookup q = fs.lookup q := by
  simp [lookup, erase, lookup_filter_ne h]

theorem lookup_insert_self (h : place ≠ []) : (fs.insert place e).lookup place = some e := by
  simp [lookup, insert, h]

theorem lookup_insert_of_ne (h : q ≠ place) : (fs.insert place e).lookup q = fs.lookup q := by
  have hq : (q == place) = false := by simpa using h
  simp [lookup, insert, erase, List.lookup_cons, hq, lookup_filter_ne h]

/-! ## Directories stay -/

/-- The directories of a file system are directories of a second one, and relative paths start in
the same one. -/
structure KeepsDirectories (fs after : FileTree) : Prop where
  workingDirectory : after.workingDirectory = fs.workingDirectory
  lookup : ∀ q, fs.lookup q = some .directory → after.lookup q = some .directory

namespace KeepsDirectories

theorem trans (h₁ : fs.KeepsDirectories mid) (h₂ : mid.KeepsDirectories after) :
    fs.KeepsDirectories after where
  workingDirectory := h₂.workingDirectory.trans h₁.workingDirectory
  lookup q hq := h₂.lookup q (h₁.lookup q hq)

theorem follow (h : fs.KeepsDirectories after) {names : List Text} {place q : Location}
    (hq : fs.follow place names = .ok q) : after.follow place names = .ok q := by
  induction names generalizing place with
  | nil => exact hq
  | cons n names ih =>
    rw [FileTree.follow] at hq ⊢
    split at hq
    · cases hq
    · cases hq
    · next hplace =>
      rw [h.lookup place hplace]
      dsimp only
      split at hq
      · next hn => rw [if_pos hn, ih hq]
      · next hn =>
        rw [if_neg hn]
        split at hq
        · next hup => rw [if_pos hup, ih hq]
        · next hup =>
          rw [if_neg hup]
          split at hq
          · cases hq
          · next hsize => rw [if_neg hsize, ih hq]

/-- **A path leads where it led**, as long as the directories on its way are there. -/
theorem resolve (h : fs.KeepsDirectories after) {path : Text} {q : Location}
    (hq : fs.resolve path = .ok q) : after.resolve path = .ok q := by
  have horigin : after.origin (Path.isAbsolute path) = fs.origin (Path.isAbsolute path) := by
    simp [origin, h.workingDirectory]
  rw [FileTree.resolve] at hq ⊢
  split at hq
  · cases hq
  · next hnul =>
    rw [if_neg hnul]
    split at hq
    · cases hq
    · next hempty =>
      rw [if_neg hempty]
      split at hq
      · cases hq
      · next hsize => rw [if_neg hsize, horigin, h.follow hq]

end KeepsDirectories

/-- Where no directory is, an entry can be put or taken away. -/
theorem keepsDirectories_insert (h : fs.lookup place ≠ some .directory) (e : Entry) :
    fs.KeepsDirectories (fs.insert place e) where
  workingDirectory := rfl
  lookup q hq := by
    have hne : q ≠ place := by
      rintro rfl
      exact h hq
    rw [lookup_insert_of_ne hne, hq]

theorem keepsDirectories_erase (h : fs.lookup place ≠ some .directory) :
    fs.KeepsDirectories (fs.erase place) where
  workingDirectory := rfl
  lookup q hq := by
    have hne : q ≠ place := by
      rintro rfl
      exact h hq
    rw [lookup_erase_of_ne hne, hq]

/-! ## Places for temporary files -/

/-- The fresh name is longer than all names of a place together. -/
theorem lookup_freshName (fs : FileTree) (place : Location) :
    fs.lookup (place ++ [fs.freshName]) = none := by
  have hfree : fs.entries.lookup (place ++ [fs.freshName]) = none := by
    rw [List.lookup_eq_none_iff]
    intro x hx
    have htotal : x.1.flatten.length ≤ (fs.entries.flatMap fun e => e.1.flatten).length := by
      have hmem : x.1.flatten ∈ fs.entries.map fun e => e.1.flatten :=
        List.mem_map_of_mem hx
      exact (List.sublist_flatten_of_mem hmem).length_le
    have hfresh : (fs.entries.flatMap fun e => e.1.flatten).length < fs.freshName.length := by
      have hdot : ".tmp".toList.length = 4 := rfl
      rw [freshName, List.length_append, List.length_replicate, hdot]
      omega
    have hne : place ++ [fs.freshName] ≠ x.1 := by
      intro heq
      have hlength : fs.freshName.length ≤ x.1.flatten.length := by
        rw [← heq]
        simp
      omega
    simpa using hne
  simpa [lookup] using hfree

end SlideDeck.FileTree
