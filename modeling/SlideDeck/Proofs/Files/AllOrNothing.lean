import SlideDeck.Files.Conversion
import SlideDeck.Proofs.Files.Places

/-!
# A file is converted as a whole or not at all

A conversion reads its input, makes directories, fills a temporary file and moves it to its place.
Each of these steps can fail, by what is in the tree or because the machine refuses it.  What is
left then is the file system as it was, apart from directories above the output.

* `FileTree.MadeAlong` — nothing happened but that directories were made along some paths;
  `madeAlong_makeDirectory` is that for one step, `madeAlong_makeAncestors` for the loop.
* `FileTree.Written` — beside that, a path leads to a file with a given content.
* `FileTree.replaceFile_error` and `FileTree.replaceFile_ok` — the two ends of writing a file.
* `convertFile_all_or_nothing` — the three ends of a conversion; `convertFile_succeeds` says when
  the third one is reached for certain.
-/

set_option autoImplicit false

namespace SlideDeck

namespace FileTree

variable {refuse : Refusals} {fs mid made after : FileTree} {paths above : List Text}

theorem attempt_eq_ok {α : Type} {step : Step} {outcome : Except SystemError α} {a : α}
    (h : attempt refuse fs step outcome = .ok a) : outcome = .ok a := by
  rw [attempt] at h
  split at h
  · cases h
  · exact h

@[simp] theorem attempt_refuseNothing {α : Type} (fs : FileTree) (step : Step)
    (outcome : Except SystemError α) : attempt refuseNothing fs step outcome = outcome := rfl

/-! ## Making directories -/

/-- A directory was made at a place where nothing was, and one of the paths leads there. -/
structure MadeAt (paths : List Text) (fs after : FileTree) (q : Location) : Prop where
  free : fs.lookup q = none
  directory : after.lookup q = some .directory
  path : ∃ p ∈ paths, after.resolve p = .ok q

theorem MadeAt.mono {q : Location} (h : MadeAt paths fs after q) (hpaths : paths ⊆ above) :
    MadeAt above fs after q where
  free := h.free
  directory := h.directory
  path := h.path.imp fun _ hp => ⟨hpaths hp.1, hp.2⟩

theorem MadeAt.keep {q : Location} (h : MadeAt paths fs mid q)
    (hkeeps : mid.KeepsDirectories after) :
    MadeAt paths fs after q where
  free := h.free
  directory := hkeeps.lookup q h.directory
  path := h.path.imp fun _ hp => ⟨hp.1, hkeeps.resolve hp.2⟩

/-- Directories were made along some paths.  Nothing else happened. -/
structure MadeAlong (paths : List Text) (fs after : FileTree) : Prop where
  workingDirectory : after.workingDirectory = fs.workingDirectory
  lookup : ∀ q, after.lookup q = fs.lookup q ∨ MadeAt paths fs after q

namespace MadeAlong

theorem refl (paths : List Text) (fs : FileTree) : MadeAlong paths fs fs where
  workingDirectory := rfl
  lookup _ := Or.inl rfl

theorem mono (h : MadeAlong paths fs after) (hpaths : paths ⊆ above) :
    MadeAlong above fs after where
  workingDirectory := h.workingDirectory
  lookup q := (h.lookup q).imp_right fun hmade => hmade.mono hpaths

theorem keepsDirectories (h : MadeAlong paths fs after) : fs.KeepsDirectories after where
  workingDirectory := h.workingDirectory
  lookup q hq := by
    rcases h.lookup q with hsame | hmade
    · rw [hsame, hq]
    · exact hmade.directory

theorem trans (h₁ : MadeAlong paths fs mid) (h₂ : MadeAlong paths mid after) :
    MadeAlong paths fs after where
  workingDirectory := h₂.workingDirectory.trans h₁.workingDirectory
  lookup q := by
    rcases h₁.lookup q with hsame | hmade
    · rcases h₂.lookup q with hsame' | hmade
      · exact Or.inl (hsame'.trans hsame)
      · exact Or.inr ⟨hsame ▸ hmade.free, hmade.directory, hmade.path⟩
    · exact Or.inr (hmade.keep h₂.keepsDirectories)

end MadeAlong

theorem makeDirectory_eq_ok {path : Text} (h : fs.makeDirectory path = .ok made) :
    ∃ place, fs.resolve path = .ok place ∧ fs.lookup place = none
      ∧ made = fs.insert place .directory := by
  obtain ⟨place, hplace, h⟩ := bind_eq_ok_iff.1 h
  split at h
  · cases h
  · next hfree =>
    rw [Bool.or_eq_true, not_or, Option.not_isSome_iff_eq_none] at hfree
    exact ⟨place, hplace, hfree.2, (Except.ok.inj h).symm⟩

theorem madeAlong_makeDirectory {path : Text} (h : fs.makeDirectory path = .ok made) :
    MadeAlong [path] fs made := by
  obtain ⟨place, hplace, hfree, rfl⟩ := makeDirectory_eq_ok h
  have hne : fs.lookup place ≠ some .directory := by simp [hfree]
  refine ⟨rfl, fun q => ?_⟩
  by_cases hq : q = place
  · subst hq
    right
    exact ⟨hfree, lookup_insert_self (ne_root_of_lookup hne), path, by simp,
      (keepsDirectories_insert hne _).resolve hplace⟩
  · left
    exact lookup_insert_of_ne hq

/-- However far it comes, making ancestors makes directories and nothing else. -/
theorem madeAlong_makeAncestors (refuse : Refusals) (fs : FileTree) (paths : List Text) :
    MadeAlong paths fs (makeAncestors refuse fs paths).2 := by
  induction paths with
  | nil => exact .refl [] fs
  | cons path paths ih =>
    have hhead : [path] ⊆ path :: paths := by simp
    have htail : paths ⊆ path :: paths := by simp
    rw [makeAncestors]
    split
    · next hmade => exact (madeAlong_makeDirectory (attempt_eq_ok hmade)).mono hhead
    · split
      · next habove =>
        rw [habove] at ih
        exact ih.mono htail
      · next habove =>
        rw [habove] at ih
        split
        · next hall =>
          exact (ih.mono htail).trans ((madeAlong_makeDirectory (attempt_eq_ok hall)).mono hhead)
        · exact ih.mono htail
    · exact .refl _ fs

/-! ## Writing a file -/

/-- A path leads to a file with the content, and directories were made along some paths.  Nothing
else happened. -/
structure Written (path : Text) (content : Bytes) (paths : List Text) (fs after : FileTree) :
    Prop where
  workingDirectory : after.workingDirectory = fs.workingDirectory
  read : after.read path = .ok content
  lookup : ∃ place, after.resolve path = .ok place ∧ fs.lookup place ≠ some .directory
    ∧ ∀ q, q ≠ place → after.lookup q = fs.lookup q ∨ MadeAt paths fs after q

theorem Written.keepsDirectories {path : Text} {content : Bytes}
    (h : Written path content paths fs after) : fs.KeepsDirectories after where
  workingDirectory := h.workingDirectory
  lookup q hq := by
    obtain ⟨place, -, hplace, hrest⟩ := h.lookup
    have hne : q ≠ place := by
      rintro rfl
      exact hplace hq
    rcases hrest q hne with hsame | hmade
    · rw [hsame, hq]
    · exact hmade.directory

/-- Directories are made, and then a file is written. -/
theorem MadeAlong.written {path : Text} {content : Bytes} (h₁ : MadeAlong paths fs mid)
    (h₂ : Written path content [] mid after) : Written path content paths fs after := by
  obtain ⟨place, hresolve, hplace, hrest⟩ := h₂.lookup
  refine ⟨h₂.workingDirectory.trans h₁.workingDirectory, h₂.read, place, hresolve, ?_, ?_⟩
  · exact fun hdirectory => hplace (h₁.keepsDirectories.lookup place hdirectory)
  · intro q hq
    rcases h₁.lookup q with hsame | hmade
    · rcases hrest q hq with hsame' | hmade
      · exact Or.inl (hsame'.trans hsame)
      · obtain ⟨p, hp, -⟩ := hmade.path
        exact absurd hp List.not_mem_nil
    · exact Or.inr (hmade.keep h₂.keepsDirectories)

theorem makeTemporary_eq_ok {directory : Text} {temporary : Location}
    (h : fs.makeTemporary directory = .ok (temporary, made)) :
    fs.lookup temporary = none ∧ made = fs.insert temporary (.file []) := by
  obtain ⟨place, -, h⟩ := bind_eq_ok_iff.1 h
  split at h
  · cases h
  · cases h
  · obtain ⟨rfl, rfl⟩ := Prod.mk.inj (Except.ok.inj h)
    exact ⟨fs.lookup_freshName place, rfl⟩

theorem rename_eq_ok {source : Location} {path : Text} (h : fs.rename source path = .ok after) :
    ∃ place e, fs.resolve path = .ok place ∧ Path.endsWithSlash path = false
      ∧ fs.lookup place ≠ some .directory ∧ fs.lookup source = some e
      ∧ after = (fs.erase source).insert place e := by
  rw [rename] at h
  split at h
  · cases h
  · obtain ⟨place, hresolve, h⟩ := bind_eq_ok_iff.1 h
    split at h
    · cases h
    · split at h
      · cases h
      · next hslash =>
        dsimp only at h
        split at h
        · cases h
        · next e hsource hdirectory =>
          exact ⟨place, e, hresolve, Bool.eq_false_iff.2 hslash, hdirectory, hsource,
            (Except.ok.inj h).symm⟩
        · cases h

theorem read_eq_ok {path : Text} {place : Location} {content : Bytes}
    (hresolve : fs.resolve path = .ok place) (hplace : fs.lookup place = some (.file content))
    (hslash : Path.endsWithSlash path = false) : fs.read path = .ok content := by
  simp [read, hresolve, hplace, hslash, bind, Except.bind]

/-- The file at a place, made where nothing was, is moved to where a path leads. -/
theorem written_rename {temporary : Location} {path : Text} {content : Bytes}
    (hfree : fs.lookup temporary = none) (hcontent : mid.lookup temporary = some (.file content))
    (hsame : ∀ q, q ≠ temporary → mid.lookup q = fs.lookup q)
    (hworking : mid.workingDirectory = fs.workingDirectory)
    (h : mid.rename temporary path = .ok after) : Written path content [] fs after := by
  obtain ⟨place, e, hresolve, hslash, hplace, hsource, rfl⟩ := rename_eq_ok h
  obtain rfl : e = .file content := Option.some.inj (hsource.symm.trans hcontent)
  have htemporary : mid.lookup temporary ≠ some .directory := by simp [hcontent]
  have hgone : (mid.erase temporary).lookup temporary = none :=
    lookup_erase_self (ne_root_of_lookup htemporary)
  have herased : (mid.erase temporary).lookup place ≠ some .directory := by
    by_cases hp : place = temporary
    · simp [hp, hgone]
    · rwa [lookup_erase_of_ne hp]
  have hkeeps : mid.KeepsDirectories ((mid.erase temporary).insert place (.file content)) :=
    (keepsDirectories_erase htemporary).trans (keepsDirectories_insert herased _)
  have hself : ((mid.erase temporary).insert place (.file content)).lookup place
      = some (.file content) := lookup_insert_self (ne_root_of_lookup hplace)
  refine ⟨hworking, read_eq_ok (hkeeps.resolve hresolve) hself hslash, place,
    hkeeps.resolve hresolve, ?_, fun q hq => Or.inl ?_⟩
  · by_cases hp : place = temporary
    · simp [hp, hfree]
    · rwa [← hsame place hp]
  · rw [lookup_insert_of_ne hq]
    by_cases hq' : q = temporary
    · rw [hq', hgone, hfree]
    · rw [lookup_erase_of_ne hq', hsame q hq']

/-- **A write that fails** leaves nothing behind. -/
theorem replaceFile_error {directory path : Text} {content : Bytes} {e : SystemError}
    (h : fs.replaceFile directory path content refuse = (.error e, after)) :
    MadeAlong [] fs after := by
  rw [replaceFile] at h
  split at h
  · obtain ⟨-, rfl⟩ := Prod.mk.inj h
    exact .refl [] fs
  · next temporary made hmade =>
    obtain ⟨hfree, rfl⟩ := makeTemporary_eq_ok (attempt_eq_ok hmade)
    have hne : fs.lookup temporary ≠ some .directory := by simp [hfree]
    split at h
    · cases h
    · obtain ⟨-, rfl⟩ := Prod.mk.inj h
      refine ⟨rfl, fun q => Or.inl ?_⟩
      by_cases hq : q = temporary
      · rw [hq, lookup_erase_self (ne_root_of_lookup hne), hfree]
      · rw [lookup_erase_of_ne hq, lookup_insert_of_ne hq]

/-- **A write that succeeds** leaves the file behind and nothing else. -/
theorem replaceFile_ok {directory path : Text} {content : Bytes}
    (h : fs.replaceFile directory path content refuse = (.ok (), after)) :
    Written path content [] fs after := by
  rw [replaceFile] at h
  split at h
  · cases h
  · next temporary made hmade =>
    obtain ⟨hfree, rfl⟩ := makeTemporary_eq_ok (attempt_eq_ok hmade)
    have hne : fs.lookup temporary ≠ some .directory := by simp [hfree]
    split at h
    · next renamed hrenamed =>
      obtain ⟨-, rfl⟩ := Prod.mk.inj h
      obtain ⟨written, hwritten, hrename⟩ := bind_eq_ok_iff.1 hrenamed
      obtain rfl := Except.ok.inj (attempt_eq_ok hwritten)
      refine written_rename hfree ?_ (fun q hq => ?_) ?_ (attempt_eq_ok hrename)
      · exact lookup_insert_self (ne_root_of_lookup hne)
      · rw [lookup_insert_of_ne hq, lookup_insert_of_ne hq]
      · rfl
    · cases h

/-! ## When writing succeeds -/

theorem mem_toMake_eq {path p : Text} {rest : List Text} (h : Path.toMake path = p :: rest) :
    p = path := by
  have hmem : p ∈ (Path.ancestors path).head? := by
    have hprefix : Path.toMake path <+: Path.ancestors path := List.takeWhile_prefix _
    rw [h] at hprefix
    obtain ⟨r, hr⟩ := hprefix
    simp [← hr]
  rw [Path.ancestors, Path.ancestorsUpTo] at hmem
  split at hmem <;> simpa [eq_comm] using hmem

theorem exists_of_isDirectory {path : Text} (h : fs.isDirectory path = true) :
    ∃ place, fs.resolve path = .ok place ∧ fs.lookup place = some .directory := by
  rw [isDirectory] at h
  split at h
  · next place hplace => exact ⟨place, hplace, by simpa using h⟩
  · exact absurd h (by decide)

/-- Nothing has to be made where a directory is. -/
theorem makeDirectories_of_isDirectory {path : Text} (h : fs.isDirectory path = true) :
    fs.makeDirectories path = (.ok (), fs) := by
  rw [makeDirectories]
  cases hpaths : Path.toMake path with
  | nil => rfl
  | cons p rest =>
    obtain rfl := mem_toMake_eq hpaths
    have hmake : fs.makeDirectory p = .error .alreadyExists := by
      obtain ⟨place, hplace, hsome⟩ := exists_of_isDirectory h
      simp [makeDirectory, hplace, hsome, bind, Except.bind]
    simp [makeAncestors, hmake, madeUnless, h]

theorem not_nul_of_resolve {path : Text} {place : Location} (h : fs.resolve path = .ok place) :
    (path.any (· == '\x00')) = false := by
  rw [resolve] at h
  split at h
  · cases h
  · next hnul => exact Bool.eq_false_iff.2 hnul

theorem rename_of_file {source place : Location} {path : Text} {e : Entry}
    (hplace : fs.resolve path = .ok place) (hfree : fs.lookup place ≠ some .directory)
    (hdots : endsInDots (Path.names path) = false) (hslash : Path.endsWithSlash path = false)
    (hsource : fs.lookup source = some e) :
    fs.rename source path = .ok ((fs.erase source).insert place e) := by
  have hnul := not_nul_of_resolve hplace
  cases hentry : fs.lookup place with
  | none => simp [rename, hnul, hplace, hdots, hslash, hsource, hentry, bind, Except.bind]
  | some entry =>
    cases entry with
    | directory => exact absurd hentry hfree
    | file content =>
      simp [rename, hnul, hplace, hdots, hslash, hsource, hentry, bind, Except.bind]

/-- A file can be written where no directory is, if the directory that it lies in exists. -/
theorem exists_replaceFile {directory path : Text} {place : Location}
    (hdirectory : fs.isDirectory directory = true) (hplace : fs.resolve path = .ok place)
    (hfree : fs.lookup place ≠ some .directory) (hdots : endsInDots (Path.names path) = false)
    (hslash : Path.endsWithSlash path = false) (content : Bytes) :
    ∃ after, fs.replaceFile directory path content = (.ok (), after) := by
  obtain ⟨parent, hparent, hlookup⟩ := exists_of_isDirectory hdirectory
  have hmake : fs.makeTemporary directory = .ok (parent ++ [fs.freshName],
      fs.insert (parent ++ [fs.freshName]) (.file [])) := by
    simp [makeTemporary, hparent, hlookup, bind, Except.bind]
  have hnone := fs.lookup_freshName parent
  generalize parent ++ [fs.freshName] = temporary at hmake hnone
  have htemporary : fs.lookup temporary ≠ some .directory := by simp [hnone]
  have hroot := ne_root_of_lookup htemporary
  have hmade : (fs.insert temporary (.file [])).lookup temporary ≠ some .directory := by
    simp [lookup_insert_self hroot]
  have hkeeps := (keepsDirectories_insert htemporary (.file [])).trans
    (keepsDirectories_insert hmade (.file content))
  have hsource : ((fs.insert temporary (.file [])).insert temporary (.file content)).lookup
      temporary = some (.file content) := lookup_insert_self hroot
  have hentry : ((fs.insert temporary (.file [])).insert temporary (.file content)).lookup
      place ≠ some .directory := by
    by_cases hp : place = temporary
    · simp [hp, hsource]
    · rwa [lookup_insert_of_ne hp, lookup_insert_of_ne hp]
  have hrename := rename_of_file (hkeeps.resolve hplace) hentry hdots hslash hsource
  simp [replaceFile, hmake, fillAndRename, hrename, bind, Except.bind]

end FileTree

/-! ## Converting a file -/

section

open FileTree

variable {refuse : Refusals} {fs : FileTree}

theorem toMake_subset_ancestors (path : Text) : Path.toMake path ⊆ Path.ancestors path :=
  (List.takeWhile_sublist _).subset

/-- Two steps, one on the files that the other leaves. -/
theorem run_bind_of_eq {α β : Type} {x : StateM FileTree α} {a : α} {after : FileTree}
    (h : x.run fs = (a, after)) (f : α → StateM FileTree β) :
    (x >>= f).run fs = (f a).run after := by
  rw [StateT.run_bind, h]
  rfl

theorem run_read {path : Text} {outcome : Except SystemError Bytes}
    (h : attempt refuse fs (.read path) (fs.read path) = outcome) :
    ((access refuse).read path).run fs = (outcome, fs) := by
  rw [← h]
  rfl

theorem run_makeDirectories {path : Text} {outcome : Except SystemError Unit} {made : FileTree}
    (h : fs.makeDirectories path refuse = (outcome, made)) :
    ((access refuse).makeDirectories path).run fs = (outcome, made) := h

theorem run_writeOutput (path : Text) (content : Bytes) :
    (writeOutput (access refuse) path content).run fs =
      match fs.makeDirectories (Path.directory path) refuse with
      | (.error e, made) => (.error e, made)
      | (.ok (), made) => made.replaceFile (Path.directory path) path content refuse := by
  rcases h : fs.makeDirectories (Path.directory path) refuse with ⟨e | _, made⟩
  · rw [writeOutput, run_bind_of_eq (run_makeDirectories h)]
    rfl
  · rw [writeOutput, run_bind_of_eq (run_makeDirectories h)]
    rfl

theorem run_convertFile_of_unread {input : Text} {e : SystemError}
    (h : attempt refuse fs (.read input) (fs.read input) = .error e) (config : Config)
    (output : Text) :
    (convertFile (access refuse) config input output).run fs
      = (⟨.error (readError input e), [.started input output]⟩, fs) := by
  rw [convertFile, run_bind_of_eq (run_read h)]
  rfl

theorem run_convertFile_of_unwritten {config : Config} {input output : Text} {bytes : Bytes}
    {e : SystemError} {after : FileTree}
    (h : attempt refuse fs (.read input) (fs.read input) = .ok bytes)
    (hwrite : (writeOutput (access refuse) output
      (Text.toBytes (Conversion.ofText config (Text.ofBytes bytes)).text)).run fs
        = (.error e, after)) :
    (convertFile (access refuse) config input output).run fs
      = (⟨.error (.writeFailed output e), [.started input output, .bytesRead bytes.length input]
          ++ (Conversion.ofText config (Text.ofBytes bytes)).events⟩, after) := by
  rw [convertFile, run_bind_of_eq (run_read h)]
  dsimp only
  rw [run_bind_of_eq hwrite]
  rfl

theorem run_convertFile_of_written {config : Config} {input output : Text} {bytes : Bytes}
    {after : FileTree} (h : attempt refuse fs (.read input) (fs.read input) = .ok bytes)
    (hwrite : (writeOutput (access refuse) output
      (Text.toBytes (Conversion.ofText config (Text.ofBytes bytes)).text)).run fs
        = (.ok (), after)) :
    ((convertFile (access refuse) config input output).run fs).1.result
        = .ok (Conversion.ofText config (Text.ofBytes bytes)).stats
      ∧ ((convertFile (access refuse) config input output).run fs).2 = after := by
  rw [convertFile, run_bind_of_eq (run_read h)]
  dsimp only
  rw [run_bind_of_eq hwrite]
  exact ⟨rfl, rfl⟩

/-- A file is written with the directories above it, or these are all that is made. -/
theorem writeOutput_spec (refuse : Refusals) (fs : FileTree) (path : Text) (content : Bytes) :
    match (writeOutput (access refuse) path content).run fs with
    | (.error _, after) => MadeAlong (Path.ancestors (Path.directory path)) fs after
    | (.ok (), after) => Written path content (Path.ancestors (Path.directory path)) fs after := by
  have hmade : MadeAlong (Path.ancestors (Path.directory path)) fs
      (fs.makeDirectories (Path.directory path) refuse).2 :=
    (madeAlong_makeAncestors refuse fs _).mono (toMake_subset_ancestors _)
  rw [run_writeOutput]
  rcases hdirectories : fs.makeDirectories (Path.directory path) refuse with ⟨e | _, made⟩
  · rw [hdirectories] at hmade
    exact hmade
  · rw [hdirectories] at hmade
    dsimp only
    rcases hreplace : made.replaceFile (Path.directory path) path content refuse
      with ⟨e | _, after⟩
    · exact hmade.trans ((replaceFile_error hreplace).mono (List.nil_subset _))
    · exact hmade.written (replaceFile_ok hreplace)

/-- **A conversion succeeds** if the input is a file, the directory of the output exists, and the
output is a path that leads to a place in it where no directory is. -/
theorem convertFile_succeeds {input output : Text} {bytes : Bytes} {place : Location}
    (hread : fs.read input = .ok bytes) (hdirectory : fs.isDirectory (Path.directory output) = true)
    (hplace : fs.resolve output = .ok place) (hfree : fs.lookup place ≠ some .directory)
    (hdots : endsInDots (Path.names output) = false) (hslash : Path.endsWithSlash output = false)
    (config : Config) :
    ((convertFile access config input output).run fs).1.result
      = .ok (Conversion.ofText config (Text.ofBytes bytes)).stats := by
  obtain ⟨after, hreplace⟩ := exists_replaceFile hdirectory hplace hfree hdots hslash
    (Text.toBytes (Conversion.ofText config (Text.ofBytes bytes)).text)
  have hwrite : (writeOutput access output
      (Text.toBytes (Conversion.ofText config (Text.ofBytes bytes)).text)).run fs
        = (.ok (), after) := by
    rw [run_writeOutput, makeDirectories_of_isDirectory hdirectory]
    exact hreplace
  have hattempt : attempt refuseNothing fs (.read input) (fs.read input) = .ok bytes := hread
  exact (run_convertFile_of_written hattempt hwrite).1

/-- **All or nothing.**  Whatever the machine refuses, a conversion of files ends in one of three
ways.  The input could not be read, and nothing happened.  The output could not be written, and
nothing happened but that directories above the output were made where nothing was.  Or the output
is the converted input, and beside that nothing happened but this; `convertFile_succeeds` says when
this end is reached for certain. -/
theorem convertFile_all_or_nothing (refuse : Refusals) (fs : FileTree) (config : Config)
    (input output : Text) :
    match attempt refuse fs (.read input) (fs.read input),
      (convertFile (access refuse) config input output).run fs with
    | .error e, (conversion, after) =>
      conversion.result = .error (readError input e) ∧ after = fs
    | .ok bytes, (conversion, after) =>
      (∃ e, conversion.result = .error (.writeFailed output e)
        ∧ MadeAlong (Path.ancestors (Path.directory output)) fs after)
      ∨ conversion.result = .ok (Conversion.ofText config (Text.ofBytes bytes)).stats
        ∧ Written output (Text.toBytes (Conversion.ofText config (Text.ofBytes bytes)).text)
          (Path.ancestors (Path.directory output)) fs after := by
  cases hread : attempt refuse fs (.read input) (fs.read input) with
  | error e =>
    rw [run_convertFile_of_unread hread]
    exact ⟨rfl, rfl⟩
  | ok bytes =>
    have hspec := writeOutput_spec refuse fs output
      (Text.toBytes (Conversion.ofText config (Text.ofBytes bytes)).text)
    rcases hwrite : (writeOutput (access refuse) output
      (Text.toBytes (Conversion.ofText config (Text.ofBytes bytes)).text)).run fs
      with ⟨e | _, after⟩
    · rw [hwrite] at hspec
      rw [run_convertFile_of_unwritten hread hwrite]
      exact Or.inl ⟨e, rfl, hspec⟩
    · rw [hwrite] at hspec
      obtain ⟨hresult, hafter⟩ := run_convertFile_of_written hread hwrite
      exact Or.inr ⟨hresult, hafter ▸ hspec⟩

/-- A file is converted in place: its old content is what was converted. -/
theorem convertFile_all_or_nothing_in_place :
    let old := "# Title\n--\n".toList
    let fs : FileTree :=
      ⟨[(["w".toList], .directory), (["w".toList, "a".toList], .file (Text.toBytes old))],
        ["w".toList]⟩
    let run := (convertFile access Config.default "a".toList "a".toList).run fs
    run.1.result = .ok (Conversion.ofText Config.default old).stats
      ∧ Written "a".toList (Text.toBytes (Conversion.ofText Config.default old).text)
        (Path.ancestors (Path.directory "a".toList)) fs run.2 := by
  intro old fs run
  have hread : fs.read "a".toList = .ok (Text.toBytes old) := rfl
  have hplace : fs.resolve "a".toList = .ok ["w".toList, "a".toList] := rfl
  have hsucceeds : run.1.result
      = .ok (Conversion.ofText Config.default (Text.ofBytes (Text.toBytes old))).stats :=
    convertFile_succeeds hread (by decide +kernel) hplace (by decide +kernel) (by decide)
      (by decide) Config.default
  have hends := convertFile_all_or_nothing refuseNothing fs Config.default "a".toList "a".toList
  rcases hrun : (convertFile access Config.default "a".toList "a".toList).run fs
    with ⟨conversion, after⟩
  rw [attempt_refuseNothing, hread, hrun] at hends
  rw [show run = (conversion, after) from hrun] at hsucceeds ⊢
  rcases hends with ⟨e, herror, -⟩ | hwritten
  · exact nomatch hsucceeds.symm.trans herror
  · rwa [Text.ofBytes_toBytes] at hwritten

/-- The output path asks for a directory.  The one above is made, and no file stays behind. -/
example :
    ((convertFile access Config.default "a".toList "b/c/".toList).run
      ⟨[(["w".toList], .directory), (["w".toList, "a".toList], .file (Text.toBytes "x".toList))],
        ["w".toList]⟩).2.list = ["b/".toList, "a".toList] := by decide +kernel

end
end SlideDeck
