import GloDroid.Base.LevelSearch
import Mathlib.Data.List.Infix

/-!
# The Search for the Input Node

`FFDevice::create` looks below a directory of sysfs for a directory with `event` in its name and
opens the file of that name under `/dev/input`. `recursive_dir_observer` scans a directory to its
end, saves the paths of the directories in it, and then observes these one after the other; it is
over with the first one that the predicate accepts.

The file system is what `opendir` and `readdir` answer for a path. Paths and names are lists of
characters.
-/

namespace GloDroid.Vibrator

open GloDroid.Base

/-! ## Directories -/

/-- `d_type`: a directory or anything else, links among it. -/
inductive DirentType where
  | dir | other
  deriving DecidableEq, Repr

structure Dirent where
  dType : DirentType
  dName : List Char
  deriving DecidableEq, Repr

/-- The entries of a directory in the order of `readdir`; none where `opendir` fails. -/
abbrev FileSystem := List Char → Option (List Dirent)

/-- The test on an entry: a directory, and neither `.` nor `..`. -/
def Dirent.isDirectory (dir : Dirent) : Bool :=
  dir.dType = .dir && dir.dName ≠ ['.'] && dir.dName ≠ ['.', '.']

/-- `dirpath`. -/
def dirpath (path name : List Char) : List Char := path ++ '/' :: name

/-! ## The search -/

/-- `observe_func`: the answer, and what is in `param` afterwards. -/
abbrev ObserveFunc := List Char → List Char → Bool × List Char

/-- The loop over the entries: `found`, `param` and `paths`. -/
def scanLevel (func : ObserveFunc) (path : List Char) :
    List Dirent → List Char → List (List Char) → Bool × List Char × List (List Char)
  | [], param, paths => (false, param, paths)
  | dir :: dirs, param, paths =>
    if dir.isDirectory then
      match func dir.dName param with
      | (true, param) => (true, param, paths)
      -- saved for future observation
      | (false, param) => scanLevel func path dirs param (paths ++ [dirpath path dir.dName])
    else scanLevel func path dirs param paths

/-- The loop over the saved paths. -/
def observePaths (observe : List Char → List Char → Option (Bool × List Char)) :
    List (List Char) → List Char → Option (Bool × List Char)
  | [], param => some (false, param)
  | p :: paths, param =>
    match observe p param with
    | some (true, param) => some (true, param)
    | some (false, param) => observePaths observe paths param
    | none => none

/-- `recursive_dir_observer`: the answer, and what is in `param` afterwards. The fuel bounds the
depth of the recursion. -/
def recursiveDirObserver (fs : FileSystem) (func : ObserveFunc) :
    Nat → List Char → List Char → Option (Bool × List Char)
  | 0, _, _ => none
  | fuel + 1, path, param =>
    match fs path with
    | none => some (false, param)
    | some entries =>
      match scanLevel func path entries param [] with
      | (true, param, _) => some (true, param)
      | (false, param, paths) => observePaths (recursiveDirObserver fs func fuel) paths param

/-- `"event"`. -/
def event : List Char := ['e', 'v', 'e', 'n', 't']

/-- The predicate of `FFDevice::create`. -/
def observeEvent : ObserveFunc := fun path eventPath =>
  if event <:+: path then (true, path) else (false, eventPath)

/-- `"/dev/input/"`. -/
def devInput : List Char := ['/', 'd', 'e', 'v', '/', 'i', 'n', 'p', 'u', 't', '/']

/-- `FFDevice::create`: the descriptor of the device, none for a null pointer. `openFile` is
`open`, none for -1. -/
def create (fs : FileSystem) (openFile : List Char → Option Nat) (fuel : Nat)
    (inputPath : List Char) : Option (Option Nat) :=
  match recursiveDirObserver fs observeEvent fuel inputPath [] with
  | some (true, eventPath) => some (openFile (devInput ++ eventPath))
  | some (false, _) => some none
  | none => none

/-! ## The tree below a directory -/

/-- The directories among the entries of a directory: their names and their paths. -/
def subdirectories (path : List Char) (entries : List Dirent) : List (List Char × List Char) :=
  (entries.filter Dirent.isDirectory).map fun dir => (dir.dName, dirpath path dir.dName)

/-- The directories in a directory, none of them if it is not readable. -/
def directories (fs : FileSystem) (path : List Char) : List (List Char × List Char) :=
  match fs path with
  | some entries => subdirectories path entries
  | none => []

/-- The directories below a path make up a finite tree: no path leads down forever. -/
def FiniteTree (fs : FileSystem) (root : List Char) : Prop := Acc (IsChild (directories fs)) root

/-- A directory of this name is below the root, and its ancestors up to the root are readable. -/
inductive HasDirectory (fs : FileSystem) : List Char → List Char → Prop where
  | child {path : List Char} {entries : List Dirent} {dir : Dirent} (hopen : fs path = some entries)
      (hmem : dir ∈ entries) (hdir : dir.isDirectory) : HasDirectory fs path dir.dName
  | deeper {path name : List Char} {entries : List Dirent} {dir : Dirent}
      (hopen : fs path = some entries) (hmem : dir ∈ entries) (hdir : dir.isDirectory)
      (hbelow : HasDirectory fs (dirpath path dir.dName) name) : HasDirectory fs path name

theorem mem_directories {fs : FileSystem} {path : List Char} {e : List Char × List Char} :
    e ∈ directories fs path ↔ ∃ entries dir, fs path = some entries ∧ dir ∈ entries ∧
      dir.isDirectory ∧ (dir.dName, dirpath path dir.dName) = e := by
  cases hfs : fs path with
  | none => simp [directories, hfs]
  | some entries => simp [directories, hfs, subdirectories, and_assoc]

theorem hasDirectory_iff {fs : FileSystem} {root name : List Char} :
    HasDirectory fs root name ↔ Below (directories fs) root name := by
  constructor
  · intro h
    induction h with
    | child hopen hmem hdir =>
      exact Below.edge (mem_directories.mpr ⟨_, _, hopen, hmem, hdir, rfl⟩)
    | deeper hopen hmem hdir _ ih =>
      exact Below.deeper (mem_directories.mpr ⟨_, _, hopen, hmem, hdir, rfl⟩) ih
  · intro h
    induction h with
    | edge he =>
      obtain ⟨entries, dir, hopen, hmem, hdir, heq⟩ := mem_directories.mp he
      obtain ⟨rfl, rfl⟩ := Prod.mk.inj heq
      exact .child hopen hmem hdir
    | deeper he _ ih =>
      obtain ⟨entries, dir, hopen, hmem, hdir, heq⟩ := mem_directories.mp he
      obtain ⟨rfl, rfl⟩ := Prod.mk.inj heq
      exact .deeper hopen hmem hdir ih

theorem finiteTree_of_directories {fs : FileSystem} {path : List Char}
    (h : ∀ e ∈ directories fs path, FiniteTree fs e.2) : FiniteTree fs path :=
  Acc.intro path fun _ hchild => hchild.elim fun _ he => h _ he

section Search

variable {fs : FileSystem} {path param : List Char} {entries : List Dirent}

/-- Without a hit the scan saves all paths and leaves `param` as it was. -/
theorem scanLevel_none (hnone : ∀ e ∈ subdirectories path entries, ¬ event <:+: e.1)
    (paths : List (List Char)) :
    scanLevel observeEvent path entries param paths =
      (false, param, paths ++ (subdirectories path entries).map Prod.snd) := by
  induction entries generalizing paths with
  | nil => simp [scanLevel, subdirectories]
  | cons dir dirs ih =>
    by_cases hdir : dir.isDirectory
    · simp only [subdirectories, List.filter_cons, hdir, if_true, List.map_cons,
        List.forall_mem_cons] at hnone
      simp [scanLevel, subdirectories, hdir, observeEvent, hnone.1, ih hnone.2]
    · simp only [subdirectories, List.filter_cons, hdir, Bool.false_eq_true, if_false] at hnone
      simp [scanLevel, subdirectories, hdir, ih hnone]

/-- The scan breaks off at the first hit. -/
theorem scanLevel_some (param : List Char) {e : List Char × List Char}
    (hfirst : (subdirectories path entries).find? (fun e => event <:+: e.1) = some e)
    (paths : List (List Char)) :
    ∃ paths', scanLevel observeEvent path entries param paths = (true, e.1, paths') := by
  induction entries generalizing paths with
  | nil => cases hfirst
  | cons dir dirs ih =>
    by_cases hdir : dir.isDirectory
    · simp only [subdirectories, List.filter_cons, hdir, if_true, List.map_cons,
        List.find?_cons] at hfirst
      by_cases hevent : event <:+: dir.dName
      · simp only [hevent, decide_true, Option.some.injEq] at hfirst
        exact ⟨paths, by simp [scanLevel, hdir, observeEvent, hevent, ← hfirst]⟩
      · simp only [hevent, decide_false] at hfirst
        simpa [scanLevel, hdir, observeEvent, hevent] using ih hfirst _
    · simp only [subdirectories, List.filter_cons, hdir, Bool.false_eq_true, if_false] at hfirst
      simpa [scanLevel, hdir] using ih hfirst paths

/-- What the search for a name leaves: the answer and `param`. -/
def outcome (param : List Char) : Option (List Char) → Bool × List Char
  | some name => (true, name)
  | none => (false, param)

theorem observePaths_eq {observe : List Char → List Char → Option (Bool × List Char)}
    {search : List Char → Option (Option (List Char))} {paths : List (List Char)}
    (heq : ∀ p ∈ paths, observe p param = (search p).map (outcome param)) :
    observePaths observe paths param = (firstFound search paths).map (outcome param) := by
  induction paths with
  | nil => rfl
  | cons p paths ih =>
    have hpaths := ih fun p' hp' => heq p' (List.mem_cons_of_mem p hp')
    simp only [observePaths, firstFound, heq p List.mem_cons_self]
    cases search p with
    | none => rfl
    | some found =>
      cases found with
      | none => simpa [outcome] using hpaths
      | some name => rfl

/-- The observer is the search for a name with `event` in it. -/
theorem recursiveDirObserver_eq (fs : FileSystem) (fuel : Nat) (path param : List Char) :
    recursiveDirObserver fs observeEvent fuel path param =
      (levelSearch (directories fs) (event <:+: ·) fuel path).map (outcome param) := by
  induction fuel generalizing path with
  | zero => rfl
  | succ fuel ih =>
    simp only [recursiveDirObserver, levelSearch, directories]
    cases hfs : fs path with
    | none => rfl
    | some entries =>
      simp only
      cases hfind : (subdirectories path entries).find? (fun e => event <:+: e.1) with
      | some e =>
        -- the paths that were saved before the break are not descended into
        obtain ⟨paths, hscan⟩ := scanLevel_some param hfind []
        rw [hscan]
        rfl
      | none =>
        have hnone : ∀ e ∈ subdirectories path entries, ¬ event <:+: e.1 := by
          simpa using List.find?_eq_none.mp hfind
        rw [scanLevel_none hnone]
        exact observePaths_eq fun p _ => ih p

/-- **The search is sound and complete**: below the root of a finite tree it ends with the name of
a directory that has `event` in its name and only readable ancestors, or with `param` as it was if
there is none. -/
theorem recursiveDirObserver_finds {root : List Char} (hfinite : FiniteTree fs root)
    (param : List Char) :
    ∃ found param',
      (∃ n, ∀ fuel, n ≤ fuel →
        recursiveDirObserver fs observeEvent fuel root param = some (found, param')) ∧
      (found = true ↔ ∃ name, HasDirectory fs root name ∧ event <:+: name) ∧
      (found = true → HasDirectory fs root param' ∧ event <:+: param') ∧
      (found = false → param' = param) := by
  obtain ⟨r, ⟨n, hends⟩, hsome, hfound⟩ := levelSearch_finds (event <:+: ·) hfinite
  refine ⟨(outcome param r).1, (outcome param r).2, ⟨n, fun fuel hle => ?_⟩, ?_, ?_, ?_⟩
  · rw [recursiveDirObserver_eq, hends fuel hle, Option.map_some]
  · have hanswer : (outcome param r).1 = r.isSome := by cases r <;> rfl
    simp only [hanswer, hasDirectory_iff, hsome]
  · cases r with
    | some name => exact fun _ => (hfound name rfl).imp_left hasDirectory_iff.mpr
    | none => simp [outcome]
  · cases r <;> simp [outcome]

/-- The device that `FFDevice::create` returns is the node of a directory that was found. -/
theorem create_opens {openFile : List Char → Option Nat} {fuel : Nat} {root : List Char} {fd : Nat}
    (h : create fs openFile fuel root = some (some fd)) :
    ∃ name, HasDirectory fs root name ∧ event <:+: name ∧
      openFile (devInput ++ name) = some fd := by
  simp only [create, recursiveDirObserver_eq] at h
  cases hsearch : levelSearch (directories fs) (event <:+: ·) fuel root with
  | none => simp [hsearch] at h
  | some r =>
    cases r with
    | none => simp [hsearch, outcome] at h
    | some name =>
      obtain ⟨hbelow, hevent⟩ := levelSearch_sound hsearch
      refine ⟨name, hasDirectory_iff.mpr hbelow, hevent, ?_⟩
      simpa [hsearch, outcome] using h

end Search

/-- A directory with one that cannot be read and one with the directory of the device. -/
def inputTree : FileSystem := fun path =>
  if path = ['/'] then
    some [⟨.dir, ['.']⟩, ⟨.other, event⟩, ⟨.dir, ['p']⟩, ⟨.dir, ['i']⟩]
  else if path = dirpath ['/'] ['i'] then some [⟨.dir, ['.', '.']⟩, ⟨.dir, event ++ ['1']⟩]
  else none

theorem recursiveDirObserver_finds_inputTree :
    FiniteTree inputTree ['/'] ∧ ∃ found param',
      (∃ n, ∀ fuel, n ≤ fuel →
        recursiveDirObserver inputTree observeEvent fuel ['/'] [] = some (found, param')) ∧
      (found = true ↔ ∃ name, HasDirectory inputTree ['/'] name ∧ event <:+: name) ∧
      (found = true → HasDirectory inputTree ['/'] param' ∧ event <:+: param') ∧
      (found = false → param' = []) := by
  have hfinite : FiniteTree inputTree ['/'] := by
    have hroot : directories inputTree ['/'] =
        [(['p'], dirpath ['/'] ['p']), (['i'], dirpath ['/'] ['i'])] := by decide
    have hunreadable : directories inputTree (dirpath ['/'] ['p']) = [] := by decide
    have hdevice : directories inputTree (dirpath ['/'] ['i']) =
        [(event ++ ['1'], dirpath (dirpath ['/'] ['i']) (event ++ ['1']))] := by decide
    have hleaf : directories inputTree (dirpath (dirpath ['/'] ['i']) (event ++ ['1'])) = [] := by
      decide
    apply finiteTree_of_directories
    simp only [hroot, List.forall_mem_cons, List.not_mem_nil, false_imp_iff, implies_true, and_true]
    constructor
    · apply finiteTree_of_directories
      simp [hunreadable]
    · apply finiteTree_of_directories
      simp only [hdevice, List.forall_mem_singleton]
      apply finiteTree_of_directories
      simp [hleaf]
  exact ⟨hfinite, recursiveDirObserver_finds hfinite []⟩

end GloDroid.Vibrator
