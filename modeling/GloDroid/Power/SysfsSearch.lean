import GloDroid.Base.TreeWalk
import GloDroid.Power.Power
import GloDroid.Vibrator.InputSearch

/-!
# The Search for Frequency Files

The constructor of `GloDroidPower` walks through two directories of sysfs and makes a device of
every file whose name ends in `min_freq`; `SearchSysfs` calls its function as it meets the files,
and the function reads and writes sysfs. The directories are what `opendir` and `readdir` answer for
a path, as in the search for the input node, and the contents are what reading a file as an integer
gives, where that works. A file of sysfs takes a value and keeps it, or refuses it.

On directories that make up finite trees the constructor ends, with each file that is below one of
them, readable together with its `max_freq` file and writable made a device of exactly once, and
with sysfs as it was (`construct_finds`).
-/

namespace GloDroid.Power

open GloDroid.Base
open GloDroid.Vibrator (Dirent FileSystem dirpath directories FiniteTree finiteTree_of_directories)

/-! ## The search -/

section Search

variable {σ : Type*}

/-- The loop of `SearchSysfs` over the entries of a directory; `search` is its recursive call. -/
def searchEntries (search : List Char → σ → Option σ) (path matchSuffix : List Char)
    (matchFn : List Char → σ → σ) : List Dirent → σ → Option σ
  | [], s => some s
  | entry :: entries, s =>
    if entry.dType = .dir then
      if entry.dName = ['.'] ∨ entry.dName = ['.', '.'] then
        searchEntries search path matchSuffix matchFn entries s
      else
        match search (dirpath path entry.dName) s with
        | some s => searchEntries search path matchSuffix matchFn entries s
        | none => none
    else if entry.dName.length < matchSuffix.length then
      searchEntries search path matchSuffix matchFn entries s
    else if entry.dName.drop (entry.dName.length - matchSuffix.length) = matchSuffix then
      searchEntries search path matchSuffix matchFn entries (matchFn (dirpath path entry.dName) s)
    else searchEntries search path matchSuffix matchFn entries s

/-- `SearchSysfs`. The fuel bounds the depth of the recursion. -/
def searchSysfs (fs : FileSystem) (matchSuffix : List Char) (matchFn : List Char → σ → σ) :
    Nat → List Char → σ → Option σ
  | 0, _, _ => none
  | fuel + 1, path, s =>
    match fs path with
    | none => some s
    | some entries =>
      searchEntries (searchSysfs fs matchSuffix matchFn fuel) path matchSuffix matchFn entries s

end Search

/-! ## The constructor -/

/-- What reading a file as an integer gives, `none` where it fails. -/
abbrev Contents := String → Option Int

/-- What `Write` does to the file. -/
def SysfsIntFile.writeTo (f : SysfsIntFile) (written : Bool) (value : Int) (contents : Contents) :
    Contents :=
  if (f.write written value).1 then Function.update contents f.fileName (some value) else contents

/-- The devices so far, and sysfs. -/
structure Boosters where
  boosterList : List DevFreq
  contents : Contents

/-- `suffix`. -/
def minFreqSuffix : List Char := "min_freq".toList

/-- The function that the constructor gives to `SearchSysfs`. `written` says which files can be
written. -/
def addBooster (written : String → Bool) (fileName : List Char) (b : Boosters) : Boosters :=
  let scalingPrefix := String.ofList (fileName.take (fileName.length - minFreqSuffix.length))
  let minFreq := SysfsIntFile.ofFile (scalingPrefix ++ "min_freq")
    (b.contents (scalingPrefix ++ "min_freq"))
  let maxFreq := SysfsIntFile.ofFile (scalingPrefix ++ "max_freq")
    (b.contents (scalingPrefix ++ "max_freq"))
  let dvfs := DevFreq.ofFiles minFreq maxFreq (written minFreq.fileName)
  { boosterList := if dvfs.valid then b.boosterList ++ [dvfs] else b.boosterList
    -- the constructor of the device writes only if both files have been read
    contents :=
      if minFreq.valid && maxFreq.valid then
        minFreq.writeTo (written minFreq.fileName) minFreq.initialValue b.contents
      else b.contents }

/-- The directory of the first search. -/
def platformPath : List Char := "/sys/devices/platform".toList

/-- The directory of the second search. -/
def systemPath : List Char := "/sys/devices/system".toList

/-- The HAL's object and the files. -/
structure SysfsPower where
  power : GloDroidPower
  contents : Contents

/-- The constructor of `GloDroidPower`, where it finds sysfs with these directories and contents. -/
def construct (fs : FileSystem) (written : String → Bool) (contents : Contents) (fuel : Nat)
    (now : Int) : Option SysfsPower :=
  match searchSysfs fs minFreqSuffix (addBooster written) fuel platformPath ⟨[], contents⟩ with
  | none => none
  | some b =>
    match searchSysfs fs minFreqSuffix (addBooster written) fuel systemPath b with
    | none => none
    | some b => some { power := .create b.boosterList now, contents := b.contents }

/-! ## The files below a directory -/

/-- A file with this end of its name is below the root, and the directories on the way to it are
readable. -/
inductive HasFile (fs : FileSystem) (suffix : List Char) : List Char → List Char → Prop where
  | child {path : List Char} {entries : List Dirent} {entry : Dirent}
      (hopen : fs path = some entries) (hmem : entry ∈ entries) (hfile : entry.dType ≠ .dir)
      (hsuffix : suffix <:+ entry.dName) : HasFile fs suffix path (dirpath path entry.dName)
  | deeper {path file : List Char} {entries : List Dirent} {entry : Dirent}
      (hopen : fs path = some entries) (hmem : entry ∈ entries) (hdir : entry.isDirectory)
      (hbelow : HasFile fs suffix (dirpath path entry.dName) file) : HasFile fs suffix path file

/-- The names in a directory are different, and have no slash in them. -/
def WellNamed (fs : FileSystem) : Prop :=
  ∀ path entries, fs path = some entries →
    (entries.map Dirent.dName).Nodup ∧ ∀ entry ∈ entries, '/' ∉ entry.dName

/-- What the walk makes of an entry: a file it visits, or a directory it descends into. -/
def sysfsItem (suffix path : List Char) (entry : Dirent) : Option (List Char ⊕ List Char) :=
  if entry.isDirectory then some (.inr (dirpath path entry.dName))
  else if entry.dType ≠ .dir ∧ suffix <:+ entry.dName then some (.inl (dirpath path entry.dName))
  else none

/-- The items of a directory, none if it is not readable. -/
def sysfsItems (fs : FileSystem) (suffix path : List Char) : List (List Char ⊕ List Char) :=
  match fs path with
  | some entries => entries.filterMap (sysfsItem suffix path)
  | none => []

section Walk

variable {σ : Type*} {fs : FileSystem} {suffix path : List Char}

theorem mem_sysfsItems {i : List Char ⊕ List Char} :
    i ∈ sysfsItems fs suffix path ↔
      ∃ entries entry, fs path = some entries ∧ entry ∈ entries ∧
        sysfsItem suffix path entry = some i := by
  cases hfs : fs path <;> simp [sysfsItems, hfs]

theorem sysfsItem_inr {entry : Dirent} {c : List Char} :
    sysfsItem suffix path entry = some (.inr c) ↔
      entry.isDirectory ∧ dirpath path entry.dName = c := by
  simp only [sysfsItem]
  split_ifs <;> simp_all

theorem sysfsItem_inl {entry : Dirent} {file : List Char} :
    sysfsItem suffix path entry = some (.inl file) ↔
      entry.dType ≠ .dir ∧ suffix <:+ entry.dName ∧ dirpath path entry.dName = file := by
  simp only [sysfsItem]
  split_ifs with hdir <;> simp_all [Dirent.isDirectory]

/-- The loop over the entries visits their items. -/
theorem searchEntries_eq (search : List Char → σ → Option σ) (matchFn : List Char → σ → σ)
    (entries : List Dirent) (s : σ) :
    searchEntries search path suffix matchFn entries s =
      visitItems matchFn search (entries.filterMap (sysfsItem suffix path)) s := by
  induction entries generalizing s with
  | nil => rfl
  | cons entry entries ih =>
    by_cases hdir : entry.dType = .dir
    · by_cases hdots : entry.dName = ['.'] ∨ entry.dName = ['.', '.']
      · -- `.` and `..` are passed over
        have hskip : sysfsItem suffix path entry = none := by
          rcases hdots with hdot | hdot <;> simp [sysfsItem, Dirent.isDirectory, hdir, hdot]
        rw [List.filterMap_cons_none hskip, ← ih]
        simp [searchEntries, hdir, hdots]
      · obtain ⟨hdot, hdotdot⟩ := not_or.mp hdots
        have hnode : sysfsItem suffix path entry = some (.inr (dirpath path entry.dName)) := by
          simp [sysfsItem, Dirent.isDirectory, hdir, hdot, hdotdot]
        rw [List.filterMap_cons_some hnode]
        simp only [searchEntries, visitItems, hdir, hdots, if_true, if_false]
        cases search (dirpath path entry.dName) s with
        | none => rfl
        | some s => exact ih s
    · have hnode : entry.isDirectory = false := by simp [Dirent.isDirectory, hdir]
      by_cases hsuffix : suffix <:+ entry.dName
      · -- the code compares the last characters, as many as the suffix has
        have hleaf : sysfsItem suffix path entry = some (.inl (dirpath path entry.dName)) := by
          simp [sysfsItem, hnode, hdir, hsuffix]
        have hdrop := (List.suffix_iff_eq_drop.mp hsuffix).symm
        rw [List.filterMap_cons_some hleaf]
        simp [searchEntries, visitItems, hdir, hdrop, hsuffix.length_le, ih]
      · have hskip : sysfsItem suffix path entry = none := by
          simp [sysfsItem, hnode, hsuffix]
        have hdrop : entry.dName.drop (entry.dName.length - suffix.length) ≠ suffix :=
          fun heq => hsuffix (List.suffix_iff_eq_drop.mpr heq.symm)
        rw [List.filterMap_cons_none hskip, ← ih]
        simp [searchEntries, hdir, hdrop]

/-- The search is the walk through the items. -/
theorem searchSysfs_eq (matchFn : List Char → σ → σ) (fuel : Nat) (path : List Char) (s : σ) :
    searchSysfs fs suffix matchFn fuel path s =
      treeWalk (sysfsItems fs suffix) matchFn fuel path s := by
  induction fuel generalizing path s with
  | zero => rfl
  | succ fuel ih =>
    -- the recursive calls are walks with less fuel
    have hsearch : searchSysfs fs suffix matchFn fuel =
        treeWalk (sysfsItems fs suffix) matchFn fuel := by
      funext path s
      exact ih path s
    simp only [searchSysfs, treeWalk, sysfsItems, hsearch]
    cases fs path with
    | none => rfl
    | some entries => exact searchEntries_eq _ _ _ _

theorem hasFile_iff {root file : List Char} :
    HasFile fs suffix root file ↔ LeafBelow (sysfsItems fs suffix) root file := by
  constructor
  · intro h
    induction h with
    | child hopen hmem hfile hsuffix =>
      exact .leaf (mem_sysfsItems.mpr
        ⟨_, _, hopen, hmem, sysfsItem_inl.mpr ⟨hfile, hsuffix, rfl⟩⟩)
    | deeper hopen hmem hdir _ ih =>
      exact .deeper (mem_sysfsItems.mpr ⟨_, _, hopen, hmem, sysfsItem_inr.mpr ⟨hdir, rfl⟩⟩) ih
  · intro h
    induction h with
    | leaf hmem =>
      obtain ⟨entries, entry, hopen, hentry, hitem⟩ := mem_sysfsItems.mp hmem
      obtain ⟨hfile, hsuffix, rfl⟩ := sysfsItem_inl.mp hitem
      exact .child hopen hentry hfile hsuffix
    | deeper hmem _ ih =>
      obtain ⟨entries, entry, hopen, hentry, hitem⟩ := mem_sysfsItems.mp hmem
      obtain ⟨hdir, rfl⟩ := sysfsItem_inr.mp hitem
      exact .deeper hopen hentry hdir ih

/-- The walk descends into the directories of the tree. -/
theorem acc_sysfsItems (suffix : List Char) {root : List Char} (hfinite : FiniteTree fs root) :
    Acc (fun c a => .inr c ∈ sysfsItems fs suffix a) root := by
  apply Subrelation.accessible _ hfinite
  intro c a hmem
  obtain ⟨entries, entry, hopen, hentry, hitem⟩ := mem_sysfsItems.mp hmem
  obtain ⟨hdir, rfl⟩ := sysfsItem_inr.mp hitem
  exact ⟨entry.dName, Vibrator.mem_directories.mpr ⟨_, _, hopen, hentry, hdir, rfl⟩⟩

/-! ## Each file once -/

/-- The name behind a path in the path of something below it. -/
def nextName (path file : List Char) : List Char :=
  (file.drop (path.length + 1)).takeWhile (· ≠ '/')

theorem takeWhile_name {name : List Char} (h : '/' ∉ name) (rest : List Char) :
    (name ++ rest).takeWhile (· ≠ '/') = name ++ rest.takeWhile (· ≠ '/') :=
  List.takeWhile_append_of_pos fun c hc => by
    rw [decide_eq_true_eq]
    rintro rfl
    exact h hc

theorem nextName_dirpath {name : List Char} (h : '/' ∉ name) :
    nextName path (dirpath path name) = name := by
  simpa [nextName, dirpath] using takeWhile_name h []

theorem nextName_below {name : List Char} (h : '/' ∉ name) (rest : List Char) :
    nextName path (dirpath (dirpath path name) rest) = name := by
  simpa [nextName, dirpath] using takeWhile_name h ('/' :: rest)

/-- What is below a directory has its path first. -/
theorem below_dirpath {root file : List Char} (h : LeafBelow (sysfsItems fs suffix) root file) :
    ∃ rest, file = dirpath root rest := by
  induction h with
  | leaf hmem =>
    obtain ⟨entries, entry, -, -, hitem⟩ := mem_sysfsItems.mp hmem
    exact ⟨entry.dName, (sysfsItem_inl.mp hitem).2.2.symm⟩
  | deeper hmem _ ih =>
    obtain ⟨entries, entry, -, -, hitem⟩ := mem_sysfsItems.mp hmem
    obtain ⟨-, rfl⟩ := sysfsItem_inr.mp hitem
    obtain ⟨rest, rfl⟩ := ih
    exact ⟨dirpath entry.dName rest, by simp [dirpath]⟩

/-- The path of a file shows the entry it is under. -/
theorem nextName_under {entry : Dirent} {i : List Char ⊕ List Char} {file : List Char}
    (hname : '/' ∉ entry.dName) (hitem : sysfsItem suffix path entry = some i)
    (hunder : Under (sysfsItems fs suffix) i file) : nextName path file = entry.dName := by
  cases i with
  | inl file' =>
    -- the file is the entry itself
    obtain rfl : file' = file := hunder
    obtain ⟨-, -, rfl⟩ := sysfsItem_inl.mp hitem
    exact nextName_dirpath hname
  | inr c =>
    obtain ⟨-, rfl⟩ := sysfsItem_inr.mp hitem
    obtain ⟨rest, rfl⟩ := below_dirpath hunder
    exact nextName_below hname rest

/-- Different entries of a directory have no file in common. -/
theorem separated_sysfsItems (hnamed : WellNamed fs) : Separated (sysfsItems fs suffix) := by
  intro path
  simp only [sysfsItems]
  split
  case h_1 entries hopen =>
    obtain ⟨hnodup, hslash⟩ := hnamed path entries hopen
    -- two entries with a file in common would have the name that its path shows
    rw [List.pairwise_filterMap]
    apply (List.pairwise_map.mp hnodup).imp_of_mem
    intro entry entry' hentry hentry' hne i hi j hj file hunder hunder'
    apply hne
    rw [← nextName_under (hslash entry hentry) hi hunder,
      ← nextName_under (hslash entry' hentry') hj hunder']
  case h_2 => exact .nil

end Walk

/-! ## What the constructor makes of a file -/

/-- A file that was found, with what is read at its path and at that of its `max_freq` file. -/
def foundFile (written : String → Bool) (contents : Contents) (fileName : List Char) : FoundFile :=
  let path := String.ofList (fileName.take (fileName.length - minFreqSuffix.length))
  { path
    minFreq := contents (path ++ "min_freq")
    maxFreq := contents (path ++ "max_freq")
    written := written (path ++ "min_freq") }

section Construct

variable {written : String → Bool} {contents : Contents}

/-- A device whose files have been read, and whose lower one can be written. -/
theorem device_valid_iff {f : FoundFile} :
    f.device.valid = true ↔ ∃ low high, f.minFreq = some low ∧ f.maxFreq = some high ∧
      f.written = true := by
  obtain ⟨path, minFreq, maxFreq, written⟩ := f
  cases minFreq <;> cases maxFreq <;> cases written <;>
    simp [FoundFile.device, DevFreq.ofFiles, SysfsIntFile.ofFile, SysfsIntFile.write]

@[simp] theorem fileName_ofFile (fileName : String) (content : Option Int) :
    (SysfsIntFile.ofFile fileName content).fileName = fileName := by
  cases content <;> rfl

/-- A file to which its own value is written keeps it. -/
theorem writeTo_initial (fileName : String) (written : Bool) (contents : Contents) :
    let f := SysfsIntFile.ofFile fileName (contents fileName)
    f.writeTo written f.initialValue contents = contents := by
  cases hvalue : contents fileName with
  | none => simp [SysfsIntFile.ofFile, SysfsIntFile.writeTo, SysfsIntFile.write]
  | some value =>
    cases written
    · simp [SysfsIntFile.ofFile, SysfsIntFile.writeTo, SysfsIntFile.write]
    · simp [SysfsIntFile.ofFile, SysfsIntFile.writeTo, SysfsIntFile.write, ← hvalue]

/-- Making a device leaves sysfs as it was: the device writes what it has read. -/
theorem addBooster_eq (written : String → Bool) (fileName : List Char) (b : Boosters) :
    addBooster written fileName b =
      ⟨b.boosterList ++ [(foundFile written b.contents fileName).device].filter (·.valid),
        b.contents⟩ := by
  have hcontents : (addBooster written fileName b).contents = b.contents := by
    simp only [addBooster]
    split_ifs
    · exact writeTo_initial _ _ _
    · rfl
  -- the list gets the device if it is usable
  have hlist : (addBooster written fileName b).boosterList =
      b.boosterList ++ [(foundFile written b.contents fileName).device].filter (·.valid) := by
    have hnew : (addBooster written fileName b).boosterList =
        if (foundFile written b.contents fileName).device.valid then
          b.boosterList ++ [(foundFile written b.contents fileName).device]
        else b.boosterList := by
      simp only [addBooster, foundFile, FoundFile.device, fileName_ofFile]
      rfl
    rw [hnew]
    split_ifs with hvalid
    · rw [List.filter_cons_of_pos hvalid, List.filter_nil]
    · rw [List.filter_cons_of_neg hvalid, List.filter_nil, List.append_nil]
  rw [← hlist, ← hcontents]

/-- What the constructor makes of the files that are met, one after the other. -/
theorem foldl_addBooster (written : String → Bool) (files : List (List Char)) (b : Boosters) :
    files.foldl (fun b fileName => addBooster written fileName b) b =
      ⟨b.boosterList ++
        (files.map fun fileName => (foundFile written b.contents fileName).device).filter (·.valid),
        b.contents⟩ := by
  induction files generalizing b with
  | nil => simp
  | cons fileName files ih =>
    rw [List.foldl_cons, addBooster_eq, ih, List.map_cons, List.append_assoc,
      ← List.filter_append, List.singleton_append]

/-! ## The devices -/

/-- A file that one of the two searches meets. -/
def Found (fs : FileSystem) (fileName : List Char) : Prop :=
  HasFile fs minFreqSuffix platformPath fileName ∨ HasFile fs minFreqSuffix systemPath fileName

/-- The device of two files with these values, of which the lower one has been written. -/
def usableDevice (path : String) (low high : Int) : DevFreq where
  minFreq :=
    { fileName := path ++ "min_freq", initialValue := low, lastValue := low, valid := true }
  maxFreq := { fileName := path ++ "max_freq", initialValue := high, valid := true }
  valid := true

variable {fs : FileSystem} {fuel : Nat} {now : Int}

theorem device_eq {f : FoundFile} {low high : Int} (hlow : f.minFreq = some low)
    (hhigh : f.maxFreq = some high) (hwritten : f.written = true) :
    f.device = usableDevice f.path low high := by
  simp [FoundFile.device, DevFreq.ofFiles, SysfsIntFile.ofFile, SysfsIntFile.write, usableDevice,
    hlow, hhigh, hwritten]

theorem device_usable {f : FoundFile} {df : DevFreq} :
    (f.device = df ∧ df.valid = true) ↔ ∃ low high, f.minFreq = some low ∧
      f.maxFreq = some high ∧ f.written = true ∧ df = usableDevice f.path low high := by
  constructor
  · rintro ⟨rfl, hvalid⟩
    obtain ⟨low, high, hlow, hhigh, hwritten⟩ := device_valid_iff.mp hvalid
    exact ⟨low, high, hlow, hhigh, hwritten, device_eq hlow hhigh hwritten⟩
  · rintro ⟨low, high, hlow, hhigh, hwritten, rfl⟩
    exact ⟨device_eq hlow hhigh hwritten, rfl⟩

/-- No file is below both directories. -/
theorem roots_apart (rest rest' : List Char) :
    dirpath platformPath rest ≠ dirpath systemPath rest' := by
  -- the two paths differ behind `/sys/devices/`
  have hplatform : platformPath = "/sys/devices/".toList ++ 'p' :: "latform".toList := by decide
  have hsystem : systemPath = "/sys/devices/".toList ++ 's' :: "ystem".toList := by decide
  intro heq
  rw [dirpath, dirpath, hplatform, hsystem, List.append_assoc, List.append_assoc] at heq
  have hrest := List.append_cancel_left heq
  simp at hrest

/-- The files are found with their ends. -/
theorem HasFile.suffix_path {suffix root fileName : List Char}
    (h : HasFile fs suffix root fileName) : suffix <:+ fileName := by
  induction h with
  | child _ _ _ hsuffix => exact hsuffix.trans (by simp [dirpath, List.suffix_append_of_suffix])
  | deeper _ _ _ _ ih => exact ih

theorem Found.suffix {fileName : List Char} (h : Found fs fileName) :
    minFreqSuffix <:+ fileName :=
  h.elim HasFile.suffix_path HasFile.suffix_path

/-- The object keeps the usable devices only. -/
theorem create_filter (found : List DevFreq) (now : Int) :
    GloDroidPower.create (found.filter (·.valid)) now = .create found now := by
  simp [GloDroidPower.create]

/-- What the constructor leaves if it ends. -/
theorem construct_eq (hnamed : WellNamed fs) {s : SysfsPower}
    (h : construct fs written contents fuel now = some s) :
    ∃ files : List (List Char), files.Nodup ∧ (∀ fileName, fileName ∈ files ↔ Found fs fileName) ∧
      s.contents = contents ∧
      s.power = .create ((files.map (foundFile written contents)).map FoundFile.device) now := by
  simp only [construct, searchSysfs_eq] at h
  split at h
  case h_1 => cases h
  case h_2 b hplatform =>
    split at h
    case h_1 => cases h
    case h_2 b' hsystem =>
      obtain ⟨files, hfiles, rfl⟩ := treeWalk_visits hplatform
      obtain ⟨files', hfiles', rfl⟩ := treeWalk_visits hsystem
      -- the second search goes on with the devices of the first one
      rw [← List.foldl_append, foldl_addBooster, List.nil_append] at h
      obtain rfl := Option.some.inj h
      refine ⟨files ++ files', ?_, ?_, rfl, ?_⟩
      · -- each search meets a file once, and no file is below both directories
        have hnodup := nodup_visits (separated_sysfsItems hnamed) hfiles
        have hnodup' := nodup_visits (separated_sysfsItems hnamed) hfiles'
        refine hnodup.append hnodup' fun fileName hmem hmem' => ?_
        obtain ⟨rest, rfl⟩ := below_dirpath ((mem_visits hfiles).mp hmem)
        obtain ⟨rest', heq⟩ := below_dirpath ((mem_visits hfiles').mp hmem')
        exact roots_apart rest rest' heq
      · intro fileName
        rw [List.mem_append, mem_visits hfiles, mem_visits hfiles', ← hasFile_iff, ← hasFile_iff]
        rfl
      · rw [List.map_map]
        exact create_filter _ now

/-- With enough fuel the constructor ends. -/
theorem construct_ends (hplatform : FiniteTree fs platformPath)
    (hsystem : FiniteTree fs systemPath) (written : String → Bool) (contents : Contents)
    (now : Int) :
    ∃ s n, ∀ fuel, n ≤ fuel → construct fs written contents fuel now = some s := by
  obtain ⟨files, n, hn⟩ :=
    treeWalk_ends (acc_sysfsItems minFreqSuffix hplatform) (addBooster written)
  obtain ⟨files', n', hn'⟩ :=
    treeWalk_ends (acc_sysfsItems minFreqSuffix hsystem) (addBooster written)
  let b := (files ++ files').foldl (fun b fileName => addBooster written fileName b) ⟨[], contents⟩
  refine ⟨{ power := .create b.boosterList now, contents := b.contents }, max n n', ?_⟩
  intro fuel hle
  simp only [construct, searchSysfs_eq, hn fuel (by omega), hn' fuel (by omega), b,
    List.foldl_append]

/-- A file that is found, taken apart as the constructor does. -/
theorem foundFile_append (scaling : List Char) :
    foundFile written contents (scaling ++ minFreqSuffix) =
      { path := String.ofList scaling
        minFreq := contents (String.ofList scaling ++ "min_freq")
        maxFreq := contents (String.ofList scaling ++ "max_freq")
        written := written (String.ofList scaling ++ "min_freq") } := by
  simp [foundFile]

theorem fileName_device (f : FoundFile) : f.device.minFreq.fileName = f.path ++ "min_freq" := by
  simp only [FoundFile.device, DevFreq.ofFiles]
  split_ifs
  · simp only [SysfsIntFile.write]
    split_ifs <;> exact fileName_ofFile _ _
  · exact fileName_ofFile _ _

/-- The lower file of a device is the file that was found. -/
theorem fileName_foundFile {fileName : List Char} (h : Found fs fileName) :
    (foundFile written contents fileName).device.minFreq.fileName = String.ofList fileName := by
  obtain ⟨scaling, rfl⟩ := h.suffix
  rw [fileName_device, foundFile_append, String.ofList_append]
  rfl

/-- The devices of the object: one of each pair of files that will do. -/
theorem construct_boosters (hnamed : WellNamed fs) {s : SysfsPower}
    (h : construct fs written contents fuel now = some s) :
    (s.power.boosterList.map fun df => df.minFreq.fileName).Nodup ∧
      ∀ df, df ∈ s.power.boosterList ↔ ∃ scaling low high,
        Found fs (scaling ++ minFreqSuffix) ∧
        contents (String.ofList scaling ++ "min_freq") = some low ∧
        contents (String.ofList scaling ++ "max_freq") = some high ∧
        written (String.ofList scaling ++ "min_freq") = true ∧
        df = usableDevice (String.ofList scaling) low high := by
  obtain ⟨files, hnodup, hfound, -, hpower⟩ := construct_eq hnamed h
  have hlist : s.power.boosterList = (files.map fun fileName =>
      (foundFile written contents fileName).device).filter (·.valid) := by
    rw [hpower, List.map_map]
    rfl
  constructor
  · -- the names of the devices are some of the names of the files
    have hnames : (files.map fun fileName => (foundFile written contents fileName).device).map
        (fun df => df.minFreq.fileName) = files.map String.ofList := by
      rw [List.map_map]
      exact List.map_congr_left fun fileName hmem => fileName_foundFile ((hfound _).mp hmem)
    rw [hlist]
    apply List.Nodup.sublist (List.filter_sublist.map _)
    rw [hnames]
    exact hnodup.map fun _ _ heq => String.ofList_injective heq
  · intro df
    rw [hlist, List.mem_filter, List.mem_map]
    constructor
    · -- a device of the object is that of a file, taken apart at the suffix
      rintro ⟨⟨fileName, hmem, hdevice⟩, hvalid⟩
      have hfile := (hfound fileName).mp hmem
      obtain ⟨scaling, rfl⟩ := hfile.suffix
      rw [foundFile_append] at hdevice
      obtain ⟨low, high, hlow, hhigh, hwritten, hdf⟩ := device_usable.mp ⟨hdevice, hvalid⟩
      exact ⟨scaling, low, high, hfile, hlow, hhigh, hwritten, hdf⟩
    · rintro ⟨scaling, low, high, hfile, hlow, hhigh, hwritten, hdf⟩
      have husable : (foundFile written contents (scaling ++ minFreqSuffix)).device = df ∧
          df.valid = true := by
        rw [foundFile_append]
        exact device_usable.mpr ⟨low, high, hlow, hhigh, hwritten, hdf⟩
      exact ⟨⟨_, (hfound _).mpr hfile, husable.1⟩, husable.2⟩

/-- **The constructor finds the devices.** On directories that make up finite trees it ends, it
leaves sysfs as it was, and it keeps one device of each file below one of the two directories that
has the right end of its name, can be read together with its `max_freq` file and can be written. -/
theorem construct_finds (hplatform : FiniteTree fs platformPath)
    (hsystem : FiniteTree fs systemPath) (hnamed : WellNamed fs) (written : String → Bool)
    (contents : Contents) (now : Int) :
    ∃ s, (∃ n, ∀ fuel, n ≤ fuel → construct fs written contents fuel now = some s) ∧
      s.contents = contents ∧
      (s.power.boosterList.map fun df => df.minFreq.fileName).Nodup ∧
      ∀ df, df ∈ s.power.boosterList ↔ ∃ scaling low high,
        Found fs (scaling ++ minFreqSuffix) ∧
        contents (String.ofList scaling ++ "min_freq") = some low ∧
        contents (String.ofList scaling ++ "max_freq") = some high ∧
        written (String.ofList scaling ++ "min_freq") = true ∧
        df = usableDevice (String.ofList scaling) low high := by
  obtain ⟨s, n, hends⟩ := construct_ends hplatform hsystem written contents now
  obtain ⟨-, -, -, hcontents, -⟩ := construct_eq hnamed (hends n le_rfl)
  exact ⟨s, ⟨n, hends⟩, hcontents, construct_boosters hnamed (hends n le_rfl)⟩

end Construct

/-! ## A graphics processor -/

/-- A directory with the files of a device, one that cannot be read, and a file without its pair. -/
def gpuTree : FileSystem := fun path =>
  if path = platformPath then
    some [⟨.dir, ['.']⟩, ⟨.dir, "gpu".toList⟩, ⟨.dir, "ddr".toList⟩]
  else if path = dirpath platformPath "gpu".toList then
    some [⟨.other, "min_freq".toList⟩, ⟨.other, "max_freq".toList⟩]
  else if path = systemPath then some [⟨.dir, ['.', '.']⟩, ⟨.other, "scaling_min_freq".toList⟩]
  else none

def gpuContents : Contents := fun name =>
  if name = "/sys/devices/platform/gpu/min_freq" then some 120
  else if name = "/sys/devices/platform/gpu/max_freq" then some 480
  else if name = "/sys/devices/system/scaling_min_freq" then some 600
  else none

theorem wellNamed_gpuTree : WellNamed gpuTree := by
  intro path entries hopen
  simp only [gpuTree] at hopen
  split_ifs at hopen <;> (obtain rfl := Option.some.inj hopen; decide)

theorem finiteTree_platform : FiniteTree gpuTree platformPath := by
  have hroot : directories gpuTree platformPath =
      [("gpu".toList, dirpath platformPath "gpu".toList),
        ("ddr".toList, dirpath platformPath "ddr".toList)] := by decide
  have hgpu : directories gpuTree (dirpath platformPath "gpu".toList) = [] := by decide
  have hddr : directories gpuTree (dirpath platformPath "ddr".toList) = [] := by decide
  have hleaf : ∀ path, directories gpuTree path = [] → FiniteTree gpuTree path := by
    intro path hnone
    apply finiteTree_of_directories
    rw [hnone]
    exact List.forall_mem_nil _
  apply finiteTree_of_directories
  rw [hroot]
  exact List.forall_mem_cons.mpr ⟨hleaf _ hgpu, List.forall_mem_singleton.mpr (hleaf _ hddr)⟩

theorem finiteTree_system : FiniteTree gpuTree systemPath := by
  have hroot : directories gpuTree systemPath = [] := by decide
  apply finiteTree_of_directories
  simp [hroot]

theorem construct_finds_gpu :
    ∃ s, (∃ n, ∀ fuel, n ≤ fuel →
        construct gpuTree (fun _ => true) gpuContents fuel 5 = some s) ∧
      usableDevice "/sys/devices/platform/gpu/" 120 480 ∈ s.power.boosterList := by
  obtain ⟨s, hends, -, -, hdevices⟩ := construct_finds finiteTree_platform finiteTree_system
    wellNamed_gpuTree (fun _ => true) gpuContents 5
  have hgpu : (⟨.dir, "gpu".toList⟩ : Dirent) ∈ (gpuTree platformPath).getD [] := by decide
  have hmin : (⟨.other, "min_freq".toList⟩ : Dirent) ∈
      (gpuTree (dirpath platformPath "gpu".toList)).getD [] := by decide
  have hfile : HasFile gpuTree minFreqSuffix platformPath
      (dirpath (dirpath platformPath "gpu".toList) "min_freq".toList) :=
    .deeper rfl hgpu (by decide) (.child rfl hmin (by decide) (List.suffix_refl _))
  have hname : dirpath (dirpath platformPath "gpu".toList) "min_freq".toList =
      "/sys/devices/platform/gpu/".toList ++ minFreqSuffix := by decide
  refine ⟨s, hends, (hdevices _).mpr ⟨"/sys/devices/platform/gpu/".toList, 120, 480, ?_⟩⟩
  exact ⟨.inl (hname ▸ hfile), by decide, by decide, rfl, by rw [String.ofList_toList]⟩

end GloDroid.Power
