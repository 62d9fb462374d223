import Mathlib.Data.Finmap

/-!
# Type-C Ports

`getTypeCPortNamesHelper` lists `/sys/class/typec` and sorts the links into ports and partners: a
name with `-partner` in it marks the port in front of the first dash as connected, any other name is
inserted as a port that is not connected unless it is there already.

The map does not depend on the order of the entries (`lookup_foldl_addEntry` has no order in it).
But the kernel also creates links for cables and plugs, and these are taken for ports too.

File names are lists of characters, and the hash map is a finite map without order.
-/

namespace GloDroid.UsbHal

/-! ## Reading the directory -/

/-- The status codes of the helpers. -/
inductive Status where
  | success | error
  deriving DecidableEq, Repr

/-- `d_type`: a symbolic link or anything else. -/
inductive DirentType where
  | lnk | other
  deriving DecidableEq, Repr

structure Dirent where
  dType : DirentType
  dName : List Char
  deriving DecidableEq, Repr

/-- `std::unordered_map<string, bool>`. -/
abbrev PortNames := Finmap fun _ : List Char => Bool

/-- `std::strtok` with one delimiter, on a text that has another character: the first token. -/
def strtok (s : List Char) (delim : Char) : List Char :=
  (s.dropWhile (· = delim)).takeWhile (· ≠ delim)

/-- `"-partner"`. -/
def partnerMark : List Char := '-' :: ['p', 'a', 'r', 't', 'n', 'e', 'r']

/-- The body of the loop over the entries. -/
def addEntry (names : PortNames) (ep : Dirent) : PortNames :=
  match ep.dType with
  | .lnk =>
    if ¬ partnerMark <:+: ep.dName then
      match names.lookup ep.dName with
      | none => names.insert ep.dName false
      | some _ => names
    else names.insert (strtok ep.dName '-') true
  | .other => names

/-- `getTypeCPortNamesHelper`; there is no listing if the directory cannot be opened. -/
def getTypeCPortNamesHelper (listing : Option (List Dirent)) (names : PortNames) :
    PortNames × Status :=
  match listing with
  | some entries => (entries.foldl addEntry names, .success)
  | none => (names, .error)

/-! ## What an entry contributes -/

namespace Dirent

/-- The port an entry marks as connected. -/
def connects (ep : Dirent) : Option (List Char) :=
  if ep.dType = .lnk ∧ partnerMark <:+: ep.dName then some (strtok ep.dName '-') else none

/-- The name an entry is inserted under. -/
def lists (ep : Dirent) : Option (List Char) :=
  if ep.dType = .lnk ∧ ¬ partnerMark <:+: ep.dName then some ep.dName else none

/-- A link that marks nothing is inserted under its own name. -/
theorem lists_of_connects_none {ep : Dirent} (hlnk : ep.dType = .lnk) (hnone : ep.connects = none) :
    ep.lists = some ep.dName := by
  apply if_pos
  refine ⟨hlnk, fun hpartner => ?_⟩
  have hsome : ep.connects = some (strtok ep.dName '-') := if_pos ⟨hlnk, hpartner⟩
  exact Option.some_ne_none _ (hsome.symm.trans hnone)

end Dirent

theorem lookup_addEntry (names : PortNames) (ep : Dirent) (k : List Char) :
    (addEntry names ep).lookup k =
      if ep.connects = some k then some true
      else (names.lookup k).or (if ep.lists = some k then some false else none) := by
  unfold addEntry Dirent.connects Dirent.lists
  cases ep.dType with
  | other => simp
  | lnk =>
    by_cases hpartner : partnerMark <:+: ep.dName
    · by_cases hk : k = strtok ep.dName '-'
      · subst hk
        simp [hpartner]
      · simp [hpartner, Finmap.lookup_insert_of_ne _ hk, Ne.symm hk]
    · cases hfind : names.lookup ep.dName with
      | none =>
        by_cases hk : k = ep.dName
        · subst hk
          simp [hpartner, hfind]
        · simp [hpartner, Finmap.lookup_insert_of_ne _ hk, Ne.symm hk]
      | some connected =>
        by_cases hk : k = ep.dName
        · subst hk
          simp [hpartner, hfind]
        · simp [hpartner, Ne.symm hk]

/-- **What the loop leaves**: a port marked by some entry is connected; of the others, those already
in the map keep their value, and those inserted are not connected. -/
theorem lookup_foldl_addEntry (entries : List Dirent) (names : PortNames) (k : List Char) :
    (entries.foldl addEntry names).lookup k =
      if ∃ ep ∈ entries, ep.connects = some k then some true
      else
        (names.lookup k).or (if ∃ ep ∈ entries, ep.lists = some k then some false else none) := by
  induction entries generalizing names with
  | nil => simp
  | cons ep rest ih =>
    rw [List.foldl_cons, ih, lookup_addEntry]
    simp only [List.exists_mem_cons_iff]
    by_cases hrest : ∃ ep ∈ rest, ep.connects = some k
    · rw [if_pos hrest, if_pos (Or.inr hrest)]
    rw [if_neg hrest]
    by_cases hep : ep.connects = some k
    · rw [if_pos hep, if_pos (Or.inl hep), Option.some_or]
    rw [if_neg hep, if_neg (not_or.mpr ⟨hep, hrest⟩), Option.or_assoc]
    by_cases hlists : ep.lists = some k
    · rw [if_pos hlists, if_pos (Or.inl hlists), Option.some_or]
    · rw [if_neg hlists, Option.none_or]
      simp only [hlists, false_or]

/-- The order of the entries does not matter. -/
theorem foldl_addEntry_perm {entries entries' : List Dirent} (h : entries.Perm entries')
    (names : PortNames) : entries'.foldl addEntry names = entries.foldl addEntry names := by
  apply Finmap.ext_lookup
  intro k
  rw [lookup_foldl_addEntry, lookup_foldl_addEntry]
  simp only [h.mem_iff]

/-! ## The names the kernel gives -/

/-- What the kernel puts into the directory for each port, and the entries that are no links. -/
inductive TypecEntry where
  | port (n : Nat)
  | partner (n : Nat)
  | cable (n : Nat)
  | plug (n m : Nat)
  | directory (name : List Char)
  deriving DecidableEq, Repr

/-- `portN`. -/
def portName (n : Nat) : List Char := ['p', 'o', 'r', 't'] ++ Nat.toDigits 10 n

/-- The entry as `readdir` returns it. -/
def TypecEntry.dirent : TypecEntry → Dirent
  | port n => ⟨.lnk, portName n⟩
  | partner n => ⟨.lnk, portName n ++ partnerMark⟩
  | cable n => ⟨.lnk, portName n ++ '-' :: ['c', 'a', 'b', 'l', 'e']⟩
  | plug n m => ⟨.lnk, portName n ++ '-' :: (['p', 'l', 'u', 'g'] ++ Nat.toDigits 10 m)⟩
  | directory name => ⟨.other, name⟩

theorem dash_notMem_toDigits (n : Nat) : '-' ∉ Nat.toDigits 10 n := by
  intro hmem
  have hdigit := Nat.isDigit_of_mem_toDigits (by decide) (by decide) hmem
  exact absurd hdigit (by decide)

theorem dash_notMem_portName (n : Nat) : '-' ∉ portName n := by
  unfold portName
  rw [List.mem_append, not_or]
  exact ⟨by decide, dash_notMem_toDigits n⟩

theorem portName_injective : Function.Injective portName := by
  intro n m h
  have hdigits : Nat.toDigits 10 n = Nat.toDigits 10 m := List.append_cancel_left h
  calc n = Nat.ofDigitChars 10 (Nat.toDigits 10 n) 0 := Nat.ofDigitChars_ten_toDigits.symm
    _ = Nat.ofDigitChars 10 (Nat.toDigits 10 m) 0 := by rw [hdigits]
    _ = m := Nat.ofDigitChars_ten_toDigits

/-- A pattern that begins with a character found only once is searched for only there. -/
theorem cons_infix_append_cons_iff {α : Type*} {c : α} {base rest pat : List α} (hbase : c ∉ base)
    (hrest : c ∉ rest) : c :: pat <:+: base ++ c :: rest ↔ pat <+: rest := by
  induction base with
  | nil =>
    rw [List.nil_append, List.infix_cons_iff, List.cons_prefix_cons, and_iff_right rfl]
    apply or_iff_left
    exact fun hfound => hrest (hfound.subset List.mem_cons_self)
  | cons a base ih =>
    rw [List.mem_cons, not_or] at hbase
    rw [List.cons_append, List.infix_cons_iff, List.cons_prefix_cons, or_iff_right, ih hbase.2]
    exact fun hbegin => hbase.1 hbegin.1

/-- The first token of a name with a dash is what stands in front of it. -/
theorem strtok_portName (n : Nat) (suffix : List Char) :
    strtok (portName n ++ '-' :: suffix) '-' = portName n := by
  have hskip : (portName n ++ '-' :: suffix).dropWhile (· = '-') = portName n ++ '-' :: suffix :=
    rfl
  unfold strtok
  rw [hskip, List.takeWhile_append_of_pos]
  · simp
  · intro c hc
    have hne : c ≠ '-' := fun h => dash_notMem_portName n (h ▸ hc)
    simpa using hne

namespace TypecEntry

theorem connects_dirent (e : TypecEntry) :
    e.dirent.connects = match e with | partner n => some (portName n) | _ => none := by
  cases e with
  | port n =>
    apply if_neg
    exact fun h => dash_notMem_portName n (h.2.subset List.mem_cons_self)
  | partner n =>
    have hmark : partnerMark <:+: portName n ++ partnerMark := (List.suffix_append _ _).isInfix
    exact (if_pos ⟨rfl, hmark⟩).trans (congrArg some (strtok_portName n _))
  | cable n =>
    apply if_neg
    intro h
    have hbegin := (cons_infix_append_cons_iff (dash_notMem_portName n) (by decide)).mp h.2
    exact absurd hbegin (by decide)
  | plug n m =>
    apply if_neg
    intro h
    have hrest : '-' ∉ ['p', 'l', 'u', 'g'] ++ Nat.toDigits 10 m := by
      rw [List.mem_append, not_or]
      exact ⟨by decide, dash_notMem_toDigits m⟩
    have hbegin := (cons_infix_append_cons_iff (dash_notMem_portName n) hrest).mp h.2
    simp at hbegin
  | directory name => exact if_neg fun h => DirentType.noConfusion h.1

/-- Ports are inserted, and cables and plugs with them. -/
theorem lists_dirent (e : TypecEntry) :
    e.dirent.lists = match e with
      | partner _ | directory _ => none
      | _ => some e.dirent.dName := by
  cases e with
  | port n => exact Dirent.lists_of_connects_none rfl (connects_dirent _)
  | partner n => exact if_neg fun h => h.2 (List.suffix_append _ _).isInfix
  | cable n => exact Dirent.lists_of_connects_none rfl (connects_dirent _)
  | plug n m => exact Dirent.lists_of_connects_none rfl (connects_dirent _)
  | directory name => exact if_neg fun h => DirentType.noConfusion h.1

end TypecEntry

/-! ## Discovery -/

/-- The map after a call for a directory with the entries. -/
def namesAfter (es : List TypecEntry) : PortNames :=
  (getTypeCPortNamesHelper (some (es.map TypecEntry.dirent)) ∅).1

/-- What the map owes: its keys are the ports listed, each with whether its partner is listed. -/
def Discovers (es : List TypecEntry) (names : PortNames) : Prop :=
  (∀ k, k ∈ names ↔ ∃ n, TypecEntry.port n ∈ es ∧ portName n = k) ∧
    ∀ n, TypecEntry.port n ∈ es →
      (names.lookup (portName n) = some true ↔ TypecEntry.partner n ∈ es)

theorem lookup_namesAfter (es : List TypecEntry) (k : List Char) :
    (namesAfter es).lookup k =
      if ∃ e ∈ es, e.dirent.connects = some k then some true
      else if ∃ e ∈ es, e.dirent.lists = some k then some false else none := by
  unfold namesAfter getTypeCPortNamesHelper
  rw [lookup_foldl_addEntry, Finmap.lookup_empty, Option.none_or]
  simp only [List.mem_map, exists_exists_and_eq_and]

/-- A port counts as connected exactly if its partner is listed. -/
theorem lookup_portName_iff (es : List TypecEntry) (n : Nat) :
    (namesAfter es).lookup (portName n) = some true ↔ TypecEntry.partner n ∈ es := by
  have hconnects : (∃ e ∈ es, e.dirent.connects = some (portName n)) ↔
      TypecEntry.partner n ∈ es := by
    constructor
    · rintro ⟨e, he, hname⟩
      rw [TypecEntry.connects_dirent] at hname
      cases e with
      | partner m =>
        obtain rfl := portName_injective (Option.some.inj hname)
        exact he
      | _ => cases hname
    · exact fun he => ⟨_, he, TypecEntry.connects_dirent _⟩
  rw [lookup_namesAfter, ← hconnects]
  split_ifs with h
  · exact iff_of_true rfl h
  · exact iff_of_false (by decide) h
  · exact iff_of_false (by decide) h

theorem mem_namesAfter_iff (es : List TypecEntry) (k : List Char) :
    k ∈ namesAfter es ↔ ∃ e ∈ es, e.dirent.connects = some k ∨ e.dirent.lists = some k := by
  rw [← Finmap.lookup_isSome, lookup_namesAfter]
  simp only [and_or_left, exists_or]
  split_ifs with h h'
  · exact iff_of_true rfl (Or.inl h)
  · exact iff_of_true rfl (Or.inr h')
  · exact iff_of_false Bool.false_ne_true (not_or.mpr ⟨h, h'⟩)

/-- **When the ports are discovered exactly**: for every listing, if and only if no cable and no
plug is listed, and no partner without its port. The order of the entries never matters. -/
theorem getTypeCPortNamesHelper_discovers_iff (es : List TypecEntry) :
    (∀ es', es.Perm es' → namesAfter es' = namesAfter es) ∧
      (Discovers es (namesAfter es) ↔
        (∀ n, TypecEntry.cable n ∉ es) ∧ (∀ n m, TypecEntry.plug n m ∉ es) ∧
          ∀ n, TypecEntry.partner n ∈ es → TypecEntry.port n ∈ es) := by
  refine ⟨fun es' hperm => foldl_addEntry_perm (hperm.map _) ∅, ?_, ?_⟩
  · rintro ⟨hkeys, -⟩
    -- whatever is inserted has to be the name of a port
    have hport : ∀ e ∈ es, ∀ k, e.dirent.connects = some k ∨ e.dirent.lists = some k →
        ∃ n, TypecEntry.port n ∈ es ∧ portName n = k :=
      fun e he k hk => (hkeys k).mp ((mem_namesAfter_iff es k).mpr ⟨e, he, hk⟩)
    refine ⟨fun n he => ?_, fun n m he => ?_, fun n he => ?_⟩
    · obtain ⟨m, -, hname⟩ := hport _ he _ (Or.inr (TypecEntry.lists_dirent _))
      apply dash_notMem_portName m
      rw [hname]
      exact List.mem_append_right _ List.mem_cons_self
    · obtain ⟨m', -, hname⟩ := hport _ he _ (Or.inr (TypecEntry.lists_dirent _))
      apply dash_notMem_portName m'
      rw [hname]
      exact List.mem_append_right _ List.mem_cons_self
    · obtain ⟨m, hm, hname⟩ := hport _ he _ (Or.inl (TypecEntry.connects_dirent _))
      obtain rfl := portName_injective hname
      exact hm
  · rintro ⟨hcable, hplug, hpartner⟩
    refine ⟨fun k => ?_, fun n _ => lookup_portName_iff es n⟩
    rw [mem_namesAfter_iff]
    constructor
    · rintro ⟨e, he, hk⟩
      simp only [TypecEntry.connects_dirent, TypecEntry.lists_dirent] at hk
      cases e with
      | port n => exact ⟨n, he, Option.some.inj (hk.resolve_left (by simp))⟩
      | partner n => exact ⟨n, hpartner n he, Option.some.inj (hk.resolve_right (by simp))⟩
      | cable n => exact absurd he (hcable n)
      | plug n m => exact absurd he (hplug n m)
      | directory name => simp at hk
    · rintro ⟨n, he, rfl⟩
      exact ⟨_, he, Or.inr (TypecEntry.lists_dirent _)⟩

/-- A port with a cable is taken for two ports. -/
theorem namesAfter_cable :
    ['p', 'o', 'r', 't', '0', '-', 'c', 'a', 'b', 'l', 'e'] ∈ namesAfter [.port 0, .cable 0] ∧
      ¬ Discovers [.port 0, .cable 0] (namesAfter [.port 0, .cable 0]) := by
  have hkey : ['p', 'o', 'r', 't', '0', '-', 'c', 'a', 'b', 'l', 'e'] ∈
      namesAfter [.port 0, .cable 0] := by
    decide
  refine ⟨hkey, fun h => ?_⟩
  obtain ⟨n, -, hname⟩ := (h.1 _).mp hkey
  apply dash_notMem_portName n
  rw [hname]
  decide

end GloDroid.UsbHal
