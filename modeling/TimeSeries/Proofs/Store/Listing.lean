import Mathlib.Data.List.Nodup
import Mathlib.Data.List.Sort
import Mathlib.Data.String.Basic
import TimeSeries.Proofs.Outcome
import TimeSeries.Proofs.Text.Case
import TimeSeries.Proofs.Text.Separators
import TimeSeries.Store.SeriesStore

set_option autoImplicit false

/-!
# What a store lists and what it finds

A store lists a series for every file whose extension is that of CSV files in any case, under the
name in upper case. It looks for a series in the file whose name is all in lower case. The two agree
on a name exactly when no file of that name is spelled otherwise.
-/
namespace TimeSeries

/-! ## Children of directories -/

theorem FileTree.at?_append (tree : FileTree) (names more : List String) :
    tree.at? (names ++ more) = (tree.at? names).bind (·.at? more) := by
  induction names generalizing tree with
  | nil => rfl
  | cons name rest ih =>
    rw [List.cons_append, at?, at?, Option.bind_assoc]
    exact congrArg _ (funext fun child => ih child)

/-- A name that a file can have in a directory. -/
structure IsFileName (name : String) : Prop where
  not_special : name.toList ∉ [[], ['.'], ['.', '.']]
  no_slash : '/' ∉ name.toList
  no_nul : Char.ofNat 0 ∉ name.toList

namespace Files

variable {files : Files} {directory leaf : String} {entries : List (String × FileTree)}

theorem find_eq_ok {path : String} {tree : FileTree} :
    files.find path = .ok tree ↔
      ∃ names, files.resolve path = .ok names ∧ files.root.at? names = some tree := by
  unfold find
  rw [bind_eq_ok]
  refine exists_congr fun names => and_congr_right fun _ => ?_
  cases files.root.at? names with
  | none => simp [throw, throwThe, MonadExceptOf.throw]
  | some other => simp [pure, Except.pure]

theorem isFile_iff {path : String} :
    files.isFile path = true ↔ ∃ content, files.find path = .ok (.file content) := by
  unfold isFile
  split
  · rename_i content h
    simp [h]
  · rename_i h
    simpa using h

theorem splitOnP_append_slash (front : List Char) {last : List Char} (h : '/' ∉ last) :
    (front ++ '/' :: last).splitOnP (· == '/') = front.splitOnP (· == '/') ++ [last] := by
  have hlast : ∀ c ∈ last, (c == '/') = false :=
    fun c hc => beq_eq_false_iff_ne.2 fun heq => h (heq ▸ hc)
  rw [List.splitOnP_append_cons front last (by rfl), List.splitOnP_eq_singleton hlast]

theorem step_leaf {names : List String} (h : files.root.at? names = some (.directory entries))
    (hleaf : IsFileName leaf) : files.step names leaf.toList = .ok (names ++ [leaf]) := by
  have hspecial := hleaf.not_special
  simp only [List.mem_cons, List.not_mem_nil, or_false, not_or] at hspecial
  unfold step
  rw [h]
  dsimp only
  rw [if_neg (by tauto), if_neg hspecial.2.2, String.ofList_toList]

theorem eq_of_step_nil {names names' : List String} (h : files.step names [] = .ok names') :
    names' = names := by
  unfold step at h
  split at h
  · cases h
  · cases h
  · rw [if_pos (.inl rfl)] at h
    exact (Except.ok.inj h).symm

/-- The text of a path, without a slash at its end. -/
def IsFront (front : List Char) (path : String) : Prop :=
  path.toList = front ++ ['/'] ∨ path.toList = front

theorem exists_isFront (hleaf : IsFileName leaf) (hne : directory ≠ "") :
    ∃ front, IsFront front directory ∧
      (Path.join directory leaf).toList = front ++ '/' :: leaf.toList := by
  have hrelative : Path.isAbsolute leaf = false := by
    rw [Path.isAbsolute, beq_eq_false_iff_ne]
    exact fun hhead => hleaf.no_slash (List.mem_of_mem_head? hhead)
  rw [Path.join, hrelative]
  simp only [Bool.false_or, decide_eq_true_eq, if_neg hne]
  split
  · rename_i hlast
    obtain ⟨front, hfront⟩ := List.getLast?_eq_some_iff.1 hlast
    exact ⟨front, .inl hfront, by simp [hfront]⟩
  · exact ⟨directory.toList, .inr rfl, by simp⟩

theorem IsFront.subset {front : List Char} (h : IsFront front directory) :
    front ⊆ directory.toList := by
  rcases h with h | h
  · rw [h]
    exact List.subset_append_left front _
  · rw [h]
    exact List.Subset.refl front

theorem IsFront.head? {front rest : List Char} (h : IsFront front directory)
    (hne : directory ≠ "") : (front ++ '/' :: rest).head? = directory.toList.head? := by
  rcases h with h | h
  · rw [h]
    cases front <;> rfl
  · have hfront : front ≠ [] := fun hnil => hne (String.toList_eq_nil_iff.1 (h.trans hnil))
    rw [h, List.head?_append_of_ne_nil _ hfront]

theorem IsFront.foldlM_step {front : List Char} (h : IsFront front directory)
    {start names : List String}
    (hfold : (Path.parts directory).foldlM files.step start = .ok names) :
    (front.splitOnP (· == '/')).foldlM files.step start = .ok names := by
  rw [Path.parts] at hfold
  rcases h with h | h
  · rw [h, splitOnP_append_slash front List.not_mem_nil, List.foldlM_append] at hfold
    obtain ⟨before, hbefore, hlast⟩ := bind_eq_ok.1 hfold
    rw [List.foldlM_cons] at hlast
    obtain ⟨last, hstep, hlast⟩ := bind_eq_ok.1 hlast
    cases hlast
    rw [eq_of_step_nil hstep]
    exact hbefore
  · rwa [h] at hfold

theorem resolve_eq_ok {path : String} {names : List String} :
    files.resolve path = .ok names ↔
      Char.ofNat 0 ∉ path.toList ∧ path ≠ "" ∧
        (Path.parts path).foldlM files.step (if Path.isAbsolute path then [] else files.working) =
          .ok names := by
  unfold resolve
  split
  · rename_i hnul
    exact iff_of_false nofun fun h => h.1 (by simpa using hnul)
  · rename_i hnul
    split
    · rename_i hempty
      exact iff_of_false nofun fun h => h.2.1 hempty
    · rename_i hne
      exact ⟨fun h => ⟨by simpa using hnul, hne, h⟩, fun h => h.2.2⟩

theorem resolve_join {names : List String} (h : files.resolve directory = .ok names)
    (hdirectory : files.root.at? names = some (.directory entries)) (hleaf : IsFileName leaf) :
    files.resolve (Path.join directory leaf) = .ok (names ++ [leaf]) := by
  obtain ⟨hnul, hne, hfold⟩ := resolve_eq_ok.1 h
  obtain ⟨front, hfront, hpath⟩ := exists_isFront hleaf hne
  have hsame : Path.isAbsolute (Path.join directory leaf) = Path.isAbsolute directory := by
    rw [Path.isAbsolute, Path.isAbsolute, hpath, hfront.head? hne]
  refine resolve_eq_ok.2 ⟨?_, ?_, ?_⟩
  · rw [hpath, List.mem_append, List.mem_cons, not_or, not_or]
    exact ⟨fun hmem => hnul (hfront.subset hmem), by decide, hleaf.no_nul⟩
  · intro hempty
    rw [hempty] at hpath
    simp at hpath
  · rw [hsame, Path.parts, hpath, splitOnP_append_slash front hleaf.no_slash, List.foldlM_append]
    exact bind_eq_ok.2 ⟨names, hfront.foldlM_step hfold,
      bind_eq_ok.2 ⟨_, step_leaf hdirectory hleaf, rfl⟩⟩

theorem find_join {tree : FileTree} (h : files.find directory = .ok (.directory entries))
    (hleaf : IsFileName leaf) :
    files.find (Path.join directory leaf) = .ok tree ↔ entries.lookup leaf = some tree := by
  obtain ⟨names, hresolve, hdirectory⟩ := find_eq_ok.1 h
  have hchild : files.root.at? (names ++ [leaf]) = entries.lookup leaf := by
    rw [FileTree.at?_append, hdirectory]
    simp [FileTree.at?, FileTree.child?]
  rw [find_eq_ok, resolve_join hresolve hdirectory hleaf]
  simp [hchild]

theorem isFile_join_of_nul (directory : String) (h : Char.ofNat 0 ∈ leaf.toList) :
    files.isFile (Path.join directory leaf) = false := by
  have hmem : Char.ofNat 0 ∈ (Path.join directory leaf).toList := by
    unfold Path.join
    split_ifs <;> simp [h]
  have hbad : files.find (Path.join directory leaf) = .error .badName := by
    rw [find, resolve, if_pos (by simpa using hmem)]
    rfl
  rw [isFile, hbad]

end Files

/-- A directory of files only, each under a name of its own that files can have. -/
structure IsFlat (entries : List (String × FileTree)) : Prop where
  isFile : ∀ entry ∈ entries, ∃ content, entry.2 = .file content
  isFileName : ∀ entry ∈ entries, IsFileName entry.1
  nodup : (entries.map Prod.fst).Nodup

theorem IsFlat.exists_lookup {entries : List (String × FileTree)} (h : IsFlat entries)
    {name : String} :
    (∃ content, entries.lookup name = some (.file content)) ↔ name ∈ entries.map Prod.fst := by
  constructor
  · rintro ⟨content, hlookup⟩
    obtain ⟨before, behind, rfl, -⟩ := List.lookup_eq_some_iff.1 hlookup
    simp
  · intro hmem
    cases hlookup : entries.lookup name with
    | none =>
      obtain ⟨entry, hentry, rfl⟩ := List.mem_map.1 hmem
      exact absurd (List.lookup_eq_none_iff.1 hlookup entry hentry) (by simp)
    | some tree =>
      obtain ⟨before, behind, rfl, -⟩ := List.lookup_eq_some_iff.1 hlookup
      obtain ⟨content, htree⟩ := h.isFile (name, tree) (by simp)
      exact ⟨content, congrArg some htree⟩

/-! ## Names of series and of files -/

namespace SeriesStore

variable {store : SeriesStore} {files : Files} {entries : List (String × FileTree)} {name : String}

def fileFor (name : String) : String := Text.lowerName name ++ ".csv"

theorem pathFor_eq (store : SeriesStore) (name : String) :
    store.pathFor name = Path.join store.root (fileFor name) := rfl

theorem toList_fileFor (name : String) :
    (fileFor name).toList = Text.lower (Text.trim name.toList) ++ ".csv".toList := by
  simp [fileFor, Text.lowerName, Text.lowercase, Text.trimmed]

theorem slash_mem_fileFor : '/' ∈ (fileFor name).toList ↔ '/' ∈ name.toList := by
  rw [toList_fileFor, List.mem_append, Text.lower, Text.slash_mem_lowerAfter, Text.slash_mem_trim]
  simp

theorem fileFor_not_special (name : String) :
    (fileFor name).toList ∉ [[], ['.'], ['.', '.']] := by
  intro h
  have hlast : (fileFor name).toList.getLast? = some 'v' := by
    rw [toList_fileFor, List.getLast?_append_of_ne_nil _ (by decide)]
    rfl
  simp only [List.mem_cons, List.not_mem_nil, or_false] at h
  rcases h with h | h | h <;>
  · rw [h] at hlast
    exact absurd hlast (by decide)

theorem contains_iff (hroot : files.find store.root = .ok (.directory entries))
    (hflat : IsFlat entries) (hslash : '/' ∉ name.toList) :
    store.contains files name = true ↔ fileFor name ∈ entries.map Prod.fst := by
  rw [contains, pathFor_eq]
  by_cases hnul : Char.ofNat 0 ∈ (fileFor name).toList
  · rw [Files.isFile_join_of_nul store.root hnul]
    refine iff_of_false (by simp) fun hmem => ?_
    obtain ⟨entry, hentry, hname⟩ := List.mem_map.1 hmem
    exact (hflat.isFileName entry hentry).no_nul (hname ▸ hnul)
  · have hname : IsFileName (fileFor name) :=
      ⟨fileFor_not_special name, fun h => hslash (slash_mem_fileFor.1 h), hnul⟩
    rw [Files.isFile_iff, ← hflat.exists_lookup]
    exact exists_congr fun content => Files.find_join hroot hname

theorem seriesName?_fileFor (htrimmed : Text.trimmed name = name) (hne : name ≠ "") :
    seriesName? (fileFor name) = some (Text.uppercase (Text.lowercase name)) := by
  have hlower : Text.lower name.toList ≠ [] :=
    Text.lower_ne_nil fun h => hne (String.toList_eq_nil_iff.1 h)
  have hsplit : Path.splitAtDot (Text.lower name.toList ++ ".csv".toList) =
      (Text.lower name.toList, some ['c', 's', 'v']) := by
    simp [Path.splitAtDot, hlower]
  have hfile : (fileFor name).toList = Text.lower name.toList ++ ".csv".toList := by
    have htrim := congrArg String.toList htrimmed
    rw [Text.trimmed, String.toList_ofList] at htrim
    rw [toList_fileFor, htrim]
  rw [seriesName?, hfile, hsplit]
  simp [Text.sameIgnoringAsciiCase, Text.uppercase, Text.lowercase]

theorem countP_le_one {p : String × FileTree → Bool} (hnodup : (entries.map Prod.fst).Nodup)
    {file : String} (h : ∀ entry ∈ entries, p entry = true → entry.1 = file) :
    entries.countP p ≤ 1 := by
  calc entries.countP p ≤ entries.countP ((· == file) ∘ Prod.fst) :=
        List.countP_mono_left fun entry he hp => by simpa using h entry he hp
    _ = (entries.map Prod.fst).count file := by rw [List.count_eq_countP, List.countP_map]
    _ ≤ 1 := List.nodup_iff_count_le_one.1 hnodup file

theorem eq_of_countP_le_one {α : Type} {p : α → Bool} {items : List α} (h : items.countP p ≤ 1)
    {a b : α} (ha : a ∈ items) (hb : b ∈ items) (hpa : p a = true) (hpb : p b = true) : a = b := by
  rw [List.countP_eq_length_filter] at h
  have hmema : a ∈ items.filter p := List.mem_filter.2 ⟨ha, hpa⟩
  have hmemb : b ∈ items.filter p := List.mem_filter.2 ⟨hb, hpb⟩
  match hfilter : items.filter p with
  | [] => simp [hfilter] at hmema
  | [only] =>
    rw [hfilter, List.mem_singleton] at hmema hmemb
    rw [hmema, hmemb]
  | _ :: _ :: _ =>
    rw [hfilter] at h
    simp at h

/-- What a store lists, for a directory with these entries. -/
structure IsListing (entries : List (String × FileTree)) (names : List String) : Prop where
  sorted : names.Pairwise (· ≤ ·)
  count : ∀ name, names.count name = entries.countP fun entry => seriesName? entry.1 == some name

theorem IsListing.mem_iff {names : List String} (h : IsListing entries names) :
    name ∈ names ↔ ∃ entry ∈ entries, seriesName? entry.1 = some name := by
  rw [← List.count_pos_iff, h.count, List.countP_pos_iff]
  simp

theorem exists_isListing (hroot : files.find store.root = .ok (.directory entries)) :
    ∃ names, store.seriesNames files = .ok names ∧ IsListing entries names := by
  have hlist : files.list store.root = .ok (entries.map Prod.fst) := by
    rw [Files.list, hroot]
    rfl
  refine ⟨((entries.map Prod.fst).filterMap seriesName?).mergeSort (· ≤ ·), ?_, ?_, fun name => ?_⟩
  · rw [seriesNames, hlist]
  · exact List.pairwise_mergeSort' (· ≤ ·) _
  · rw [(List.mergeSort_perm _ _).count_eq, List.count_filterMap, List.countP_map]
    rfl

/-- All files of the series are spelled like the one in which a store looks for it. -/
def IsSpelled (entries : List (String × FileTree)) (name : String) : Prop :=
  ∀ entry ∈ entries, seriesName? entry.1 = some name → entry.1 = fileFor name

/-- A store lists and finds a series that is named like its file exactly when all files of the
series are spelled like that one. -/
theorem agrees_iff (hroot : files.find store.root = .ok (.directory entries))
    (hflat : IsFlat entries) {names : List String} (hnames : IsListing entries names)
    (hne : name ≠ "") (htrimmed : Text.trimmed name = name) (hslash : '/' ∉ name.toList)
    (hsteady : Text.uppercase (Text.lowercase name) = name) :
    names.count name ≤ 1 ∧ (name ∈ names ↔ store.contains files name = true) ↔
      IsSpelled entries name := by
  have hown : seriesName? (fileFor name) = some name := by
    rw [seriesName?_fileFor htrimmed hne, hsteady]
  rw [contains_iff hroot hflat hslash, hnames.mem_iff, hnames.count]
  constructor
  · rintro ⟨hcount, hfound⟩ entry hentry hname
    obtain ⟨other, hother, hfile⟩ := List.mem_map.1 (hfound.1 ⟨entry, hentry, hname⟩)
    have hsame : entry = other :=
      eq_of_countP_le_one hcount hentry hother (by simp [hname]) (by simp [hfile, hown])
    rw [hsame, hfile]
  · intro hspelled
    refine ⟨countP_le_one hflat.nodup fun entry hentry hname =>
      hspelled entry hentry (by simpa using hname), ?_, fun hmem => ?_⟩
    · rintro ⟨entry, hentry, hname⟩
      rw [← hspelled entry hentry hname]
      exact List.mem_map_of_mem hentry
    · obtain ⟨entry, hentry, hfile⟩ := List.mem_map.1 hmem
      exact ⟨entry, hentry, by rw [hfile, hown]⟩

theorem nodup_of_isSpelled (hroot : files.find store.root = .ok (.directory entries))
    (hflat : IsFlat entries) {names : List String} (hnames : IsListing entries names)
    (hspelled : ∀ name, IsSpelled entries name) :
    names.Nodup ∧ ∀ name ∈ names, store.contains files name = true := by
  refine ⟨List.nodup_iff_count_le_one.2 fun name => ?_, fun name hname => ?_⟩
  · rw [hnames.count]
    exact countP_le_one hflat.nodup fun entry hentry hname =>
      hspelled name entry hentry (by simpa using hname)
  · obtain ⟨entry, hentry, hlisted⟩ := hnames.mem_iff.1 hname
    have hfile := hspelled name entry hentry hlisted
    have hslash : '/' ∉ name.toList := fun h =>
      (hflat.isFileName entry hentry).no_slash (hfile ▸ slash_mem_fileFor.2 h)
    rw [contains_iff hroot hflat hslash, ← hfile]
    exact List.mem_map_of_mem hentry

theorem exists_read_of_contains (h : store.contains files name = true) :
    ∃ content, files.find (store.pathFor name) = .ok (.file content) ∧
      store.read files name = Csv.readTable store.options content := by
  obtain ⟨content, hfind⟩ := Files.isFile_iff.1 h
  refine ⟨content, hfind, ?_⟩
  dsimp only [read]
  rw [hfind]

theorem read_of_not_contains (h : store.contains files name = false) :
    store.read files name =
      .error (.seriesNotFound (Text.normalName name) (store.pathFor name)) := by
  dsimp only [read]
  split
  · rename_i content hfind
    rw [contains, Files.isFile_iff.2 ⟨content, hfind⟩] at h
    cases h
  · rfl

/-- Names are listed once for each CSV file, found where the directory has their own file, and read
from there. What is listed and what is found agree on a name that stays itself in lower and back in
upper case exactly when all its files are spelled like its own; where all files are, every listed
series is found. -/
theorem listing_agrees (store : SeriesStore) {files : Files} {entries : List (String × FileTree)}
    (hroot : files.find store.root = .ok (.directory entries)) (hflat : IsFlat entries) :
    ∃ names, store.seriesNames files = .ok names ∧ IsListing entries names ∧
      ((∀ name, IsSpelled entries name) →
        names.Nodup ∧ ∀ name ∈ names, store.contains files name = true) ∧
      ∀ name, name ≠ "" → Text.trimmed name = name → '/' ∉ name.toList →
        (store.contains files name = true ↔ fileFor name ∈ entries.map Prod.fst) ∧
        (store.contains files name = true →
          Text.uppercase (Text.lowercase name) ∈ names ∧
          ∃ content, files.find (store.pathFor name) = .ok (.file content) ∧
            store.read files name = Csv.readTable store.options content) ∧
        (store.contains files name = false → store.read files name =
          .error (.seriesNotFound (Text.normalName name) (store.pathFor name))) ∧
        (Text.uppercase (Text.lowercase name) = name →
          (names.count name ≤ 1 ∧ (name ∈ names ↔ store.contains files name = true) ↔
            IsSpelled entries name)) := by
  obtain ⟨names, hlisted, hnames⟩ := exists_isListing hroot
  refine ⟨names, hlisted, hnames, nodup_of_isSpelled hroot hflat hnames,
    fun name hne htrimmed hslash => ⟨contains_iff hroot hflat hslash, fun h => ⟨?_, ?_⟩,
      read_of_not_contains, agrees_iff hroot hflat hnames hne htrimmed hslash⟩⟩
  · obtain ⟨entry, hentry, hfile⟩ := List.mem_map.1 ((contains_iff hroot hflat hslash).1 h)
    refine hnames.mem_iff.2 ⟨entry, hentry, ?_⟩
    rw [hfile, seriesName?_fileFor htrimmed hne]
  · exact exists_read_of_contains h

/-- A directory where one series is spelled as it is looked for, one has another file beside that,
and one has only a file that is spelled otherwise. -/
def respelled : Files :=
  ⟨.directory [("data", .directory [("cpi.csv", .file []), ("GDP.csv", .file []),
    ("gdp.csv", .file []), ("IP.CSV", .file [])])], []⟩

/-- What is listed and what is found agree on the first of these series only. -/
theorem listing_agrees_respelled :
    ∃ names, (SeriesStore.of "data").seriesNames respelled = .ok names ∧
      (names.count "CPI" ≤ 1 ∧
        ("CPI" ∈ names ↔ (SeriesStore.of "data").contains respelled "CPI" = true)) ∧
      ¬ (names.count "GDP" ≤ 1 ∧
        ("GDP" ∈ names ↔ (SeriesStore.of "data").contains respelled "GDP" = true)) := by
  have hflat : IsFlat [("cpi.csv", .file []), ("GDP.csv", .file []), ("gdp.csv", .file []),
      ("IP.CSV", .file [])] := by
    have hnames : ∀ name ∈ ["cpi.csv", "GDP.csv", "gdp.csv", "IP.CSV"],
        name.toList ∉ [[], ['.'], ['.', '.']] ∧ '/' ∉ name.toList ∧
          Char.ofNat 0 ∉ name.toList := by decide
    refine ⟨by simp, fun entry hentry => ?_, by decide⟩
    obtain ⟨hspecial, hslash, hnul⟩ := hnames entry.1 (List.mem_map_of_mem hentry)
    exact ⟨hspecial, hslash, hnul⟩
  have hroot : respelled.find (SeriesStore.of "data").root =
      .ok (.directory [("cpi.csv", .file []), ("GDP.csv", .file []), ("gdp.csv", .file []),
        ("IP.CSV", .file [])]) := rfl
  obtain ⟨names, hnames, -, -, hagrees⟩ := listing_agrees (SeriesStore.of "data") hroot hflat
  have hcpi := (hagrees "CPI" (by decide) (by decide +kernel) (by decide)).2.2.2
    (Text.uppercase_lowercase_of_ascii (by simp) (by decide +kernel))
  have hgdp := (hagrees "GDP" (by decide) (by decide +kernel) (by decide)).2.2.2
    (Text.uppercase_lowercase_of_ascii (by simp) (by decide +kernel))
  refine ⟨names, hnames, hcpi.2 ?_, fun h => ?_⟩
  · unfold IsSpelled
    decide +kernel
  · exact absurd (hgdp.1 h ("GDP.csv", .file []) (by simp) (by decide +kernel)) (by decide +kernel)

/-- A series is listed twice, and one is listed that is not found. -/
theorem exists_listed_not_found :
    (SeriesStore.of "data").seriesNames respelled = .ok ["CPI", "GDP", "GDP", "IP"] ∧
      (SeriesStore.of "data").contains respelled "GDP" = true ∧
      (SeriesStore.of "data").contains respelled "IP" = false := by
  have hlist : respelled.list "data" = .ok ["cpi.csv", "GDP.csv", "gdp.csv", "IP.CSV"] := rfl
  have hnames : ["cpi.csv", "GDP.csv", "gdp.csv", "IP.CSV"].filterMap seriesName? =
      ["CPI", "GDP", "GDP", "IP"] := by decide +kernel
  have hsorted : ["CPI", "GDP", "GDP", "IP"].mergeSort (· ≤ ·) = ["CPI", "GDP", "GDP", "IP"] :=
    List.mergeSort_of_pairwise (by decide)
  refine ⟨?_, by decide +kernel, by decide +kernel⟩
  rw [seriesNames, show (SeriesStore.of "data").root = "data" from rfl, hlist]
  dsimp only
  rw [hnames, hsorted]

end SeriesStore

end TimeSeries
