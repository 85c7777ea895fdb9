import DesignTokens.Proofs.Files.Success
import DesignTokens.Proofs.Keyed

/-!
# Listings of directories

What `listFiles` gives for a directory is the list of its visible files, each joined to the path
(`outcome_listFiles_ok_iff`). It depends on nothing but which visible names are files
(`visibleFiles_eq`), and if such a path leads to a file, then to the one of that name in the
directory (`resolve_join`). The last needs names that a file system can give: a name with a slash in
it would be two components of the path.
-/

set_option autoImplicit false

namespace DesignTokens

namespace Text

/-- A text without separators is its only part. -/
theorem splitOn_of_not_mem {separator : Char} {text : List Char} (h : separator ∉ text) :
    splitOn separator text = [text] := by
  induction text with
  | nil => rfl
  | cons c rest ih =>
    have hc : c ≠ separator := fun heq => h (by simp [heq])
    rw [splitOn, if_neg hc, ih fun hmem => h (List.mem_cons_of_mem _ hmem)]

/-- A separator ends a piece. -/
theorem splitOn_append (separator : Char) (text rest : List Char) :
    splitOn separator (text ++ separator :: rest) =
      splitOn separator text ++ splitOn separator rest := by
  induction text with
  | nil => simp [splitOn]
  | cons c text ih =>
    rw [List.cons_append, splitOn, splitOn]
    by_cases hc : c = separator
    · rw [if_pos hc, if_pos hc, ih, List.cons_append]
    · rw [if_neg hc, if_neg hc, ih]
      cases hsplit : splitOn separator text with
      | nil => exact absurd hsplit (splitOn_ne_nil separator text)
      | cons piece pieces => rfl

end Text

namespace FileTree

/-! ### Names -/

/-- A name that a file system can give to a node. -/
structure ProperName (name : String) : Prop where
  notEmpty : name ≠ ""
  notDot : name ≠ "."
  notUp : name ≠ ".."
  noSlash : '/' ∉ name.toList

/-- A tree as a file system has it, and without links. -/
structure Plain (tree : FileTree) : Prop where
  names : ∀ entry ∈ tree.entries, ∀ name ∈ entry.1, ProperName name
  noLinks : ∀ entry ∈ tree.entries, ∀ target, entry.2 ≠ .link target

/-- The nodes of a location are those that the tree records for it. -/
theorem mem_slice_iff {tree : FileTree} {location : Location} {node : Node} :
    node ∈ tree.slice location ↔ (location, node) ∈ tree.entries := by
  simp [slice]

/-- A tree that records no link has none. -/
theorem linkless_of_entries {tree : FileTree}
    (h : ∀ entry ∈ tree.entries, ∀ target, entry.2 ≠ .link target) : tree.Linkless := by
  intro location target hlink
  have hroot : location ≠ [] := by
    rintro rfl
    cases hlink
  rw [node?_eq_head? _ hroot] at hlink
  exact h _ (mem_slice_iff.1 (List.mem_of_head? hlink)) target rfl

/-- A plain tree has no links. -/
theorem Plain.linkless {tree : FileTree} (h : tree.Plain) : tree.Linkless :=
  linkless_of_entries h.noLinks

/-! ### What a directory holds -/

/-- The children of a directory are the nodes directly below it, that is those whose location
ends in one more name. -/
theorem mem_children_iff {tree : FileTree} {directory : Location} {name : String} {node : Node} :
    (name, node) ∈ tree.children directory ↔ node ∈ tree.slice (directory ++ [name]) := by
  rw [mem_slice_iff, children, List.mem_filterMap]
  constructor
  · rintro ⟨⟨location, found⟩, hentry, h⟩
    cases hlast : location.getLast? with
    | none => simp [hlast] at h
    | some last =>
      simp only [hlast] at h
      split at h
      · rename_i hdirectory
        cases h
        -- a location is its directory and its last name
        have hlocation := List.dropLast_append_getLast? name hlast
        rw [hdirectory] at hlocation
        rw [hlocation]
        exact hentry
      · cases h
  · intro hentry
    exact ⟨_, hentry, by simp⟩

/-- The names of the visible files directly inside a directory, in order. -/
def visibleFiles (tree : FileTree) (directory : Location) : List String :=
  (Keyed.ofList ((tree.children directory).filter Action.isVisibleFile)).map (·.1)

/-- The visible files of a directory are the files below it whose names do not begin with a dot. -/
theorem mem_visibleFiles_iff {tree : FileTree} {directory : Location} {name : String} :
    name ∈ tree.visibleFiles directory ↔
      name.toList.head? ≠ some '.' ∧
        ∃ content, .file content ∈ tree.slice (directory ++ [name]) := by
  rw [visibleFiles, Keyed.mem_keys_ofList]
  constructor
  · rintro ⟨node, hmem⟩
    obtain ⟨hchild, hvisible⟩ := List.mem_filter.1 hmem
    cases node with
    | directory => simp [Action.isVisibleFile] at hvisible
    | link target => simp [Action.isVisibleFile] at hvisible
    | file content =>
      exact ⟨by simpa [Action.isVisibleFile] using hvisible, content, mem_children_iff.1 hchild⟩
  · rintro ⟨hname, content, hmem⟩
    refine ⟨.file content, List.mem_filter.2 ⟨mem_children_iff.2 hmem, ?_⟩⟩
    simpa [Action.isVisibleFile] using hname

/-- Two directories with files under the same visible names are listed alike. Their listings are in
ascending order, and two such lists are equal if they have the same members. -/
theorem visibleFiles_eq {old new : FileTree} {directory : Location}
    (h : ∀ name, (∃ content, .file content ∈ new.slice (directory ++ [name])) ↔
      ∃ content, .file content ∈ old.slice (directory ++ [name])) :
    new.visibleFiles directory = old.visibleFiles directory := by
  apply List.Pairwise.eq_of_mem_iff (Keyed.pairwise_keys (Keyed.ascending_ofList _))
    (Keyed.pairwise_keys (Keyed.ascending_ofList _))
  intro name
  show name ∈ new.visibleFiles directory ↔ name ∈ old.visibleFiles directory
  rw [mem_visibleFiles_iff, mem_visibleFiles_iff, h name]

/-- In a plain tree the names of visible files are proper. -/
theorem Plain.properName {tree : FileTree} (h : tree.Plain) {directory : Location} {name : String}
    (hname : name ∈ tree.visibleFiles directory) : ProperName name := by
  obtain ⟨-, content, hmem⟩ := mem_visibleFiles_iff.1 hname
  exact h.names _ (mem_slice_iff.1 hmem) name (by simp)

/-- Where the directory is that a path leads to. -/
def directoryAt? (tree : FileTree) (path : String) : Option Location :=
  match tree.resolve path with
  | .ok (location, .directory) => some location
  | _ => none

/-- A path leads to a directory exactly if it resolves to one. -/
theorem directoryAt?_eq_some_iff {tree : FileTree} {path : String} {location : Location} :
    tree.directoryAt? path = some location ↔ tree.resolve path = .ok (location, .directory) := by
  rw [directoryAt?]
  rcases tree.resolve path with fault | ⟨found, node⟩
  · simp
  · cases node <;> simp

/-- It still leads there when the tree has grown. -/
theorem directoryAt?_again {old new : FileTree} (hgrows : Grows old new) {path : String}
    {location : Location} (h : old.directoryAt? path = some location) :
    new.directoryAt? path = some location :=
  directoryAt?_eq_some_iff.2
    (resolve_directory_again hgrows.keeps (directoryAt?_eq_some_iff.1 h))

/-! ### Paths below a directory -/

section
variable {directory name : String}

/-- A joined path ends in a slash and the name. In front of them stands the directory, whose own
slash at the end is not doubled. -/
theorem toList_join (hdirectory : directory ≠ "") (hslash : '/' ∉ name.toList) :
    ∃ before : List Char, (Path.join directory name).toList = before ++ '/' :: name.toList ∧
      (directory.toList = before ∨ directory.toList = before ++ ['/']) := by
  have habsolute : Path.isAbsolute name = false := by
    have hhead : name.toList.head? ≠ some '/' := fun h => hslash (List.mem_of_head? h)
    simpa [Path.isAbsolute] using hhead
  rw [Path.join, habsolute]
  simp only [Bool.false_or, String.isEmpty_iff, hdirectory, if_false]
  by_cases hlast : directory.toList.getLast? = some '/'
  · have hsplit := List.dropLast_append_getLast? '/' hlast
    refine ⟨directory.toList.dropLast, ?_, Or.inr hsplit.symm⟩
    rw [if_pos (by simpa using hlast), String.toList_append, ← hsplit]
    simp
  · refine ⟨directory.toList, ?_, Or.inl rfl⟩
    rw [if_neg (by simpa using hlast)]
    simp [String.toList_append]

/-- The components of a joined path are those of both parts. -/
theorem components_join_append (hdirectory : directory ≠ "") (hslash : '/' ∉ name.toList) :
    components (Path.join directory name) = components directory ++ components name := by
  obtain ⟨before, hjoin, hbefore⟩ := toList_join hdirectory hslash
  -- a slash at the end of the directory leaves an empty piece, which does not count
  have hpieces : (Text.splitOn '/' directory.toList).filter (!·.isEmpty) =
      (Text.splitOn '/' before).filter (!·.isEmpty) := by
    rcases hbefore with heq | heq
    · rw [heq]
    · rw [heq, Text.splitOn_append, List.filter_append]
      simp [Text.splitOn]
  rw [components, components, components, hjoin, Text.splitOn_append, List.filter_append, hpieces,
    List.map_append]

/-- A name without slashes is a component of its own. -/
theorem components_join (hdirectory : directory ≠ "") (hempty : name ≠ "")
    (hslash : '/' ∉ name.toList) :
    components (Path.join directory name) = components directory ++ [name] := by
  have hlast : Text.splitOn '/' name.toList = [name.toList] := Text.splitOn_of_not_mem hslash
  have hkept : (!name.toList.isEmpty) = true := by
    simpa using hempty
  have hname : components name = [name] := by
    rw [components, hlast]
    simp [hkept]
  rw [components_join_append hdirectory hslash, hname]

/-- The steps of a joined path lead through the directory to the name. -/
theorem steps_join (hdirectory : directory ≠ "") (hempty : name ≠ "")
    (hslash : '/' ∉ name.toList) :
    steps (Path.join directory name) = components directory ++ [name] := by
  have hends : endsInSlash (Path.join directory name) = false := by
    obtain ⟨before, hjoin, -⟩ := toList_join hdirectory hslash
    have hne : name.toList ≠ [] := by simpa using hempty
    have hlast : (Path.join directory name).toList.getLast? = some (name.toList.getLast hne) := by
      rw [hjoin, List.getLast?_append, List.getLast?_cons, List.getLast?_eq_some_getLast hne]
      rfl
    have hnot : name.toList.getLast hne ≠ '/' := fun heq => hslash (heq ▸ List.getLast_mem hne)
    simpa [endsInSlash, hlast] using hnot
  rw [steps, components_join hdirectory hempty hslash, hends]
  simp

/-- A joined path is absolute exactly if its directory is, since it begins as the directory does. -/
theorem isAbsolute_join (hdirectory : directory ≠ "") (hslash : '/' ∉ name.toList) :
    Path.isAbsolute (Path.join directory name) = Path.isAbsolute directory := by
  have hhead : (Path.join directory name).toList.head? = directory.toList.head? := by
    obtain ⟨before, hjoin, hbefore⟩ := toList_join hdirectory hslash
    have hne : directory.toList ≠ [] := by simpa using hdirectory
    rcases hbefore with heq | heq
    · rw [hjoin, heq, List.head?_append_of_ne_nil _ (heq ▸ hne)]
    · rw [hjoin, heq]
      cases before <;> rfl
  rw [Path.isAbsolute, Path.isAbsolute, hhead]

/-- A joined path starts where its directory does, at the root or in the working directory. -/
theorem start_join (current : Location) (hdirectory : directory ≠ "")
    (hslash : '/' ∉ name.toList) :
    start current (Path.join directory name) = start current directory := by
  rw [start, start, isAbsolute_join hdirectory hslash]

end

/-- A walk to a directory may go on with a dot and still ends at the directory, as the path of a
file in it goes on from there. -/
theorem Leads.dotted {tree : FileTree} {links : Nat} {first : Location} {names : List String}
    {location : Location} (h : Leads tree true links first names (.found location .directory)) :
    Leads tree true links first (names ++ ["."]) (.found location .directory) := by
  generalize hplace : Place.found location .directory = place at h
  induction h with
  | here => exact .dot .here
  | dot _ ih => exact .dot (ih hplace)
  | up _ ih => exact .up (ih hplace)
  | down hname hnode _ ih => exact .down hname hnode (ih hplace)
  | final hname hnode =>
    obtain ⟨rfl, hfound⟩ := placeAt_eq_found_iff.1 hplace.symm
    obtain ⟨content, heq⟩ := hnode _ hfound
    cases heq
  | stay hname hlast hnode => cases hlast
  | follow hname hrest hnode _ ih =>
    rw [List.cons_append]
    refine .follow hname (by simp) hnode ?_
    rw [← List.append_assoc]
    exact ih hplace

/-- A walk whose last step is a dot or two ends at a directory, as both steps can only be taken in
one. -/
theorem Leads.directory_of_last {tree : FileTree} {last : Bool} {links : Nat} {first : Location}
    {names : List String} {place : Place} (h : Leads tree last links first names place)
    {name : String} (hlast : names.getLast? = some name) (hname : name = "." ∨ name = "..") :
    ∃ location, place = .found location .directory := by
  -- a name that is looked up is none of the two
  have hordinary {found : String} (hfound : Ordinary found) (heq : found = name) : False := by
    rcases hname with rfl | rfl
    · exact hfound.notDot heq
    · exact hfound.notUp heq
  induction h with
  | here => cases hlast
  | @dot _ directory rest _ hbelow ih | @up _ directory rest _ hbelow ih =>
    cases rest with
    | nil =>
      cases hbelow
      exact ⟨_, rfl⟩
    | cons next rest => exact ih (by simpa using hlast)
  | @down _ directory _ rest _ hfound _ hbelow ih =>
    cases rest with
    | nil =>
      cases hbelow
      exact ⟨_, rfl⟩
    | cons next rest => exact ih (by simpa using hlast)
  | final hfound => exact (hordinary hfound (by simpa using hlast)).elim
  | stay hfound => exact (hordinary hfound (by simpa using hlast)).elim
  | @follow _ _ _ target rest _ hfound _ _ hbelow ih =>
    cases rest with
    | nil => exact (hordinary hfound (by simpa using hlast)).elim
    | cons next rest => exact ih (by simpa [List.getLast?_append] using hlast)

/-- What a path below a directory ends in is a name if it leads to a file. -/
theorem properName_of_fileAt? {tree : FileTree} {directory name : String} {location : Location}
    (hdirectory : directory ≠ "") (hslash : '/' ∉ name.toList)
    (h : tree.fileAt? (Path.join directory name) = some location) : ProperName name := by
  obtain ⟨content, hresolve⟩ := fileAt?_eq_some_iff.1 h
  obtain ⟨-, hleads⟩ := place_eq_ok_iff.1 (resolve_eq_ok_iff.1 hresolve)
  have hnot {last : String} (hlast : (steps (Path.join directory name)).getLast? = some last)
      (hdots : last = "." ∨ last = "..") : False := by
    obtain ⟨_, hplace⟩ := hleads.directory_of_last hlast hdots
    cases hplace
  have hempty : name ≠ "" := by
    rintro rfl
    -- an empty name leaves a slash at the end
    obtain ⟨before, hjoin, -⟩ := toList_join hdirectory hslash
    have hends : endsInSlash (Path.join directory "") = true := by
      simp [endsInSlash, hjoin]
    exact hnot (by rw [steps, if_pos hends, List.getLast?_concat]) (Or.inl rfl)
  have hlast : (steps (Path.join directory name)).getLast? = some name := by
    rw [steps_join hdirectory hempty hslash, List.getLast?_concat]
  exact ⟨hempty, fun hdot => hnot hlast (Or.inl hdot), fun hup => hnot hlast (Or.inr hup), hslash⟩

/-- The file that a name below a directory leads to is the one of that name in it, unless a link has
the name. -/
theorem resolve_join {tree : FileTree} {directory name : String} {inside location : Location}
    {content : ByteArray} (hlink : ∀ target, tree.node? (inside ++ [name]) ≠ some (.link target))
    (hname : ProperName name)
    (hdirectory : tree.resolve directory = .ok (inside, .directory))
    (hfile : tree.resolve (Path.join directory name) = .ok (location, .file content)) :
    location = inside ++ [name] := by
  obtain ⟨hpath, hleads⟩ := place_eq_ok_iff.1 (resolve_eq_ok_iff.1 hdirectory)
  obtain ⟨-, hbelow⟩ := place_eq_ok_iff.1 (resolve_eq_ok_iff.1 hfile)
  have hne : directory ≠ "" := by
    rintro rfl
    cases hpath
  rw [steps_join hne hname.notEmpty hname.noSlash, start_join _ hne hname.noSlash] at hbelow
  -- the components of the directory lead to it, with a dot behind them in any case
  have hdotted : Leads tree true maxLinks (start tree.current directory)
      (components directory ++ ["."]) (.found inside .directory) := by
    rw [steps] at hleads
    split at hleads
    · exact hleads
    · rw [List.append_nil] at hleads
      exact hleads.dotted
  obtain ⟨_, left, heq, hsplit⟩ := hdotted.split
  cases heq
  rw [hsplit true _ _ (by simp), leads_name_iff hname.notDot hname.notUp fun _ => hlink]
    at hbelow
  exact (placeAt_eq_found_iff.1 hbelow.2.symm).1

end FileTree

namespace Action

open DesignTokens.FileTree

/-- A listing succeeds exactly if the path leads to a directory, and it gives the paths of the
visible files there. -/
theorem outcome_listFiles_ok_iff {directory : String} {world world' : World}
    {files : List String} :
    outcome (listFiles directory) world = (.ok files, world') ↔
      ∃ location, world.tree.directoryAt? directory = some location ∧
        files = (world.tree.visibleFiles location).map (Path.join directory) ∧
        world' = world := by
  -- a path that leads to a file or a link is not listed
  have hlist (found : List (String × Node)) : world.tree.list directory = .ok found ↔
      ∃ location, world.tree.directoryAt? directory = some location ∧
        found = world.tree.children location := by
    rw [list, Result.bind_eq_ok_iff]
    constructor
    · rintro ⟨⟨location, node⟩, hresolve, h⟩
      cases node with
      | directory =>
        cases h
        exact ⟨location, directoryAt?_eq_some_iff.2 hresolve, rfl⟩
      | file content => cases h
      | link target => cases h
    · rintro ⟨location, hlocation, rfl⟩
      exact ⟨_, directoryAt?_eq_some_iff.1 hlocation, rfl⟩
  rw [listFiles, outcome_bind_ok_iff]
  simp only [outcome_look_ok_iff, hlist]
  constructor
  · rintro ⟨_, _, ⟨⟨location, hlocation, rfl⟩, rfl⟩, h⟩
    obtain ⟨hfiles, rfl⟩ := Prod.mk.inj h
    refine ⟨location, hlocation, ?_, rfl⟩
    rw [visibleFiles, List.map_map]
    exact (Except.ok.inj hfiles).symm
  · rintro ⟨location, hlocation, rfl, rfl⟩
    refine ⟨_, world', ⟨⟨location, hlocation, rfl⟩, rfl⟩, ?_⟩
    rw [outcome_pure, visibleFiles, List.map_map]
    rfl

end Action

end DesignTokens
